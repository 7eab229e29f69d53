import StateMachine.Expression.Datum
import StateMachine.Expression.OperationFault
import StateMachine.Number.Arithmetic

/-!
# Attributes of data

The attributes that data have by their kind. Numbers have their parts: an
integer is its own numerator and real part. All other attributes are *methods*,
functions that belong to the datum; each time one is looked up it is another
function. A kind has the attributes of its data, too, but as descriptors.

The owner's attributes are not among them: they are those of its host.
-/

namespace StateMachine.Attribute

/-- The parts that integers have. -/
def integerParts : List String :=
  ["denominator", "imag", "numerator", "real"]

/-- The parts that floating point numbers have. -/
def realParts : List String :=
  ["imag", "real"]

/-- The methods of integers. -/
def integerMethods : List String :=
  ["as_integer_ratio", "bit_count", "bit_length", "conjugate", "from_bytes", "to_bytes"]

/-- The methods of the data of a kind. -/
def methods : String → List String
  | "bool" => integerMethods
  | "int" => integerMethods
  | "float" => ["as_integer_ratio", "conjugate", "fromhex", "hex", "is_integer"]
  | "str" =>
    ["capitalize", "casefold", "center", "count", "encode", "endswith", "expandtabs", "find",
      "format", "format_map", "index", "isalnum", "isalpha", "isascii", "isdecimal", "isdigit",
      "isidentifier", "islower", "isnumeric", "isprintable", "isspace", "istitle", "isupper",
      "join", "ljust", "lower", "lstrip", "maketrans", "partition", "removeprefix",
      "removesuffix", "replace", "rfind", "rindex", "rjust", "rpartition", "rsplit", "rstrip",
      "split", "splitlines", "startswith", "strip", "swapcase", "title", "translate", "upper",
      "zfill"]
  | "list" =>
    ["append", "clear", "copy", "count", "extend", "index", "insert", "pop", "remove", "reverse",
      "sort"]
  | "tuple" => ["count", "index"]
  | "dict" =>
    ["clear", "copy", "fromkeys", "get", "items", "keys", "pop", "popitem", "setdefault",
      "update", "values"]
  | _ => []

/-- The parts of the data of a kind. -/
def parts : String → List String
  | "bool" => integerParts
  | "int" => integerParts
  | "float" => realParts
  | _ => []

/-- The methods that belong to a kind and not to its data. -/
def kindMethods : List String :=
  ["from_bytes", "fromhex", "fromkeys", "maketrans"]

/-- The kind of a method that is looked up in a datum. -/
def methodKind : String := "builtin_function_or_method"

end StateMachine.Attribute

namespace StateMachine.Datum

/-- The part of an integer. -/
def integerPart (serial : Nat) (i : Int) (name : String) : Datum :=
  let n :=
    match name with
    | "denominator" => 1
    | "imag" => 0
    | _ => i
  .int (.made serial) n

/-- The part of a number. -/
def part? (v : Datum) (serial : Nat) (name : String) : Option Datum :=
  match v with
  | .bool b => some (integerPart serial (if b then 1 else 0) name)
  | .int id i =>
    some (if name = "real" || name = "numerator" then .int id i else integerPart serial i name)
  | .float id x =>
    some (if name = "real" then .float id x else .float (.made serial) (Binary64.zero false))
  | _ => Option.none

/-- The attribute of a kind. -/
def kindAttribute? (kind : String) (serial : Nat) (name : String) : Option Datum :=
  if (Attribute.parts kind).contains name then some (.sealed "getset_descriptor" serial)
  else if (Attribute.methods kind).contains name then
    let isOwn := Attribute.kindMethods.contains name
    some (.function (.method (if isOwn then Attribute.methodKind else "method_descriptor") serial))
  else if name = "mro" then
    let method := if kind = "type" then "method_descriptor" else Attribute.methodKind
    some (.function (.method method serial))
  else Option.none

/-- The attribute of a datum. -/
def attribute? (v : Datum) (serial : Nat) (name : String) : Option Datum :=
  match v with
  | .known kind => if Known.isKind kind then kindAttribute? kind serial name else Option.none
  | v =>
    if (Attribute.parts v.kindName).contains name then v.part? serial name
    else if (Attribute.methods v.kindName).contains name then
      some (.function (.method Attribute.methodKind serial))
    else Option.none

/-- The fault of an attribute that a datum has not. -/
def noAttribute (v : Datum) (name : String) : OperationFault :=
  match v with
  | .known k =>
    if Known.isKind k then .noKindAttribute k name else .noAttribute v.kindName name
  | v => .noAttribute v.kindName name

end StateMachine.Datum
