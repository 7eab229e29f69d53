import StateMachine.Document.Literal
import StateMachine.Expression.Known
import StateMachine.Expression.Tree
import StateMachine.Number.DigitLimit

/-!
# Data

The values of expressions. Beside numbers, texts, lists, tuples and tables of
keys and values there are the owner of the machine, functions (the owner's
actions and the functions around the machine), and what every expression
knows.

Data are compared by value, truth values standing for one and zero; the owner
and functions are only equal to themselves. Beyond that two data may be *one
and the same* (`identical`). A small integer, a text of a character or less and
the empty tuple are the same wherever they come from. Other data of the same
value are told apart by their `Identity`. The text of a number is always a text
of its own.
-/

namespace StateMachine

/-- Where a datum comes from, which tells it apart from others of its value. -/
inductive Identity
  /-- It was made or given as the one of this serial number. -/
  | made (serial : Nat)
  /-- It is a constant of the expression evaluated under this number; equal
      constants of one expression are one. -/
  | constant (evaluation : Nat)
  /-- It is a constant text of letters, digits and underscores; equal ones of all
      expressions are one. -/
  | word
  /-- It is a key that was given; equal ones are one. -/
  | key
  /-- It is a number written as a text; such a text is another one each time, told
      apart by its serial number. -/
  | written (serial : Nat)
  deriving DecidableEq

/-- Where the text of a number comes from, given where it would come from
    otherwise. -/
def Identity.ofNumber : Identity → Identity
  | .made serial => .written serial
  | id => id

/-- A function. -/
inductive Function
  /-- An action of the owner. Each time an action is looked up it is another
      function, told apart by its serial number. -/
  | action (name : String) (serial : Nat)
  /-- A function around the machine. -/
  | around (name : String)
  /-- A function written without a name, told apart by its serial number. -/
  | unnamed (serial : Nat)
  /-- A function that belongs to a datum, of this kind and told apart by its serial
      number. -/
  | method (kind : String) (serial : Nat)
  deriving DecidableEq

/-- A value of an expression. -/
inductive Datum
  | none
  | bool (b : Bool)
  | int (id : Identity) (i : Int)
  | float (id : Identity) (x : Binary64)
  | text (id : Identity) (s : String)
  | list (id : Identity) (items : List Datum)
  | tuple (id : Identity) (items : List Datum)
  | table (id : Identity) (entries : List (Datum × Datum))
  | owner
  | function (f : Function)
  /-- What every expression knows by a name. -/
  | known (name : String)
  /-- A datum of which only the kind is known. -/
  | sealed (kind : String) (serial : Nat)

namespace Datum

instance : Inhabited Datum := ⟨.none⟩

/-- The name of the kind of a datum. -/
def kindName : Datum → String
  | .none => "NoneType"
  | .bool _ => "bool"
  | .int _ _ => "int"
  | .float _ _ => "float"
  | .text _ _ => "str"
  | .list _ _ => "list"
  | .tuple _ _ => "tuple"
  | .table _ _ => "dict"
  | .owner => "Owner"
  | .function (.method kind _) => kind
  | .function _ => "function"
  | .known name => Known.kindOf name
  | .sealed kind _ => kind

/-- Does the datum count as true? -/
def isTrue : Datum → Bool
  | .none => false
  | .bool b => b
  | .int _ i => i != 0
  | .float _ x => !x.isZero
  | .text _ s => !s.isEmpty
  | .list _ items => !items.isEmpty
  | .tuple _ items => !items.isEmpty
  | .table _ entries => !entries.isEmpty
  | _ => true

/-- Can the datum be called? -/
def isCallable : Datum → Bool
  | .function _ => true
  | .known name => Known.isCallable name
  | _ => false

/-- The integer a datum stands for; truth values stand for one and zero. -/
def int? : Datum → Option Int
  | .bool b => some (if b then 1 else 0)
  | .int _ i => some i
  | _ => Option.none

/-- The number a datum stands for. -/
def number? : Datum → Option Value.Number
  | .bool b => some (.int (if b then 1 else 0))
  | .int _ i => some (.int i)
  | .float _ x => some (.float x)
  | _ => Option.none

/-! ## One and the same -/

/-- Is there only one integer of this value? -/
def isSmall (i : Int) : Bool :=
  -5 ≤ i && i ≤ 256

/-- The characters that are constants apart from the characters of texts. -/
def letterWords : List Char :=
  "BCLST_abcdefhijklmnopqrstvwxy".toList

/-- Is there only one text of these characters that comes from there? -/
def isShared (id : Identity) (s : String) : Bool :=
  match s.toList, id with
  | [], _ => true
  | [_], .written _ => false
  | [c], .word => !letterWords.contains c
  | [c], _ => c.toNat ≤ 0xff
  | _, _ => false

/-- What tells a datum apart from others of its value, if anything does. -/
def identity? : Datum → Option Identity
  | .int id i => if isSmall i then Option.none else some id
  | .float id _ => some id
  | .text id s => if isShared id s then Option.none else some id
  | .list id _ => some id
  | .tuple _ [] => Option.none
  | .tuple id _ => some id
  | .table id _ => some id
  | _ => Option.none

mutual

/-- Have the data the same kind and value, to the last detail? -/
def exactly : Datum → Datum → Bool
  | .none, .none => true
  | .bool b, .bool c => b == c
  | .int _ i, .int _ j => i == j
  | .float _ x, .float _ y => x == y
  | .text _ s, .text _ t => s == t
  | .list _ xs, .list _ ys => exactlyItems xs ys
  | .tuple _ xs, .tuple _ ys => exactlyItems xs ys
  | .table _ xs, .table _ ys => exactlyEntries xs ys
  | .owner, .owner => true
  | .function f, .function g => f == g
  | .known m, .known n => m == n
  | .sealed _ i, .sealed _ j => i == j
  | _, _ => false

/-- Have the items the same kinds and values, one by one? -/
def exactlyItems : List Datum → List Datum → Bool
  | [], [] => true
  | x :: xs, y :: ys => exactly x y && exactlyItems xs ys
  | _, _ => false

/-- Have the entries the same kinds and values, one by one? -/
def exactlyEntries : List (Datum × Datum) → List (Datum × Datum) → Bool
  | [], [] => true
  | (k, v) :: xs, (l, w) :: ys => exactly k l && exactly v w && exactlyEntries xs ys
  | _, _ => false

end

/-- Are the data one and the same? -/
def identical (v w : Datum) : Bool :=
  v.identity? == w.identity? && exactly v w

/-! ## Equality -/

/-- Do both data stand for the same number? -/
def sameNumber (v w : Datum) : Bool :=
  match v.number?, w.number? with
  | some a, some b => a.same b
  | _, _ => false

mutual

/-- Are the data equal? -/
def same : Datum → Datum → Bool
  | .none, .none => true
  | .text _ s, .text _ t => s == t
  | .list _ xs, .list _ ys => sameItems xs ys
  | .tuple _ xs, .tuple _ ys => sameItems xs ys
  | .table _ xs, .table _ ys => xs.length == ys.length && sameEntries xs ys
  | .owner, .owner => true
  | .function f, .function g => f == g
  | .known m, .known n => m == n
  | .sealed _ i, .sealed _ j => i == j
  | .bool b, w => sameNumber (.bool b) w
  | .int id i, w => sameNumber (.int id i) w
  | .float id x, w => sameNumber (.float id x) w
  | _, _ => false

/-- Are the items the same or equal, one by one? -/
def sameItems : List Datum → List Datum → Bool
  | [], [] => true
  | x :: xs, y :: ys => (identical x y || same x y) && sameItems xs ys
  | _, _ => false

/-- Has every one of the entries one with the same key and value among others? -/
def sameEntries : List (Datum × Datum) → List (Datum × Datum) → Bool
  | [], _ => true
  | (k, v) :: xs, ys =>
    (ys.any fun (l, w) => (identical k l || same k l) && (identical v w || same v w))
      && sameEntries xs ys

end

instance : BEq Datum := ⟨same⟩

/-- Are the data the same or equal, as the parts of a list or table are? -/
def alike (v w : Datum) : Bool :=
  identical v w || same v w

/-! ## Text -/

mutual

/-- A datum written as a literal. -/
def literal : Datum → String
  | .none => "None"
  | .bool b => if b then "True" else "False"
  | .int _ i => toString i
  | .float _ x => x.text
  | .text _ s => Text.quoted s
  | .list _ items => "[" ++ Text.joined ", " (literalItems items) ++ "]"
  | .tuple _ [x] => "(" ++ literal x ++ ",)"
  | .tuple _ items => "(" ++ Text.joined ", " (literalItems items) ++ ")"
  | .table _ entries => "\x7b" ++ Text.joined ", " (literalEntries entries) ++ "\x7d"
  | .owner => "<Owner>"
  | .function _ => "<function>"
  | .known name => Known.shown name
  | .sealed kind _ => "<" ++ kind ++ ">"

/-- The items of a list as literals. -/
def literalItems : List Datum → List String
  | [] => []
  | v :: vs => literal v :: literalItems vs

/-- The entries of a table as literals. -/
def literalEntries : List (Datum × Datum) → List String
  | [] => []
  | (k, v) :: es => (literal k ++ ": " ++ literal v) :: literalEntries es

end

/-- The text of a datum: a text is its own, any other datum is written as a
    literal. -/
def shown : Datum → String
  | .text _ s => s
  | v => literal v

mutual

/-- Does the datum hold an integer with too many digits to be written? -/
def isTooLong : Datum → Bool
  | .int _ i => DigitLimit.isExceeded i
  | .list _ items => anyTooLong items
  | .tuple _ items => anyTooLong items
  | .table _ entries => anyEntryTooLong entries
  | _ => false

/-- Does one of the items hold an integer with too many digits? -/
def anyTooLong : List Datum → Bool
  | [] => false
  | v :: vs => isTooLong v || anyTooLong vs

/-- Does one of the entries hold an integer with too many digits? -/
def anyEntryTooLong : List (Datum × Datum) → Bool
  | [] => false
  | (k, v) :: es => isTooLong k || isTooLong v || anyEntryTooLong es

end

/-! ## Given data and constants -/

/-- The next serial number. -/
def nextSerial : StateM Nat Identity :=
  modifyGet fun n => (.made n, n + 1)

mutual

/-- A document value as a new datum; the state is the next serial number. -/
def give : Value → StateM Nat Datum
  | .null => return .none
  | .bool b => return .bool b
  | .int i => return .int (← nextSerial) i
  | .float x => return .float (← nextSerial) x
  | .str s => return .text (← nextSerial) s
  | .list items => do
    let id ← nextSerial
    return .list id (← giveItems items)
  | .object members => do
    let id ← nextSerial
    return .table id (← giveMembers members)

/-- Document values as new data. -/
def giveItems : List Value → StateM Nat (List Datum)
  | [] => return []
  | v :: vs => do
    let d ← give v
    return d :: (← giveItems vs)

/-- The members of an object as entries of a table. -/
def giveMembers : List (String × Value) → StateM Nat (List (Datum × Datum))
  | [] => return []
  | (k, v) :: ms => do
    let d ← give v
    return (.text .key k, d) :: (← giveMembers ms)

end

/-- A document value as a datum that is not told apart from others of its value. -/
def ofValue (v : Value) : Datum :=
  ((give v).run 0).1

mutual

/-- The document value a datum stands for. What is none is told by its text. -/
def toValue : Datum → Value
  | .none => .null
  | .bool b => .bool b
  | .int _ i => .int i
  | .float _ x => .float x
  | .text _ s => .str s
  | .list _ items => .list (toValues items)
  | .table _ entries => .object (toMembers entries)
  | v => .str v.literal

/-- The document values data stand for. -/
def toValues : List Datum → List Value
  | [] => []
  | v :: vs => toValue v :: toValues vs

/-- The entries of a table as the members of an object. -/
def toMembers : List (Datum × Datum) → List (String × Value)
  | [] => []
  | (k, v) :: es => (k.shown, toValue v) :: toMembers es

end

/-- Is the text made of letters, digits and underscores only? -/
def isWord (s : String) : Bool :=
  s.toList.all fun c => c.isAlphanum || c == '_'

mutual

/-- A constant as a datum, in the evaluation of this number. -/
def ofConstant (evaluation : Nat) : Constant → Datum
  | .none => .none
  | .bool b => .bool b
  | .ellipsis => .known "Ellipsis"
  | .int i => .int (.constant evaluation) i
  | .float x => .float (.constant evaluation) x
  | .text s => .text (if isWord s then .word else .constant evaluation) s
  | .tuple items => .tuple (.constant evaluation) (ofConstants evaluation items)

/-- Constants as data. -/
def ofConstants (evaluation : Nat) : List Constant → List Datum
  | [] => []
  | c :: cs => ofConstant evaluation c :: ofConstants evaluation cs

end

mutual

/-- The constant a datum can be kept as. -/
def toConstant? : Datum → Option Constant
  | .none => some .none
  | .bool b => some (.bool b)
  | .int _ i => some (.int i)
  | .float _ x => some (.float x)
  | .text _ s => some (.text s)
  | .tuple _ items => (toConstants? items).map .tuple
  | _ => Option.none

/-- The constants data can be kept as. -/
def toConstants? : List Datum → Option (List Constant)
  | [] => some []
  | v :: vs => do
    let c ← toConstant? v
    let cs ← toConstants? vs
    return c :: cs

end

end Datum
end StateMachine
