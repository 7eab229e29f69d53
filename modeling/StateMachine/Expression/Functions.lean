import StateMachine.Expression.Operation

/-!
# Functions every expression knows

What some of the known functions and kinds give when they are called. A call of
the others is not worked out. A new datum is given the identity `id`, and its
new parts serial numbers from `serial` on.
-/

namespace StateMachine.Datum

/-- The length of a datum. -/
def length (id : Identity) (v : Datum) : Except OperationFault Datum :=
  match v.size? with
  | some n => .ok (.int id n)
  | Option.none => .error (.noLength v.kindName)

/-- The absolute value of a datum. -/
def absolute (id : Identity) (v : Datum) : Except OperationFault Datum :=
  match v with
  | .float _ x => .ok (.float id x.abs)
  | .int _ i => .ok (if i < 0 then .int id (-i) else v)
  | v =>
    match v.int? with
    | some i => .ok (.int id i.natAbs)
    | Option.none => .error (.noAbsolute v.kindName)

/-- The datum that comes first by a comparison, beginning with `best`. -/
def extreme (op : CompareOp) (best : Datum) : List Datum → Except OperationFault Datum
  | [] => .ok best
  | v :: vs =>
    match order op v best with
    | .ok true => extreme op v vs
    | .ok false => extreme op best vs
    | .error e => .error e

/-- The comparison by which a function finds the greatest or least of its
    arguments. -/
def extremeOp? : String → Option CompareOp
  | "max" => some .gt
  | "min" => some .lt
  | _ => Option.none

/-- What the greatest or least is asked of: the arguments, or the elements of the
    only one. -/
def candidates (serial : Nat) (function : String) (args : List Datum)
    (named : List (String × Datum)) : Except OperationFault (List Datum) :=
  match args, named.find? fun a => a.1 != "key" && a.1 != "default" with
  | [], _ => .error (.notAny function)
  | _, some (name, _) => .error (.badNamed function name)
  | [v], Option.none => v.elements serial
  | args, Option.none =>
    if (named.lookup "default").isSome then .error (.badDefault function) else .ok args

/-- What the greatest or least of nothing is. -/
def extremeOfNone (function : String) (named : List (String × Datum)) :
    Except OperationFault Datum :=
  match named.lookup "default" with
  | some d => .ok d
  | Option.none => .error (.emptySequence function)

/-- The greatest or least of the arguments, or of the elements of the only one.
    There may be a datum to take where there are no elements. -/
def extremeOf (serial : Nat) (function : String) (op : CompareOp) (args : List Datum)
    (named : List (String × Datum)) : Except OperationFault Datum := do
  match ← candidates serial function args named with
  | [] => extremeOfNone function named
  | best :: rest => extreme op best rest

/-- Calls a function of one argument. -/
def onOne (function : String) (f : Datum → Except OperationFault Datum) (args : List Datum) :
    Except OperationFault Datum :=
  match args with
  | [v] => f v
  | args => .error (.notOne function args.length)

/-- Calls a function of one argument or none. -/
def onOneOrNone (function : String) (empty : Datum) (f : Datum → Except OperationFault Datum)
    (args : List Datum) : Except OperationFault Datum :=
  match args with
  | [] => .ok empty
  | [v] => f v
  | args => .error (.moreThanOne function args.length)

/-- The name of a kind in messages on arguments. -/
def argumentKind : Datum → String
  | .none => "None"
  | v => v.kindName

/-- The arguments of the function that gives the text of a datum. -/
def textArguments : List String := ["object", "encoding", "errors"]

/-- An argument that has to be a text, if it is given. -/
def textArgument (name : String) (v : Option Datum) : Except OperationFault Unit :=
  match v with
  | Option.none => .ok ()
  | some (.text _ _) => .ok ()
  | some v => .error (.badEncoding name v.argumentKind)

/-- Are the arguments with names those of the function, and not given by their
    place as well? -/
def checkNames (function : String) (names : List String) (given : Nat)
    (named : List (String × Datum)) : Except OperationFault Unit :=
  match names.zipIdx.find? fun (name, place) => place < given && (named.lookup name).isSome,
      named.find? fun a => !names.contains a.1 with
  | some (name, place), _ => .error (.givenTwice function name (place + 1))
  | Option.none, some (name, _) => .error (.badNamed function name)
  | Option.none, Option.none => .ok ()

/-- The text of a datum; there are none to be decoded. -/
def textOf (id : Identity) (args : List Datum) (named : List (String × Datum)) :
    Except OperationFault Datum := do
  let count := args.length + named.length
  if textArguments.length < count then throw (.tooMany "str" textArguments.length count)
  let object := args[0]? <|> named.lookup "object"
  let encoding := args[1]? <|> named.lookup "encoding"
  let errors := args[2]? <|> named.lookup "errors"
  textArgument "encoding" encoding
  textArgument "errors" errors
  checkNames "str" textArguments args.length named
  match object, encoding.isSome || errors.isSome with
  | Option.none, _ => return .text id ""
  | some v, false => toText id v
  | some (.text _ _), true => throw .decodingText
  | some v, true => throw (.decoding v.kindName)

/-- Is the datum a text? -/
def isText : Datum → Bool
  | .text _ _ => true
  | _ => false

/-- The integer of a datum. -/
def toInteger (id : Identity) (v : Datum) : Except OperationFault Datum :=
  match v with
  | .int _ _ => .ok v
  | v =>
    let value := if v.isText || v.number?.isSome then v.toValue else .null
    match value, value.toInteger with
    | .null, _ => .error (.integer (.badKind v.kindName))
    | _, .ok i => .ok (.int id i)
    | _, .error (.badKind _) => .error (.integer (.badKind v.kindName))
    | _, .error f => .error (.integer f)

/-- The integer of the only argument, or zero. -/
def integerOf (id : Identity) (args : List Datum) : Except OperationFault Datum :=
  match args with
  | [] => .ok (.int id 0)
  | [v] => toInteger id v
  | [_, _] => .error (.unknown "int")
  | args => .error (.tooMany "int" 2 args.length)

/-- The sum of data from a first one on. -/
def sumFrom (id : Identity) (total : Datum) : List Datum → Except OperationFault Datum
  | [] => .ok total
  | v :: vs => do
    let total ← binary id .add total v
    sumFrom id total vs

/-- The sum of the elements of the first argument, from the second one on if there
    is one. -/
def sumOf (id : Identity) (serial : Nat) (args : List Datum) (named : List (String × Datum)) :
    Except OperationFault Datum := do
  let count := args.length + named.length
  if args.isEmpty then throw (.noneByPlace "sum")
  if 2 < count then throw (.tooMany "sum" 2 count)
  checkNames "sum" ["", "start"] args.length named
  let items ← (args.headD .none).elements serial
  match (args[1]? <|> named.lookup "start").getD (.int id 0) with
  | .text _ _ => throw .summedTexts
  | .int _ i => sumFrom id (.int id i) items
  | start => sumFrom id start items

/-- The number of a character. -/
def codeOf (id : Identity) (v : Datum) : Except OperationFault Datum :=
  match v with
  | .text _ s =>
    match s.toList with
    | [c] => .ok (.int id c.toNat)
    | cs => .error (.notSingle cs.length)
  | v => .error (.notText v.kindName)

/-- The number that what may be asked of the number of a character stays below. -/
def codeLimit : Nat := Binary64.twoPow 31

/-- The character of a number. -/
def characterOf (id : Identity) (v : Datum) : Except OperationFault Datum :=
  match v.int? with
  | some i =>
    if 0 ≤ i && i < 0x110000 then .ok (.text id (String.ofList [Char.ofNat i.toNat]))
    else if -(codeLimit : Int) ≤ i && i < codeLimit then .error .badCode
    else .error (.hugeQuantity "int")
  | Option.none => .error (.notIndex v.kindName)

/-- The kind of a datum. -/
def kindOf (serial : Nat) (v : Datum) : Datum :=
  if Known.isKind v.kindName then .known v.kindName else .sealed "type" serial

/-- Calls what is known by a name, with arguments and arguments with names. -/
def callKnown (serial : Nat) (name : String) (args : List Datum)
    (named : List (String × Datum)) : Except OperationFault Datum :=
  let id := Identity.made serial
  let later := serial + 1
  match name, named with
  | "max", named => extremeOf later name .gt args named
  | "min", named => extremeOf later name .lt args named
  | "str", named => textOf id args named
  | "sum", named => sumOf id later args named
  | "print", _ => .ok .none
  | "type", named =>
    match args, named with
    | [v], [] => .ok (kindOf serial v)
    | [_, _, _], _ => .error (.unknown name)
    | _, _ => .error .badKindCall
  | name, [] =>
    match name with
    | "len" => onOne name (length id) args
    | "abs" => onOne name (absolute id) args
    | "repr" => onOne name (toLiteral id) args
    | "bool" => onOneOrNone name (.bool false) (fun v => .ok (.bool v.isTrue)) args
    | "int" => integerOf id args
    | "list" => onOneOrNone name (.list id []) (fun v => (v.elements later).map (.list id)) args
    | "tuple" =>
      onOneOrNone name (.tuple id [])
        (fun v =>
          match v with
          | .tuple _ _ => .ok v
          | v => (v.elements later).map (.tuple id)) args
    | "any" => onOne name (fun v => (v.elements later).map fun vs => .bool (vs.any isTrue)) args
    | "all" => onOne name (fun v => (v.elements later).map fun vs => .bool (vs.all isTrue)) args
    | "ord" => onOne name (codeOf id) args
    | "chr" => onOne name (characterOf id) args
    | "callable" => onOne name (fun v => .ok (.bool v.isCallable)) args
    | name =>
      if Known.faultKinds.contains name then .ok (.sealed name serial)
      else if Known.isCallable name then .error (.unknown name)
      else .error (.notCallable (Known.kindOf name))
  | name, _ => if Known.isCallable name then .error (.noNamed name)
    else .error (.notCallable (Known.kindOf name))

end StateMachine.Datum
