import StateMachine.Number.Binary64

/-!
# Document values

What a machine description is written in: the values of JSON, with integers of
any size beside floating point numbers and the members of an object in the
order they were written.

A description is read without a check of the kinds of its values, so a name
may turn out to be a number or a list. What can be asked of a value, whatever
its kind, is asked here: whether it counts as *empty*, what it holds when it
is walked through, and whether it equals another one. Numbers are equal when
their values are (so are `1`, `1.0` and `true`), and the order of members does
not matter. The number that is none is equal to nothing, but `alike` to itself,
and so are lists and objects that hold it.

An operation that the kind of a value does not admit ends in a `Mismatch`.
-/

namespace StateMachine

/-- A value of a document. -/
inductive Value
  | null
  | bool (b : Bool)
  | int (i : Int)
  | float (x : Binary64)
  | str (s : String)
  | list (items : List Value)
  | object (members : List (String × Value))

/-- Why an operation cannot be applied to a value of some kind. -/
inductive Mismatch
  /-- An operation on text was asked of a kind that is none. -/
  | notText (kind operation : String)
  /-- A kind that holds nothing was asked whether it holds something. -/
  | notContainer (kind : String)
  /-- A kind that has no elements was walked through. -/
  | notIterable (kind : String)
  /-- A kind that is no key was used as one. -/
  | notKey (kind : String)
  /-- A kind that is no text was used as a name. -/
  | notName (kind : String)
  /-- The kind of the value does not admit the operation. -/
  | unsupported
  deriving DecidableEq

/-- The wording of a mismatch. -/
def Mismatch.message : Mismatch → String
  | .notText kind operation => "'" ++ kind ++ "' object has no attribute '" ++ operation ++ "'"
  | .notContainer kind => "argument of type '" ++ kind ++ "' is not iterable"
  | .notIterable kind => "'" ++ kind ++ "' object is not iterable"
  | .notKey kind => "unhashable type: '" ++ kind ++ "'"
  | .notName kind => "attribute name must be string, not '" ++ kind ++ "'"
  | .unsupported => "unsupported kind of value"

namespace Value

instance : Inhabited Value := ⟨.null⟩

/-- The name of a value's kind, as messages give it. -/
def kindName : Value → String
  | .null => "NoneType"
  | .bool _ => "bool"
  | .int _ => "int"
  | .float _ => "float"
  | .str _ => "str"
  | .list _ => "list"
  | .object _ => "dict"

/-- Is the value anything but null, false, zero or empty? -/
def isSet : Value → Bool
  | .null => false
  | .bool b => b
  | .int i => i != 0
  | .float x => !x.isZero
  | .str s => !s.isEmpty
  | .list items => !items.isEmpty
  | .object members => !members.isEmpty

/-- Is the value a text? -/
def isText : Value → Bool
  | .str _ => true
  | _ => false

/-- The text a value is. -/
def str? : Value → Option String
  | .str s => some s
  | _ => none

/-- The mismatch of an operation on text asked of a value, unless it is a text. -/
def textMismatch? (v : Value) (operation : String) : Option Mismatch :=
  if v.isText then none else some (.notText v.kindName operation)

/-- May the value serve as a key? Lists and objects may not. -/
def isKey : Value → Bool
  | .list _ => false
  | .object _ => false
  | _ => true

/-- The mismatch of a value used as a key. -/
def keyMismatch? (v : Value) : Option Mismatch :=
  if v.isKey then none else some (.notKey v.kindName)

/-- The value of the member named `key` among `members`. -/
def member? (key : String) : List (String × Value) → Option Value
  | [] => none
  | (k, v) :: rest => if k = key then some v else member? key rest

/-- The value of the member `key` of an object. -/
def get? (key : String) : Value → Option Value
  | .object members => member? key members
  | _ => none

/-- The member `key` of an object, or `default` where there is none. -/
def getD (v : Value) (key : String) (default : Value) : Value :=
  (v.get? key).getD default

/-- `members` with `value` under `key`: in the place `key` already has, or at
    the end. -/
def put (key : String) (value : Value) : List (String × Value) → List (String × Value)
  | [] => [(key, value)]
  | (k, v) :: rest => if k = key then (k, value) :: rest else (k, v) :: put key value rest

/-- What a walk through a value meets: the items of a list, the characters of a
    text, the names of an object's members. Other values cannot be walked
    through. -/
def elements : Value → Except Mismatch (List Value)
  | .list items => .ok items
  | .str s => .ok (s.toList.map fun c => .str (String.ofList [c]))
  | .object members => .ok (members.map fun m => .str m.1)
  | v => .error (.notIterable v.kindName)

/-! ## Equality and order -/

/-- An integer or a floating point number. -/
inductive Number
  | int (i : Int)
  | float (x : Binary64)

/-- The number a value stands for; truth values stand for one and zero. -/
def number? : Value → Option Number
  | .bool b => some (.int (if b then 1 else 0))
  | .int i => some (.int i)
  | .float x => some (.float x)
  | _ => none

/-- Do the numbers have the same value? -/
def Number.same : Number → Number → Bool
  | .int i, .int j => i == j
  | .int i, .float y => y.isInt i
  | .float x, .int j => x.isInt j
  | .float x, .float y => x.same y

/-- Is an integer below a floating point number? -/
def intBelow (i : Int) : Binary64 → Bool
  | .finite negative m e =>
    let (p, q) := Binary64.fraction negative m e
    i * q < p
  | .infinite negative => !negative
  | .nan => false

/-- Is an integer above a floating point number? -/
def intAbove (i : Int) : Binary64 → Bool
  | .finite negative m e =>
    let (p, q) := Binary64.fraction negative m e
    p < i * q
  | .infinite negative => negative
  | .nan => false

/-- Is the first number below the second? -/
def Number.lt : Number → Number → Bool
  | .int i, .int j => i < j
  | .int i, .float y => intBelow i y
  | .float x, .int j => intAbove j x
  | .float x, .float y => x.lt y

/-- Do both values stand for the same number? -/
def sameNumber (v w : Value) : Bool :=
  match v.number?, w.number? with
  | some a, some b => a.same b
  | _, _ => false

/-- Is the value *not a number*, which equals no number? -/
def isNaN : Value → Bool
  | .float .nan => true
  | _ => false

mutual

/-- Are the values equal? -/
def same : Value → Value → Bool
  | .null, .null => true
  | .str s, .str t => s == t
  | .list xs, .list ys => sameItems xs ys
  | .object ms, .object ns => ms.length == ns.length && sameMembers ms ns
  | .bool b, w => sameNumber (.bool b) w
  | .int i, w => sameNumber (.int i) w
  | .float x, w => sameNumber (.float x) w
  | _, _ => false

/-- Are the items of two lists alike, one by one? -/
def sameItems : List Value → List Value → Bool
  | [], [] => true
  | x :: xs, y :: ys => (x.isNaN && y.isNaN || same x y) && sameItems xs ys
  | _, _ => false

/-- Has every one of the members its like of the same name among `ns`? -/
def sameMembers : List (String × Value) → List (String × Value) → Bool
  | [], _ => true
  | (k, v) :: ms, ns =>
    (match member? k ns with
      | some w => v.isNaN && w.isNaN || same v w
      | none => false) && sameMembers ms ns

end

instance : BEq Value := ⟨same⟩

/-- Are the values alike, as the parts of a list, an object or a key are? They are
    if they are equal, and there is only one *not a number*. -/
def alike (v w : Value) : Bool :=
  v.isNaN && w.isNaN || v.same w

/-- Is the first value below the second, if the two can be compared? Numbers are
    compared by value and texts by their code points. -/
def lt? : Value → Value → Option Bool
  | .str s, .str t => some (decide (s < t))
  | v, w =>
    match v.number?, w.number? with
    | some a, some b => some (a.lt b)
    | _, _ => none

end Value
end StateMachine
