import StateMachine.Expression.Operation

/-!
# Constants worked out beforehand

An operation on constants is worked out before an expression is evaluated, and
so are tuples of constants and their items. This does not change the value of
an expression, but equal constants of one expression are one and the same.

What would be a fault is left as it is, and so is what would become too large.
-/

namespace StateMachine.Expr

/-- The greatest number of bits of an integer that is worked out. -/
def bitLimit : Nat := 128

/-- The greatest length of a text that is worked out. -/
def textLimit : Nat := 4096

/-- The greatest length of a tuple that is worked out. -/
def tupleLimit : Nat := 256

/-- Is something of a length short enough when it is repeated? -/
def repeatFits (limit length : Nat) (n : Int) : Bool :=
  length = 0 || (0 ≤ n && n.toNat * length ≤ limit)

/-- Is a product small enough to be worked out? -/
def productFits (v w : Datum) : Bool :=
  match v, w, v.int?, w.int? with
  | .text _ s, _, _, some n => repeatFits textLimit s.length n
  | _, .text _ s, some n, _ => repeatFits textLimit s.length n
  | .tuple _ items, _, _, some n => repeatFits tupleLimit items.length n
  | _, .tuple _ items, some n, _ => repeatFits tupleLimit items.length n
  | _, _, some i, some j => i = 0 || j = 0 || Bits.size i + Bits.size j ≤ bitLimit
  | _, _, _, _ => true

/-- Is the result of an operation small enough to be worked out? Templates are not
    filled in. -/
def fits (op : BinaryOp) (v w : Datum) : Bool :=
  match op, v.int?, w.int? with
  | .multiply, _, _ => productFits v w
  | .power, some i, some j => i = 0 || j ≤ 0 || Bits.size i * j.toNat ≤ bitLimit
  | .shiftLeft, some i, some j =>
    i = 0 || j = 0 || (0 ≤ j && j ≤ bitLimit && Bits.size i + j.toNat ≤ bitLimit)
  | .modulo, _, _ => !v.isSequence
  | _, _, _ => true

/-- The identity of data that become constants. -/
def passing : Identity := .constant 0

/-- The constant a result can be kept as. -/
def constant? (r : Except OperationFault Datum) : Option Constant :=
  match r with
  | .ok v => v.toConstant?
  | .error _ => none

/-- The constant that is the result of an operation. -/
def foldBinary? (op : BinaryOp) (l r : Constant) : Option Constant :=
  let v := Datum.ofConstant 0 l
  let w := Datum.ofConstant 0 r
  if fits op v w then constant? (Datum.binary passing op v w) else none

/-- The constant with a sign. -/
def foldSign? (s : Sign) (c : Constant) : Option Constant :=
  constant? (Datum.signed passing s (Datum.ofConstant 0 c))

/-- The item of a constant. -/
def foldItem? (c index : Constant) : Option Constant :=
  constant? (Datum.item passing (Datum.ofConstant 0 c) (Datum.ofConstant 0 index))

/-- The constants of a row, if all are. -/
def constants? : List Expr → Option (List Constant)
  | [] => some []
  | .constant c :: es => (constants? es).map (c :: ·)
  | _ :: _ => none

/-- A constant in place of an expression, if there is one. -/
def orConstant (e : Expr) (c : Option Constant) : Expr :=
  match c with
  | some c => .constant c
  | none => e

/-- An operation on two operands, worked out if it can be. -/
def foldedBinary (op : BinaryOp) (l r : Expr) : Expr :=
  match l, r with
  | .constant a, .constant b => orConstant (.binary op l r) (foldBinary? op a b)
  | l, r => .binary op l r

/-- An operand with a sign, worked out if it can be. -/
def foldedSign (s : Sign) (e : Expr) : Expr :=
  match e with
  | .constant c => orConstant (.sign s e) (foldSign? s c)
  | e => .sign s e

/-- A negation, worked out if it can be. -/
def foldedNot (e : Expr) : Expr :=
  match e with
  | .constant c => .constant (.bool !(Datum.ofConstant 0 c).isTrue)
  | e => .not e

/-- An item, worked out if it can be. -/
def foldedItem (e index : Expr) : Expr :=
  match e, index with
  | .constant c, .constant i => orConstant (.item e index) (foldItem? c i)
  | e, index => .item e index

/-- A tuple, worked out if it can be. -/
def foldedTuple (items : List Expr) : Expr :=
  orConstant (.tuple items) ((constants? items).map .tuple)

/-- A name; one of them stands for a constant. -/
def foldedName (s : String) : Expr :=
  if s = fixedName then .constant (.bool true) else .name s

mutual

/-- An expression in which constants are worked out. -/
def folded : Expr → Expr
  | .constant c => .constant c
  | .name s => foldedName s
  | .member e s => .member (folded e) s
  | .item e index => foldedItem (folded e) (folded index)
  | .slice low high step => .slice (foldedOption low) (foldedOption high) (foldedOption step)
  | .call f args named => .call (folded f) (foldedItems args) (foldedNamed named)
  | .starred e => .starred (folded e)
  | .list items => .list (foldedItems items)
  | .tuple items => foldedTuple (foldedItems items)
  | .table entries => .table (foldedEntries entries)
  | .sign s e => foldedSign s (folded e)
  | .binary op l r => foldedBinary op (folded l) (folded r)
  | .compare first rest => .compare (folded first) (foldedRest rest)
  | .not e => foldedNot (folded e)
  | .and l r => .and (folded l) (folded r)
  | .or l r => .or (folded l) (folded r)
  | .choose condition yes no => .choose (folded condition) (folded yes) (folded no)
  | .assign s e => .assign s (folded e)
  | .other c => .other c

/-- A part of an expression that may be missing. -/
def foldedOption : Option Expr → Option Expr
  | none => none
  | some e => some (folded e)

/-- The items of a row. -/
def foldedItems : List Expr → List Expr
  | [] => []
  | e :: es => folded e :: foldedItems es

/-- The arguments with names. -/
def foldedNamed : List (Option String × Expr) → List (Option String × Expr)
  | [] => []
  | (s, e) :: es => (s, folded e) :: foldedNamed es

/-- The entries of a table. -/
def foldedEntries : List (Option Expr × Expr) → List (Option Expr × Expr)
  | [] => []
  | (k, e) :: es => (foldedOption k, folded e) :: foldedEntries es

/-- The further comparisons of a chain. -/
def foldedRest : List (CompareOp × Expr) → List (CompareOp × Expr)
  | [] => []
  | (op, e) :: es => (op, folded e) :: foldedRest es

end

end StateMachine.Expr
