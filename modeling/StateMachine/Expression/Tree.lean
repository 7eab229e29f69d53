import StateMachine.Number.Binary64

/-!
# Expression trees

What an expression says. Its leaves are constants and names; they are joined by
operations, comparisons (which may be chained), choices (`a if c else b`),
calls, attributes and displays of lists, tuples and tables.

There are constructs that can be written in an expression, but are not
evaluated, such as functions without a name. Of them only the kind is kept.
-/

namespace StateMachine

/-- An operation on two operands. -/
inductive BinaryOp
  | add
  | subtract
  | multiply
  | divide
  | floorDivide
  | modulo
  | power
  | product
  | shiftLeft
  | shiftRight
  | bitAnd
  | bitXor
  | bitOr
  deriving DecidableEq

/-- The mark of an operation. -/
def BinaryOp.mark : BinaryOp → String
  | .add => "+"
  | .subtract => "-"
  | .multiply => "*"
  | .divide => "/"
  | .floorDivide => "//"
  | .modulo => "%"
  | .power => "**"
  | .product => "@"
  | .shiftLeft => "<<"
  | .shiftRight => ">>"
  | .bitAnd => "&"
  | .bitXor => "^"
  | .bitOr => "|"

/-- A comparison. -/
inductive CompareOp
  | lt
  | le
  | gt
  | ge
  | eq
  | ne
  | isIn
  | notIn
  | is
  | isNot
  deriving DecidableEq

/-- The mark of a comparison. -/
def CompareOp.mark : CompareOp → String
  | .lt => "<"
  | .le => "<="
  | .gt => ">"
  | .ge => ">="
  | .eq => "=="
  | .ne => "!="
  | .isIn => "in"
  | .notIn => "not in"
  | .is => "is"
  | .isNot => "is not"

/-- A sign. -/
inductive Sign
  | plus
  | minus
  | invert
  deriving DecidableEq

/-- The mark of a sign. -/
def Sign.mark : Sign → String
  | .plus => "+"
  | .minus => "-"
  | .invert => "~"

/-- A constant: what is written as one, or worked out from such constants before
    the expression is evaluated. -/
inductive Constant
  | none
  | bool (b : Bool)
  | ellipsis
  | int (i : Int)
  | float (x : Binary64)
  | text (s : String)
  | tuple (items : List Constant)

/-- The constructs that are not evaluated. -/
inductive Construct
  | lambda
  | generator
  | listComprehension
  | setComprehension
  | tableComprehension
  | setDisplay
  | filledText
  | bytes
  | imaginary
  | yielding
  | awaiting
  deriving DecidableEq

/-- An expression. -/
inductive Expr
  | constant (c : Constant)
  | name (s : String)
  | member (e : Expr) (name : String)
  | item (e index : Expr)
  | slice (low high step : Option Expr)
  /-- A call with arguments, of which some may have a name and some may be tables
      of arguments with names. -/
  | call (f : Expr) (args : List Expr) (named : List (Option String × Expr))
  | starred (e : Expr)
  | list (items : List Expr)
  | tuple (items : List Expr)
  /-- A table: its keys and values. A value without a key is a table to be taken
      over. -/
  | table (entries : List (Option Expr × Expr))
  | sign (s : Sign) (e : Expr)
  | binary (op : BinaryOp) (l r : Expr)
  /-- A chain of comparisons: each with what stands on its right. -/
  | compare (first : Expr) (rest : List (CompareOp × Expr))
  | not (e : Expr)
  | and (l r : Expr)
  | or (l r : Expr)
  | choose (condition yes no : Expr)
  /-- A value with a name it is known by from then on. -/
  | assign (name : String) (e : Expr)
  | other (c : Construct)

/-- What a construct is called in messages. -/
def Construct.called : Construct → String
  | .lambda => "lambda"
  | .generator => "generator expression"
  | .listComprehension => "list comprehension"
  | .setComprehension => "set comprehension"
  | .tableComprehension => "dict comprehension"
  | .setDisplay => "set display"
  | .filledText => "f-string expression"
  | .bytes => "literal"
  | .imaginary => "literal"
  | .yielding => "yield expression"
  | .awaiting => "await expression"

/-- What a constant is called in messages. -/
def Constant.called : Constant → String
  | .none => "None"
  | .bool true => "True"
  | .bool false => "False"
  | .ellipsis => "ellipsis"
  | _ => "literal"

/-- What an expression is called in messages. -/
def Expr.called : Expr → String
  | .constant c => c.called
  | .name _ => "name"
  | .member _ _ => "attribute"
  | .item _ _ => "subscript"
  | .slice _ _ _ => "slice"
  | .call _ _ _ => "function call"
  | .starred _ => "starred"
  | .list _ => "list"
  | .tuple _ => "tuple"
  | .table _ => "dict literal"
  | .sign _ _ => "expression"
  | .binary _ _ _ => "expression"
  | .compare _ _ => "comparison"
  | .not _ => "expression"
  | .and _ _ => "expression"
  | .or _ _ => "expression"
  | .choose _ _ _ => "conditional expression"
  | .assign _ _ => "named expression"
  | .other c => c.called

/-- The name that stands for a constant; nothing can be assigned to it. -/
def Expr.fixedName : String := "__debug__"

instance : Inhabited Expr := ⟨.constant .none⟩

end StateMachine
