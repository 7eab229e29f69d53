import StateMachine.Document.Value
import StateMachine.Document.Literal
import StateMachine.Text.Basic

/-!
# Actions

What a machine does when it moves: a call to its *owner*, the object the
machine belongs to, an assignment to one of the owner's properties, or the
directive that empties the state stack. A *static* action is addressed to the
names around the machine instead of the owner. Arguments are kept as the text
of expressions.
-/

namespace StateMachine

/-- The name of the directive that empties the state stack. -/
def emptyStackName : String := "emptyStateStack"

/-- An action of a machine. -/
structure Action where
  /-- The call, property or directive. -/
  name : Value
  /-- The texts of the argument expressions; a property has its value first. -/
  arguments : List String
  /-- Is it an assignment to a property? -/
  property : Bool
  /-- Is it addressed to the surrounding names, not to the owner? -/
  static : Bool
  /-- Is it the directive that empties the state stack? -/
  emptiesStack : Bool
  /-- The line it was written on. -/
  line : Value

namespace Action

/-- The arguments between parentheses. -/
def argumentText (a : Action) : String :=
  "(" ++ Text.joined ", " a.arguments ++ ")"

/-- An action as it is written in a description. -/
def text (a : Action) : String :=
  if a.property then a.name.text ++ " = " ++ a.arguments.head?.getD ""
  else a.name.text ++ a.argumentText

end Action
end StateMachine
