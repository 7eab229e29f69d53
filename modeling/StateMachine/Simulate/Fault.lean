import StateMachine.Expression.Screen
import StateMachine.Run.Context

/-!
# Faults

What can go wrong while a machine is simulated: an operation on its context,
a transition no state handles, a state, action or value that is missing, an
expression that is stopped or fails, and whatever the owner raises. A fault
has a kind and a message; a fault inside an expression becomes a fault of the
expression that quotes both.
-/

namespace StateMachine

/-- What ends a step of a simulation early. -/
inductive Fault
  | context (e : ContextError)
  /-- Neither the state nor a default handles the transition. -/
  | refused (state transition : String)
  /-- The start state is missing. -/
  | noStart (start machine : String)
  /-- A state to go to is missing. -/
  | noState (name : String)
  /-- There is no value to be assigned to a property. -/
  | noValue (property : String)
  /-- The owner has no such action. -/
  | noAction (owner action : String)
  /-- There is no such static action. -/
  | noStaticAction (action : String)
  /-- The screen stopped an expression. -/
  | stopped (objection : Screen.Objection) (expression : String)
  /-- An expression failed. -/
  | failed (expression kind message : String)
  /-- Raised by the owner, a listener or a function, or inside an expression. -/
  | raised (kind message : String)
  /-- A value of the machine is of a kind that does not fit. -/
  | mismatch (m : Mismatch)
  /-- Transitions were issued inside transitions without end. -/
  | tooDeep

namespace Fault

/-- The kind of a fault on the context. -/
def contextKind : ContextError → String
  | .inTransition _ _ => "StateUndefinedException"
  | .noPrevious _ => "StateUndefinedException"
  | .pushInTransition _ _ => "StateUndefinedException"
  | .stackFull _ _ => "StateStackOverflowException"
  | .badStackSize _ => "TypeError"
  | .stackEmpty _ => "EmptyStackException"
  | .nameless => "AttributeError"

/-- The kind of a mismatch. -/
def mismatchKind : Mismatch → String
  | .notText _ _ => "AttributeError"
  | _ => "TypeError"

/-- The kind of a fault. -/
def kind : Fault → String
  | .context e => contextKind e
  | .refused _ _ => "TransitionUndefinedException"
  | .raised kind _ => kind
  | .mismatch m => mismatchKind m
  | .tooDeep => "RecursionError"
  | _ => "FSMError"

/-- The wording of a fault. -/
def message : Fault → String
  | .context e => e.message
  | .refused state transition => "State: " ++ state ++ ", Transition: " ++ transition
  | .noStart start machine =>
    "Start state '" ++ start ++ "' not found in FSM '" ++ machine ++ "'."
  | .noState name => "Target state '" ++ name ++ "' not found."
  | .noValue property => "Property action '" ++ property ++ "' has no value."
  | .noAction owner action => "Owner " ++ owner ++ " has no action '" ++ action ++ "'."
  | .noStaticAction action =>
    "Static action '" ++ action ++ "' is not defined in the namespace."
  | .stopped objection expression =>
    "[SECURITY] Unsafe code blocked: " ++ objection.message ++ " in '" ++ expression ++ "'"
  | .failed expression kind message =>
    "[CODE ERROR] In expression '" ++ expression ++ "': " ++ kind ++ " - " ++ message
  | .raised _ message => message
  | .mismatch m => m.message
  | .tooDeep => "maximum recursion depth exceeded"

/-- A fault inside an expression, as a fault of the expression. -/
def inExpression (expression : String) (f : Fault) : Fault :=
  .failed expression f.kind f.message

end Fault
end StateMachine
