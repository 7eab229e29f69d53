import StateMachine.Model.Action
import StateMachine.Text.Blank

/-!
# Transitions

A transition has a name, parameters and *guards*: its conditional branches.
A guard commits the next state in one of three ways (`Move`): it *sets* the
state, it *pushes* a state on top of another, or it *pops* back to the state
below, where it may issue a further transition.

The guards are tried in a fixed order, the ones with a condition as declared
and those without one last. Several transitions of a state may share a name;
its *signature*, the name with the names and types of the parameters, tells
them apart.

A description does not ensure that a condition is a text. What depends on it
(`Guard.hasCondition`, `Transition.ordered`) is defined for every guard, by
the text of the value; the mismatch that asking it of another kind of value
amounts to is given apart (`Guard.conditionMismatch?`).
-/

namespace StateMachine

/-- The end state of a guard that stays where it is. -/
def nilState : String := "nil"

/-- A parameter of a transition. -/
structure Parameter where
  name : Value
  type : Value
  line : Value

namespace Parameter

/-- What tells a parameter from another. -/
def key (p : Parameter) : Value × Value :=
  (p.name, p.type)

/-- A parameter as it is written in a description. -/
def text (p : Parameter) : String :=
  if p.type.isSet then p.name.text ++ ": " ++ p.type.text else p.name.text

/-- A parameter without a type is written by its name, which must be a text. -/
def textMismatch? (p : Parameter) : Option Mismatch :=
  if p.type.isSet || p.name.isText then none else some .unsupported

end Parameter

/-- How a guard commits the next state. -/
inductive Move
  | set
  | push
  | pop
  deriving DecidableEq

/-- The word for a move. -/
def Move.word : Move → String
  | .set => "set"
  | .push => "push"
  | .pop => "pop"

/-- The move a word stands for. -/
def Move.ofWord? (word : String) : Option Move :=
  if word = "set" then some .set
  else if word = "push" then some .push
  else if word = "pop" then some .pop
  else none

/-- A branch of a transition. -/
structure Guard where
  /-- The expression to be true; blank for a branch that is always taken. -/
  condition : Value
  move : Move
  /-- The next state; of a pop, the transition to issue afterwards. -/
  endState : Value
  /-- The state a push goes to. -/
  pushState : Value
  actions : List Action
  /-- The arguments of the transition issued after a pop. -/
  popArguments : Value
  line : Value

namespace Guard

/-- Has the guard a condition to be tested? -/
def hasCondition (g : Guard) : Bool :=
  !Text.isBlankText g.condition.text

/-- A condition that is no text cannot be tested. -/
def conditionMismatch? (g : Guard) : Option Mismatch :=
  g.condition.textMismatch? "strip"

/-- The condition without the blanks around it. -/
def conditionText (g : Guard) : String :=
  Text.trim g.condition.text

/-- Has the guard actions? -/
def hasActions (g : Guard) : Bool :=
  !g.actions.isEmpty

/-- Does the guard set or push without leaving its state? -/
def isLoopback (g : Guard) : Bool :=
  g.move != .pop && g.endState == .str nilState

/-- The transition issued after a pop; empty where there is none. -/
def popTransition (g : Guard) : Value :=
  if g.move == .pop && g.endState.isSet && !(g.endState == .str nilState) then g.endState
  else .str ""

end Guard

/-- Does the value contain the text `word`, as a part of a text, as an item of a
    list or as the name of a member? -/
def Value.mentions (word : String) : Value → Except Mismatch Bool
  | .str s => .ok (Text.contains word s)
  | .list items => .ok (items.any fun v => v == .str word)
  | .object members => .ok (members.any fun m => m.1 == word)
  | v => .error (.notContainer v.kindName)

/-- The name with the names and types of the parameters. -/
structure Signature where
  name : Value
  parameters : List (Value × Value)

/-- Are two lists of parameter keys alike, one by one? -/
def sameParameters : List (Value × Value) → List (Value × Value) → Bool
  | [], [] => true
  | p :: ps, q :: qs => p.1.alike q.1 && p.2.alike q.2 && sameParameters ps qs
  | _, _ => false

namespace Signature

/-- Are the names equal and the parameters alike? -/
def same (a b : Signature) : Bool :=
  a.name == b.name && sameParameters a.parameters b.parameters

/-- Are the signatures alike? -/
def alike (a b : Signature) : Bool :=
  a.name.alike b.name && sameParameters a.parameters b.parameters

end Signature

/-- A transition of a state. -/
structure Transition where
  name : Value
  parameters : List Parameter
  guards : List Guard
  line : Value

namespace Transition

/-- What tells a transition from the others of its state. -/
def signature (t : Transition) : Signature :=
  ⟨t.name, t.parameters.map Parameter.key⟩

/-- The number of parameters. -/
def arity (t : Transition) : Nat :=
  t.parameters.length

/-- The first guard without a condition. -/
def unconditional? (t : Transition) : Option Guard :=
  t.guards.find? fun g => !g.hasCondition

/-- The guards in the order they are tried. -/
def ordered (t : Transition) : List Guard :=
  t.guards.filter Guard.hasCondition ++ t.guards.filter fun g => !g.hasCondition

/-- The mismatch of ordering the guards. -/
def orderMismatch? (t : Transition) : Option Mismatch :=
  t.guards.findSome? Guard.conditionMismatch?

/-- The mismatch of looking for a guard without a condition. -/
def unconditionalMismatch? (t : Transition) : Option Mismatch :=
  (t.guards.find? fun g => !g.condition.isText || !g.hasCondition).bind Guard.conditionMismatch?

/-- The word by which expressions refer to the owner. -/
def ownerWord : String := "ctxt"

/-- Does a branch need the owner, for its actions or inside an expression? -/
def guardUsesOwner (g : Guard) : Except Mismatch Bool := do
  if g.hasActions then return true
  if ← g.condition.mentions ownerWord then return true
  g.popArguments.mentions ownerWord

/-- Does one of the branches need the owner? -/
def branchesUseOwner : List Guard → Except Mismatch Bool
  | [] => .ok false
  | g :: gs => do
    if ← guardUsesOwner g then return true
    branchesUseOwner gs

/-- Does the transition need the owner? -/
def usesOwner (t : Transition) : Except Mismatch Bool :=
  branchesUseOwner t.guards

/-- The parameters as they are written in a description. -/
def parameterText (t : Transition) : String :=
  Text.joined ", " (t.parameters.map Parameter.text)

/-- The mismatch of writing the parameters. -/
def parameterMismatch? (t : Transition) : Option Mismatch :=
  t.parameters.findSome? Parameter.textMismatch?

/-- The transition with further guards. -/
def addGuards (t : Transition) (gs : List Guard) : Transition :=
  { t with guards := t.guards ++ gs }

end Transition
end StateMachine
