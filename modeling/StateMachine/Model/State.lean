import StateMachine.Model.Transition
import StateMachine.Text.LowerCase

/-!
# States and maps

The states of a machine are grouped in *maps*. A map may have a *Default
State*, the state named `Default` (in any case): it is no state the machine
can be in, it provides what the other states of its map do not define
themselves, the *real* states. Of several Default States the last one counts.

A state is addressed from anywhere by its *scoped* name, the names of its map
and its own with `::` between them.
-/

namespace StateMachine

/-- What stands between the names of a map and of a state. -/
def scopeMark : String := "::"

/-- The name of Default States and of default transitions. -/
def defaultName : String := "Default"

/-- Is it the name of a Default State? -/
def isDefaultName (name : String) : Bool :=
  Text.lower name == Text.lower defaultName

/-- A state of a map. -/
structure State where
  name : String
  /-- The actions on entry, where the state declares any. -/
  entry : Option (List Action)
  /-- The actions on exit, where the state declares any. -/
  exit : Option (List Action)
  transitions : List Transition
  line : Value

namespace State

/-- Is it a Default State? -/
def isDefault (s : State) : Bool :=
  isDefaultName s.name

/-- The name of the class generated for a state. -/
def className (s : State) : String :=
  if s.isDefault then "DefaultState" else s.name

/-- The first transition of a name. -/
def named? (s : State) (name : Value) : Option Transition :=
  s.transitions.find? fun t => t.name == name

/-- The first transition of a name with the given parameters. -/
def find? (s : State) (name : Value) (parameters : List (Value × Value)) : Option Transition :=
  s.transitions.find? fun t =>
    t.name == name && sameParameters (t.parameters.map Parameter.key) parameters

/-- The first transition of a name with the given number of parameters. -/
def ofArity? (s : State) (name : Value) (arity : Nat) : Option Transition :=
  s.transitions.find? fun t => t.name == name && t.arity == arity

/-- A list of transitions with one more: its guards join the first transition
    with the same signature, or it comes last. -/
def insertTransition (t : Transition) : List Transition → List Transition
  | [] => [t]
  | u :: us =>
    if u.signature.same t.signature then u.addGuards t.guards :: us
    else u :: insertTransition t us

/-- The state with one more transition. -/
def addTransition (s : State) (t : Transition) : State :=
  { s with transitions := insertTransition t s.transitions }

/-- Transitions with one more: its guards join the first transition with a like
    signature, or it comes last. -/
def joinTransition (us : List Transition) (t : Transition) : List Transition :=
  match us with
  | [] => [t]
  | u :: us =>
    if u.signature.alike t.signature then u.addGuards t.guards :: us
    else u :: joinTransition us t

/-- The transitions of the state, those with like signatures as one. Only a name
    that is not a number can keep two of them apart. -/
def bySignature (s : State) : List Transition :=
  s.transitions.foldl joinTransition []

end State

/-- A group of states. -/
structure StateMap where
  name : Value
  /-- The real states. -/
  states : List State
  /-- The Default State. -/
  default? : Option State
  line : Value

namespace StateMap

/-- The Default State, if there is one, and the real states. -/
def allStates (m : StateMap) : List State :=
  m.default?.toList ++ m.states

/-- The map with one more state. -/
def addState (m : StateMap) (s : State) : StateMap :=
  if s.isDefault then { m with default? := some s } else { m with states := m.states ++ [s] }

/-- The first real state of a name. -/
def find? (m : StateMap) (name : String) : Option State :=
  m.states.find? fun s => s.name == name

/-- The scoped name of a state of the map. -/
def scopedName (m : StateMap) (s : State) : String :=
  m.name.text ++ scopeMark ++ s.name

/-- The actions on entry to a state: its own, or those of the Default State. -/
def entryOf (m : StateMap) (s : State) : List Action :=
  (s.entry <|> m.default?.bind State.entry).getD []

/-- The actions on exit from a state: its own, or those of the Default State. -/
def exitOf (m : StateMap) (s : State) : List Action :=
  (s.exit <|> m.default?.bind State.exit).getD []

/-- Does a state of the map declare actions on entry? -/
def hasEntry (m : StateMap) : Bool :=
  m.allStates.any fun s => s.entry.any fun as => !as.isEmpty

/-- Does a state of the map declare actions on exit? -/
def hasExit (m : StateMap) : Bool :=
  m.allStates.any fun s => s.exit.any fun as => !as.isEmpty

end StateMap

/-- A state together with its map. -/
structure Place where
  map : StateMap
  state : State

/-- The scoped name of a state. -/
def Place.scopedName (p : Place) : String :=
  p.map.scopedName p.state

/-- A name as it is meant in a map: as it is if it is scoped, otherwise scoped by
    the name of the map. -/
def scopeName (name mapName : String) : String :=
  if Text.contains scopeMark name then name else mapName ++ scopeMark ++ name

/-- What a value means in a map as the name of a state: a value that holds the
    scope mark stands for itself, any other for its text. -/
def scopeValue (name : Value) (mapName : String) : Value :=
  match name with
  | .str s => .str (scopeName s mapName)
  | v =>
    match v.mentions scopeMark with
    | .ok true => v
    | _ => .str (mapName ++ scopeMark ++ v.text)

/-- The mismatch of scoping a name that is no text. -/
def scopeMismatch? (name : Value) : Option Mismatch :=
  match name.mentions scopeMark with
  | .ok _ => none
  | .error m => some m

/-- A scoped name written with another mark. -/
def withMark (mark name : String) : String :=
  Text.replace scopeMark mark name

end StateMachine
