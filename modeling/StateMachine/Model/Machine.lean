import StateMachine.Model.State

/-!
# Machines

A machine is a list of maps with the name of the state it starts in and the
data that go into generated files. The first map and, in it, the first state
of a name is the one meant by it.
-/

namespace StateMachine

/-- A state machine. -/
structure Machine where
  name : Value
  /-- The class of the owner. -/
  context : Value
  /-- The start state, by its scoped name or by its name alone. -/
  start : Value
  maps : List StateMap
  /-- The name of the generated class, where it is given. -/
  fsmClass : Value
  /-- Text copied to the head of the generated file. -/
  source : Value
  header : Value
  package : Value
  imports : List Value
  includes : List Value
  access : Value
  line : Value

namespace Machine

/-- The name of the generated class. -/
def className (m : Machine) : Value :=
  if m.fsmClass.isSet then m.fsmClass else .str (m.context.text ++ "Context")

/-- The first map of a name. -/
def findMap? (m : Machine) (name : Value) : Option StateMap :=
  m.maps.find? fun map => map.name == name

/-- The real states with their maps: map by map, in the order of declaration. -/
def places (m : Machine) : List Place :=
  m.maps.flatMap fun map => map.states.map fun s => ⟨map, s⟩

/-- All states with their maps, the Default State of a map before its real
    states. -/
def allPlaces (m : Machine) : List Place :=
  m.maps.flatMap fun map => map.allStates.map fun s => ⟨map, s⟩

/-- The real state of a map that a name means. -/
def inMap? (map : StateMap) (name : String) : Option Place :=
  (map.find? name).map fun s => ⟨map, s⟩

/-- The real state a name means: a scoped name in the map it names, any other
    name in the map `current`. -/
def findState? (m : Machine) (name : String) (current : Option StateMap) : Option Place :=
  match Text.cutLast? scopeMark name with
  | some (mapName, stateName) => (m.findMap? (.str mapName)).bind fun map => inMap? map stateName
  | none => current.bind fun map => inMap? map name

/-- The real state a value means. A list or an object means none, but it cannot be
    taken apart where it holds the scope mark. -/
def resolve (m : Machine) (name : Value) (current : Option StateMap) :
    Except Mismatch (Option Place) :=
  match name with
  | .str s => .ok (m.findState? s current)
  | v => do
    if ← v.mentions scopeMark then throw (.notText v.kindName "rpartition") else return none

/-- The state a name given as start state means: without a scope it may lie in
    any map. -/
def findStart? (m : Machine) (name : String) : Option Place :=
  if Text.contains scopeMark name then m.findState? name none
  else m.maps.findSome? fun map => inMap? map name

/-- The state the machine starts in. -/
def startPlace? (m : Machine) : Option Place :=
  match m.start with
  | .str name => if name.isEmpty then none else m.findStart? name
  | _ => none

/-- The mismatch of looking for the start state: a start state that is set but
    no text can be looked for only if it is a list or an object without the
    scope mark. -/
def startMismatch? (m : Machine) : Option Mismatch :=
  if m.start.isText || !m.start.isSet then none
  else
    match m.start.mentions scopeMark with
    | .ok true => m.start.textMismatch? "rpartition"
    | .ok false => none
    | .error e => some e

/-- The name of the start state's map, and its own. -/
def startNames (m : Machine) : Except Mismatch (String × String) :=
  match m.start with
  | .str name => .ok ((Text.cutLast? scopeMark name).getD ("", name))
  | v => .error (.notText v.kindName "rpartition")

/-- Does a state declare actions on entry? -/
def hasEntry (m : Machine) : Bool :=
  m.maps.any StateMap.hasEntry

/-- Does a state declare actions on exit? -/
def hasExit (m : Machine) : Bool :=
  m.maps.any StateMap.hasExit

end Machine
end StateMachine
