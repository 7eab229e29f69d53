import StateMachine.Model.Machine

/-!
# Descriptions of machines

Writes a machine back as the document a machine is read from. Every guard gives
one transition entry, in the order the guards are declared in. What is not set
is left out, except for the members every description has.

An object is written as a list of members that are there or not (`object`), so
the order of the members can be read off the definitions.
-/

namespace StateMachine
namespace Description

/-- A member that is always there. -/
def always (key : String) (v : Value) : Option (String × Value) :=
  some (key, v)

/-- A member that is there if its value is set. -/
def ifSet (key : String) (v : Value) : Option (String × Value) :=
  if v.isSet then some (key, v) else none

/-- A member that is there if its value is given. -/
def ifGiven (key : String) (v : Option Value) : Option (String × Value) :=
  v.map fun v => (key, v)

/-- The object of the members that are there. -/
def object (members : List (Option (String × Value))) : Value :=
  .object (members.filterMap id)

/-- The description of an action. -/
def action (a : Action) : Value :=
  object [
    always "name" a.name,
    always "arguments" (.list (a.arguments.map .str)),
    ifSet "property" (.bool a.property),
    ifSet "static" (.bool a.static),
    ifSet "line" a.line]

/-- The description of a list of actions. -/
def actions (as : List Action) : Value :=
  .list (as.map action)

/-- The description of a parameter. -/
def parameter (p : Parameter) : Value :=
  object [always "name" p.name, always "type" p.type]

/-- The transition entry of a guard. -/
def entry (t : Transition) (g : Guard) : Value :=
  object [
    always "name" t.name,
    always "parameters" (.list (t.parameters.map parameter)),
    always "type" (.str g.move.word),
    always "end_state" g.endState,
    always "actions" (actions g.actions),
    ifSet "guard" g.condition,
    ifSet "push_state" g.pushState,
    ifSet "pop_args" g.popArguments,
    ifSet "line" g.line]

/-- The transition entries of a transition. -/
def entries (t : Transition) : List Value :=
  t.guards.map (entry t)

/-- The description of a state. -/
def state (s : State) : Value :=
  object [
    always "name" (.str s.name),
    ifGiven "entry" (s.entry.map actions),
    ifGiven "exit" (s.exit.map actions),
    ifSet "line" s.line,
    always "transitions" (.list (s.transitions.flatMap entries))]

/-- The description of a map. -/
def map (m : StateMap) : Value :=
  object [always "name" m.name, always "states" (.list (m.allStates.map state))]

/-- The description of a machine. -/
def machine (m : Machine) : Value :=
  object [
    always "name" m.name,
    always "class" m.context,
    always "start" m.start,
    ifSet "fsmclass" m.fsmClass,
    ifSet "source" m.source,
    ifSet "header" m.header,
    ifSet "package" m.package,
    ifSet "imports" (.list m.imports),
    ifSet "includes" (.list m.includes),
    ifSet "access" m.access,
    always "maps" (.list (m.maps.map map))]

end Description

/-- The description of a machine. -/
def Machine.description (m : Machine) : Value :=
  Description.machine m

end StateMachine
