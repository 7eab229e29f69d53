import StateMachine.Generate.Options
import StateMachine.Model.SignatureUnion
import StateMachine.Model.StateIndex
import StateMachine.Semantics.Plan
import StateMachine.Text.Escape

/-!
# The class table

The classes generated for a machine, before they are written down. Each
transition name is a method:

* the *base class* of all states has every method; there it falls back to the
  method `Default`, which refuses the transition;
* each map has a *default class*, below the base class, with the methods of its
  Default State;
* each real state has a class below the default class of its map;
* each map has a *holder* with one instance per state;
* the *context class* has one method per transition name, which calls the
  method of the current state.

Transitions of a state that share a name share a method. It picks the
*overload* by the number of arguments; a call that no overload takes, or whose
guards all fail, goes on to the class above.
-/

namespace StateMachine

/-- How a branch is introduced. -/
inductive Keyword
  | first
  | next
  | otherwise
  deriving DecidableEq

/-- The word that introduces a branch. -/
def Keyword.word : Keyword → String
  | .first => "if"
  | .next => "elif"
  | .otherwise => "else"

/-- The code of a guard. -/
structure Branch where
  guard : Guard
  plan : Plan
  /-- Nothing for a guard that is the only one and always taken. -/
  keyword : Option Keyword
  condition : String
  /-- What the branch is called in a trace. -/
  label : String
  /-- Is the next state committed even if an action fails? -/
  isProtected : Bool
  actions : List String
  /-- The state to be set, as it is referred to in the code. -/
  endState : String
  /-- The state to be pushed, as it is referred to in the code. -/
  pushState : String

/-- The code of a transition: one of the overloads of a method. -/
structure Overload where
  parameters : List String
  /-- Does the method go on to the class above if no guard holds? -/
  fallsThrough : Bool
  branches : List Branch

/-- The method for a transition name. -/
structure Method where
  name : Value
  /-- The same method in the class above. -/
  parent : String
  usesOwner : Bool
  overloads : List Overload

/-- The code of entry or exit actions. -/
structure ActionBlock where
  actions : List String
  usesOwner : Bool

/-- The class of a state. -/
structure StateClass where
  name : String
  parent : String
  /-- For each transition name whether it is defined (1), inherited from the
      Default State (2) or neither (0). -/
  reflection : Option (List (Value × Nat))
  entry : Option ActionBlock
  exit : Option ActionBlock
  methods : List Method

/-- The instance of a state in the holder of its map. -/
structure Instance where
  name : String
  className : String
  label : String
  id : Int

/-- The classes of a map: the default class first, and the holder's instances. -/
structure MapClasses where
  name : String
  classes : List StateClass
  instances : List Instance

/-- All classes generated for a machine. -/
structure ClassTable where
  base : String
  transitionNames : List Value
  maps : List MapClasses
  contextClass : String
  startState : String
  states : List String

namespace ClassTable

/-- The base class of all states. -/
def baseName (m : Machine) : String :=
  m.context.text ++ "State"

/-- The default class of a map. -/
def defaultClassName (map : StateMap) : String :=
  map.name.text ++ "_" ++ defaultName

/-- The class of a real state. -/
def stateClassName (map : StateMap) (s : State) : String :=
  map.name.text ++ "_" ++ s.name

/-- What a state is called in a trace. -/
def stateLabel (map : StateMap) (s : State) : String :=
  map.name.text ++ "." ++ (if s.isDefault then defaultName else s.name)

/-- How a state is referred to in the code. -/
def reference (scopedName : String) : String :=
  withMark "." scopedName

/-- An action as a statement. -/
def statement (a : Action) : String :=
  let receiver := if a.static then "" else "ctxt."
  if a.emptiesStack then "fsm.empty_state_stack()"
  else if a.property then receiver ++ a.name.text ++ " = " ++ a.arguments.head?.getD "None"
  else receiver ++ a.name.text ++ a.argumentText

/-- The keyword of a guard at a position among `count` guards. -/
def keyword (g : Guard) (index count : Nat) : Option Keyword :=
  if g.hasCondition then some (if index = 0 then .first else .next)
  else if 1 < count then some .otherwise
  else none

/-- The name of the variable that holds the state of a loopback. -/
def savedState : String := "endState"

/-- The code of the guard at a position. -/
def branch (o : Options) (p : Place) (t : Transition) (g : Guard) (index count : Nat) : Branch :=
  let plan := g.plan p.map.name.text
  let parameters := Text.joined ", " (t.parameters.map fun q => q.name.text)
  { guard := g
    plan := plan
    keyword := keyword g index count
    condition := g.conditionText
    label := Text.escape
      (stateLabel p.map p.state ++ "." ++ t.name.text ++ "(" ++ parameters ++ ")")
    isProtected := plan.hasActions && !o.noCatch.isSet
    actions := g.actions.map statement
    endState := if plan.isLoopback then savedState else reference plan.endState.text
    pushState := reference plan.pushState.text }

/-- The code of the guards from a position on. -/
def branches (o : Options) (p : Place) (t : Transition) (count : Nat) :
    Nat → List Guard → List Branch
  | _, [] => []
  | index, g :: gs => branch o p t g index count :: branches o p t count (index + 1) gs

/-- The code of a transition. -/
def overload (o : Options) (p : Place) (t : Transition) : Overload where
  parameters := t.parameters.map fun q => q.name.text
  fallsThrough := t.unconditional?.isNone
  branches := branches o p t t.ordered.length 0 t.ordered

/-- The class above that of a state. -/
def parentClass (m : Machine) (p : Place) : String :=
  if p.state.isDefault then baseName m else defaultClassName p.map

/-- The method of a single transition. -/
def method (m : Machine) (o : Options) (p : Place) (t : Transition) : Method where
  name := t.name
  parent := parentClass m p ++ "." ++ t.name.text
  usesOwner := t.usesOwner.toOption.getD false
  overloads := [overload o p t]

/-- The methods with one more: it joins a method of the same name, or comes
    last. -/
def insertMethod (new : Method) : List Method → List Method
  | [] => [new]
  | old :: rest =>
    if old.name == new.name then
      { old with usesOwner := old.usesOwner || new.usesOwner
                 overloads := old.overloads ++ new.overloads } :: rest
    else old :: insertMethod new rest

/-- The methods of a state. -/
def methods (m : Machine) (o : Options) (p : Place) : List Method :=
  p.state.transitions.foldl (fun ms t => insertMethod (method m o p t) ms) []

/-- The code of entry or exit actions. -/
def actionBlock (actions : List Action) : ActionBlock where
  actions := actions.map statement
  usesOwner := actions.any fun a => !a.emptiesStack

/-- Where the transition of a name comes from, in a state of the map. -/
def origin (map : StateMap) (s : State) (name : Value) : Nat :=
  if !s.isDefault && (s.named? name).isSome then 1
  else if map.default?.any fun d => (d.named? name).isSome then 2
  else 0

/-- The reflection table of a state. -/
def reflection (o : Options) (names : List Value) (map : StateMap) (s : State) :
    Option (List (Value × Nat)) :=
  if o.reflect.isSet then some ((names ++ [Value.str defaultName]).map fun n => (n, origin map s n))
  else none

/-- The class of a state, under a name. -/
def stateClass (m : Machine) (o : Options) (names : List Value) (name : String) (p : Place) :
    StateClass where
  name := name
  parent := parentClass m p
  reflection := reflection o names p.map p.state
  entry := p.state.entry.map actionBlock
  exit := p.state.exit.map actionBlock
  methods := methods m o p

/-- A Default State that defines nothing. -/
def bareDefault : State :=
  { name := defaultName, entry := none, exit := none, transitions := [], line := .int 0 }

/-- The classes of a map. -/
def mapClasses (m : Machine) (o : Options) (names : List Value) (index : StateIndex)
    (map : StateMap) : MapClasses where
  name := map.name.text
  classes :=
    stateClass m o names (defaultClassName map) ⟨map, map.default?.getD bareDefault⟩
      :: map.states.map fun s => stateClass m o names (stateClassName map s) ⟨map, s⟩
  instances := map.states.map fun s =>
    { name := s.name
      className := stateClassName map s
      label := stateLabel map s
      id := (index.idAt ⟨map, s⟩).toOption.getD defaultStateId }

end ClassTable

/-- The classes generated for a machine that starts in a place. -/
def Machine.classTable (m : Machine) (o : Options) (start : Place) : ClassTable :=
  let names := transitionNames (signatureUnion m.transitions)
  { base := ClassTable.baseName m
    transitionNames := names
    maps := m.maps.map (ClassTable.mapClasses m o names m.index)
    contextClass := m.className.text
    startState := ClassTable.reference start.scopedName
    states := m.places.map fun p => ClassTable.reference p.scopedName }

/-! ## Mismatches -/

namespace ClassTable

/-- The mismatch of referring to a state by a value that is a list or an object
    holding the scope mark. -/
def referenceMismatch? (name : Value) : Option Mismatch :=
  if name.isText then none
  else
    match name.mentions scopeMark with
    | .ok true => name.textMismatch? "replace"
    | _ => none

/-- The mismatch of generating the code of a guard. -/
def branchMismatch? (t : Transition) (g : Guard) : Option Mismatch :=
  g.planMismatch?
    <|> (if t.parameters.all fun q => q.name.isText then none else some .unsupported)
    <|> (if g.hasTarget then referenceMismatch? g.endState else none)
    <|> (if g.move == .push then referenceMismatch? g.pushState else none)

/-- The mismatch of finding out whether a transition needs the owner; it is not
    asked if one before it of the same name does. -/
def ownerMismatch? (before : List Transition) (t : Transition) : Option Mismatch :=
  if before.any fun u => u.name == t.name && u.usesOwner.toOption == some true then none
  else
    match t.usesOwner with
    | .ok _ => none
    | .error e => some e

/-- The mismatch of generating the code of transitions after those `before`. -/
def transitionsMismatch? (before : List Transition) : List Transition → Option Mismatch
  | [] => none
  | t :: ts =>
    ownerMismatch? before t <|> t.unconditionalMismatch? <|> t.orderMismatch?
      <|> t.ordered.findSome? (branchMismatch? t) <|> transitionsMismatch? (before ++ [t]) ts

/-- The mismatch of generating the classes of a machine, with the texts copied
    to the head of the file. -/
def mismatch? (m : Machine) : Option Mismatch :=
  unionMismatch? m.transitions
    <|> m.allPlaces.findSome? (fun p => transitionsMismatch? [] p.state.transitions)
    <|> m.source.textMismatch? "strip"
    <|> m.imports.findSome? fun name => name.textMismatch? "strip"

end ClassTable
end StateMachine
