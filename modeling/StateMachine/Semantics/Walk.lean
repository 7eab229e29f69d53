import StateMachine.Model.SignatureUnion
import StateMachine.Model.StateIndex
import StateMachine.Semantics.Plan

/-!
# Walking through a machine

The one walk every report on a machine follows: its maps, in a map the Default
State and then the real states, in a state its transitions, in a transition
its parameters and then its guards in the order they are tried, in a guard its
actions. Machines, maps, states, transitions and guards are *opened* and
*closed*; parameters and actions are *visited*.

Every event carries the *context* it happens in: the map, state, transition
and guard that are open, and the position of the guard among those of its
transition. Between guards the position keeps its last value.
-/

namespace StateMachine

/-- What an event of the walk is about. -/
inductive Node
  | machine (m : Machine)
  | map (m : StateMap)
  | state (s : State)
  | transition (t : Transition)
  | guard (g : Guard)
  | parameter (p : Parameter)
  | action (a : Action)

/-- What happens to a node. -/
inductive Phase
  | opened
  | closed
  | visited
  deriving DecidableEq

/-- Where the walk is. -/
structure WalkContext where
  map : Option StateMap
  state : Option State
  transition : Option Transition
  guard : Option Guard
  /-- The position of the guard opened last. -/
  guardIndex : Nat
  /-- The number of guards of the transition whose guards were opened last. -/
  guardCount : Nat

namespace WalkContext

/-- Nothing is open, and no guard was. -/
def start : WalkContext := ⟨none, none, none, none, 0, 0⟩

/-- Is a Default State open? -/
def inDefaultState (c : WalkContext) : Bool :=
  c.state.any State.isDefault

/-- Was the guard opened last the first of its transition? -/
def isFirstGuard (c : WalkContext) : Bool :=
  c.guardIndex == 0

/-- Was the guard opened last the last of its transition? -/
def isLastGuard (c : WalkContext) : Bool :=
  (c.guardIndex : Int) == (c.guardCount : Int) - 1

/-- Is the open guard the one without a condition that ends a chain? -/
def isElseGuard (c : WalkContext) : Bool :=
  c.guard.any (fun g => !g.hasCondition) && 1 < c.guardCount

/-- Has the open transition no guard that is always taken? -/
def needsFallthrough (c : WalkContext) : Bool :=
  c.transition.any fun t => t.unconditional?.isNone

/-- The plan of the open guard. -/
def plan? (c : WalkContext) : Option Plan :=
  c.guard.map fun g => g.plan ((c.map.map fun m => m.name.text).getD "")

end WalkContext

/-- An event of the walk. -/
structure WalkEvent where
  phase : Phase
  node : Node
  context : WalkContext

namespace Walk

/-- The walk through a guard, opened in the context `c`. -/
def guard (c : WalkContext) (g : Guard) : List WalkEvent :=
  ⟨.opened, .guard g, c⟩ :: g.actions.map (fun a => ⟨.visited, .action a, c⟩)
    ++ [⟨.closed, .guard g, c⟩]

/-- The walk through the guards of a transition, the first of them at `index`. -/
def guards (c : WalkContext) (index : Nat) : List Guard → List WalkEvent
  | [] => []
  | g :: gs =>
    guard { c with guard := some g, guardIndex := index } g ++ guards c (index + 1) gs

/-- The context after the guards of a transition. -/
def afterGuards (c : WalkContext) (gs : List Guard) : WalkContext :=
  { c with guardCount := gs.length
           guardIndex := if gs.isEmpty then c.guardIndex else gs.length - 1 }

/-- The walk through a transition; the context tells the last guard position. -/
def transition (c : WalkContext) (t : Transition) : List WalkEvent :=
  let inside := { c with transition := some t }
  let ordered := t.ordered
  ⟨.opened, .transition t, inside⟩ :: t.parameters.map (fun p => ⟨.visited, .parameter p, inside⟩)
    ++ guards { inside with guardCount := ordered.length } 0 ordered
    ++ [⟨.closed, .transition t, afterGuards inside ordered⟩]

/-- The walk through transitions, one after the other. -/
def transitions (c : WalkContext) : List Transition → List WalkEvent
  | [] => []
  | t :: ts => transition c t ++ transitions (afterGuards c t.ordered) ts

/-- The guard position left by transitions. -/
def afterTransitions (c : WalkContext) (ts : List Transition) : WalkContext :=
  ts.foldl (fun c t => afterGuards c t.ordered) c

/-- The walk through a state. -/
def state (c : WalkContext) (s : State) : List WalkEvent :=
  let inside := { c with state := some s }
  ⟨.opened, .state s, inside⟩ :: transitions inside s.transitions
    ++ [⟨.closed, .state s, afterTransitions inside s.transitions⟩]

/-- The walk through states, one after the other. -/
def states (c : WalkContext) : List State → List WalkEvent
  | [] => []
  | s :: ss => state c s ++ states (afterTransitions c s.transitions) ss

/-- The guard position left by states. -/
def afterStates (c : WalkContext) (ss : List State) : WalkContext :=
  ss.foldl (fun c s => afterTransitions c s.transitions) c

/-- The walk through a map. -/
def map (c : WalkContext) (m : StateMap) : List WalkEvent :=
  let inside := { c with map := some m }
  ⟨.opened, .map m, inside⟩ :: states inside m.allStates
    ++ [⟨.closed, .map m, afterStates inside m.allStates⟩]

/-- The walk through maps, one after the other. -/
def maps (c : WalkContext) : List StateMap → List WalkEvent
  | [] => []
  | m :: ms => map c m ++ maps (afterStates c m.allStates) ms

/-- The context at the end of the walk. -/
def final (m : Machine) : WalkContext :=
  m.maps.foldl (fun c map => afterStates c map.allStates) .start

end Walk

/-- The walk through a machine. -/
def Machine.walk (m : Machine) : List WalkEvent :=
  ⟨.opened, .machine m, .start⟩ :: Walk.maps .start m.maps ++ [⟨.closed, .machine m, Walk.final m⟩]

/-- The mismatch the walk through a transition ends in: its guards cannot be
    ordered, or one of them cannot be planned. -/
def Transition.walkMismatch? (t : Transition) : Option Mismatch :=
  t.orderMismatch? <|> t.ordered.findSome? Guard.planMismatch?

/-- The mismatch the walk through a machine ends in. -/
def Machine.walkMismatch? (m : Machine) : Option Mismatch :=
  m.transitions.findSome? fun p => p.transition.walkMismatch?

end StateMachine
