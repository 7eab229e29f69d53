import StateMachine.Proofs.GuardOrder
import StateMachine.Semantics.Walk
import StateMachine.Simulate.Simulator

/-!
# Retouched machines

A *retouch* (`Retouch`) changes a machine where nothing that is done with it
should notice: the lines on which it and its maps were written, and transitions
as far as their names, their parameters and the order in which their guards are
tried stay the same.

* The walk through the retouched machine has the corresponding events
  (`Machine.walk_retouched`).
* A simulation of it is the same, step for step (`Simulator.agrees_retouched`).

The places of the two machines, their transitions and what else refers to a map
correspond one to one. A search gives corresponding results, and whatever comes
of it is the same.
-/

namespace StateMachine

variable {σ V : Type}

/-! ## Retouches -/

/-- A change of a machine that keeps what its transitions are called with and the order in
    which their guards are tried. -/
structure Retouch where
  /-- The new line of the machine or of a map. -/
  line : Value → Value
  transition : Transition → Transition
  name : ∀ t, (transition t).name = t.name
  parameters : ∀ t, (transition t).parameters = t.parameters
  ordered : ∀ t, (transition t).ordered = t.ordered

namespace Retouch

attribute [simp] name parameters ordered

variable (r : Retouch) (t : Transition)

@[simp]
theorem signature : (r.transition t).signature = t.signature := by
  rw [Transition.signature, r.name, r.parameters]
  rfl

@[simp]
theorem arity : (r.transition t).arity = t.arity := by
  rw [Transition.arity, r.parameters]
  rfl

@[simp]
theorem orderMismatch? : (r.transition t).orderMismatch? = t.orderMismatch? := by
  rw [Transition.orderMismatch?_eq, r.ordered, Transition.orderMismatch?_eq]

@[simp]
theorem unconditional? : (r.transition t).unconditional? = t.unconditional? := by
  rw [Transition.unconditional?_eq, r.ordered, Transition.unconditional?_eq]

@[simp]
theorem parameterText : (r.transition t).parameterText = t.parameterText := by
  rw [Transition.parameterText, r.parameters]
  rfl

@[simp]
theorem parameterMismatch? : (r.transition t).parameterMismatch? = t.parameterMismatch? := by
  rw [Transition.parameterMismatch?, r.parameters]
  rfl

end Retouch

/-! ## States, maps and machines -/

variable (r : Retouch)

/-- The state with its transitions retouched. -/
def State.retouched (s : State) : State :=
  { s with transitions := s.transitions.map r.transition }

/-- The map with its states and its line retouched. -/
def StateMap.retouched (m : StateMap) : StateMap :=
  { m with
    states := m.states.map (State.retouched r)
    default? := m.default?.map (State.retouched r)
    line := r.line m.line }

/-- The machine with its maps and its line retouched. -/
def Machine.retouched (m : Machine) : Machine :=
  { m with maps := m.maps.map (StateMap.retouched r), line := r.line m.line }

/-- The place in the retouched machine. -/
def Place.retouched (p : Place) : Place :=
  ⟨p.map.retouched r, p.state.retouched r⟩

/-- The transition in the retouched machine. -/
def Placed.retouched (p : Placed) : Placed :=
  ⟨p.place.retouched r, r.transition p.transition⟩

namespace State

variable (s : State)

/-- A search that a retouch does not mislead finds what corresponds. -/
theorem find_retouched {P : Transition → Bool} (hP : ∀ t, P (r.transition t) = P t) :
    (s.retouched r).transitions.find? P = (s.transitions.find? P).map r.transition := by
  rw [retouched, List.find?_map]
  exact congrArg (fun Q => (s.transitions.find? Q).map r.transition) (funext hP)

theorem named?_retouched (name : Value) :
    (s.retouched r).named? name = (s.named? name).map r.transition :=
  find_retouched r s fun t => by rw [r.name]

theorem find?_retouched (name : Value) (keys : List (Value × Value)) :
    (s.retouched r).find? name keys = (s.find? name keys).map r.transition :=
  find_retouched r s fun t => by rw [r.name, r.parameters]

theorem ofArity?_retouched (name : Value) (arity : Nat) :
    (s.retouched r).ofArity? name arity = (s.ofArity? name arity).map r.transition :=
  find_retouched r s fun t => by rw [r.name, r.arity]

end State

namespace StateMap

variable (m : StateMap) (s : State)

theorem allStates_retouched :
    (m.retouched r).allStates = m.allStates.map (State.retouched r) := by
  rw [allStates, allStates, List.map_append]
  cases h : m.default? <;> simp [retouched, h]

theorem entryOf_retouched : (m.retouched r).entryOf (s.retouched r) = m.entryOf s := by
  rw [entryOf, entryOf]
  cases h : m.default? <;> simp [retouched, h] <;> rfl

theorem exitOf_retouched : (m.retouched r).exitOf (s.retouched r) = m.exitOf s := by
  rw [exitOf, exitOf]
  cases h : m.default? <;> simp [retouched, h] <;> rfl

end StateMap

namespace Machine

variable (m : Machine)

theorem places_retouched : (m.retouched r).places = m.places.map (Place.retouched r) := by
  simp only [places, retouched, List.flatMap_map, List.map_flatMap, List.map_map,
    Function.comp_def, StateMap.retouched]
  rfl

theorem allPlaces_retouched :
    (m.retouched r).allPlaces = m.allPlaces.map (Place.retouched r) := by
  simp only [allPlaces, retouched, List.flatMap_map, List.map_flatMap, List.map_map,
    Function.comp_def, StateMap.allStates_retouched]
  rfl

theorem inMap?_retouched (map : StateMap) (name : String) :
    inMap? (map.retouched r) name = (inMap? map name).map (Place.retouched r) := by
  simp only [inMap?, StateMap.find?, StateMap.retouched, List.find?_map, Option.map_map]
  rfl

theorem findMap?_retouched (name : Value) :
    (m.retouched r).findMap? name = (m.findMap? name).map (StateMap.retouched r) := by
  rw [findMap?, retouched, List.find?_map]
  rfl

theorem findState?_retouched (name : String) :
    (m.retouched r).findState? name none = (m.findState? name none).map (Place.retouched r) := by
  rw [findState?, findState?]
  split
  · rw [findMap?_retouched, Option.bind_map, Option.map_bind]
    exact congrArg _ (funext fun map => inMap?_retouched r map _)
  · rfl

theorem findStart?_retouched (name : String) :
    (m.retouched r).findStart? name = (m.findStart? name).map (Place.retouched r) := by
  rw [findStart?, findStart?]
  split
  · exact m.findState?_retouched r name
  · rw [retouched, List.findSome?_map, List.map_findSome?]
    exact congrArg (List.findSome? · _) (funext fun map => inMap?_retouched r map name)

theorem startPlace?_retouched :
    (m.retouched r).startPlace? = m.startPlace?.map (Place.retouched r) := by
  have hstart : (m.retouched r).start = m.start := rfl
  rw [startPlace?, startPlace?, hstart]
  cases m.start with
  | str name =>
    dsimp only
    split
    · rfl
    · exact m.findStart?_retouched r name
  | _ => rfl

theorem idOf_retouched (name scopedName : String) :
    (m.retouched r).index.idOf name scopedName = m.index.idOf name scopedName := by
  have hnumber : (m.retouched r).index.numberOf? scopedName = m.index.numberOf? scopedName := by
    simp only [StateIndex.numberOf?, StateIndex.size, index, places_retouched, List.length_map,
      ← List.map_reverse, List.findIdx?_map]
    rfl
  rw [StateIndex.idOf, StateIndex.idOf, hnumber]

theorem idAt_retouched (p : Place) :
    (m.retouched r).index.idAt (p.retouched r) = m.index.idAt p :=
  m.idOf_retouched r p.state.name p.scopedName

theorem stateNamed?_retouched (name : String) :
    (m.retouched r).stateNamed? name = (m.stateNamed? name).map (Place.retouched r) := by
  rw [stateNamed?, stateNamed?, places_retouched, ← List.map_reverse, List.find?_map]
  rfl

end Machine

/-! ## The default chain -/

/-- The link with its transition in the retouched machine. -/
def DefaultLink.retouched (l : DefaultLink) : DefaultLink :=
  ⟨l.step, l.transition.map (Placed.retouched r)⟩

theorem Match.find?_retouched (wanted : Match) (s : State) (name : Value) :
    wanted.find? (s.retouched r) name = (wanted.find? s name).map r.transition := by
  cases wanted with
  | parameters keys => exact s.find?_retouched r name keys
  | arity n => exact s.ofArity?_retouched r name n
  | nameOnly => exact s.named?_retouched r name

namespace Place

variable (p : Place)

theorem default?_retouched : (p.retouched r).default? = p.default?.map (Place.retouched r) := by
  cases h : p.map.default? <;> simp [default?, retouched, StateMap.retouched, h]

theorem link_retouched (step : DefaultStep) (t : Option Transition) :
    (p.retouched r).link step (t.map r.transition) =
      (p.link step t).map (DefaultLink.retouched r) := by
  cases t <;> rfl

theorem defaultChain_retouched (name : Value) (wanted : Match) (fromDefault : Bool) :
    (p.retouched r).defaultChain name wanted fromDefault =
      (p.defaultChain name wanted fromDefault).map (DefaultLink.retouched r) := by
  have hlink : ∀ (b : Bool) (q : Place) (step : DefaultStep) (t : Option Transition),
      (if b then [] else (q.retouched r).link step (t.map r.transition)) =
        (if b then [] else q.link step t).map (DefaultLink.retouched r) := by
    intro b q step t
    cases b with
    | false => exact q.link_retouched r step t
    | true => rfl
  have hfind : ∀ (q : Place) (keys : List (Value × Value)),
      (q.retouched r).state.find? (.str defaultName) keys =
        (q.state.find? (.str defaultName) keys).map r.transition := fun q keys =>
    q.state.find?_retouched r (.str defaultName) keys
  have hwanted : ∀ q : Place, wanted.find? (q.retouched r).state name =
      (wanted.find? q.state name).map r.transition := fun q => wanted.find?_retouched r q.state name
  rw [defaultChain, defaultChain, default?_retouched]
  cases p.default? <;>
    simp only [Option.map_none, Option.map_some, hfind, hwanted, hlink, List.map_append] <;> rfl

end Place

/-! ## The walk -/

/-- What an event is about, in the retouched machine. -/
def Node.retouched : Node → Node
  | .machine m => .machine (m.retouched r)
  | .map m => .map (m.retouched r)
  | .state s => .state (s.retouched r)
  | .transition t => .transition (r.transition t)
  | .guard g => .guard g
  | .parameter p => .parameter p
  | .action a => .action a

/-- Where the walk is, in the retouched machine. -/
def WalkContext.retouched (c : WalkContext) : WalkContext :=
  { c with
    map := c.map.map (StateMap.retouched r)
    state := c.state.map (State.retouched r)
    transition := c.transition.map r.transition }

/-- The event in the walk through the retouched machine. -/
def WalkEvent.retouched (e : WalkEvent) : WalkEvent :=
  ⟨e.phase, e.node.retouched r, e.context.retouched r⟩

namespace WalkContext

variable (c : WalkContext)

theorem inDefaultState_retouched : (c.retouched r).inDefaultState = c.inDefaultState := by
  rw [inDefaultState, inDefaultState, retouched]
  cases c.state <;> rfl

theorem needsFallthrough_retouched : (c.retouched r).needsFallthrough = c.needsFallthrough := by
  rw [needsFallthrough, needsFallthrough, retouched]
  cases c.transition with
  | none => rfl
  | some t => simp

theorem plan?_retouched : (c.retouched r).plan? = c.plan? := by
  rw [plan?, plan?, retouched]
  cases c.map <;> rfl

end WalkContext

namespace Walk

variable (c : WalkContext)

theorem guards_retouched (index : Nat) (gs : List Guard) :
    guards (c.retouched r) index gs = (guards c index gs).map (WalkEvent.retouched r) := by
  induction gs generalizing index with
  | nil => rfl
  | cons g gs ih =>
    rw [guards, guards, ih, List.map_append]
    simp only [guard, List.map_append, List.map_cons, List.map_map, List.map_nil]
    rfl

theorem transition_retouched (t : Transition) :
    transition (c.retouched r) (r.transition t) =
      (transition c t).map (WalkEvent.retouched r) := by
  have hguards := guards_retouched r
    { c with transition := some t, guardCount := t.ordered.length } 0 t.ordered
  simp only [transition, r.ordered, r.parameters, List.map_append, List.map_cons, List.map_map,
    List.map_nil, ← hguards]
  rfl

theorem afterTransitions_retouched (ts : List Transition) :
    afterTransitions (c.retouched r) (ts.map r.transition) =
      (afterTransitions c ts).retouched r := by
  induction ts generalizing c with
  | nil => rfl
  | cons t ts ih =>
    have hafter := ih (afterGuards c t.ordered)
    simp only [afterTransitions, List.map_cons, List.foldl_cons, r.ordered] at hafter ⊢
    exact hafter

theorem transitions_retouched (ts : List Transition) :
    transitions (c.retouched r) (ts.map r.transition) =
      (transitions c ts).map (WalkEvent.retouched r) := by
  induction ts generalizing c with
  | nil => rfl
  | cons t ts ih =>
    rw [List.map_cons, transitions, transitions, List.map_append, transition_retouched, r.ordered,
      ← ih]
    rfl

theorem state_retouched (s : State) :
    state (c.retouched r) (s.retouched r) = (state c s).map (WalkEvent.retouched r) := by
  have htransitions := transitions_retouched r { c with state := some s } s.transitions
  have hafter := afterTransitions_retouched r { c with state := some s } s.transitions
  simp only [state, List.map_append, List.map_cons, List.map_nil, ← htransitions,
    WalkEvent.retouched, ← hafter]
  rfl

theorem states_retouched (ss : List State) :
    states (c.retouched r) (ss.map (State.retouched r)) =
      (states c ss).map (WalkEvent.retouched r) := by
  induction ss generalizing c with
  | nil => rfl
  | cons s ss ih =>
    rw [List.map_cons, states, states, List.map_append, state_retouched, ← ih,
      ← afterTransitions_retouched]
    rfl

theorem afterStates_retouched (ss : List State) :
    afterStates (c.retouched r) (ss.map (State.retouched r)) = (afterStates c ss).retouched r := by
  induction ss generalizing c with
  | nil => rfl
  | cons s ss ih =>
    have hafter := ih (afterTransitions c s.transitions)
    rw [← afterTransitions_retouched] at hafter
    exact hafter

theorem map_retouched (m : StateMap) :
    map (c.retouched r) (m.retouched r) = (map c m).map (WalkEvent.retouched r) := by
  have hstates := states_retouched r { c with map := some m } m.allStates
  have hafter := afterStates_retouched r { c with map := some m } m.allStates
  simp only [map, m.allStates_retouched, List.map_append, List.map_cons, List.map_nil, ← hstates,
    WalkEvent.retouched, ← hafter]
  rfl

theorem maps_retouched (ms : List StateMap) :
    maps (c.retouched r) (ms.map (StateMap.retouched r)) =
      (maps c ms).map (WalkEvent.retouched r) := by
  induction ms generalizing c with
  | nil => rfl
  | cons m ms ih =>
    rw [List.map_cons, maps, maps, List.map_append, map_retouched, ← ih, m.allStates_retouched,
      ← afterStates_retouched]

theorem final_retouched (m : Machine) : final (m.retouched r) = (final m).retouched r := by
  have hfold : ∀ (ms : List StateMap) (c : WalkContext),
      (ms.map (StateMap.retouched r)).foldl (fun c map => afterStates c map.allStates)
          (c.retouched r) =
        (ms.foldl (fun c map => afterStates c map.allStates) c).retouched r := by
    intro ms
    induction ms with
    | nil => exact fun _ => rfl
    | cons m ms ih =>
      intro c
      rw [List.map_cons, List.foldl_cons, m.allStates_retouched, afterStates_retouched, ih]
      rfl
  exact hfold m.maps .start

end Walk

/-- The walk through the retouched machine has the corresponding events. -/
theorem Machine.walk_retouched (m : Machine) :
    (m.retouched r).walk = m.walk.map (WalkEvent.retouched r) := by
  have hmaps : Walk.maps .start (m.retouched r).maps =
      (Walk.maps .start m.maps).map (WalkEvent.retouched r) := Walk.maps_retouched r .start m.maps
  simp only [walk, List.map_append, List.map_cons, List.map_nil, hmaps, Walk.final_retouched]
  rfl

/-! ## Simulations -/

namespace Simulator

/-- The simulator of the retouched machine. -/
def retouched (sim : Simulator σ V) : Simulator σ V :=
  { sim with machine := sim.machine.retouched r }

variable (sim : Simulator σ V) (again : Dispatch σ V)

theorem evaluateAll_retouched (bindings : Bindings V) (es : List String) :
    (sim.retouched r).evaluateAll again bindings es = sim.evaluateAll again bindings es := by
  induction es with
  | nil => rfl
  | cons e es ih =>
    rw [evaluateAll, evaluateAll, ih]
    rfl

theorem perform_retouched (bindings : Bindings V) (a : Action) :
    (sim.retouched r).perform again bindings a = sim.perform again bindings a := by
  rw [perform, perform, evaluateAll_retouched]
  rfl

theorem performAll_retouched (bindings : Bindings V) (as : List Action) :
    (sim.retouched r).performAll again bindings as = sim.performAll again bindings as := by
  induction as with
  | nil => rfl
  | cons a as ih => rw [performAll, performAll, perform_retouched, ih]

theorem performBlock_retouched (headline : String) (as : List Action) :
    (sim.retouched r).performBlock again headline as = sim.performBlock again headline as := by
  rw [performBlock, performBlock, performAll_retouched]

theorem place_retouched (name : String) :
    (sim.retouched r).place name = Place.retouched r <$> sim.place name := by
  rw [place, place, retouched, Machine.stateNamed?_retouched]
  cases sim.machine.stateNamed? name <;> rfl

theorem target_retouched (name : Value) : (sim.retouched r).target name = sim.target name := by
  cases name with
  | str scopedName => rw [target, target, place_retouched, bind_map_left]
  | _ => rfl

theorem enter_retouched : (sim.retouched r).enter again = sim.enter again := by
  have hentry : ∀ p : Place, (p.retouched r).map.entryOf (p.retouched r).state =
      p.map.entryOf p.state := fun p => p.map.entryOf_retouched r p.state
  simp only [enter, place_retouched, bind_map_left, performBlock_retouched, hentry]

theorem leave_retouched : (sim.retouched r).leave again = sim.leave again := by
  have hexit : ∀ p : Place, (p.retouched r).map.exitOf (p.retouched r).state =
      p.map.exitOf p.state := fun p => p.map.exitOf_retouched r p.state
  simp only [leave, place_retouched, bind_map_left, performBlock_retouched, hexit]

theorem setDestination_retouched (plan : Plan) (saved : Option String) :
    (sim.retouched r).setDestination plan saved = sim.setDestination plan saved := by
  simp only [setDestination, destination, target_retouched]
  rfl

theorem commit_retouched (plan : Plan) (saved : Option String) :
    (sim.retouched r).commit again plan saved = sim.commit again plan saved := by
  simp only [commit, setDestination_retouched, enter_retouched, target_retouched]
  rfl

theorem take_retouched (plan : Plan) (actions : List Action) (bindings : Bindings V) :
    (sim.retouched r).take again plan actions bindings = sim.take again plan actions bindings := by
  simp only [take, leave_retouched, actAndCommit, performAll_retouched, commit_retouched]
  rfl

theorem tryGuards_retouched (p : Placed) (bindings : Bindings V) (gs : List Guard) :
    (sim.retouched r).tryGuards again (p.retouched r) bindings gs =
      sim.tryGuards again p bindings gs := by
  have hname : (p.retouched r).transition.name = p.transition.name := r.name p.transition
  have htaken : ∀ g state, takenLine (p.retouched r).transition g state =
      takenLine p.transition g state := by
    intro g state
    delta takenLine
    rw [hname]
  induction gs with
  | nil => rfl
  | cons g gs ih =>
    simp only [tryGuards, take_retouched, ih, htaken, hname]
    rfl

theorem tryTransition_retouched (p : Placed) (args : List V) :
    (sim.retouched r).tryTransition again (p.retouched r) args =
      sim.tryTransition again p args := by
  have hbind : bind (p.retouched r).transition args = bind p.transition args := by
    rw [bind, Placed.retouched, r.parameters]
    rfl
  rw [tryTransition, tryTransition, tryGuards_retouched, bindMismatch?, bindMismatch?, hbind,
    Placed.retouched, r.orderMismatch?, r.ordered]

theorem tryLinks_retouched (state : String) (name : Value) (args : List V)
    (links : List DefaultLink) :
    (sim.retouched r).tryLinks again state name args (links.map (DefaultLink.retouched r)) =
      sim.tryLinks again state name args links := by
  have harity : ∀ p : Placed, (p.retouched r).transition.arity = p.transition.arity := fun p =>
    r.arity p.transition
  induction links with
  | nil => rfl
  | cons link links ih =>
    rw [List.map_cons, tryLinks, tryLinks, ih]
    cases h : link.transition with
    | none => simp [DefaultLink.retouched, h]
    | some p => simp only [DefaultLink.retouched, h, Option.map_some, tryTransition_retouched, harity]

theorem handle_retouched (p : Place) (name : Value) (args : List V) :
    (sim.retouched r).handle again (p.retouched r) name args = sim.handle again p name args := by
  have hown : (p.retouched r).state.ofArity? name args.length =
      (p.state.ofArity? name args.length).map r.transition := p.state.ofArity?_retouched r _ _
  rw [handle, handle, Place.defaultChain_retouched, tryLinks_retouched, hown]
  cases p.state.ofArity? name args.length with
  | none => rfl
  | some t => exact congrArg (· >>= _) (sim.tryTransition_retouched r again ⟨p, t⟩ args)

theorem dispatchBy_retouched : (sim.retouched r).dispatchBy again = sim.dispatchBy again := by
  funext name args
  simp only [dispatchBy, place_retouched, bind_map_left, handle_retouched]

theorem dispatch_retouched (limit : Nat) :
    (sim.retouched r).dispatch limit = sim.dispatch limit := by
  -- a transition that is issued inside another is dispatched with a lower limit
  induction limit with
  | zero => rfl
  | succ limit ih => rw [dispatch, dispatch, ih, dispatchBy_retouched]

theorem dispatchHere_retouched : (sim.retouched r).dispatchHere = sim.dispatchHere := by
  funext name args
  simp only [dispatchHere, dispatch_retouched]

theorem reset_retouched : (sim.retouched r).reset = sim.reset := by
  have hstart : (sim.retouched r).machine.startPlace? =
      sim.machine.startPlace?.map (Place.retouched r) := sim.machine.startPlace?_retouched r
  rw [reset, reset, enterHere, enterHere, dispatchHere_retouched, enter_retouched, hstart]
  cases sim.machine.startPlace? <;> rfl

theorem shownStates_retouched : (sim.retouched r).shownStates = sim.shownStates := by
  -- a state is numbered by its place in the order, and that has not changed
  have hid : ∀ p : Place, (sim.retouched r).machine.index.idAt (p.retouched r) =
      sim.machine.index.idAt p := sim.machine.idAt_retouched r
  rw [shownStates, shownStates, retouched, Machine.places_retouched, List.map_map]
  exact List.map_congr_left fun p _ => by rw [Function.comp_apply, ← hid p]; rfl

/-- The simulators do the same in every simulation. -/
structure Agrees (sim sim' : Simulator σ V) : Prop where
  start : ∀ host, sim.start host = sim'.start host
  reset : sim.reset = sim'.reset
  issue : ∀ name args, sim.issue name args = sim'.issue name args
  pop : sim.popHere = sim'.popHere
  states : sim.shownStates = sim'.shownStates

theorem Agrees.symm {sim sim' : Simulator σ V} (h : sim.Agrees sim') : sim'.Agrees sim where
  start host := (h.start host).symm
  reset := h.reset.symm
  issue name args := (h.issue name args).symm
  pop := h.pop.symm
  states := h.states.symm

theorem Agrees.trans {sim₁ sim₂ sim₃ : Simulator σ V} (h : sim₁.Agrees sim₂)
    (h' : sim₂.Agrees sim₃) : sim₁.Agrees sim₃ where
  start host := (h.start host).trans (h'.start host)
  reset := h.reset.trans h'.reset
  issue name args := (h.issue name args).trans (h'.issue name args)
  pop := h.pop.trans h'.pop
  states := h.states.trans h'.states

/-- A simulator of a retouched machine does what that of the machine does. -/
theorem agrees_retouched : (sim.retouched r).Agrees sim where
  start host := by
    rw [start, start, reset_retouched]
    rfl
  reset := sim.reset_retouched r
  issue name args := by rw [issue, issue, dispatchHere_retouched]
  pop := rfl
  states := sim.shownStates_retouched r

end Simulator

end StateMachine
