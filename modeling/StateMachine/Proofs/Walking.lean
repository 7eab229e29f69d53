import StateMachine.Proofs.Conformance
import StateMachine.Proofs.GuardOrder
import StateMachine.Proofs.Numbering
import StateMachine.Semantics.Walk

/-!
# The walk and its context

The walk through a machine opens a node, goes through the *parts* of the node
(`Node.parts`), and closes it; a parameter or an action is only visited. What is
open at an event of the walk can be told from the events before it
(`openAfter`), and it can be told from the context of the event
(`WalkContext.nodes`). The two agree at every event:

* `Goes`: events that go through nodes, inside nodes that are open and told by
  every context;
* `Machine.goes_walk`: so the walk goes through a machine, by one lemma for each
  kind of node;
* `Goes.allFit`: so every event fits in with what the events before it have left
  open (`WalkEvent.Fits`);
* `Machine.turns_walk` and `Machine.places_walk`: the guards and the states the
  walk opens, in order.

The main result is `walk_is_bracketed`.
-/

namespace StateMachine

/-! ## Open nodes -/

/-- The parts of a node in the order of the walk: of a map the Default State comes first,
    of a transition the parameters, then the guards with a condition. -/
def Node.parts : Node → List Node
  | .machine m => m.maps.map .map
  | .map m => (m.default?.toList ++ m.states).map .state
  | .state s => s.transitions.map .transition
  | .transition t =>
    t.parameters.map .parameter ++ (t.guards.filter Guard.hasCondition).map .guard ++
      (t.guards.filter fun g => !g.hasCondition).map .guard
  | .guard g => g.actions.map .action
  | .parameter _ => []
  | .action _ => []

/-- Is the node visited, not opened and closed? -/
def Node.isLeaf : Node → Bool
  | .parameter _ => true
  | .action _ => true
  | _ => false

/-- The nodes the context tells to be open in a machine, the innermost first. -/
def WalkContext.nodes (m : Machine) (c : WalkContext) : List Node :=
  c.guard.toList.map .guard ++ c.transition.toList.map .transition ++
    c.state.toList.map .state ++ c.map.toList.map .map ++ [.machine m]

/-- What is open after an event, the innermost first, if `path` was open before. -/
def WalkEvent.openAfter (path : List Node) (e : WalkEvent) : List Node :=
  match e.phase with
  | .opened => e.node :: path
  | .closed => path.tail
  | .visited => path

/-- What is open after events. -/
def openAfter (path : List Node) (es : List WalkEvent) : List Node :=
  es.foldl WalkEvent.openAfter path

/-- The event fits in where the nodes of `path` are open: these are each a part of the next, what
    is opened or visited is a part of the innermost, what is closed is the innermost, and the
    context tells what is open. A node is open when it is opened, and still when it is closed. -/
structure WalkEvent.Fits (m : Machine) (path : List Node) (e : WalkEvent) : Prop where
  nested : (if e.phase = .closed then path else e.node :: path).IsChain fun n outer =>
    n ∈ outer.parts
  closes : e.phase = .closed → path.head? = some e.node
  told : e.context.nodes m = if e.phase = .opened then e.node :: path else path

/-- The events go through nodes, one after the other, while the nodes of `path` are open. A
    leaf is visited, any other node is opened, the events go through its parts, and it is
    closed. Every context tells what is open. -/
inductive Goes (m : Machine) : List Node → List Node → List WalkEvent → Prop
  | done {path : List Node} : Goes m path [] []
  | visit {path ns : List Node} {n : Node} {c : WalkContext} {es : List WalkEvent}
      (hn : n.isLeaf = true) (hc : c.nodes m = path) (hrest : Goes m path ns es) :
      Goes m path (n :: ns) (⟨.visited, n, c⟩ :: es)
  | through {path ns : List Node} {n : Node} {c c' : WalkContext} {inside es : List WalkEvent}
      (hn : n.isLeaf = false) (hc : c.nodes m = n :: path) (hc' : c'.nodes m = n :: path)
      (hinside : Goes m (n :: path) n.parts inside) (hrest : Goes m path ns es) :
      Goes m path (n :: ns) (⟨.opened, n, c⟩ :: (inside ++ ⟨.closed, n, c'⟩ :: es))

namespace Goes

variable {m : Machine} {path ns ns' : List Node} {es es' : List WalkEvent}

theorem append (h : Goes m path ns es) (h' : Goes m path ns' es') :
    Goes m path (ns ++ ns') (es ++ es') := by
  induction h with
  | done => exact h'
  | visit hn hc _ ih => exact .visit hn hc (ih h')
  | through hn hc hc' hinside _ _ ih =>
    simpa only [List.cons_append, List.append_assoc] using .through hn hc hc' hinside (ih h')

/-- Going through one node. -/
theorem one {n : Node} {c c' : WalkContext} {inside : List WalkEvent} (hn : n.isLeaf = false)
    (hc : c.nodes m = n :: path) (hc' : c'.nodes m = n :: path)
    (hinside : Goes m (n :: path) n.parts inside) :
    Goes m path [n] (⟨.opened, n, c⟩ :: inside ++ [⟨.closed, n, c'⟩]) :=
  .through hn hc hc' hinside .done

/-- Visiting leaves. -/
theorem leaves {α : Type} {f : α → Node} (hf : ∀ a, (f a).isLeaf = true) {c : WalkContext}
    (hc : c.nodes m = path) (as : List α) :
    Goes m path (as.map f) (as.map fun a => ⟨.visited, f a, c⟩) := by
  induction as with
  | nil => exact .done
  | cons a as ih => exact .visit (hf a) hc ih

end Goes

/-! ## The walk goes through a machine -/

namespace Walk

variable {m : Machine} {c : WalkContext} {path : List Node}

theorem afterTransitions_eq (ts : List Transition) : ∃ index count,
    afterTransitions c ts = { c with guardIndex := index, guardCount := count } := by
  induction ts generalizing c with
  | nil => exact ⟨c.guardIndex, c.guardCount, rfl⟩
  | cons t ts ih =>
    obtain ⟨index, count, h⟩ := ih (c := afterGuards c t.ordered)
    exact ⟨index, count, h⟩

theorem afterStates_eq (ss : List State) : ∃ index count,
    afterStates c ss = { c with guardIndex := index, guardCount := count } := by
  induction ss generalizing c with
  | nil => exact ⟨c.guardIndex, c.guardCount, rfl⟩
  | cons s ss ih =>
    obtain ⟨index, count, h⟩ := ih (c := afterTransitions c s.transitions)
    obtain ⟨index', count', h'⟩ := afterTransitions_eq (c := c) s.transitions
    refine ⟨index, count, ?_⟩
    rw [afterStates, List.foldl_cons, ← afterStates, h, h']

theorem goes_guard {g : Guard} (hc : c.nodes m = .guard g :: path) :
    Goes m path [.guard g] (guard c g) :=
  .one rfl hc hc (.leaves (fun _ => rfl) hc g.actions)

theorem goes_guards (hguard : c.guard = none) (index : Nat) (gs : List Guard) :
    Goes m (c.nodes m) (gs.map .guard) (guards c index gs) := by
  induction gs generalizing index with
  | nil => exact .done
  | cons g gs ih =>
    refine (goes_guard ?_).append (ih (index + 1))
    simp [WalkContext.nodes, hguard]

theorem goes_transition (hguard : c.guard = none) (htransition : c.transition = none)
    (t : Transition) : Goes m (c.nodes m) [.transition t] (transition c t) := by
  have hinside : { c with transition := some t }.nodes m = .transition t :: c.nodes m := by
    simp [WalkContext.nodes, hguard, htransition]
  refine .one rfl hinside hinside ?_
  have hparts : (Node.transition t).parts =
      t.parameters.map .parameter ++ t.ordered.map .guard := by
    rw [Node.parts, Transition.ordered, List.map_append, List.append_assoc]
  rw [hparts, ← hinside]
  exact (Goes.leaves (fun _ => rfl) rfl t.parameters).append
    (goes_guards (c := { c with transition := some t, guardCount := t.ordered.length }) hguard 0
      t.ordered)

theorem goes_transitions (hguard : c.guard = none) (htransition : c.transition = none)
    (ts : List Transition) : Goes m (c.nodes m) (ts.map .transition) (transitions c ts) := by
  induction ts generalizing c with
  | nil => exact .done
  | cons t ts ih =>
    exact (goes_transition hguard htransition t).append
      (ih (c := afterGuards c t.ordered) hguard htransition)

/-- Nothing is open inside the map. -/
structure Bare (c : WalkContext) : Prop where
  guard : c.guard = none
  transition : c.transition = none
  state : c.state = none

theorem goes_state (hc : Bare c) (s : State) : Goes m (c.nodes m) [.state s] (state c s) := by
  have hinside : { c with state := some s }.nodes m = .state s :: c.nodes m := by
    simp [WalkContext.nodes, hc.guard, hc.transition, hc.state]
  obtain ⟨index, count, hafter⟩ :=
    afterTransitions_eq (c := { c with state := some s }) s.transitions
  refine .one rfl hinside ?_ ?_
  · rw [hafter]
    exact hinside
  · rw [← hinside]
    exact goes_transitions (c := { c with state := some s }) hc.guard hc.transition s.transitions

theorem goes_states (hc : Bare c) (ss : List State) :
    Goes m (c.nodes m) (ss.map .state) (states c ss) := by
  induction ss generalizing c with
  | nil => exact .done
  | cons s ss ih =>
    obtain ⟨index, count, hafter⟩ := afterTransitions_eq (c := c) s.transitions
    refine (goes_state hc s).append ?_
    -- a state leaves nothing behind that tells where the walk is
    rw [hafter]
    exact ih (c := { c with guardIndex := index, guardCount := count })
      ⟨hc.guard, hc.transition, hc.state⟩

theorem goes_map (hc : Bare c) (hmap : c.map = none) (map : StateMap) :
    Goes m (c.nodes m) [.map map] (Walk.map c map) := by
  have hinside : { c with map := some map }.nodes m = .map map :: c.nodes m := by
    simp [WalkContext.nodes, hc.guard, hc.transition, hc.state, hmap]
  obtain ⟨index, count, hafter⟩ := afterStates_eq (c := { c with map := some map }) map.allStates
  refine .one rfl hinside ?_ ?_
  · rw [hafter]
    exact hinside
  · rw [← hinside]
    exact goes_states (c := { c with map := some map }) ⟨hc.guard, hc.transition, hc.state⟩
      map.allStates

theorem goes_maps (hc : Bare c) (hmap : c.map = none) (maps : List StateMap) :
    Goes m (c.nodes m) (maps.map .map) (Walk.maps c maps) := by
  induction maps generalizing c with
  | nil => exact .done
  | cons map maps ih =>
    obtain ⟨index, count, hafter⟩ := afterStates_eq (c := c) map.allStates
    refine (goes_map hc hmap map).append ?_
    rw [hafter]
    exact ih (c := { c with guardIndex := index, guardCount := count })
      ⟨hc.guard, hc.transition, hc.state⟩ hmap

theorem final_eq (m : Machine) : ∃ index count,
    final m = { WalkContext.start with guardIndex := index, guardCount := count } := by
  have hmaps : ∀ (maps : List StateMap) (c : WalkContext), ∃ index count,
      maps.foldl (fun c map => afterStates c map.allStates) c =
        { c with guardIndex := index, guardCount := count } := by
    intro maps
    induction maps with
    | nil => exact fun c => ⟨c.guardIndex, c.guardCount, rfl⟩
    | cons map maps ih =>
      intro c
      obtain ⟨index, count, hafter⟩ := afterStates_eq (c := c) map.allStates
      rw [List.foldl_cons, hafter]
      exact ih _
  exact hmaps m.maps .start

end Walk

/-- The walk goes through the machine. -/
theorem Machine.goes_walk (m : Machine) : Goes m [] [.machine m] m.walk := by
  obtain ⟨index, count, hfinal⟩ := Walk.final_eq m
  refine .one rfl rfl ?_ (Walk.goes_maps (c := .start) ⟨rfl, rfl, rfl⟩ rfl m.maps)
  rw [hfinal]
  rfl

/-! ## What the events before tell -/

/-- Every event fits in with what is open after those before it. -/
def AllFit (m : Machine) : List Node → List WalkEvent → Prop
  | _, [] => True
  | path, e :: es => e.Fits m path ∧ AllFit m (e.openAfter path) es

section AllFit

variable {m : Machine} {path ns : List Node} {es es' : List WalkEvent}

theorem allFit_append :
    AllFit m path (es ++ es') ↔ AllFit m path es ∧ AllFit m (openAfter path es) es' := by
  induction es generalizing path with
  | nil => exact (and_iff_right trivial).symm
  | cons e es ih =>
    change _ ∧ AllFit m _ (es ++ es') ↔ (_ ∧ AllFit m _ es) ∧ _
    rw [ih, and_assoc]
    rfl

/-- Whatever is opened is closed again. -/
theorem Goes.openAfter_eq (h : Goes m path ns es) : openAfter path es = path := by
  induction h with
  | done => rfl
  | visit _ _ _ ih => exact ih
  | @through path _ n c c' inside es _ _ _ _ _ ihinside ih =>
    have hsplit : openAfter path (⟨.opened, n, c⟩ :: (inside ++ ⟨.closed, n, c'⟩ :: es)) =
        openAfter (openAfter (n :: path) inside).tail es := List.foldl_append
    -- what is opened inside is closed inside, so that `n` is what is closed last
    rw [hsplit, ihinside]
    exact ih

/-- Events that go through parts of what is open fit in. -/
theorem Goes.allFit (h : Goes m path ns es)
    (hns : ∀ n ∈ ns, (n :: path).IsChain fun n outer => n ∈ outer.parts) : AllFit m path es := by
  induction h with
  | done => trivial
  | visit hn hc _ ih =>
    obtain ⟨hn', hns⟩ := List.forall_mem_cons.1 hns
    exact ⟨⟨hn', nofun, hc⟩, ih hns⟩
  | @through path _ n _ _ inside _ _ hc hc' hinside _ ihinside ih =>
    obtain ⟨hn', hns⟩ := List.forall_mem_cons.1 hns
    have hopen : openAfter (n :: path) inside = n :: path := hinside.openAfter_eq
    refine ⟨⟨hn', nofun, hc⟩, allFit_append.2 ⟨ihinside fun k hk => ?_, ?_⟩⟩
    · exact List.isChain_cons_cons.2 ⟨hk, hn'⟩
    · -- inside the node whatever was opened is closed, so the node is the innermost
      change AllFit m (openAfter (n :: path) inside) _
      rw [hopen]
      exact ⟨⟨hn', fun _ => rfl, hc'⟩, ih hns⟩

end AllFit

/-- The nodes a context tells are each a part of the next. -/
theorem WalkEvent.Fits.isChain_nodes {m : Machine} {path : List Node} {e : WalkEvent}
    (h : e.Fits m path) : (e.context.nodes m).IsChain fun n outer => n ∈ outer.parts := by
  have hnested := h.nested
  rw [h.told]
  cases hphase : e.phase with
  | opened => simpa [hphase] using hnested
  | closed => simpa [hphase] using hnested
  | visited =>
    rw [hphase, if_neg (by decide)] at hnested
    exact List.IsChain.of_cons hnested

/-- Where the nodes of a context are each a part of the next, a guard is open only in a map,
    whose name the plan of the guard is made with. -/
theorem WalkContext.plan?_eq {m : Machine} {c : WalkContext}
    (h : (c.nodes m).IsChain fun n outer => n ∈ outer.parts) :
    c.plan? = c.guard.bind fun g => c.map.map fun map => g.plan map.name.text := by
  obtain ⟨map, state, transition, guard, index, count⟩ := c
  rcases guard with - | g
  · rfl
  -- a guard is a part of nothing but a transition, and this of nothing but a state in a map
  rcases transition with - | t <;> rcases state with - | s <;> rcases map with - | map <;>
    simp [nodes, Node.parts] at h
  rfl

/-! ## Guards and states in the order they are opened -/

/-- A guard that is opened, with the transition that is open, and its position and the number
    of guards as the context tells them. -/
structure Turn where
  transition : Transition
  guard : Guard
  index : Nat
  count : Nat

/-- The guard that an event opens. -/
def WalkEvent.turn? (e : WalkEvent) : Option Turn :=
  match e.phase, e.node with
  | .opened, .guard g =>
    e.context.transition.map fun t => ⟨t, g, e.context.guardIndex, e.context.guardCount⟩
  | _, _ => none

/-- The state that is open when an event opens one, with the map that is open. -/
def WalkEvent.place? (e : WalkEvent) : Option Place :=
  match e.phase, e.node with
  | .opened, .state _ => e.context.map.bind fun map => e.context.state.map fun s => ⟨map, s⟩
  | _, _ => none

/-- The turns of the guards of a transition. -/
def Transition.turns (t : Transition) : List Turn :=
  t.ordered.zipIdx.map fun (g, i) => ⟨t, g, i, t.guards.length⟩

/-- Nothing is picked where a node is visited or closed. -/
structure PicksOpened {β : Type} (f : WalkEvent → Option β) : Prop where
  visited : ∀ n c, f ⟨.visited, n, c⟩ = none
  closed : ∀ n c, f ⟨.closed, n, c⟩ = none

theorem picksOpened_turn? : PicksOpened WalkEvent.turn? := ⟨fun _ _ => rfl, fun _ _ => rfl⟩

theorem picksOpened_place? : PicksOpened WalkEvent.place? := ⟨fun _ _ => rfl, fun _ _ => rfl⟩

namespace PicksOpened

variable {β : Type} {f : WalkEvent → Option β} (hf : PicksOpened f)
include hf

theorem leaves {α : Type} (n : α → Node) (c : WalkContext) (as : List α) :
    (as.map fun a => (⟨.visited, n a, c⟩ : WalkEvent)).filterMap f = [] := by
  rw [List.filterMap_map, List.filterMap_eq_nil_iff]
  exact fun a _ => hf.visited (n a) c

theorem through (n : Node) (c c' : WalkContext) (inside : List WalkEvent) :
    ((⟨.opened, n, c⟩ :: inside ++ [⟨.closed, n, c'⟩] : List WalkEvent)).filterMap f =
      (f ⟨.opened, n, c⟩).toList ++ inside.filterMap f := by
  have hclosed : [(⟨.closed, n, c'⟩ : WalkEvent)].filterMap f = [] :=
    List.filterMap_cons_none (hf.closed n c')
  rw [List.filterMap_append, hclosed, List.append_nil, List.filterMap_cons]
  cases f ⟨.opened, n, c⟩ <;> rfl

/-- What is picked in the walk, if it is picked inside states. -/
theorem walk {inState : StateMap → State → List β}
    (hmachine : ∀ m c, f ⟨.opened, .machine m, c⟩ = none)
    (hmap : ∀ map c, f ⟨.opened, .map map, c⟩ = none)
    (hstate : ∀ c map s, c.map = some map → (Walk.state c s).filterMap f = inState map s)
    (m : Machine) :
    m.walk.filterMap f = m.maps.flatMap fun map => map.allStates.flatMap (inState map) := by
  have hstates : ∀ (ss : List State) (c : WalkContext) (map : StateMap), c.map = some map →
      (Walk.states c ss).filterMap f = ss.flatMap (inState map) := by
    intro ss
    induction ss with
    | nil => exact fun _ _ _ => rfl
    | cons s ss ih =>
      intro c map hc
      obtain ⟨index, count, hafter⟩ := Walk.afterTransitions_eq (c := c) s.transitions
      have hc' : (Walk.afterTransitions c s.transitions).map = some map := by rw [hafter, hc]
      rw [Walk.states, List.filterMap_append, hstate c map s hc, ih _ map hc', List.flatMap_cons]
  have hmaps : ∀ (maps : List StateMap) (c : WalkContext), (Walk.maps c maps).filterMap f =
      maps.flatMap fun map => map.allStates.flatMap (inState map) := by
    intro maps
    induction maps with
    | nil => exact fun _ => rfl
    | cons map maps ih =>
      intro c
      rw [Walk.maps, List.filterMap_append, ih, List.flatMap_cons, Walk.map, hf.through, hmap,
        hstates _ { c with map := some map } map rfl]
      rfl
  rw [Machine.walk, hf.through, hmachine, hmaps]
  rfl

end PicksOpened

namespace Walk

variable {c : WalkContext}

theorem turns_guards {t : Transition} (ht : c.transition = some t) (index : Nat)
    (gs : List Guard) : (guards c index gs).filterMap WalkEvent.turn? =
      (gs.zipIdx index).map fun (g, i) => ⟨t, g, i, c.guardCount⟩ := by
  induction gs generalizing index with
  | nil => rfl
  | cons g gs ih =>
    rw [guards, List.filterMap_append, ih, guard, picksOpened_turn?.through,
      picksOpened_turn?.leaves, List.zipIdx_cons, List.map_cons]
    simp [WalkEvent.turn?, ht]

theorem turns_state (s : State) :
    (state c s).filterMap WalkEvent.turn? = s.transitions.flatMap Transition.turns := by
  have htransition : ∀ (t : Transition) (c : WalkContext),
      (transition c t).filterMap WalkEvent.turn? = t.turns := by
    intro t c
    rw [transition, List.cons_append, picksOpened_turn?.through, List.filterMap_append,
      picksOpened_turn?.leaves, turns_guards rfl, Transition.turns, t.length_ordered]
    rfl
  have htransitions : ∀ (ts : List Transition) (c : WalkContext),
      (transitions c ts).filterMap WalkEvent.turn? = ts.flatMap Transition.turns := by
    intro ts
    induction ts with
    | nil => exact fun _ => rfl
    | cons t ts ih =>
      intro c
      rw [transitions, List.filterMap_append, htransition, ih, List.flatMap_cons]
  rw [state, picksOpened_turn?.through, htransitions]
  rfl

/-- Inside a state no other state is opened. -/
theorem places_state {map : StateMap} (hmap : c.map = some map) (s : State) :
    (state c s).filterMap WalkEvent.place? = [⟨map, s⟩] := by
  have hguards : ∀ (gs : List Guard) (c : WalkContext) (index : Nat),
      (guards c index gs).filterMap WalkEvent.place? = [] := by
    intro gs
    induction gs with
    | nil => exact fun _ _ => rfl
    | cons g gs ih =>
      intro c index
      rw [guards, List.filterMap_append, ih, guard, picksOpened_place?.through,
        picksOpened_place?.leaves]
      rfl
  have htransitions : ∀ (ts : List Transition) (c : WalkContext),
      (transitions c ts).filterMap WalkEvent.place? = [] := by
    intro ts
    induction ts with
    | nil => exact fun _ => rfl
    | cons t ts ih =>
      intro c
      rw [transitions, List.filterMap_append, ih, transition, List.cons_append,
        picksOpened_place?.through, List.filterMap_append, picksOpened_place?.leaves, hguards]
      rfl
  rw [state, picksOpened_place?.through, htransitions]
  simp [WalkEvent.place?, hmap]

end Walk

namespace Machine

variable (m : Machine)

/-- The guards have their turns transition by transition, in the order they are tried. -/
theorem turns_walk : m.walk.filterMap WalkEvent.turn? =
    m.transitions.flatMap fun q => q.transition.turns := by
  rw [picksOpened_turn?.walk (fun _ _ => rfl) (fun _ _ => rfl) fun _ _ s _ => Walk.turns_state s]
  simp [transitions, StateMap.transitions, Place.transitions, List.flatMap_assoc,
    List.flatMap_map]

/-- Every state is opened once, the Default State of a map before its real states. -/
theorem places_walk : m.walk.filterMap WalkEvent.place? = m.allPlaces := by
  rw [picksOpened_place?.walk (fun _ _ => rfl) (fun _ _ => rfl) fun _ _ s hc =>
    Walk.places_state hc s]
  simp [allPlaces, List.map_eq_flatMap]

variable {m}

/-- Where Default States and real states are told apart, the states that are no Default States
    are the real ones. -/
theorem filter_allPlaces (h : ∀ map ∈ m.maps, (∀ s ∈ map.default?, s.isDefault = true) ∧
      ∀ s ∈ map.states, s.isDefault = false) :
    (m.allPlaces.filter fun p => !p.state.isDefault) = m.places := by
  rw [allPlaces, places, List.filter_flatMap]
  refine List.flatMap_congr fun map hmap => ?_
  obtain ⟨hdefault, hreal⟩ := h map hmap
  rw [List.filter_map, StateMap.allStates, List.filter_append, List.filter_eq_nil_iff.2,
    List.filter_eq_self.2]
  · rfl
  · intro s hs
    simp [hreal s hs]
  · intro s hs
    simp [hdefault s (Option.mem_toList.1 hs)]

/-- Real states of different scoped names are numbered by their positions. -/
theorem ids_places (hreal : ∀ p ∈ m.places, p.state.isDefault = false)
    (hnames : (m.places.map Place.scopedName).Nodup) :
    m.places.map m.index.idAt = (List.range m.places.length).map fun k => .ok (k : Int) := by
  refine List.ext_getElem (by simp) fun k hk _ => ?_
  have hk : k < m.places.length := by simpa using hk
  rw [List.getElem_map, List.getElem_map, List.getElem_range,
    StateIndex.idAt_eq_ok (hreal _ (List.getElem_mem hk)), StateIndex.numberOf?_eq_some]
  refine ⟨hk, rfl, fun j hj hlt hname => ?_⟩
  exact List.pairwise_iff_getElem.1 (List.pairwise_map.1 hnames) k j hk hj hlt hname.symm

/-- Where conditions and states are given by texts the walk comes to its end. -/
theorem walkMismatch?_eq_none (h : ∀ q ∈ m.transitions, ∀ g ∈ q.transition.guards,
      g.condition.isText = true ∧ g.endState.isText = true ∧ g.pushState.isText = true) :
    m.walkMismatch? = none := by
  refine List.findSome?_eq_none_iff.2 fun q hq => ?_
  have hscope : ∀ v : Value, v.isText = true → scopeMismatch? v = none :=
    fun v hv => Validate.scopeMismatch?_of_isText hv
  have horder : q.transition.orderMismatch? = none :=
    List.findSome?_eq_none_iff.2 fun g hg => by
      rw [Guard.conditionMismatch?, Value.textMismatch?, if_pos (h q hq g hg).1]
  have hplans : q.transition.ordered.findSome? Guard.planMismatch? = none := by
    refine List.findSome?_eq_none_iff.2 fun g hg => ?_
    obtain ⟨-, hend, hpush⟩ := h q hq g (Transition.mem_ordered.1 hg)
    simp [Guard.planMismatch?, hscope _ hend, hscope _ hpush]
  rw [Transition.walkMismatch?, horder, hplans]
  rfl

end Machine

/-! ## Every machine -/

/-- The walk opens and closes nodes in a well-nested way: it goes once through every map, state,
    transition, guard, parameter and action, inside what it is a part of and in the order of
    the parts. At every event its context tells exactly the nodes that the events before have
    left open, with the plan of the open guard. Guards are opened with their position among
    all guards of their transition. Real states of different scoped names have the numbers
    0, 1, 2, … in the order they are opened. And where conditions and states are given by texts
    the walk comes to its end. -/
theorem walk_is_bracketed (m : Machine) :
    Goes m [] [.machine m] m.walk ∧ openAfter [] m.walk = [] ∧
    (∀ before e after, m.walk = before ++ e :: after →
      e.Fits m (openAfter [] before) ∧
      e.context.plan? = e.context.guard.bind fun g =>
        e.context.map.map fun map => g.plan map.name.text) ∧
    m.walk.filterMap WalkEvent.turn? = m.transitions.flatMap (fun q => q.transition.turns) ∧
    m.walk.filterMap WalkEvent.place? = m.allPlaces ∧
    ((∀ map ∈ m.maps, (∀ s ∈ map.default?, s.isDefault = true) ∧
        ∀ s ∈ map.states, s.isDefault = false) →
      (m.places.map Place.scopedName).Nodup →
      ((m.walk.filterMap WalkEvent.place?).filter fun p => !p.state.isDefault).map m.index.idAt =
        (List.range m.places.length).map fun k => .ok (k : Int)) ∧
    ((∀ q ∈ m.transitions, ∀ g ∈ q.transition.guards,
        g.condition.isText = true ∧ g.endState.isText = true ∧ g.pushState.isText = true) →
      m.walkMismatch? = none) := by
  have hgoes := m.goes_walk
  have hfit : AllFit m [] m.walk :=
    hgoes.allFit fun n _ => .singleton n
  refine ⟨hgoes, hgoes.openAfter_eq, fun before e after hsplit => ?_, m.turns_walk, m.places_walk,
    fun hparted hnames => ?_, Machine.walkMismatch?_eq_none⟩
  · rw [hsplit] at hfit
    have hfits := (allFit_append.1 hfit).2.1
    exact ⟨hfits, WalkContext.plan?_eq hfits.isChain_nodes⟩
  · rw [m.places_walk, Machine.filter_allPlaces hparted]
    refine Machine.ids_places (fun p hp => ?_) hnames
    obtain ⟨hmap, hstate⟩ := Machine.mem_places.1 hp
    exact (hparted p.map hmap).2 p.state hstate

open Simulator in
/-- The walk through the door comes to its end. It opens the Default State first, and then the
    three real states with the numbers from zero to two. -/
theorem door_walk_is_bracketed :
    ((doorMachine "False").places.map Place.scopedName).Nodup ∧
      (doorMachine "False").walkMismatch? = none ∧
      ((doorMachine "False").walk.filterMap WalkEvent.place?).map (fun p => p.state.name) =
        ["Default", "Shut", "Open", "Asked"] ∧
      (((doorMachine "False").walk.filterMap WalkEvent.place?).filter
          fun p => !p.state.isDefault).map (doorMachine "False").index.idAt =
        [.ok 0, .ok 1, .ok 2] := by
  obtain ⟨-, -, -, -, hplaces, hids, hends⟩ := walk_is_bracketed (doorMachine "False")
  have hnames := door_unambiguous.nodup_scopedNames
  refine ⟨hnames, hends ?_, ?_, hids ?_ hnames⟩
  · simp [Machine.transitions, StateMap.transitions, Place.transitions, StateMap.allStates,
      doorMachine, hall, shut, asked, doorState, doorTransition, doorGuard, Value.isText]
  · rw [hplaces]
    rfl
  · have hwf : (doorMachine "False").WellFormed := Load.wellFormed_of_outcome door_loads
    exact fun map hmap => ⟨(hwf map hmap).default_isDefault, (hwf map hmap).real⟩

end StateMachine
