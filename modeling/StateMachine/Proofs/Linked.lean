import Mathlib.Data.List.Nodup
import StateMachine.Proofs.Described

/-!
# Parts that refer back

A guard is asked for its transition, a transition for its state, a state for its map and a map
for its machine. In a machine this is told by where the part stands. Here the parts are *linked*:
each has a position of its own, and refers back to the position of what contains it. The
references are made as the parts are added to each other. A part that is new has none, and a
guard that joins another transition gets a new one.

* Without the references, the linked machine of a description is the machine described
  (`Value.unlinked_linkedMachine`).
* Adding a part to a container whose references are right keeps them right
  (`LinkedState.RefersBack.addTransition`, `LinkedMap.RefersBack.addState`). So they are right
  in the machine, and positions tell its parts apart (`Value.refersBack_linkedMachine`).
-/

namespace StateMachine

/-- Where a part stands in a description: the numbers of the entries that lead to it. -/
abbrev Position := List Nat

/-- A guard that refers back to its transition. -/
structure LinkedGuard where
  guard : Guard
  transition? : Option Position

/-- A transition that refers back to its state. -/
structure LinkedTransition where
  position : Position
  name : Value
  parameters : List Parameter
  guards : List LinkedGuard
  line : Value
  state? : Option Position

/-- A state that refers back to its map. -/
structure LinkedState where
  position : Position
  name : String
  entry : Option (List Action)
  exit : Option (List Action)
  transitions : List LinkedTransition
  line : Value
  map? : Option Position

/-- A map that refers back to its machine. -/
structure LinkedMap where
  position : Position
  name : Value
  states : List LinkedState
  default? : Option LinkedState
  line : Value
  machine? : Option Position

/-- A machine with linked maps, which stand for those of `bare`. -/
structure LinkedMachine where
  position : Position
  bare : Machine
  maps : List LinkedMap

/-! ## Transitions -/

namespace LinkedTransition

/-- The transition without references. -/
def unlinked (t : LinkedTransition) : Transition where
  name := t.name
  parameters := t.parameters
  guards := t.guards.map LinkedGuard.guard
  line := t.line

/-- A guard is added: it refers to the transition from now on. -/
def addGuard (t : LinkedTransition) (g : LinkedGuard) : LinkedTransition :=
  { t with guards := t.guards ++ [{ g with transition? := some t.position }] }

/-- The guards refer back to the transition. -/
def RefersBack (t : LinkedTransition) : Prop :=
  ∀ g ∈ t.guards, g.transition? = some t.position

theorem foldl_addGuard (t : LinkedTransition) (gs : List LinkedGuard) :
    gs.foldl addGuard t = { t with guards := t.guards ++ gs.map fun g =>
      { g with transition? := some t.position } } := by
  induction gs generalizing t with
  | nil => simp
  | cons g gs ih =>
    rw [List.foldl_cons, ih]
    simp [addGuard]

theorem unlinked_foldl_addGuard (t : LinkedTransition) (gs : List LinkedGuard) :
    (gs.foldl addGuard t).unlinked = t.unlinked.addGuards (gs.map LinkedGuard.guard) := by
  simp [foldl_addGuard, unlinked, Transition.addGuards]

theorem RefersBack.foldl_addGuard {t : LinkedTransition} (h : t.RefersBack)
    (gs : List LinkedGuard) : (gs.foldl addGuard t).RefersBack := by
  rw [LinkedTransition.foldl_addGuard]
  intro g hg
  rcases List.mem_append.1 hg with hg | hg
  · exact h g hg
  · obtain ⟨g, -, rfl⟩ := List.mem_map.1 hg
    rfl

end LinkedTransition

/-! ## States -/

namespace LinkedState

/-- The state without references. -/
def unlinked (s : LinkedState) : State where
  name := s.name
  entry := s.entry
  exit := s.exit
  transitions := s.transitions.map LinkedTransition.unlinked
  line := s.line

/-- A transition is added to those of the state that stands at `position`. Its guards join the
    first transition with the same signature, or it comes last. -/
def insertTransition (position : Position) (t : LinkedTransition) :
    List LinkedTransition → List LinkedTransition
  | [] => [{ t with
      state? := some position
      guards := t.guards.map fun g => { g with transition? := some t.position } }]
  | u :: us =>
    if u.unlinked.signature.same t.unlinked.signature then
      t.guards.foldl LinkedTransition.addGuard u :: us
    else u :: insertTransition position t us

/-- The state with one more transition. -/
def addTransition (s : LinkedState) (t : LinkedTransition) : LinkedState :=
  { s with transitions := insertTransition s.position t s.transitions }

theorem map_unlinked_insertTransition (position : Position) (t : LinkedTransition)
    (us : List LinkedTransition) :
    (insertTransition position t us).map LinkedTransition.unlinked =
      State.insertTransition t.unlinked (us.map LinkedTransition.unlinked) := by
  induction us with
  | nil => simp [insertTransition, State.insertTransition, LinkedTransition.unlinked]
  | cons u us ih =>
    rw [insertTransition, List.map_cons, State.insertTransition]
    split
    · rw [List.map_cons, LinkedTransition.unlinked_foldl_addGuard]
      rfl
    · rw [List.map_cons, ih]

theorem unlinked_foldl_addTransition (s : LinkedState) (ts : List LinkedTransition) :
    (ts.foldl addTransition s).unlinked =
      (ts.map LinkedTransition.unlinked).foldl State.addTransition s.unlinked := by
  induction ts generalizing s with
  | nil => rfl
  | cons t ts ih =>
    rw [List.foldl_cons, ih, List.map_cons, List.foldl_cons]
    congr 1
    simp [addTransition, unlinked, State.addTransition, map_unlinked_insertTransition]

/-- The transitions refer back to the state and their guards to them, and they stand in the state
    at different positions. -/
structure RefersBack (s : LinkedState) : Prop where
  transitions : ∀ t ∈ s.transitions, t.state? = some s.position ∧ t.RefersBack
  inside : ∀ t ∈ s.transitions, t.position.dropLast = s.position
  apart : (s.transitions.map LinkedTransition.position).Nodup

theorem forall_insertTransition {position : Position} {t : LinkedTransition}
    {us : List LinkedTransition} (h : ∀ u ∈ us, u.state? = some position ∧ u.RefersBack) :
    ∀ u ∈ insertTransition position t us, u.state? = some position ∧ u.RefersBack := by
  induction us with
  | nil =>
    -- a transition that is new to the state takes its guards along
    intro u hu
    obtain rfl := List.mem_singleton.1 hu
    refine ⟨rfl, fun g hg => ?_⟩
    obtain ⟨g, -, rfl⟩ := List.mem_map.1 hg
    rfl
  | cons u us ih =>
    obtain ⟨hu, hus⟩ := List.forall_mem_cons.1 h
    rw [insertTransition]
    split
    · -- only the guards of `t` go into the state, and they refer to `u`
      refine List.forall_mem_cons.2 ⟨⟨?_, hu.2.foldl_addGuard _⟩, hus⟩
      rw [LinkedTransition.foldl_addGuard]
      exact hu.1
    · exact List.forall_mem_cons.2 ⟨hu, ih hus⟩

/-- A transition that is added takes a position of its own, or none. -/
theorem map_position_insertTransition (position : Position) (t : LinkedTransition)
    (us : List LinkedTransition) :
    ((insertTransition position t us).map LinkedTransition.position).Sublist
      (us.map LinkedTransition.position ++ [t.position]) := by
  induction us with
  | nil => exact .refl _
  | cons u us ih =>
    rw [insertTransition]
    split
    · rw [List.map_cons, LinkedTransition.foldl_addGuard]
      exact List.sublist_append_left _ _
    · exact ih.cons_cons u.position

theorem RefersBack.addTransition {s : LinkedState} (h : s.RefersBack) {t : LinkedTransition}
    (hnew : (s.transitions.map LinkedTransition.position ++ [t.position]).Nodup)
    (hinside : t.position.dropLast = s.position) : (s.addTransition t).RefersBack where
  transitions := forall_insertTransition h.transitions
  inside := by
    intro u hu
    have hmem := (map_position_insertTransition s.position t s.transitions).subset
      (List.mem_map_of_mem hu)
    rcases List.mem_append.1 hmem with hmem | hmem
    · obtain ⟨u', hu', hposition⟩ := List.mem_map.1 hmem
      exact hposition ▸ h.inside u' hu'
    · rw [List.mem_singleton.1 hmem]
      exact hinside
  apart := hnew.sublist (map_position_insertTransition s.position t s.transitions)

theorem RefersBack.foldl_addTransition {s : LinkedState} (h : s.RefersBack)
    {ts : List LinkedTransition} (hnew : (s.transitions.map LinkedTransition.position ++
      ts.map LinkedTransition.position).Nodup)
    (hinside : ∀ t ∈ ts, t.position.dropLast = s.position) :
    (ts.foldl LinkedState.addTransition s).RefersBack := by
  induction ts generalizing s with
  | nil => exact h
  | cons t ts ih =>
    obtain ⟨ht, hts⟩ := List.forall_mem_cons.1 hinside
    rw [List.map_cons, List.append_cons] at hnew
    -- the positions taken by now are some of those before, with that of `t`
    refine ih (h.addTransition hnew.of_append_left ht) ?_ hts
    exact hnew.sublist
      ((map_position_insertTransition s.position t s.transitions).append_right _)

theorem position_foldl_addTransition (s : LinkedState) (ts : List LinkedTransition) :
    (ts.foldl addTransition s).position = s.position := by
  induction ts generalizing s with
  | nil => rfl
  | cons t ts ih => exact ih _

end LinkedState

/-! ## Maps -/

namespace LinkedMap

/-- The map without references. -/
def unlinked (m : LinkedMap) : StateMap where
  name := m.name
  states := m.states.map LinkedState.unlinked
  default? := m.default?.map LinkedState.unlinked
  line := m.line

/-- The Default State, if there is one, and the real states. -/
def allStates (m : LinkedMap) : List LinkedState :=
  m.default?.toList ++ m.states

/-- The map with one more state, which refers to it from now on. -/
def addState (m : LinkedMap) (s : LinkedState) : LinkedMap :=
  let s := { s with map? := some m.position }
  if isDefaultName s.name then { m with default? := some s }
  else { m with states := m.states ++ [s] }

theorem unlinked_foldl_addState (m : LinkedMap) (ss : List LinkedState) :
    (ss.foldl addState m).unlinked =
      (ss.map LinkedState.unlinked).foldl StateMap.addState m.unlinked := by
  induction ss generalizing m with
  | nil => rfl
  | cons s ss ih =>
    rw [List.foldl_cons, ih, List.map_cons, List.foldl_cons]
    congr 1
    have hdefault : s.unlinked.isDefault = isDefaultName s.name := rfl
    rw [addState, StateMap.addState, hdefault]
    dsimp only
    split <;> simp [unlinked, LinkedState.unlinked]

/-- The states refer back to the map, and so do their parts to them, and they stand in the map at
    different positions. -/
structure RefersBack (m : LinkedMap) : Prop where
  states : ∀ s ∈ m.allStates, s.map? = some m.position ∧ s.RefersBack
  inside : ∀ s ∈ m.allStates, s.position.dropLast = m.position
  apart : (m.allStates.map LinkedState.position).Nodup

/-- The states of a map with one more state are that one and some of those before, in some
    order. -/
theorem allStates_addState (m : LinkedMap) (s : LinkedState) :
    ∃ ss : List LinkedState, ss.Perm (m.addState s).allStates ∧
      ss.Sublist (m.allStates ++ [{ s with map? := some m.position }]) := by
  rw [addState]
  dsimp only
  split
  · -- a Default State takes the place of the one there was
    refine ⟨m.states ++ [{ s with map? := some m.position }], List.perm_append_comm, ?_⟩
    exact (List.sublist_append_right _ _).append_right _
  · exact ⟨_, .refl _, by simp [allStates]⟩

theorem position_addState (m : LinkedMap) (s : LinkedState) :
    (m.addState s).position = m.position := by
  rw [addState]
  dsimp only
  split <;> rfl

theorem RefersBack.addState {m : LinkedMap} (h : m.RefersBack) {s : LinkedState}
    (hs : s.RefersBack)
    (hnew : (m.allStates.map LinkedState.position ++ [s.position]).Nodup)
    (hinside : s.position.dropLast = m.position) : (m.addState s).RefersBack := by
  obtain ⟨ss, hperm, hsub⟩ := m.allStates_addState s
  have hmem : ∀ s' ∈ (m.addState s).allStates,
      s' ∈ m.allStates ∨ s' = { s with map? := some m.position } := by
    intro s' hs'
    simpa using hsub.subset (hperm.mem_iff.2 hs')
  refine ⟨fun s' hs' => ?_, fun s' hs' => ?_, ?_⟩
  · rw [position_addState]
    rcases hmem s' hs' with hs' | rfl
    · exact h.states s' hs'
    · exact ⟨rfl, hs.transitions, hs.inside, hs.apart⟩
  · rw [position_addState]
    rcases hmem s' hs' with hs' | rfl
    · exact h.inside s' hs'
    · exact hinside
  · have hsublist := hsub.map LinkedState.position
    rw [List.map_append] at hsublist
    exact (hperm.map _).nodup_iff.1 (hnew.sublist hsublist)

theorem RefersBack.foldl_addState {m : LinkedMap} (h : m.RefersBack) {ss : List LinkedState}
    (hss : ∀ s ∈ ss, s.RefersBack ∧ s.position.dropLast = m.position)
    (hnew : (m.allStates.map LinkedState.position ++ ss.map LinkedState.position).Nodup) :
    (ss.foldl LinkedMap.addState m).RefersBack := by
  induction ss generalizing m with
  | nil => exact h
  | cons s ss ih =>
    obtain ⟨hs, hss⟩ := List.forall_mem_cons.1 hss
    rw [List.map_cons, List.append_cons] at hnew
    refine ih (h.addState hs.1 hnew.of_append_left hs.2) ?_ ?_
    · rw [position_addState]
      exact hss
    · obtain ⟨ss', hperm, hsub⟩ := m.allStates_addState s
      have hsublist := hsub.map LinkedState.position
      rw [List.map_append] at hsublist
      exact ((hperm.map _).append_right _).nodup_iff.1 (hnew.sublist (hsublist.append_right _))

theorem position_foldl_addState (m : LinkedMap) (ss : List LinkedState) :
    (ss.foldl addState m).position = m.position := by
  induction ss generalizing m with
  | nil => rfl
  | cons s ss ih => rw [List.foldl_cons, ih, position_addState]

end LinkedMap

/-! ## Machines -/

namespace LinkedMachine

/-- The machine without references. -/
def unlinked (m : LinkedMachine) : Machine :=
  { m.bare with maps := m.maps.map LinkedMap.unlinked }

/-- The machine with one more map, which refers to it from now on. -/
def addMap (m : LinkedMachine) (map : LinkedMap) : LinkedMachine :=
  { m with maps := m.maps ++ [{ map with machine? := some m.position }] }

/-- The states of the machine. -/
def states (m : LinkedMachine) : List LinkedState :=
  m.maps.flatMap LinkedMap.allStates

/-- The transitions of the machine. -/
def transitions (m : LinkedMachine) : List LinkedTransition :=
  m.states.flatMap LinkedState.transitions

/-- The parts refer back to what contains them: each map to the machine, each state to its map,
    each transition to its state and each guard to its transition. Positions tell the maps,
    states and transitions apart. -/
structure RefersBack (m : LinkedMachine) : Prop where
  maps : ∀ map ∈ m.maps, map.machine? = some m.position
  states : ∀ map ∈ m.maps, ∀ s ∈ map.allStates, s.map? = some map.position
  transitions : ∀ s ∈ m.states, ∀ t ∈ s.transitions, t.state? = some s.position
  guards : ∀ t ∈ m.transitions, ∀ g ∈ t.guards, g.transition? = some t.position
  maps_apart : (m.maps.map LinkedMap.position).Nodup
  states_apart : (m.states.map LinkedState.position).Nodup
  transitions_apart : (m.transitions.map LinkedTransition.position).Nodup

theorem foldl_addMap (m : LinkedMachine) (maps : List LinkedMap) :
    maps.foldl addMap m = { m with maps := m.maps ++ maps.map fun map =>
      { map with machine? := some m.position } } := by
  induction maps generalizing m with
  | nil => simp
  | cons map maps ih =>
    rw [List.foldl_cons, ih]
    simp [addMap]

end LinkedMachine

/-- Parts inside of parts that stand apart stand apart. -/
theorem nodup_positions_flatMap {α β : Type} {outer : List α} {position : α → Position}
    {parts : α → List β} {position' : β → Position} (h : (outer.map position).Nodup)
    (hinside : ∀ x ∈ outer, ∀ y ∈ parts x, (position' y).dropLast = position x)
    (hparts : ∀ x ∈ outer, ((parts x).map position').Nodup) :
    ((outer.flatMap parts).map position').Nodup := by
  rw [List.map_flatMap, List.nodup_flatMap]
  refine ⟨hparts, ?_⟩
  -- a position without its last number is that of the outer part, so no two of these share one
  refine (List.pairwise_map.1 h).imp_of_mem fun {x x'} hx hx' hne => ?_
  intro q hq hq'
  obtain ⟨y, hy, rfl⟩ := List.mem_map.1 hq
  obtain ⟨y', hy', hqq⟩ := List.mem_map.1 hq'
  exact hne ((hinside x hx y hy).symm.trans (hqq ▸ hinside x' hx' y' hy'))

/-! ## Linked machines of descriptions -/

/-- Positions of the parts, numbered on, of a part. -/
theorem nodup_numbered {α β : Type} (xs : List α) (position : Position)
    {f : α → Position → β} {p : β → Position} (hf : ∀ x q, p (f x q) = q) :
    (((xs.zipIdx.map fun x => f x.1 (position ++ [x.2])).map p)).Nodup := by
  rw [List.map_map]
  have hmap : (p ∘ fun x : α × Nat => f x.1 (position ++ [x.2])) =
      (fun n => position ++ [n]) ∘ Prod.snd := funext fun x => hf _ _
  rw [hmap, ← List.map_map, List.zipIdx_map_snd]
  exact List.Nodup.map (fun a b hab => by simpa using hab) List.nodup_range'

namespace Value

/-- The linked transition described by the entry at a position: the guard is added to it. -/
def linkedTransition (v : Value) (position : Position) : LinkedTransition :=
  LinkedTransition.addGuard
    { position := position
      name := v.toTransition.name
      parameters := v.toTransition.parameters
      guards := []
      line := v.toTransition.line
      state? := none }
    ⟨v.toGuard, none⟩

/-- The linked state described, before it has transitions. -/
def linkedBareState (v : Value) (position : Position) : LinkedState where
  position := position
  name := v.toBareState.name
  entry := v.toBareState.entry
  exit := v.toBareState.exit
  transitions := []
  line := v.toBareState.line
  map? := none

/-- The linked state described by the entry at a position. -/
def linkedState (v : Value) (position : Position) : LinkedState :=
  ((v.namedEntries "transitions").zipIdx.map fun e =>
    e.1.linkedTransition (position ++ [e.2])).foldl LinkedState.addTransition
      (v.linkedBareState position)

/-- The linked map described, before it has states. -/
def linkedBareMap (v : Value) (position : Position) : LinkedMap where
  position := position
  name := v.toBareMap.name
  states := []
  default? := none
  line := v.toBareMap.line
  machine? := none

/-- The linked map described by the entry at a position. -/
def linkedMap (v : Value) (position : Position) : LinkedMap :=
  ((v.namedEntries "states").zipIdx.map fun e =>
    e.1.linkedState (position ++ [e.2])).foldl LinkedMap.addState (v.linkedBareMap position)

/-- The linked machine described. -/
def linkedMachine (v name : Value) : LinkedMachine :=
  ((v.namedEntries "maps").zipIdx.map fun e => e.1.linkedMap [e.2]).foldl LinkedMachine.addMap
    { position := [], bare := v.toMachine name, maps := [] }

/-! ### Without the references -/

theorem map_zipIdx {α β γ : Type} (xs : List α) {f : α → Position → β} {g : β → γ} {h : α → γ}
    (hf : ∀ x q, g (f x q) = h x) (position : Position) :
    (xs.zipIdx.map fun x => f x.1 (position ++ [x.2])).map g = xs.map h := by
  rw [List.map_map]
  have hmap : (g ∘ fun x : α × Nat => f x.1 (position ++ [x.2])) = h ∘ Prod.fst :=
    funext fun x => hf _ _
  rw [hmap, ← List.map_map, List.zipIdx_map_fst]

theorem unlinked_linkedTransition (v : Value) (position : Position) :
    (v.linkedTransition position).unlinked = v.toTransition := rfl

theorem unlinked_linkedState (v : Value) (position : Position) :
    (v.linkedState position).unlinked = v.toState := by
  rw [linkedState, LinkedState.unlinked_foldl_addTransition,
    map_zipIdx _ unlinked_linkedTransition]
  rfl

theorem unlinked_linkedMap (v : Value) (position : Position) :
    (v.linkedMap position).unlinked = v.toMap := by
  rw [linkedMap, LinkedMap.unlinked_foldl_addState, map_zipIdx _ unlinked_linkedState]
  rfl

/-- The maps of a linked machine: those described, which refer to it. -/
theorem maps_linkedMachine (v name : Value) : (v.linkedMachine name).maps =
    (v.namedEntries "maps").zipIdx.map fun e =>
      { e.1.linkedMap [e.2] with machine? := some [] } := by
  rw [linkedMachine, LinkedMachine.foldl_addMap, List.nil_append, List.map_map]
  rfl

/-- Without its references, the linked machine is the machine described. -/
theorem unlinked_linkedMachine (v name : Value) :
    (v.linkedMachine name).unlinked = v.toMachine name := by
  have hbare : (v.linkedMachine name).bare = v.toMachine name := by
    rw [linkedMachine, LinkedMachine.foldl_addMap]
  have hmaps : (v.linkedMachine name).maps.map LinkedMap.unlinked =
      (v.namedEntries "maps").map toMap := by
    rw [maps_linkedMachine]
    exact map_zipIdx (v.namedEntries "maps")
      (f := fun e q => { e.linkedMap q with machine? := some [] }) (g := LinkedMap.unlinked)
      (h := toMap) unlinked_linkedMap []
  rw [LinkedMachine.unlinked, hbare, hmaps]
  rfl

/-! ### The references -/

theorem refersBack_linkedState (v : Value) (position : Position) :
    (v.linkedState position).RefersBack := by
  have hbare : (v.linkedBareState position).RefersBack := ⟨nofun, nofun, .nil⟩
  refine hbare.foldl_addTransition ?_ fun t ht => ?_
  · exact nodup_numbered (v.namedEntries "transitions") position
      (f := linkedTransition) fun _ _ => rfl
  · obtain ⟨x, -, rfl⟩ := List.mem_map.1 ht
    exact List.dropLast_concat

theorem position_linkedState (v : Value) (position : Position) :
    (v.linkedState position).position = position :=
  LinkedState.position_foldl_addTransition _ _

theorem refersBack_linkedMap (v : Value) (position : Position) :
    (v.linkedMap position).RefersBack := by
  have hbare : (v.linkedBareMap position).RefersBack := ⟨nofun, nofun, .nil⟩
  refine hbare.foldl_addState (fun s hs => ?_) ?_
  · obtain ⟨x, -, rfl⟩ := List.mem_map.1 hs
    refine ⟨refersBack_linkedState _ _, ?_⟩
    rw [position_linkedState]
    exact List.dropLast_concat
  · exact nodup_numbered (v.namedEntries "states") position
      (f := linkedState) position_linkedState

theorem position_linkedMap (v : Value) (position : Position) :
    (v.linkedMap position).position = position :=
  LinkedMap.position_foldl_addState _ _

/-- In the linked machine, the parts refer back to what contains them. -/
theorem refersBack_linkedMachine (v name : Value) : (v.linkedMachine name).RefersBack := by
  have hposition : (v.linkedMachine name).position = [] := by
    rw [linkedMachine, LinkedMachine.foldl_addMap]
  have hmaps : ∀ map ∈ (v.linkedMachine name).maps, map.machine? = some [] ∧ map.RefersBack := by
    rw [maps_linkedMachine]
    intro map hmap
    obtain ⟨e, -, rfl⟩ := List.mem_map.1 hmap
    obtain ⟨hstates, hinside, hapart⟩ := refersBack_linkedMap e.1 [e.2]
    exact ⟨rfl, hstates, hinside, hapart⟩
  have hstates : ∀ s ∈ (v.linkedMachine name).states, s.RefersBack := by
    intro s hs
    obtain ⟨map, hmap, hs⟩ := List.mem_flatMap.1 hs
    exact ((hmaps map hmap).2.states s hs).2
  have hmaps_apart : ((v.linkedMachine name).maps.map LinkedMap.position).Nodup := by
    rw [maps_linkedMachine]
    exact nodup_numbered (v.namedEntries "maps") []
      (f := fun e q => { e.linkedMap q with machine? := some [] }) (p := LinkedMap.position)
      position_linkedMap
  have hstates_apart : ((v.linkedMachine name).states.map LinkedState.position).Nodup :=
    nodup_positions_flatMap hmaps_apart (fun map hmap => (hmaps map hmap).2.inside)
      fun map hmap => (hmaps map hmap).2.apart
  exact
    { maps := fun map hmap => hposition ▸ (hmaps map hmap).1
      states := fun map hmap s hs => ((hmaps map hmap).2.states s hs).1
      transitions := fun s hs t ht => ((hstates s hs).transitions t ht).1
      guards := fun t ht => by
        obtain ⟨s, hs, ht⟩ := List.mem_flatMap.1 ht
        exact ((hstates s hs).transitions t ht).2
      maps_apart := hmaps_apart
      states_apart := hstates_apart
      transitions_apart := nodup_positions_flatMap hstates_apart
        (fun s hs => (hstates s hs).inside) fun s hs => (hstates s hs).apart }

end Value
end StateMachine
