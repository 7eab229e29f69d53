import StateMachine.Proofs.Loaded
import StateMachine.Semantics.Validate

/-!
# Valid machines

What a check that finds no errors promises of a machine (`Machine.Valid`):

* its start state is one;
* transitions can be told apart by their signatures, and guards be ordered and
  planned;
* a guard that sets or pushes stays or ends in a real state, and a guard that
  pushes goes to a real state, found from the map it belongs to.
-/

namespace StateMachine

/-- What the check promises of a guard of a state of the map. -/
structure Guard.Valid (m : Machine) (map : StateMap) (g : Guard) : Prop where
  plan : g.planMismatch? = none
  endState : g.move ≠ .pop → ∃ name, g.endState = .str name ∧
    (name = nilState ∨ ∃ p, m.findState? name (some map) = some p)
  pushState : g.move = .push → ∃ name, g.pushState = .str name ∧
    ∃ p, m.findState? name (some map) = some p

/-- What the check promises of a transition of a state of the map. -/
structure Transition.Valid (m : Machine) (map : StateMap) (t : Transition) : Prop where
  key : t.signature.isKey = true
  order : t.orderMismatch? = none
  guards : ∀ g ∈ t.guards, g.Valid m map

/-- What the check promises of a machine. -/
structure Machine.Valid (m : Machine) : Prop where
  start : ∃ p, m.startPlace? = some p
  startMismatch : m.startMismatch? = none
  transitions : ∀ p ∈ m.allPlaces, ∀ t ∈ p.state.transitions, t.Valid m p.map

/-- A place of a machine: one of its maps, with a state of it. -/
theorem Machine.mem_allPlaces {m : Machine} {p : Place} :
    p ∈ m.allPlaces ↔ p.map ∈ m.maps ∧ p.state ∈ p.map.allStates := by
  obtain ⟨map, s⟩ := p
  simp only [allPlaces, List.mem_flatMap, List.mem_map]
  constructor
  · rintro ⟨map', hmap, s', hs, h⟩
    cases h
    exact ⟨hmap, hs⟩
  · rintro ⟨hmap, hs⟩
    exact ⟨map, hmap, s, hs, rfl⟩

/-- A transition of a machine: one of a state of it. -/
theorem Machine.mem_transitions {m : Machine} {q : Placed} :
    q ∈ m.transitions ↔ q.place ∈ m.allPlaces ∧ q.transition ∈ q.place.state.transitions := by
  obtain ⟨⟨map, s⟩, t⟩ := q
  rw [mem_allPlaces]
  simp only [transitions, StateMap.transitions, Place.transitions, List.mem_flatMap, List.mem_map]
  constructor
  · rintro ⟨map', hmap, s', hs, t', ht, h⟩
    cases h
    exact ⟨⟨hmap, hs⟩, ht⟩
  · rintro ⟨⟨hmap, hs⟩, ht⟩
    exact ⟨map, hmap, s, hs, t, ht, rfl⟩

namespace Validate

variable {m : Machine} {p : Place} {t : Transition} {g : Guard}

/-- A check that finds nothing wrong with an end state found it nil or known. -/
theorem endState_eq_nil (h : endState m p t g = []) (hmove : g.move ≠ .pop) :
    g.endState.text = nilState ∨ ∃ q, m.findState? g.endState.text (some p.map) = some q := by
  simp only [endState, beq_iff_eq, if_neg hmove] at h
  split at h
  · cases h
  · split at h
    · cases h
    · next hunknown =>
      rw [Bool.and_eq_true, bne_iff_ne, Bool.not_eq_true', isKnown] at hunknown
      by_cases hnil : g.endState.text = nilState
      · exact .inl hnil
      · refine .inr (Option.isSome_iff_exists.1 (Bool.not_eq_false _ ▸ fun hnone => ?_))
        exact hunknown ⟨hnil, hnone⟩

/-- A check that finds nothing wrong with a push state found it known. -/
theorem pushState_eq_nil (h : pushState m p t g = []) (hmove : g.move = .push) :
    ∃ q, m.findState? g.pushState.text (some p.map) = some q := by
  simp only [pushState, hmove, bne_self_eq_false, Bool.false_eq_true, if_false] at h
  split at h
  · cases h
  · split at h
    · cases h
    · next hunknown =>
      rw [Bool.or_eq_true, Bool.not_eq_true', isKnown] at hunknown
      refine Option.isSome_iff_exists.1 (Bool.not_eq_false _ ▸ fun hnone => ?_)
      exact hunknown (.inr hnone)

/-- What is wrong with an end state is an error. -/
theorem severity_of_mem_endState {x : Violation} (h : x ∈ endState m p t g) :
    x.severity = .error := by
  simp only [endState] at h
  split at h
  · cases h
  · split at h
    · exact List.mem_singleton.1 h ▸ rfl
    · split at h
      · exact List.mem_singleton.1 h ▸ rfl
      · cases h

/-- What is wrong with a push state is an error. -/
theorem severity_of_mem_pushState {x : Violation} (h : x ∈ pushState m p t g) :
    x.severity = .error := by
  simp only [pushState] at h
  split at h
  · cases h
  · split at h
    · exact List.mem_singleton.1 h ▸ rfl
    · split at h
      · exact List.mem_singleton.1 h ▸ rfl
      · cases h

/-- What is wrong with a guard is wrong with the machine. -/
theorem mem_violations {target : Option Target} (hp : p ∈ m.allPlaces) (ht : t ∈ p.state.transitions)
    (hg : g ∈ t.guards) {x : Violation} (hx : x ∈ endState m p t g ++ pushState m p t g) :
    x ∈ violations m target := by
  have hordered : g ∈ t.ordered := by
    cases h : g.hasCondition <;> simp [Transition.ordered, List.mem_filter, h, hg]
  have htransition : x ∈ transition m target p t :=
    List.mem_append_right _ (List.mem_flatMap.2 ⟨g, hordered, hx⟩)
  have hstate : x ∈ state m target p :=
    List.mem_append_right _ (List.mem_flatMap.2 ⟨t, ht, htransition⟩)
  exact List.mem_append_right _ (List.mem_flatMap.2 ⟨p, hp, hstate⟩)

/-- A check of a state that can be made at all can be made of its parts. -/
theorem stateMismatch?_eq_none {s : State} (h : stateMismatch? s = none) (ht : t ∈ s.transitions) :
    t.signature.isKey = true ∧ t.orderMismatch? = none ∧
      ∀ g ∈ t.guards, guardMismatch? g = none := by
  simp only [stateMismatch?, Option.orElse_eq_orElse, Option.orElse_eq_or, Option.or_eq_none_iff,
    List.findSome?_eq_none_iff] at h
  obtain ⟨hkeys, -, hparts⟩ := h
  refine ⟨?_, (hparts t ht).1, fun g hg => (hparts t ht).2 g ?_⟩
  · split at hkeys
    · next hall => exact List.all_eq_true.1 hall t ht
    · cases hkeys
  · cases h : g.hasCondition <;> simp [Transition.ordered, List.mem_filter, h, hg]

/-- A value that can be lowered is a text. -/
theorem nameMismatch?_eq_none {name : Value} (h : nameMismatch? name = none) :
    name = .str name.text := by
  cases name <;> first | rfl | cases h

/-- A guard that can be checked can be planned, and names its states by texts. -/
theorem guardMismatch?_eq_none (h : guardMismatch? g = none) :
    g.planMismatch? = none ∧ (g.move ≠ .pop → g.endState = .str g.endState.text) ∧
      (g.move = .push → g.pushState = .str g.pushState.text) := by
  simp only [guardMismatch?, Option.orElse_eq_orElse, Option.orElse_eq_or,
    Option.or_eq_none_iff] at h
  obtain ⟨hplan, hend, hpush⟩ := h
  refine ⟨hplan, fun hmove => ?_, fun hmove => ?_⟩
  · rw [if_pos (bne_iff_ne.2 hmove)] at hend
    exact nameMismatch?_eq_none hend
  · rw [if_pos (beq_iff_eq.2 hmove)] at hpush
    exact nameMismatch?_eq_none hpush

/-- A check that finds nothing wrong with the start state found it known. -/
theorem exists_startPlace (h : ∀ x ∈ start m, x.severity ≠ .error) :
    ∃ p, m.startPlace? = some p := by
  cases hstart : m.startPlace? with
  | some p => exact ⟨p, rfl⟩
  | none =>
    simp only [start, hstart, Option.isNone_none, if_true] at h
    split at h <;> exact absurd rfl (h _ List.mem_cons_self)

end Validate

/-- A check that finds no errors reports no violation that is one. -/
theorem Machine.severity_of_validate {m : Machine} {target : Option Target} {source : Option Value}
    {v : Validation} (h : m.validate target source = .ok v) (hv : v.isValid = true) :
    ∀ x ∈ Validate.violations m target, x.severity ≠ .error := by
  rw [validate] at h
  split at h
  · cases h
  · intro x hx hseverity
    cases h
    rw [Validation.isValid, Validation.errors, List.isEmpty_iff, List.filter_eq_nil_iff] at hv
    refine hv _ (List.mem_map.2 ⟨x, hx, rfl⟩) ?_
    rw [Diagnostic.isError, hseverity]
    rfl

/-- A machine that was checked and found free of errors is valid. -/
theorem Machine.valid_of_validate {m : Machine} {target : Option Target} {source : Option Value}
    {v : Validation} (h : m.validate target source = .ok v) (hv : v.isValid = true) : m.Valid := by
  have herror := severity_of_validate h hv
  rw [validate] at h
  split at h
  · cases h
  next hmismatch =>
  simp only [Validate.mismatch?, Option.orElse_eq_orElse, Option.orElse_eq_or,
    Option.or_eq_none_iff, List.findSome?_eq_none_iff] at hmismatch
  obtain ⟨hstart, hstates⟩ := hmismatch
  refine ⟨?_, hstart, fun p hp t ht => ?_⟩
  · exact Validate.exists_startPlace fun x hx => herror x
      (by simp only [Validate.violations, List.mem_append]; exact .inl (.inl (.inl (.inl hx))))
  · obtain ⟨hkey, horder, hguards⟩ := Validate.stateMismatch?_eq_none (hstates p hp) ht
    refine ⟨hkey, horder, fun g hg => ?_⟩
    obtain ⟨hplan, hend, hpush⟩ := Validate.guardMismatch?_eq_none (hguards g hg)
    have hend' : Validate.endState m p t g = [] := List.eq_nil_iff_forall_not_mem.2 fun x hx =>
      herror x (Validate.mem_violations hp ht hg (List.mem_append_left _ hx))
        (Validate.severity_of_mem_endState hx)
    have hpush' : Validate.pushState m p t g = [] := List.eq_nil_iff_forall_not_mem.2 fun x hx =>
      herror x (Validate.mem_violations hp ht hg (List.mem_append_right _ hx))
        (Validate.severity_of_mem_pushState hx)
    exact ⟨hplan, fun hmove => ⟨_, hend hmove, Validate.endState_eq_nil hend' hmove⟩,
      fun hmove => ⟨_, hpush hmove, Validate.pushState_eq_nil hpush' hmove⟩⟩

/-- A check that can be made and finds no error. -/
theorem Machine.exists_validation {m : Machine} {target : Option Target} {source : Option Value}
    (h : (m.validate target source).toOption.any Validation.isValid = true) :
    ∃ w, m.validate target source = .ok w ∧ w.isValid = true := by
  rcases hcheck : m.validate target source with e | w
  · rw [hcheck] at h
    cases h
  · rw [hcheck] at h
    exact ⟨w, rfl, h⟩

end StateMachine
