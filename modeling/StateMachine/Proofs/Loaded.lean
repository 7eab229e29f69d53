import StateMachine.Load.Description
import StateMachine.Semantics.DefaultChain

/-!
# Loaded machines

What holds of every machine that was read from a description, whatever the
description says (`Machine.WellFormed`):

* the states of a map are named; the real ones are no Default States, and the
  Default State is one;
* every transition has a guard.

A reading *gives* results of a kind (`Load.Gives`) if every result it ends in,
after whatever records, is of that kind. Each part of the reader is shown to
give well-formed parts, if it gives any.
-/

namespace StateMachine

/-! ## Well-formed machines -/

/-- The transition has a guard. -/
def Transition.WellFormed (t : Transition) : Prop :=
  t.guards ≠ []

/-- The state has a name, and its transitions are well formed. -/
structure State.WellFormed (s : State) : Prop where
  named : s.name ≠ ""
  transitions : ∀ t ∈ s.transitions, t.WellFormed

/-- The states of the map are well formed, and told apart from the Default
    State. -/
structure StateMap.WellFormed (m : StateMap) : Prop where
  states : ∀ s ∈ m.states, s.WellFormed
  default : ∀ s ∈ m.default?, s.WellFormed
  real : ∀ s ∈ m.states, s.isDefault = false
  default_isDefault : ∀ s ∈ m.default?, s.isDefault = true

/-- The maps of the machine are well formed. -/
def Machine.WellFormed (m : Machine) : Prop :=
  ∀ map ∈ m.maps, map.WellFormed

/-- A state with a further transition is well formed. -/
theorem State.WellFormed.addTransition {s : State} {t : Transition} (hs : s.WellFormed)
    (ht : t.WellFormed) : (s.addTransition t).WellFormed where
  named := hs.named
  transitions := by
    have h : ∀ us : List Transition, (∀ u ∈ us, u.WellFormed) →
        ∀ u ∈ State.insertTransition t us, u.WellFormed := by
      intro us hus
      induction us with
      | nil => simpa [State.insertTransition] using ht
      | cons u us ih =>
        obtain ⟨hu, hus⟩ := List.forall_mem_cons.1 hus
        rw [State.insertTransition]
        split
        · -- the guards join those of `u`, which are some already
          refine List.forall_mem_cons.2 ⟨fun h => hu ?_, hus⟩
          exact (List.append_eq_nil_iff.1 h).1
        · exact List.forall_mem_cons.2 ⟨hu, ih hus⟩
    exact h s.transitions hs.transitions

theorem State.WellFormed.foldl_addTransition {s : State} {ts : List Transition}
    (hs : s.WellFormed) (hts : ∀ t ∈ ts, t.WellFormed) :
    (ts.foldl State.addTransition s).WellFormed := by
  induction ts generalizing s with
  | nil => exact hs
  | cons t ts ih =>
    obtain ⟨ht, hts⟩ := List.forall_mem_cons.1 hts
    exact ih (hs.addTransition ht) hts

/-- A map with a further state is well formed. -/
theorem StateMap.WellFormed.addState {m : StateMap} {s : State} (hm : m.WellFormed)
    (hs : s.WellFormed) : (m.addState s).WellFormed := by
  rw [StateMap.addState]
  split
  · next h =>
    exact { hm with
      default := by rintro _ ⟨⟩; exact hs
      default_isDefault := by rintro _ ⟨⟩; exact h }
  · next h =>
    refine { hm with states := fun u hu => ?_, real := fun u hu => ?_ }
    · rcases List.mem_append.1 hu with hu | hu
      · exact hm.states u hu
      · exact List.mem_singleton.1 hu ▸ hs
    · rcases List.mem_append.1 hu with hu | hu
      · exact hm.real u hu
      · exact List.mem_singleton.1 hu ▸ Bool.eq_false_iff.2 h

theorem StateMap.WellFormed.foldl_addState {m : StateMap} {ss : List State} (hm : m.WellFormed)
    (hss : ∀ s ∈ ss, s.WellFormed) : (ss.foldl StateMap.addState m).WellFormed := by
  induction ss generalizing m with
  | nil => exact hm
  | cons s ss ih =>
    obtain ⟨hs, hss⟩ := List.forall_mem_cons.1 hss
    exact ih (hm.addState hs) hss

/-! ## Places -/

/-- Where the names of items are distinct, an item is found by its name. -/
theorem find?_of_nodup {α β : Type} [BEq β] [LawfulBEq β] {f : α → β} {xs : List α} {x : α}
    (hxs : (xs.map f).Nodup) (hx : x ∈ xs) : xs.find? (fun y => f y == f x) = some x := by
  induction xs with
  | nil => cases hx
  | cons y ys ih =>
    rw [List.map_cons, List.nodup_cons] at hxs
    rcases List.mem_cons.1 hx with rfl | hx
    · simp
    · have hne : f y ≠ f x := fun h => hxs.1 (h ▸ List.mem_map_of_mem hx)
      rw [List.find?_cons_of_neg (by simpa using hne)]
      exact ih hxs.2 hx

/-- A place of a machine: one of its maps, with a real state of it. -/
theorem Machine.mem_places {m : Machine} {p : Place} :
    p ∈ m.places ↔ p.map ∈ m.maps ∧ p.state ∈ p.map.states := by
  obtain ⟨map, s⟩ := p
  simp only [places, List.mem_flatMap, List.mem_map]
  constructor
  · rintro ⟨map', hmap, s', hs, h⟩
    cases h
    exact ⟨hmap, hs⟩
  · rintro ⟨hmap, hs⟩
    exact ⟨map, hmap, s, hs, rfl⟩

/-- The Default State of a place is that of its map. -/
theorem Place.default?_eq_some {p q : Place} :
    p.default? = some q ↔ q.map = p.map ∧ p.map.default? = some q.state := by
  obtain ⟨map, s⟩ := q
  cases h : p.map.default? <;> simp [default?, h, and_comm, eq_comm]

namespace Load

variable {α β : Type}

/-! ## What a reading gives -/

/-- Every result the reading ends in satisfies `Q`. -/
def Gives (x : Load α) (Q : α → Prop) : Prop :=
  ∀ records a records', x.run.run records = (.ok a, records') → Q a

namespace Gives

variable {x : Load α} {Q R : α → Prop}

theorem pure {a : α} (h : Q a) : Gives (Pure.pure a) Q := by
  rintro _ _ _ ⟨⟩
  exact h

theorem throw (e : LoadError) : Gives (MonadExcept.throw e) Q := by
  rintro _ _ _ ⟨⟩

theorem trivial (x : Load α) : Gives x fun _ => True :=
  fun _ _ _ _ => True.intro

theorem bind {k : α → Load β} {S : β → Prop} (hx : Gives x R) (hk : ∀ a, R a → Gives (k a) S) :
    Gives (x >>= k) S := by
  intro records b records' h
  have he : (x >>= k).run.run records = match x.run.run records with
      | (r, records') => (ExceptT.bindCont k r : StateM _ _) records' := rfl
  rw [he] at h
  rcases hx' : x.run.run records with ⟨_ | a, records₁⟩ <;> rw [hx'] at h
  · cases h
  · exact hk a (hx _ _ _ hx') _ _ _ h

/-- A reading whose result counts only by what comes after it. -/
theorem after {k : α → Load β} {S : β → Prop} (hk : ∀ a, Gives (k a) S) : Gives (x >>= k) S :=
  (trivial x).bind fun a _ => hk a

/-- The parts collected from entries are of the kind each entry gives. -/
theorem collect {read : Value → Load (Option α)} (h : ∀ v, Gives (read v) fun r => ∀ a ∈ r, Q a)
    (vs : List Value) : Gives (Load.collect read vs) fun as => ∀ a ∈ as, Q a := by
  induction vs with
  | nil => exact pure (by simp)
  | cons v vs ih =>
    refine (h v).bind fun part hpart => ih.bind fun parts hparts => pure fun a ha => ?_
    rcases List.mem_append.1 ha with ha | ha
    · exact hpart a (by simpa using ha)
    · exact hparts a ha

end Gives

/-! ## The reader -/

theorem transition_gives (v : Value) : Gives (transition v) Transition.WellFormed := by
  rw [transition]
  split
  · exact .throw _
  · exact .after fun _ => .after fun _ => .after fun _ => .pure (List.cons_ne_nil _ _)

theorem transitionEntry_gives (scopedName : String) (v : Value) :
    Gives (transitionEntry scopedName v) fun r => ∀ t ∈ r, t.WellFormed := by
  rw [transitionEntry]
  split
  · refine (transition_gives v).bind fun t ht => .pure ?_
    rintro _ ⟨⟩
    exact ht
  · exact .after fun _ => .pure (by simp)

theorem state_gives (mapName v : Value) :
    Gives (state mapName v) fun r => ∀ s ∈ r, s.WellFormed := by
  rw [state]
  split
  · next hv =>
    refine .after fun entry => .after fun exit => ?_
    split
    · next name hname =>
      refine .after fun entries => (Gives.collect (transitionEntry_gives _) entries).bind
        fun ts hts => .pure ?_
      rintro _ ⟨⟩
      refine State.WellFormed.foldl_addTransition ⟨fun h => ?_, by simp⟩ hts
      have h : name = "" := h
      rw [isNamed, hname, h] at hv
      simp [Value.isSet] at hv
    · exact .throw _
  · exact .after fun _ => .pure (by simp)

theorem map_gives (v : Value) : Gives (map v) fun r => ∀ m ∈ r, m.WellFormed := by
  rw [map]
  split
  · refine .after fun entries => (Gives.collect (state_gives _) entries).bind fun ss hss =>
      .pure ?_
    rintro _ ⟨⟩
    exact StateMap.WellFormed.foldl_addState ⟨by simp, by simp, by simp, by simp⟩ hss
  · exact .after fun _ => .pure (by simp)

theorem machine_gives (v name : Value) : Gives (machine v name) Machine.WellFormed := by
  rw [machine.eq_def]
  split
  · exact .after fun _ => .after fun _ => .after fun entries =>
      (Gives.collect map_gives entries).bind fun _ hmaps => .after fun _ => .pure hmaps
  · exact .throw _

/-- Every machine read from a description is well formed. -/
theorem wellFormed_of_outcome {v name : Value} {m : Machine}
    (h : (machine v name).outcome.1 = .ok m) : m.WellFormed :=
  machine_gives v name [] m _ (Prod.ext h rfl)

end Load
end StateMachine
