import Mathlib.Data.List.Induction
import StateMachine.Proofs.Alike
import StateMachine.Proofs.Linked
import StateMachine.Proofs.Nameless

/-!
# Entries with the same signature

Each entry of a transition describes one guard. The entries of a state are read one after the
other, and a guard joins the first transition with the signature of its entry, or makes a new one.
What comes of it can be told without that search: the transitions of a state *collect* those of the
entries (`Transition.Collect`). There is one for each signature, in the order in which the
signatures come first, with the guards of all entries that have the signature, in their order.

This is so because to be the same is an equivalence of the signatures in a description
(`Signature.Plain`): a transition that is added has the signature of at most one before it
(`Transition.Collect.insert`). Together with what makes a reading fail, what nameless entries
amount to, and what the parts of a machine refer back to, it is stated in
`loading_groups_transitions`.
-/

namespace StateMachine

/-! ## First occurrences -/

/-- A new item comes last, unless it is a duplicate. -/
theorem eraseDupsBy_concat {α : Type} (r : α → α → Bool) (as : List α) (b : α) :
    (as ++ [b]).eraseDupsBy r =
      as.eraseDupsBy r ++ if (as.eraseDupsBy r).any (r b) then [] else [b] := by
  have hloop : ∀ found, List.eraseDupsBy.loop r (as ++ [b]) found =
      List.eraseDupsBy.loop r as found ++
        if (List.eraseDupsBy.loop r as found).any (r b) then [] else [b] := by
    induction as with
    | nil =>
      intro found
      simp only [List.nil_append, List.eraseDupsBy.loop, List.any_reverse]
      cases found.any (r b) <;> simp
    | cons a as ih =>
      intro found
      rw [List.cons_append, List.eraseDupsBy.loop, List.eraseDupsBy.loop]
      cases found.any (r a) with
      | true => exact ih found
      | false => exact ih (a :: found)
  exact hloop []

theorem mem_of_mem_eraseDupsBy {α : Type} {r : α → α → Bool} {as : List α} {a : α}
    (h : a ∈ as.eraseDupsBy r) : a ∈ as := by
  induction as using List.reverseRecOn with
  | nil => exact h
  | append_singleton as b ih =>
    rw [eraseDupsBy_concat, List.mem_append] at h
    rcases h with h | h
    · exact List.mem_append_left _ (ih h)
    · split at h
      · cases h
      · exact List.mem_append_right _ h

/-- An item that is left out is a duplicate of another that is not. -/
theorem mem_eraseDupsBy_or {α : Type} {r : α → α → Bool} {as : List α} {a : α} (h : a ∈ as) :
    a ∈ as.eraseDupsBy r ∨ ∃ b ∈ as.eraseDupsBy r, r a b = true := by
  induction as using List.reverseRecOn with
  | nil => cases h
  | append_singleton as b ih =>
    rw [eraseDupsBy_concat]
    rcases List.mem_append.1 h with h | h
    · rcases ih h with h | ⟨c, hc, hac⟩
      · exact .inl (List.mem_append_left _ h)
      · exact .inr ⟨c, List.mem_append_left _ hc, hac⟩
    · obtain rfl := List.mem_singleton.1 h
      split
      · next hany =>
        obtain ⟨c, hc, hac⟩ := List.any_eq_true.1 hany
        exact .inr ⟨c, List.mem_append_left _ hc, hac⟩
      · exact .inl (List.mem_append_right _ (List.mem_singleton_self a))

/-! ## Transitions of a state -/

/-- The transitions `us` collect the `ts`: there is one for each signature, in the order in which
    the signatures come first, with the guards of all that have the signature. -/
structure Transition.Collect (ts us : List Transition) : Prop where
  distinct : Transition.Distinct us
  signatures : us.map Transition.signature =
    (ts.map Transition.signature).eraseDupsBy fun a b => b.same a
  guards : ∀ u ∈ us, u.guards =
    (ts.filter fun t => u.signature.same t.signature).flatMap Transition.guards

namespace State

variable {t : Transition} {ts us : List Transition}

/-- A transition joins the first one with the same signature, or else comes last. -/
theorem insertTransition_cases (t : Transition) (us : List Transition) :
    (∃ before u after, us = before ++ u :: after ∧
        (∀ v ∈ before, v.signature.same t.signature = false) ∧
        u.signature.same t.signature = true ∧
        insertTransition t us = before ++ u.addGuards t.guards :: after) ∨
      (∀ u ∈ us, u.signature.same t.signature = false) ∧ insertTransition t us = us ++ [t] := by
  induction us with
  | nil => exact .inr ⟨nofun, rfl⟩
  | cons u us ih =>
    rw [insertTransition]
    cases hu : u.signature.same t.signature with
    | true => exact .inl ⟨[], u, us, rfl, nofun, hu, rfl⟩
    | false =>
      rw [if_neg Bool.false_ne_true]
      rcases ih with ⟨before, v, after, rfl, hbefore, hv, hinsert⟩ | ⟨hnone, hinsert⟩
      · exact .inl ⟨u :: before, v, after, rfl, List.forall_mem_cons.2 ⟨hu, hbefore⟩, hv,
          by rw [hinsert]; rfl⟩
      · exact .inr ⟨List.forall_mem_cons.2 ⟨hu, hnone⟩, by rw [hinsert]; rfl⟩

theorem map_signature_insertTransition : (insertTransition t us).map Transition.signature =
    us.map Transition.signature ++
      if (us.map Transition.signature).any (·.same t.signature) then [] else [t.signature] := by
  rcases insertTransition_cases t us with ⟨before, u, after, rfl, -, hu, hinsert⟩ | ⟨hnone, hinsert⟩
  · have hany : ((before ++ u :: after).map Transition.signature).any (·.same t.signature) = true :=
      List.any_eq_true.2 ⟨u.signature, List.mem_map_of_mem (by simp), hu⟩
    rw [hinsert, if_pos hany]
    simp [Transition.addGuards, Transition.signature]
  · have hany : (us.map Transition.signature).any (·.same t.signature) = false := by
      simpa [List.any_eq_false] using hnone
    rw [hinsert, hany]
    simp

end State

namespace Transition.Collect

open State

variable {t : Transition} {ts us : List Transition}

/-- Where there is nothing to collect, there is nothing collected. -/
theorem nil : Collect [] [] :=
  ⟨.nil, rfl, nofun⟩

/-- The collected transitions have signatures of those that are collected. -/
theorem signature_mem (h : Collect ts us) {u : Transition} (hu : u ∈ us) :
    u.signature ∈ ts.map Transition.signature := by
  have hmem : u.signature ∈ us.map Transition.signature := List.mem_map_of_mem hu
  rw [h.signatures] at hmem
  exact mem_of_mem_eraseDupsBy hmem

theorem plain (h : Collect ts us) (hts : ∀ t ∈ ts, t.signature.Plain) {u : Transition}
    (hu : u ∈ us) : u.signature.Plain := by
  obtain ⟨t, ht, hsignature⟩ := List.mem_map.1 (h.signature_mem hu)
  exact hsignature ▸ hts t ht

/-- Each transition belongs to one of those collected. -/
theorem exists_same (h : Collect ts us) (hts : ∀ t ∈ ts, t.signature.Plain) (ht : t ∈ ts) :
    ∃ u ∈ us, u.signature.same t.signature = true := by
  have hfound := mem_eraseDupsBy_or (r := fun a b : Signature => b.same a)
    (List.mem_map_of_mem (f := Transition.signature) ht)
  rw [← h.signatures] at hfound
  rcases hfound with hmem | ⟨b, hmem, hsame⟩
  · obtain ⟨u, hu, hsignature⟩ := List.mem_map.1 hmem
    exact ⟨u, hu, hsignature ▸ (h.plain hts hu).same_self⟩
  · obtain ⟨u, hu, rfl⟩ := List.mem_map.1 hmem
    exact ⟨u, hu, hsame⟩

/-- One more transition is collected by inserting it. -/
theorem insert (h : Collect ts us) (hts : ∀ t ∈ ts, t.signature.Plain)
    (ht : t.signature.Plain) : Collect (ts ++ [t]) (insertTransition t us) where
  distinct := distinct_insertTransition h.distinct
  signatures := by
    rw [map_signature_insertTransition, h.signatures, List.map_append]
    exact (eraseDupsBy_concat _ _ _).symm
  guards := by
    have hguards : ∀ u : Transition,
        ((ts ++ [t]).filter fun t => u.signature.same t.signature).flatMap Transition.guards =
          (ts.filter fun t => u.signature.same t.signature).flatMap Transition.guards ++
            if u.signature.same t.signature then t.guards else [] := by
      intro u
      cases hsame : u.signature.same t.signature <;> simp [hsame]
    rcases insertTransition_cases t us with
      ⟨before, u, after, rfl, hbefore, hu, hinsert⟩ | ⟨hnone, hinsert⟩
    · obtain ⟨-, hrest, -⟩ := List.pairwise_append.1 h.distinct
      have huplain := h.plain hts (u := u) (by simp)
      -- the transitions after `u` do not have its signature, hence not that of `t`
      have hafter : ∀ v ∈ after, v.signature.same t.signature = false := by
        intro v hv
        rw [← Bool.not_eq_true]
        intro hsame
        have hv' : v.signature.Plain := h.plain hts (by simp [hv])
        have htv := hv'.same_symm ht hsame
        have huv := huplain.same_trans ht hu htv
        rw [(List.pairwise_cons.1 hrest).1 v hv] at huv
        cases huv
      have hother : ∀ v ∈ before ++ u :: after, v.signature.same t.signature = false →
          v.guards = ((ts ++ [t]).filter fun t => v.signature.same t.signature).flatMap
            Transition.guards := by
        intro v hv hsame
        rw [hguards, hsame, if_neg Bool.false_ne_true, List.append_nil]
        exact h.guards v hv
      rw [hinsert]
      intro v hv
      rcases List.mem_append.1 hv with hv | hv
      · exact hother v (by simp [hv]) (hbefore v hv)
      · rcases List.mem_cons.1 hv with rfl | hv
        · have hsame : (u.addGuards t.guards).signature.same t.signature = true := hu
          rw [hguards, hsame, if_pos rfl]
          exact congrArg (· ++ t.guards) (h.guards u (by simp))
        · exact hother v (by simp [hv]) (hafter v hv)
    · rw [hinsert]
      intro v hv
      rcases List.mem_append.1 hv with hv | hv
      · rw [hguards, hnone v hv, if_neg Bool.false_ne_true, List.append_nil]
        exact h.guards v hv
      · obtain rfl := List.mem_singleton.1 hv
        -- none of those before has the signature, or it would be that of one collected
        have hnone' : (ts.filter fun x => v.signature.same x.signature) = [] := by
          refine List.filter_eq_nil_iff.2 fun x hx hsame => ?_
          obtain ⟨u, hu, hux⟩ := h.exists_same hts hx
          have hxv := ht.same_symm (hts x hx) hsame
          have huv := (h.plain hts hu).same_trans (hts x hx) hux hxv
          rw [hnone u hu] at huv
          cases huv
        rw [hguards, hnone', ht.same_self, if_pos rfl]
        rfl

/-- Adding transitions to a state collects them. -/
theorem foldl_addTransition {s : State} (h : Collect ts s.transitions) {ts' : List Transition}
    (hts : ∀ t ∈ ts ++ ts', t.signature.Plain) :
    Collect (ts ++ ts') (ts'.foldl State.addTransition s).transitions := by
  induction ts' generalizing ts s with
  | nil => simpa using h
  | cons t ts' ih =>
    rw [List.append_cons] at hts ⊢
    have hstep : Collect (ts ++ [t]) (s.addTransition t).transitions :=
      h.insert (fun x hx => hts x (by simp [hx])) (hts t (by simp))
    exact ih hstep hts

end Transition.Collect

/-! ## Entries -/

namespace Value

variable {v x : Value} {key : String}

theorem Keyed.entries (h : v.Keyed) (hx : x ∈ v.entries key) : x.Keyed := by
  rw [Value.entries] at hx
  cases hitems : (v.getD key (.list [])).elements with
  | error e =>
    rw [hitems] at hx
    cases hx
  | ok items =>
    rw [hitems] at hx
    have hkeyed : (v.getD key (.list [])).Keyed := h.getD (.list (List.forall_mem_nil _))
    exact of_mem_elements .str (fun _ hv => keyed_list_iff.1 (hv ▸ hkeyed)) hitems hx

theorem Keyed.namedEntries (h : v.Keyed) (hx : x ∈ v.namedEntries key) : x.Keyed :=
  h.entries (mem_namedEntries.1 hx).1

theorem Keyed.toParameter? {line : Value} {p : Parameter} (h : v.Keyed)
    (hp : v.toParameter? line = some p) : p.name.Keyed ∧ p.type.Keyed := by
  rw [toParameter?.eq_def] at hp
  split at hp
  · cases hp
    exact ⟨.str _, .str _⟩
  · split at hp
    · cases hp
      exact ⟨h.getD .null, h.getD (.str "")⟩
    · cases hp

/-- The entry of a transition has a signature that is the same as itself. -/
theorem ShapedEntry.plain (h : v.ShapedEntry) (hkeyed : v.Keyed) :
    v.toTransition.signature.Plain where
  name := by
    obtain ⟨s, hs⟩ := h.name
    exact congrArg isText hs
  parameters := by
    intro p hp
    obtain ⟨q, hq, rfl⟩ := List.mem_map.1 hp
    obtain ⟨e, he, heq⟩ := List.mem_filterMap.1 hq
    exact (hkeyed.entries he).toParameter? heq

/-- The transition is that read from the entry, and the guard described is its only one. -/
structure GivesSingle (e : Value) (t : Transition) : Prop where
  result : (Load.transition e).result = .ok t
  guards : t.guards = [e.toGuard]

/-- The state has the name of the entry, and its transitions collect those of the entries with a
    name in it. -/
structure GroupsState (e : Value) (s : State) : Prop where
  name : e.getD "name" .null = .str s.name
  transitions : ∃ ts, List.Forall₂ GivesSingle (e.namedEntries "transitions") ts ∧
    Transition.Collect ts s.transitions

/-- The map has the name of the entry, its real states are those of the entries with a name in
    it, and its Default State is that of the last entry for one. -/
structure GroupsMap (e : Value) (m : StateMap) : Prop where
  name : m.name = e.getD "name" .null
  states : ∃ ss, List.Forall₂ GroupsState (e.namedEntries "states") ss ∧
    m.states = (ss.filter fun s => !s.isDefault) ∧ m.default? = (ss.filter State.isDefault).getLast?

theorem ShapedEntry.givesSingle (h : v.ShapedEntry) (hgood : ¬v.HasBadType) :
    v.GivesSingle v.toTransition where
  result := by
    rw [Load.result_transition h, if_neg]
    rwa [isNone_ofWord?_iff]
  guards := rfl

theorem ShapedState.groupsState (h : v.ShapedState) (hkeyed : v.Keyed)
    (hgood : ∀ t ∈ v.namedEntries "transitions", ¬t.HasBadType) : v.GroupsState v.toState where
  name := by
    obtain ⟨s, hs⟩ := h.name
    rw [toState, State.foldl_addTransition_eq, hs, toBareState, hs]
    rfl
  transitions := by
    have hshaped : ∀ e ∈ v.namedEntries "transitions", e.ShapedEntry := by
      intro e he
      obtain ⟨he, hnamed⟩ := mem_namedEntries.1 he
      exact h.transitions.getD_eq.2 e he hnamed
    refine ⟨(v.namedEntries "transitions").map toTransition, ?_, ?_⟩
    · rw [List.forall₂_map_right_iff, List.forall₂_same]
      exact fun e he => (hshaped e he).givesSingle (hgood e he)
    · refine Transition.Collect.nil.foldl_addTransition (s := v.toBareState) fun t ht => ?_
      obtain ⟨e, he, rfl⟩ := List.mem_map.1 ht
      exact (hshaped e he).plain (hkeyed.namedEntries he)

theorem groupsMap_toMap (h : v.HasList "states" fun e => Load.isNamed e = true → e.ShapedState)
    (hkeyed : v.Keyed) (hgood : ∀ s ∈ v.namedEntries "states",
      ∀ t ∈ s.namedEntries "transitions", ¬t.HasBadType) : v.GroupsMap v.toMap where
  name := StateMap.name_foldl_addState _ _
  states := by
    refine ⟨(v.namedEntries "states").map toState, ?_, ?_, ?_⟩
    · rw [List.forall₂_map_right_iff, List.forall₂_same]
      intro e he
      obtain ⟨hmem, hnamed⟩ := mem_namedEntries.1 he
      exact (h.getD_eq.2 e hmem hnamed).groupsState (hkeyed.entries hmem) (hgood e he)
    · exact StateMap.states_foldl_addState _ _
    · rw [toMap, StateMap.default?_foldl_addState]
      exact Option.or_none

theorem Shaped.forall₂_groupsMap (h : v.Shaped) (hkeyed : v.Keyed)
    (hgood : ∀ t ∈ v.namedTransitions, ¬t.HasBadType) (name : Value) :
    List.Forall₂ GroupsMap (v.namedEntries "maps") (v.toMachine name).maps := by
  have hmaps : ∀ e ∈ v.namedEntries "maps", e.GroupsMap e.toMap := by
    intro e he
    obtain ⟨hmem, hnamed⟩ := mem_namedEntries.1 he
    refine groupsMap_toMap (h.maps.getD_eq.2 e hmem hnamed) (hkeyed.entries hmem) ?_
    exact fun s hs t ht => hgood t (List.mem_flatMap.2 ⟨e, he, List.mem_flatMap.2 ⟨s, hs, ht⟩⟩)
  exact List.forall₂_map_right_iff.2 (List.forall₂_same.2 hmaps)

/-- An error is about a named entry of a transition with a bad type. -/
theorem exists_of_result_error {name : Value} {e : LoadError} (h : v.Shaped)
    (he : (Load.machine v name).result = .error e) : ∃ t ∈ v.namedTransitions,
      t.HasBadType ∧ e = .unknownMove t.moveWord (t.getD "name" .null).text := by
  rw [Load.result_machine h] at he
  cases hfault : v.fault? with
  | none =>
    rw [hfault] at he
    cases he
  | some e' =>
    rw [hfault] at he
    obtain rfl := Except.error.inj he
    exact exists_of_fault? hfault

end Value

/-- The reading of a description of the right shape fails if and only if a named entry of a
    transition, in a named state of a named map, has a bad type; the error is about such an entry.
    Otherwise the transitions of each state collect the named entries by their signatures, and in
    the machine, made as it is with references, each part refers back to what contains it. What is
    read does not change if the entries without a name are left out.

    The members of an object are told apart by their names, as those of a mapping. -/
theorem loading_groups_transitions {v : Value} (hshape : v.Shaped) (hkeyed : v.Keyed)
    (name : Value) :
    ((∃ e, (Load.machine v name).result = .error e) ↔ ∃ t ∈ v.namedTransitions, t.HasBadType) ∧
      (∀ e, (Load.machine v name).result = .error e → ∃ t ∈ v.namedTransitions,
        t.HasBadType ∧ e = .unknownMove t.moveWord (t.getD "name" .null).text) ∧
      (∀ m, (Load.machine v name).result = .ok m →
        List.Forall₂ Value.GroupsMap (v.namedEntries "maps") m.maps ∧
          (v.linkedMachine name).unlinked = m ∧ (v.linkedMachine name).RefersBack) ∧
      (Load.machine v.pruned name).result = (Load.machine v name).result := by
  have hresult := Load.result_machine hshape name
  refine ⟨?_, ?_, ?_, (Load.agree_machine v name).result_eq⟩
  · constructor
    · rintro ⟨e, he⟩
      obtain ⟨t, ht, hbad, -⟩ := Value.exists_of_result_error hshape he
      exact ⟨t, ht, hbad⟩
    · rintro ⟨t, ht, hbad⟩
      obtain ⟨e, he⟩ := Option.isSome_iff_exists.1 (Value.isSome_fault? ht hbad)
      rw [he] at hresult
      exact ⟨e, hresult⟩
  · intro e he
    exact Value.exists_of_result_error hshape he
  · intro m hm
    cases hfault : v.fault? with
    | some e =>
      rw [hresult, hfault] at hm
      cases hm
    | none =>
      rw [hresult, hfault] at hm
      obtain rfl := Except.ok.inj hm
      have hgood : ∀ t ∈ v.namedTransitions, ¬t.HasBadType := by
        intro t ht hbad
        have hsome := Value.isSome_fault? ht hbad
        rw [hfault] at hsome
        cases hsome
      exact ⟨hshape.forall₂_groupsMap hkeyed hgood name, v.unlinked_linkedMachine name,
        v.refersBack_linkedMachine name⟩

/-- The door with a bell, whose two entries for a question make up one transition; a state without
    a name is left out. -/
theorem bell_door_questions_are_grouped :
    (bellDoor [chime, .object []]).Shaped ∧ (bellDoor [chime, .object []]).Keyed ∧
      ∃ m, (Load.machine (bellDoor [chime, .object []]) .null).result = .ok m ∧
        (Load.machine (bellDoor [chime, .object []]).pruned .null).result = .ok m ∧
        List.Forall₂ Value.GroupsMap ((bellDoor [chime, .object []]).namedEntries "maps") m.maps ∧
        ((bellDoor [chime, .object []]).linkedMachine .null).unlinked = m ∧
        ((bellDoor [chime, .object []]).linkedMachine .null).RefersBack ∧
        m.allPlaces.map (fun p => p.state.transitions.map fun t => t.guards.length) =
          [[1], [2]] := by
  have hshape : (bellDoor [chime, .object []]).Shaped := by
    refine ⟨⟨_, rfl⟩, ?_, ?_, ?_⟩
    · simp [bellDoor, Value.HasList]
    · simp [bellDoor, Value.HasList]
    · simp [bellDoor, chime, Value.HasList, Value.HasActions, Value.ShapedAction,
        Value.shapedState_iff, Value.shapedEntry_iff, Load.isNamed, Value.getD, Value.get?,
        Value.member?, Value.isSet]
  have hkeyed : (bellDoor [chime, .object []]).Keyed := by
    simp [bellDoor, chime]
  have hgood : ∀ t ∈ (bellDoor [chime, .object []]).namedTransitions, ¬t.HasBadType := by
    unfold Value.HasBadType
    decide +kernel
  have hsizes : ((Load.machine (bellDoor [chime, .object []]) .null).result.toOption.map fun m =>
      m.allPlaces.map fun p => p.state.transitions.map fun t => t.guards.length) =
        some [[1], [2]] := by
    decide +kernel
  obtain ⟨herror, -, hok, hpruned⟩ := loading_groups_transitions hshape hkeyed .null
  cases hm : (Load.machine (bellDoor [chime, .object []]) .null).result with
  | error e =>
    obtain ⟨t, ht, hbad⟩ := herror.1 ⟨e, hm⟩
    exact absurd hbad (hgood t ht)
  | ok m =>
    obtain ⟨hgroups, hlinked, hrefers⟩ := hok m hm
    rw [hm] at hsizes hpruned
    exact ⟨hshape, hkeyed, m, rfl, hpruned, hgroups, hlinked, hrefers, Option.some.inj hsizes⟩

end StateMachine
