import Mathlib.Data.Finset.Card
import Mathlib.Tactic.TFAE
import StateMachine.Proofs.Safety

/-!
# The numbering of states

The real states of a machine are numbered by their positions. A number is given
by the state at its position, but a state is given its number by its scoped name.
So the numbers identify the states (`Machine.Identified`) only as far as scoped
names do:

* a state has the number of the last state of its scoped name
  (`numberOf?_eq_some`);
* the table of states, which has one entry for each scoped name, has as many
  entries as there are states only if the scoped names are different
  (`length_stateTable`);
* this is so where maps have different names, states of a map have different
  names, and these hold no colon (`Unambiguous.nodup_scopedNames`).

No check asks for different names. A machine with two states of the same name in
a map is found valid, and both have the same number (`twin_states_share_number`).
-/

namespace StateMachine

/-! ## Numbers -/

namespace StateIndex

variable {i : StateIndex} {p : Place} {name : String} {k : Nat}

/-- A scoped name has the number of the last state with this name. -/
theorem numberOf?_eq_some : i.numberOf? name = some k ↔
    ∃ h : k < i.places.length, i.places[k].scopedName = name ∧
      ∀ j (hj : j < i.places.length), k < j → i.places[j].scopedName ≠ name := by
  simp only [numberOf?, size, Option.map_eq_some_iff, List.findIdx?_eq_some_iff_getElem,
    List.length_reverse, List.getElem_reverse, beq_iff_eq]
  constructor
  · rintro ⟨n, ⟨hn, hname, hlater⟩, rfl⟩
    refine ⟨by omega, hname, fun j hj hlt => ?_⟩
    -- what comes later is met earlier from the end
    have hother := hlater (i.places.length - 1 - j) (by omega)
    simpa only [show i.places.length - 1 - (i.places.length - 1 - j) = j by omega] using hother
  · rintro ⟨hk, hname, hlater⟩
    refine ⟨i.places.length - 1 - k, ⟨by omega, ?_, fun j hj => ?_⟩, by omega⟩
    · simpa only [show i.places.length - 1 - (i.places.length - 1 - k) = k by omega] using hname
    · exact hlater _ (by omega) (by omega)

/-- Every state that is numbered is found by its scoped name. -/
theorem exists_numberOf? (hp : p ∈ i.places) : ∃ k, i.numberOf? p.scopedName = some k := by
  rw [numberOf?]
  cases h : i.places.reverse.findIdx? fun q => q.scopedName == p.scopedName with
  | some k => exact ⟨_, rfl⟩
  | none =>
    have hne := List.findIdx?_eq_none_iff.1 h p (List.mem_reverse.2 hp)
    exact absurd hne (by simp)

/-- A real state has the number of its scoped name. -/
theorem idAt_eq_ok (hreal : p.state.isDefault = false) :
    i.idAt p = .ok k ↔ i.numberOf? p.scopedName = some k := by
  have hname : isDefaultName p.state.name = false := hreal
  rw [idAt, idOf, hname, if_neg Bool.false_ne_true]
  cases i.numberOf? p.scopedName with
  | none => simp
  | some j => simp only [Except.ok.injEq, Option.some.injEq, Int.ofNat_inj]

end StateIndex

/-! ## The table of states -/

/-- The table with the entry of a state: where an entry of its scoped name is already,
    or at the end. -/
def enterState (p : Place) : List Place → List Place
  | [] => [p]
  | q :: table => if q.scopedName = p.scopedName then p :: table else q :: enterState p table

section Table

variable {p : Place} {table : List Place}

theorem mem_enterState {name : String} : name ∈ (enterState p table).map Place.scopedName ↔
    name = p.scopedName ∨ name ∈ table.map Place.scopedName := by
  induction table with
  | nil => simp [enterState]
  | cons q table ih =>
    rw [enterState]
    split
    · next hq => simp [hq]
    · rw [List.map_cons, List.mem_cons, ih, List.map_cons, List.mem_cons]
      exact or_left_comm

/-- The entries keep different scoped names. -/
theorem nodup_enterState (h : (table.map Place.scopedName).Nodup) :
    ((enterState p table).map Place.scopedName).Nodup := by
  induction table with
  | nil => exact List.nodup_singleton _
  | cons q table ih =>
    rw [List.map_cons, List.nodup_cons] at h
    rw [enterState]
    split
    · next hq => exact List.nodup_cons.2 ⟨hq ▸ h.1, h.2⟩
    · next hq =>
      refine List.nodup_cons.2 ⟨fun hmem => ?_, ih h.2⟩
      rcases mem_enterState.1 hmem with hp | hmem
      · exact hq hp
      · exact h.1 hmem

theorem find?_enterState {name : String} :
    (enterState p table).find? (fun q => q.scopedName == name) =
      if p.scopedName = name then some p else table.find? fun q => q.scopedName == name := by
  induction table with
  | nil =>
    rw [enterState, List.find?_singleton, List.find?_nil]
    exact if_congr beq_iff_eq rfl rfl
  | cons q table ih =>
    rw [enterState]
    by_cases hp : p.scopedName = name
    · by_cases hq : q.scopedName = name <;> simp_all
    · by_cases hq : q.scopedName = p.scopedName <;> simp_all [List.find?_cons]

end Table

namespace Machine

variable {m : Machine}

/-- The states of a machine by their scoped names. -/
def stateTable (m : Machine) : List Place :=
  m.places.foldl (fun table p => enterState p table) []

/-- A state is found by its scoped name as it is found in the table. -/
theorem find?_stateTable (name : String) :
    m.stateTable.find? (fun p => p.scopedName == name) = m.stateNamed? name := by
  have hfold : ∀ ps table : List Place,
      (ps.foldl (fun table p => enterState p table) table).find? (fun p => p.scopedName == name) =
        (ps.reverse.find? fun p => p.scopedName == name).or
          (table.find? fun p => p.scopedName == name) := by
    intro ps
    induction ps with
    | nil => exact fun _ => rfl
    | cons p ps ih =>
      intro table
      rw [List.foldl_cons, ih, find?_enterState, List.reverse_cons, List.find?_append]
      by_cases hp : p.scopedName = name <;> simp [hp]
  rw [stateTable, hfold, List.find?_nil, Option.or_none]
  rfl

/-- The table has one entry for each scoped name of a state, and no other. -/
theorem nodup_stateTable : (m.stateTable.map Place.scopedName).Nodup ∧
    ∀ name, name ∈ m.stateTable.map Place.scopedName ↔ name ∈ m.places.map Place.scopedName := by
  have hfold : ∀ ps table : List Place, (table.map Place.scopedName).Nodup →
      ((ps.foldl (fun table p => enterState p table) table).map Place.scopedName).Nodup ∧
        ∀ name, name ∈ (ps.foldl (fun table p => enterState p table) table).map Place.scopedName ↔
          name ∈ table.map Place.scopedName ∨ name ∈ ps.map Place.scopedName := by
    intro ps
    induction ps with
    | nil => exact fun table h => ⟨h, fun name => by simp⟩
    | cons p ps ih =>
      intro table h
      obtain ⟨hnodup, hmem⟩ := ih (enterState p table) (nodup_enterState h)
      refine ⟨hnodup, fun name => (hmem name).trans ?_⟩
      rw [mem_enterState, List.map_cons, List.mem_cons, or_comm (a := name = _), or_assoc]
  obtain ⟨hnodup, hmem⟩ := hfold m.places [] List.nodup_nil
  exact ⟨hnodup, fun name => (hmem name).trans (by simp)⟩

/-- The table has as many entries as there are states only if these have different scoped
    names. -/
theorem length_stateTable :
    m.stateTable.length = m.places.length ↔ (m.places.map Place.scopedName).Nodup := by
  obtain ⟨hnodup, hmem⟩ := m.nodup_stateTable
  have hset : (m.stateTable.map Place.scopedName).toFinset =
      (m.places.map Place.scopedName).toFinset := by
    ext name
    simp only [List.mem_toFinset, hmem]
  have hcard := List.toFinset_card_of_nodup hnodup
  have hnames : (m.places.map Place.scopedName).toFinset.card =
      (m.places.map Place.scopedName).length ↔ (m.places.map Place.scopedName).Nodup :=
    Multiset.toFinset_card_eq_card_iff_nodup
  rw [← hnames, ← hset, hcard, List.length_map, List.length_map]

/-! ## Identity -/

/-- Every real state has its position as number. -/
def Identified (m : Machine) : Prop :=
  ∀ k (h : k < m.places.length), m.index.idAt m.places[k] = .ok k

/-- A real state of a well-formed machine is no Default State. -/
theorem WellFormed.isDefault_of_mem_places (hm : m.WellFormed) {p : Place} (hp : p ∈ m.places) :
    p.state.isDefault = false := by
  obtain ⟨hmap, hstate⟩ := mem_places.1 hp
  exact (hm p.map hmap).real p.state hstate

/-- A real state has the number of the last state of its scoped name. -/
theorem WellFormed.idAt_eq (hm : m.WellFormed) {p : Place} (hp : p ∈ m.places) :
    ∃ k, ∃ h : k < m.places.length, m.index.idAt p = .ok k ∧
      m.places[k].scopedName = p.scopedName ∧
      ∀ j (hj : j < m.places.length), k < j → m.places[j].scopedName ≠ p.scopedName := by
  obtain ⟨k, hk⟩ := StateIndex.exists_numberOf? (i := m.index) hp
  obtain ⟨hlt, hlast⟩ := StateIndex.numberOf?_eq_some.1 hk
  exact ⟨k, hlt, (StateIndex.idAt_eq_ok (hm.isDefault_of_mem_places hp)).2 hk, hlast⟩

/-- The numbers identify the states exactly if the scoped names do. -/
theorem WellFormed.identified_tfae (hm : m.WellFormed) :
    [m.Identified,
      ∀ j k (hj : j < m.places.length) (hk : k < m.places.length),
        m.index.idAt m.places[j] = m.index.idAt m.places[k] → j = k,
      (m.places.map Place.scopedName).Nodup,
      m.stateTable.length = m.index.size].TFAE := by
  tfae_have 1 → 2 := by
    intro h j k hj hk hsame
    rw [h j hj, h k hk, Except.ok.injEq] at hsame
    exact Int.ofNat_inj.1 hsame
  tfae_have 2 → 3 := by
    intro h
    refine List.pairwise_map.2 (List.pairwise_iff_getElem.2 fun j k hj hk hlt hname => ?_)
    -- states of the same scoped name are given the same number
    obtain ⟨n, -, hn, -⟩ := hm.idAt_eq (List.getElem_mem hj)
    have hn' : m.index.idAt m.places[k] = .ok n := by
      rw [StateIndex.idAt_eq_ok (hm.isDefault_of_mem_places (List.getElem_mem hk)), ← hname]
      exact (StateIndex.idAt_eq_ok (hm.isDefault_of_mem_places (List.getElem_mem hj))).1 hn
    exact Nat.ne_of_lt hlt (h j k hj hk (hn.trans hn'.symm))
  tfae_have 3 → 1 := by
    intro h k hk
    obtain ⟨n, hn, hid, hname, -⟩ := hm.idAt_eq (List.getElem_mem hk)
    have hne := List.pairwise_iff_getElem.1 (List.pairwise_map.1 h)
    rcases Nat.lt_trichotomy n k with hlt | rfl | hlt
    · exact absurd hname (hne n k hn hk hlt)
    · exact hid
    · exact absurd hname.symm (hne k n hk hn hlt)
  tfae_have 3 ↔ 4 := length_stateTable.symm
  tfae_finish

/-- Where maps have different names, states of a map have different names, and these hold no
    colon, scoped names are different. -/
theorem Unambiguous.nodup_scopedNames (h : m.Unambiguous) :
    (m.places.map Place.scopedName).Nodup := by
  have hmaps : m.maps.Nodup := by
    obtain ⟨names, hnames, hnodup⟩ := h.mapNames
    refine List.Nodup.of_map StateMap.name (hnames ▸ hnodup.map fun a b hab => ?_)
    exact Value.str.inj hab
  have hplaces : m.places.Nodup := by
    refine List.nodup_flatMap.2 ⟨fun map hmap => ?_, hmaps.imp fun hne p hp hq => hne ?_⟩
    · exact (List.Nodup.of_map State.name (h.stateNames map hmap)).map fun a b hab => by cases hab; rfl
    · obtain ⟨s, -, rfl⟩ := List.mem_map.1 hp
      obtain ⟨s', -, hs'⟩ := List.mem_map.1 hq
      exact (congrArg Place.map hs').symm
  exact hplaces.map_on fun p hp q hq => h.eq_of_scopedName hp hq

end Machine

/-! ## Every machine that was read -/

/-- A number is given by the state at its position. Every Default State has the number minus
    one, and every real state the number of the last one of its scoped name. So the numbers
    tell the states apart exactly if scoped names do, and exactly if the table by which
    a running machine finds its states has an entry for each of them. -/
theorem numbers_identify_iff_names_do {v name : Value} {m : Machine}
    (hload : (Load.machine v name).outcome.1 = .ok m) :
    m.index.size = m.places.length ∧
    (∀ k (h : k < m.places.length), m.index.stateOf k = .ok m.places[k]) ∧
    (∀ map ∈ m.maps, ∀ s ∈ map.default?, m.index.idAt ⟨map, s⟩ = .ok (-1)) ∧
    (∀ p ∈ m.places, ∃ k, ∃ h : k < m.places.length, m.index.idAt p = .ok k ∧
      m.places[k].scopedName = p.scopedName ∧
      ∀ j (hj : j < m.places.length), k < j → m.places[j].scopedName ≠ p.scopedName) ∧
    (∀ scopedName, m.stateTable.find? (fun p => p.scopedName == scopedName) =
      m.stateNamed? scopedName) ∧
    [m.Identified,
      ∀ j k (hj : j < m.places.length) (hk : k < m.places.length),
        m.index.idAt m.places[j] = m.index.idAt m.places[k] → j = k,
      (m.places.map Place.scopedName).Nodup,
      m.stateTable.length = m.index.size].TFAE ∧
    (m.Unambiguous → m.Identified) := by
  have hm : m.WellFormed := Load.wellFormed_of_outcome hload
  refine ⟨rfl, fun k hk => ?_, fun map hmap s hs => ?_, fun p hp => hm.idAt_eq hp,
    Machine.find?_stateTable, hm.identified_tfae, fun h => ?_⟩
  · rw [StateIndex.stateOf, if_neg (by omega), Int.toNat_natCast,
      show m.index.places[k]? = some m.places[k] from List.getElem?_eq_getElem hk]
  · have hdefault : isDefaultName s.name = true := (hm map hmap).default_isDefault s hs
    rw [StateIndex.idAt, StateIndex.idOf, if_pos hdefault]
    rfl
  · exact (hm.identified_tfae.out 2 0).1 h.nodup_scopedNames

open Simulator in
/-- The states of the door have the numbers from zero to two, and its table three entries. -/
theorem door_states_are_numbered :
    (Load.machine (door "False") .null).outcome.1 = .ok (doorMachine "False") ∧
      (doorMachine "False").Unambiguous ∧ (doorMachine "False").Identified ∧
      (doorMachine "False").index.size = 3 ∧ (doorMachine "False").stateTable.length = 3 := by
  obtain ⟨hsize, -, -, -, -, htfae, hidentified⟩ := numbers_identify_iff_names_do door_loads
  have hdoor := hidentified door_unambiguous
  have htable := (htfae.out 0 3).1 hdoor
  exact ⟨door_loads, door_unambiguous, hdoor, hsize, htable.trans hsize⟩

/-- The description of a desk with two states of the same name. -/
def twinDesk : Value :=
  .object [("class", .str "Clerk"), ("start", .str "Desk::Free"), ("maps", .list [.object [
    ("name", .str "Desk"),
    ("states", .list [
      .object [("name", .str "Free"), ("transitions", .list [
        .object [("name", .str "work"), ("end_state", .str "nil")]])],
      .object [("name", .str "Free")]])]])]

open Simulator in
/-- The desk with two states of the same name. -/
def twinMachine : Machine :=
  { doorMachine "" with
    name := .str "Clerk"
    context := .str "Clerk"
    start := .str "Desk::Free"
    maps := [{
      name := .str "Desk"
      states := [doorState "Free" [doorTransition "work" (doorGuard "" .set "nil" "")],
        doorState "Free" []]
      default? := none
      line := .int 0 }] }

/-- A desk with two states of the same name is found valid. Both states have the number of the
    second, which is the only entry of the table: the first, with its transition, cannot be
    found. -/
theorem twin_states_share_number :
    (Load.machine twinDesk .null).outcome.1 = .ok twinMachine ∧
      (∃ w, twinMachine.validate none none = .ok w ∧ w.isValid = true) ∧
      twinMachine.index.size = 2 ∧
      (twinMachine.places.map fun p => (twinMachine.index.idAt p).toOption) = [some 1, some 1] ∧
      (twinMachine.places.map fun p => p.state.transitions.length) = [1, 0] ∧
      (twinMachine.stateTable.map fun p => (p.scopedName, p.state.transitions.length)) =
        [("Desk::Free", 0)] :=
  ⟨rfl, Machine.exists_validation (by decide +kernel), rfl, by decide +kernel, rfl,
    by decide +kernel⟩

end StateMachine
