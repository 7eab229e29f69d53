import Mathlib.Data.List.Perm.Basic
import StateMachine.Proofs.PageMarkup
import StateMachine.Proofs.SortedNames

/-!
# Tables of pages

The table of a map shows all of it (`Table.Complete`): a row for each state, a column for
each transition name, and in the cells every guard once. The columns *divide* the
transitions of a state (`Divides`): each transition belongs to one column, and only one.
So nothing gets lost when the guards are listed column by column
(`Divides.flatMap_perm`), and the one cell to look for a guard in is known
(`Divides.existsUnique`).

The columns are sorted unless one of the names is the number that is none, for which there
is no place in the order of names: then they may be in any order
(`columns_are_not_sorted`).
-/

namespace StateMachine.Page

/-! ## Columns that divide -/

/-- Each of the items belongs to one of the columns, and to no other. -/
structure Divides {γ α : Type} (belongs : γ → α → Bool) (columns : List γ) (items : List α) :
    Prop where
  apart : columns.Pairwise fun c d => ∀ x ∈ items, belongs c x = true → belongs d x = false
  covers : ∀ x ∈ items, ∃ c ∈ columns, belongs c x = true

section Divides

variable {γ α β : Type} {belongs : γ → α → Bool} {columns : List γ} {items : List α}

/-- The column an item belongs to is the only one. -/
theorem Divides.existsUnique (h : Divides belongs columns items) {x : α} (hx : x ∈ items) :
    ∃! i : ℕ, ∃ c, columns[i]? = some c ∧ belongs c x = true := by
  have hapart : ∀ {i j : ℕ} {c d : γ}, columns[i]? = some c → columns[j]? = some d →
      belongs c x = true → belongs d x = true → ¬ i < j := by
    intro i j c d hi hj hc hd hij
    obtain ⟨hilt, rfl⟩ := List.getElem?_eq_some_iff.1 hi
    obtain ⟨hjlt, rfl⟩ := List.getElem?_eq_some_iff.1 hj
    rw [List.pairwise_iff_getElem.1 h.apart i j hilt hjlt hij x hx hc] at hd
    cases hd
  obtain ⟨c, hc, hcx⟩ := h.covers x hx
  obtain ⟨i, hi⟩ := List.mem_iff_getElem?.1 hc
  refine ⟨i, ⟨c, hi, hcx⟩, ?_⟩
  rintro j ⟨d, hj, hdx⟩
  exact le_antisymm (not_lt.1 (hapart hi hj hcx hdx)) (not_lt.1 (hapart hj hi hdx hcx))

/-- Gone through column by column, the items are all there, each once. -/
theorem Divides.flatMap_perm (h : Divides belongs columns items) (f : α → List β) :
    (columns.flatMap fun c => (items.filter (belongs c)).flatMap f).Perm (items.flatMap f) := by
  obtain ⟨hapart, hcovers⟩ := h
  induction columns generalizing items with
  | nil =>
    cases items with
    | nil => exact .refl _
    | cons x items =>
      obtain ⟨c, hc, -⟩ := hcovers x List.mem_cons_self
      cases hc
  | cons c columns ih =>
    obtain ⟨hc, hcolumns⟩ := List.pairwise_cons.1 hapart
    -- the other columns divide what does not belong to the first
    let rest := items.filter fun x => !belongs c x
    have hrest : ∀ x, x ∈ rest ↔ x ∈ items ∧ belongs c x = false := by
      simp [rest, List.mem_filter]
    have hfilter : ∀ d ∈ columns, items.filter (belongs d) = rest.filter (belongs d) := by
      intro d hd
      rw [List.filter_filter]
      refine List.filter_congr fun x hx => ?_
      cases hdx : belongs d x with
      | false => rfl
      | true =>
        cases hcx : belongs c x with
        | false => rfl
        | true =>
          rw [hc d hd x hx hcx] at hdx
          cases hdx
    have hapart' : columns.Pairwise fun d e => ∀ x ∈ rest, belongs d x = true →
        belongs e x = false :=
      hcolumns.imp fun h x hx => h x ((hrest x).1 hx).1
    have hcovers' : ∀ x ∈ rest, ∃ d ∈ columns, belongs d x = true := by
      intro x hx
      obtain ⟨hx, hcx⟩ := (hrest x).1 hx
      obtain ⟨d, hd, hdx⟩ := hcovers x hx
      rcases List.mem_cons.1 hd with rfl | hd
      · rw [hcx] at hdx
        cases hdx
      · exact ⟨d, hd, hdx⟩
    rw [List.flatMap_cons]
    simp only [List.flatMap_congr fun d hd => congrArg (List.flatMap f) (hfilter d hd)]
    refine ((ih hapart' hcovers').append_left _).trans ?_
    rw [← List.flatMap_append]
    exact (List.filter_append_perm (belongs c) items).flatMap_right f

end Divides

/-! ## Tables -/

/-- The entries for all guards of some transitions of a state: of one transition after the
    other, and those of each in the order they are tried in. -/
def entries (s : State) (ts : List Transition) : List Entry :=
  ts.flatMap fun t => t.ordered.map (entry s t)

/-- The row shows all of a state under the columns of some names and that of `Default`. -/
structure Row.Complete (names : List Value) (s : State) (r : Row) : Prop where
  name : r.name = rowName s
  entry : r.entry = (s.entry.getD []).map Action.text
  exit : r.exit = (s.exit.getD []).map Action.text
  /-- A cell holds the guards of all transitions with the name of its column. -/
  cells : List.Forall₂ (fun n c => c = entries s (s.transitions.filter fun t => t.name.alike n))
    (names ++ [.str defaultName]) r.cells
  /-- Each transition has one column. -/
  column : ∀ t ∈ s.transitions, ∃! i : ℕ, ∃ n, (names ++ [.str defaultName])[i]? = some n ∧
    t.name.alike n = true
  /-- The cells hold the guards of all transitions, each once. -/
  guards : r.cells.flatten.Perm (entries s s.transitions)

/-- The table shows all of a map: its states in rows, and the names of its transitions in
    columns. -/
structure Table.Complete (map : StateMap) (names : List Value) (t : Table) : Prop where
  name : t.name = map.name.text
  columns : t.columns = names.map Value.text
  /-- Every name of a transition but `Default` is that of a column. -/
  covers : ∀ s ∈ map.allStates, ∀ u ∈ s.transitions, u.name ≠ .str defaultName →
    ∃ n ∈ names, u.name.alike n = true
  /-- No other name is. -/
  named : ∀ n ∈ names, n ≠ .str defaultName ∧ ∃ s ∈ map.allStates, ∃ u ∈ s.transitions, u.name = n
  distinct : names.Pairwise fun v w => v.alike w = false
  sorted : (∀ s ∈ map.allStates, ∀ u ∈ s.transitions, u.name.isNaN = false) →
    names.Pairwise fun v w => v.lt? w = some true
  /-- The real states come first, in the order they are declared in. -/
  rows : List.Forall₂ (Row.Complete names) (map.states ++ map.default?.toList) t.rows

/-- A transition of a map: one of a state of it. -/
theorem mem_transitions_iff {map : StateMap} {q : Placed} : q ∈ map.transitions ↔
    q.place.map = map ∧ q.place.state ∈ map.allStates ∧
      q.transition ∈ q.place.state.transitions := by
  obtain ⟨⟨map', s⟩, t⟩ := q
  simp only [StateMap.transitions, Place.transitions, List.mem_flatMap, List.mem_map]
  constructor
  · rintro ⟨s', hs, t', ht, h⟩
    cases h
    exact ⟨rfl, hs, ht⟩
  · rintro ⟨rfl, hs, ht⟩
    exact ⟨s, hs, t, ht, rfl⟩

section Tables

variable {map : StateMap}

/-- The names of a map are those of its transitions, without `Default`. -/
theorem mem_names {n : Value} (hn : n ∈ transitionNames (signatureUnion map.transitions)) :
    n ≠ .str defaultName ∧ ∃ s ∈ map.allStates, ∃ u ∈ s.transitions, u.name = n := by
  obtain ⟨hdefault, q, hq, rfl⟩ := exists_of_mem_transitionNames hn
  obtain ⟨-, hs, hu⟩ := mem_transitions_iff.1 (mem_of_mem_signatureUnion hq)
  exact ⟨hdefault, _, hs, _, hu, rfl⟩

variable (h : Collectable map.transitions)
include h

theorem isKey_name {s : State} (hs : s ∈ map.allStates) {u : Transition}
    (hu : u ∈ s.transitions) : u.name.isKey = true :=
  h.key ⟨⟨map, s⟩, u⟩ (mem_transitions_iff.2 ⟨rfl, hs, hu⟩) _ List.mem_cons_self

theorem isKey_of_mem_names {n : Value}
    (hn : n ∈ transitionNames (signatureUnion map.transitions)) : n.isKey = true := by
  obtain ⟨-, s, hs, u, hu, rfl⟩ := mem_names hn
  exact isKey_name h hs hu

theorem exists_mem_names {s : State} (hs : s ∈ map.allStates) {u : Transition}
    (hu : u ∈ s.transitions) (hdefault : u.name ≠ .str defaultName) :
    ∃ n ∈ transitionNames (signatureUnion map.transitions), u.name.alike n = true := by
  have hkeys : KeyNames map.transitions := fun q hq => h.key q hq _ List.mem_cons_self
  have hself := Value.alike_self (isKey_name h hs hu)
  exact List.any_eq_true.1 ((any_transitionNames_iff hkeys).2
    ⟨hdefault, ⟨⟨map, s⟩, u⟩, mem_transitions_iff.2 ⟨rfl, hs, hu⟩, hself⟩)

theorem names_distinct : (transitionNames (signatureUnion map.transitions)).Pairwise fun v w =>
    v.alike w = false :=
  (transitionNames_pairwise _).imp_of_mem fun hv hw hwv => by
    rwa [Value.alike_comm (isKey_of_mem_names h hv) (isKey_of_mem_names h hw)]

/-- The columns divide the transitions of each state. -/
theorem divides_names {s : State} (hs : s ∈ map.allStates) :
    Divides (fun n u => u.name.alike n)
      (transitionNames (signatureUnion map.transitions) ++ [.str defaultName])
      s.transitions where
  apart := by
    refine List.pairwise_append.2 ⟨?_, List.pairwise_singleton _ _, ?_⟩
    · refine (names_distinct h).imp_of_mem fun {v w} hv hw hvw u hu huv => ?_
      by_contra huw
      -- two names like that of one transition are like each other
      have hu := isKey_name h hs hu
      have hv := isKey_of_mem_names h hv
      rw [Value.alike_trans hv hu (isKey_of_mem_names h hw) ((Value.alike_comm hv hu).trans huv)
        (by simpa using huw)] at hvw
      cases hvw
    · intro n hn d hd u _ hun
      rw [List.mem_singleton.1 hd]
      by_contra hdefault
      have hname : u.name = .str defaultName := Value.alike_str_iff.1 (by simpa using hdefault)
      rw [hname] at hun
      exact (mem_names hn).1 (Value.str_alike_iff.1 hun)
  covers := by
    intro u hu
    by_cases hdefault : u.name = .str defaultName
    · exact ⟨_, List.mem_append_right _ List.mem_cons_self, Value.alike_str_iff.2 hdefault⟩
    · obtain ⟨n, hn, hun⟩ := exists_mem_names h hs hu hdefault
      exact ⟨n, List.mem_append_left _ hn, hun⟩

/-- The table of a map shows all of it. -/
theorem table_complete :
    (table map).Complete map (transitionNames (signatureUnion map.transitions)) where
  name := rfl
  columns := rfl
  covers _ hs _ hu := exists_mem_names h hs hu
  named _ := mem_names
  distinct := names_distinct h
  sorted hnumber := transitionNames_sorted h fun q hq => by
    obtain ⟨-, hs, hu⟩ := mem_transitions_iff.1 hq
    exact hnumber _ hs _ hu
  rows := by
    rw [table, List.forall₂_map_right_iff, List.forall₂_same]
    intro s hs
    have hs : s ∈ map.allStates := List.mem_append.2 (List.mem_append.1 hs).symm
    have hdivides := divides_names h hs
    refine ⟨rfl, rfl, rfl, ?_, fun u hu => hdivides.existsUnique hu, ?_⟩
    · rw [row, List.forall₂_map_right_iff, List.forall₂_same]
      exact fun n _ => rfl
    · rw [row, ← List.flatMap_def]
      exact hdivides.flatMap_perm _

end Tables

/-- The signatures of a machine whose page was generated can be collected map by map. -/
theorem collectable_of_mismatch? {m : Machine} (h : mismatch? m = none) {map : StateMap}
    (hmap : map ∈ m.maps) : Collectable map.transitions := by
  rw [mismatch?, List.findSome?_eq_none_iff] at h
  have hnone := h map hmap
  rw [Option.orElse_eq_orElse, Option.orElse_eq_or, Option.or_eq_none_iff] at hnone
  exact collectable_of_unionMismatch? hnone.1

/-- A page that is generated for a machine consists of the tables of its maps, and these are
    complete. The columns of a table are in the order of names if none of these is the number
    that is none. -/
theorem page_tables_are_complete {m : Machine} {o : Options} {base : Value} {f : OutputFile}
    (h : m.generate .table o base = .ok f) :
    f.content = text m o ∧
      List.Forall₂ (fun map t => ∃ names, Table.Complete map names t) m.maps
        (m.maps.map table) := by
  obtain ⟨hmismatch, hcontent⟩ := page_of_generate h
  refine ⟨hcontent, ?_⟩
  rw [List.forall₂_map_right_iff, List.forall₂_same]
  exact fun map hmap => ⟨_, table_complete (collectable_of_mismatch? hmismatch hmap)⟩

open Simulator in
/-- The tables on the page of a door are complete. -/
theorem door_tables_are_complete :
    ∃ f, (doorMachine "").generate .table {} .null = .ok f ∧ f.content = text (doorMachine "") {} ∧
      List.Forall₂ (fun map t => ∃ names, Table.Complete map names t) [hall ""]
        [table (hall "")] := by
  obtain ⟨f, hf⟩ := exists_page_of_isSome (m := doorMachine "") (by decide +kernel)
  exact ⟨f, hf, page_tables_are_complete hf⟩

/-! ## Names that are not in order -/

open Simulator in
/-- The map of a door with a transition for each of some names. -/
def namedHall (names : List Value) : StateMap where
  name := .str "Hall"
  states := [doorState "Shut" (names.map fun n =>
    { doorTransition "" (doorGuard "" .set "nil" "") with name := n })]
  default? := none
  line := .int 0

/-- A door whose transitions have some names. -/
def namedDoor (names : List Value) : Machine :=
  { Simulator.doorMachine "" with maps := [namedHall names] }

/-- Five halves, the number that is none, and three halves. -/
def unorderedNames : List Value :=
  [.float (.finite false 5 (-1)), .float .nan, .float (.finite false 3 (-1))]

/-- The columns of a table stay as the names were declared if the number that is none is between
    them, though the last is below the first. -/
theorem columns_are_not_sorted :
    (∃ f, (namedDoor unorderedNames).generate .table {} .null = .ok f) ∧
      transitionNames (signatureUnion (namedHall unorderedNames).transitions) = unorderedNames ∧
      (table (namedHall unorderedNames)).columns = ["2.5", "nan", "1.5"] ∧
      ¬ unorderedNames.Pairwise fun v w => w.lt? v ≠ some true := by
  refine ⟨exists_page_of_isSome (by decide +kernel), rfl, by decide +kernel, ?_⟩
  decide +kernel

end StateMachine.Page
