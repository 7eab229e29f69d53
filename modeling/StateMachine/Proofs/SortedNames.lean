import StateMachine.Proofs.Insertion
import StateMachine.Proofs.SortedUnion

/-!
# Sorted names

Signatures without a mismatch are those of keys that can be compared (`Collectable`). The
names in their union rise unless one of them is the number that is none
(`transitionNames_sorted`). It does no harm among the parameters: the transitions of a name
may then come in any order, but the names still rise (`Collectable.names_rising`).
-/

namespace StateMachine

/-! ## Comparable signatures -/

/-- One of two values can be compared with the other if the other can with it. -/
theorem Value.isSome_lt?_comm (v w : Value) : (v.lt? w).isSome = (w.lt? v).isSome := by
  cases v <;> cases w <;> rfl

namespace Signature

theorem comparableParts_self {vs : List Value} (h : ∀ v ∈ vs, v.isKey = true) :
    comparableParts vs vs = true := by
  induction vs with
  | nil => rfl
  | cons v vs ih =>
    obtain ⟨hv, hvs⟩ := List.forall_mem_cons.1 h
    rw [comparableParts, if_pos (Value.alike_self hv), ih hvs]

theorem comparableParts_comm {vs ws : List Value} (hvs : ∀ v ∈ vs, v.isKey = true)
    (hws : ∀ w ∈ ws, w.isKey = true) : comparableParts vs ws = comparableParts ws vs := by
  induction vs generalizing ws with
  | nil => cases ws <;> rfl
  | cons v vs ih =>
    cases ws with
    | nil => rfl
    | cons w ws =>
      obtain ⟨hv, hvs⟩ := List.forall_mem_cons.1 hvs
      obtain ⟨hw, hws⟩ := List.forall_mem_cons.1 hws
      rw [comparableParts, comparableParts, Value.alike_comm hv hw, ih hvs hws,
        Value.isSome_lt?_comm]

end Signature

/-- All names, and names and types of parameters, are keys, and signatures can be compared
    with each other. -/
structure Collectable (ps : List Placed) : Prop where
  key : ∀ p ∈ ps, ∀ v ∈ p.transition.signature.parts, v.isKey = true
  comparable : ∀ p ∈ ps, ∀ q ∈ ps,
    Signature.comparableParts p.transition.signature.parts q.transition.signature.parts = true

theorem allComparable_iff {signatures : List Signature} : allComparable signatures = true ↔
    signatures.Pairwise fun s t => Signature.comparableParts s.parts t.parts = true := by
  induction signatures with
  | nil => simp [allComparable]
  | cons s rest ih =>
    rw [allComparable, Bool.and_eq_true, List.all_eq_true, ih, List.pairwise_cons]

/-- Signatures without a mismatch are those that can be collected. -/
theorem collectable_of_unionMismatch? {ps : List Placed} (h : unionMismatch? ps = none) :
    Collectable ps := by
  simp only [unionMismatch?, ite_eq_left_iff, reduceCtorEq, imp_false, not_not,
    Bool.and_eq_true, List.all_map, allComparable_iff, List.pairwise_map] at h
  obtain ⟨hkeys, hcomparable⟩ := h
  have hkey : ∀ p ∈ ps, ∀ v ∈ p.transition.signature.parts, v.isKey = true := fun p hp =>
    List.all_eq_true.1 (List.all_eq_true.1 hkeys p hp)
  have hback : ∀ {p q : Placed}, p ∈ ps → q ∈ ps →
      Signature.comparableParts p.transition.signature.parts q.transition.signature.parts = true →
      Signature.comparableParts q.transition.signature.parts p.transition.signature.parts = true :=
    fun hp hq h => (Signature.comparableParts_comm (hkey _ hq) (hkey _ hp)).trans h
  exact ⟨hkey, List.Pairwise.forall_of_forall_of_flip
    (fun p hp => Signature.comparableParts_self (hkey p hp)) hcomparable
    (hcomparable.imp_of_mem hback)⟩

/-! ## Names of a union -/

/-- Of signatures that can be compared, the names can be compared, unless they are alike. -/
theorem Signature.exists_lt?_name {a b : Signature}
    (h : comparableParts a.parts b.parts = true) (hunlike : a.name.alike b.name = false) :
    ∃ below, a.name.lt? b.name = some below := by
  simp only [parts, comparableParts, hunlike] at h
  exact Option.isSome_iff_exists.1 h

/-- Signatures whose names have ranks do not come in another order than these. -/
theorem Signature.name_rank_of_lt {a b : Signature} (ha : a.name.Ordered) (hb : b.name.Ordered)
    (h : comparableParts a.parts b.parts = true) :
    (a.lt b = true → a.name.rank ≤ b.name.rank) ∧
      (a.lt b = false → b.name.rank ≤ a.name.rank) := by
  by_cases halike : a.name.alike b.name = true
  · have hrank := (ha.alike_iff hb).1 halike
    exact ⟨fun _ => hrank.le, fun _ => hrank.ge⟩
  · obtain ⟨below, hbelow⟩ := exists_lt?_name h (Bool.eq_false_iff.2 halike)
    have hlt : a.lt b = below := by
      simp only [lt, parts, compareParts, halike, hbelow]
      cases below <;> rfl
    have hrank := ha.lt?_eq_some_iff hb hbelow
    rw [hlt]
    exact ⟨fun h => (hrank.1 h).le, fun h => not_lt.1 fun hrank' => by simp [hrank.2 hrank'] at h⟩

section Names

variable {ps : List Placed}

/-- No name is the number that is none. -/
def NamesNumbered (ps : List Placed) : Prop :=
  ∀ p ∈ ps, p.transition.name.isNaN = false

theorem Collectable.name_ordered (h : Collectable ps) (hnumber : NamesNumbered ps) {p : Placed}
    (hp : p ∈ ps) : p.transition.name.Ordered :=
  ⟨h.key p hp _ List.mem_cons_self, hnumber p hp⟩

/-- The names of a union rise. -/
theorem Collectable.names_rising (h : Collectable ps) (hnumber : NamesNumbered ps) :
    Rising (fun p => p.transition.name.rank) (signatureUnion ps) := by
  have hmem : ∀ p ∈ firstOfEach ps, p ∈ ps := fun p hp => mem_of_mem_firstOfEach hp
  by_cases hnan : ((firstOfEach ps).any fun p => p.transition.signature.holdsNaN) = true
  · -- the comparison follows the names, whatever comes of the parameters
    have hname := fun {p q : Placed} (hp : p ∈ ps) (hq : q ∈ ps) =>
      Signature.name_rank_of_lt (a := p.transition.signature) (b := q.transition.signature)
        (h.name_ordered hnumber hp) (h.name_ordered hnumber hq) (h.comparable p hp q hq)
    have hfollows : Follows (fun p q : Placed => p.transition.signature.lt q.transition.signature)
        (fun p => p.transition.name.rank) (· ∈ ps) :=
      ⟨fun hp hq => (hname hp hq).1, fun hp hq => (hname hp hq).2⟩
    simp only [signatureUnion, hnan, if_true]
    exact inserted_rising hfollows hmem
  · have hsortable : Sortable (firstOfEach ps) := by
      refine ⟨fun p hp v hv => ⟨h.key p (hmem p hp) v hv, ?_⟩,
        fun p hp q hq => h.comparable p (hmem p hp) q (hmem q hq)⟩
      by_contra hv'
      exact hnan (List.any_eq_true.2 ⟨p, hp, List.any_eq_true.2 ⟨v, hv, by simpa using hv'⟩⟩)
    refine (List.pairwise_map.1 (signatureUnion_sorted hsortable).pairwise).imp fun hlt => ?_
    -- the name is the first part
    rcases List.cons_lt_cons_iff.1 hlt with hname | ⟨hname, -⟩
    · exact hname.le
    · exact hname.le

/-- The names are among those of the transitions, in their order. -/
theorem transitionNames_sublist (ps : List Placed) :
    (transitionNames ps).Sublist (ps.map fun p => p.transition.name) := by
  induction ps using List.reverseRecOn with
  | nil => exact .slnil
  | append_singleton ps p ih =>
    rw [transitionNames_append_singleton, List.map_append]
    split
    · exact ih.trans (List.sublist_append_left _ _)
    · exact ih.append (.refl _)

/-- No name is listed again. -/
theorem transitionNames_pairwise (ps : List Placed) :
    (transitionNames ps).Pairwise fun v w => w.alike v = false := by
  induction ps using List.reverseRecOn with
  | nil => exact .nil
  | append_singleton ps p ih =>
    rw [transitionNames_append_singleton]
    split
    · exact ih
    · next hnew =>
      simp only [Bool.or_eq_true, List.any_eq_true, not_or, not_exists, not_and] at hnew
      refine List.pairwise_append.2 ⟨ih, List.pairwise_singleton _ _, fun v hv w hw => ?_⟩
      rw [List.mem_singleton.1 hw]
      exact Bool.eq_false_iff.2 (hnew.2 v hv)

/-- The names of a union come in order, unless one of them is the number that is none. -/
theorem transitionNames_sorted (h : Collectable ps) (hnumber : NamesNumbered ps) :
    (transitionNames (signatureUnion ps)).Pairwise fun v w => v.lt? w = some true := by
  have hnames : ((signatureUnion ps).map fun p => p.transition.name).Pairwise fun v w =>
      v.rank ≤ w.rank := List.pairwise_map.2 (h.names_rising hnumber)
  have hrising := hnames.sublist (transitionNames_sublist _)
  refine (hrising.and (transitionNames_pairwise _)).imp_of_mem fun {v w} hv hw hvw => ?_
  obtain ⟨-, p, hp, rfl⟩ := exists_of_mem_transitionNames hv
  obtain ⟨-, q, hq, rfl⟩ := exists_of_mem_transitionNames hw
  have hp := mem_of_mem_signatureUnion hp
  have hq := mem_of_mem_signatureUnion hq
  have hpo := h.name_ordered hnumber hp
  have hqo := h.name_ordered hnumber hq
  obtain ⟨hle, hunlike⟩ := hvw
  have hunlike : p.transition.name.alike q.transition.name = false := by
    rwa [Value.alike_comm hpo.key hqo.key]
  obtain ⟨below, hbelow⟩ : ∃ below, p.transition.name.lt? q.transition.name = some below :=
    Signature.exists_lt?_name (h.comparable p hp q hq) hunlike
  have hne : p.transition.name.rank ≠ q.transition.name.rank := fun heq => by
    rw [(hpo.alike_iff hqo).2 heq] at hunlike
    cases hunlike
  -- names that are not alike and do not fall rise
  rw [hbelow, (hpo.lt?_eq_some_iff hqo hbelow).2 (lt_of_le_of_ne hle hne)]

end Names

end StateMachine
