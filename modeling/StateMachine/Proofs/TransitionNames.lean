import Mathlib.Data.List.Induction
import StateMachine.Generate.ClassTable
import StateMachine.Proofs.Keys

/-!
# The names of transitions

The transitions of a machine are collected by their signatures and sorted, and
their names are collected from these.

* Nothing is added on the way (`mem_of_mem_signatureUnion`), and no name gets
  lost, except for `Default` (`any_transitionNames`).
* So a name is collected if and only if it is not `Default` and some transition
  has it (`any_transitionNames_iff`).
-/

namespace StateMachine

/-! ## Signatures -/

section Sorting

variable {α : Type} (lt : α → α → Bool)

theorem risingRun_append (x : α) (ys : List α) :
    (risingRun lt x ys).1 ++ (risingRun lt x ys).2 = x :: ys := by
  induction ys generalizing x with
  | nil => rfl
  | cons y ys ih =>
    rw [risingRun]
    split
    · rfl
    · exact congrArg (x :: ·) (ih y)

theorem fallingRun_append (x : α) (ys : List α) :
    (fallingRun lt x ys).1 ++ (fallingRun lt x ys).2 = x :: ys := by
  induction ys generalizing x with
  | nil => rfl
  | cons y ys ih =>
    rw [fallingRun]
    split
    · exact congrArg (x :: ·) (ih y)
    · rfl

theorem insertAtPosition_perm (items : List α) (x : α) :
    (insertAtPosition lt items x).Perm (x :: items) := by
  rw [insertAtPosition]
  refine List.perm_middle.trans (.cons x ?_)
  rw [List.take_append_drop]

theorem foldl_insertAtPosition_perm (items new : List α) :
    (new.foldl (insertAtPosition lt) items).Perm (items ++ new) := by
  induction new generalizing items with
  | nil => rw [List.foldl_nil, List.append_nil]
  | cons y ys ih =>
    rw [List.foldl_cons]
    exact (ih _).trans (((insertAtPosition_perm lt items y).append_right ys).trans
      List.perm_middle.symm)

/-- Sorting by insertion rearranges the items. -/
theorem inserted_perm (items : List α) : (inserted lt items).Perm items := by
  rcases items with _ | ⟨x, _ | ⟨y, ys⟩⟩
  · exact .refl _
  · exact .refl _
  · rw [inserted]
    by_cases hlt : lt y x = true
    · simp only [hlt, if_true]
      refine (foldl_insertAtPosition_perm lt _ _).trans ?_
      refine ((List.reverse_perm _).append_right _).trans ?_
      rw [fallingRun_append lt x (y :: ys)]
    · simp only [hlt]
      refine (foldl_insertAtPosition_perm lt _ _).trans ?_
      exact .of_eq (risingRun_append lt x (y :: ys))

end Sorting

/-- The union of signatures is the first transition of each signature,
    rearranged. -/
theorem signatureUnion_perm (ps : List Placed) : (signatureUnion ps).Perm (firstOfEach ps) := by
  rw [signatureUnion]
  split
  · exact inserted_perm _ _
  · exact List.mergeSort_perm _ _

theorem mem_of_mem_firstOfEach {ps : List Placed} {q : Placed} (h : q ∈ firstOfEach ps) :
    q ∈ ps := by
  induction ps with
  | nil => exact h
  | cons p ps ih =>
    rcases List.mem_cons.1 h with rfl | h
    · exact List.mem_cons_self
    · exact List.mem_cons_of_mem _ (ih (List.mem_filter.1 h).1)

/-- The union of signatures adds no transitions. -/
theorem mem_of_mem_signatureUnion {ps : List Placed} {q : Placed} (h : q ∈ signatureUnion ps) :
    q ∈ ps :=
  mem_of_mem_firstOfEach ((signatureUnion_perm ps).mem_iff.1 h)

/-- All the transitions have names that serve as keys. -/
def KeyNames (ps : List Placed) : Prop :=
  ∀ q ∈ ps, q.transition.name.isKey = true

/-- Every transition has one of its name among the first of each signature. -/
theorem exists_mem_firstOfEach {ps : List Placed} (hkeys : KeyNames ps) {q : Placed} (hq : q ∈ ps) :
    ∃ q' ∈ firstOfEach ps, q.transition.name.alike q'.transition.name = true := by
  induction ps with
  | nil => cases hq
  | cons p ps ih =>
    have hrest : KeyNames ps := fun q hq => hkeys q (List.mem_cons_of_mem _ hq)
    rcases List.mem_cons.1 hq with rfl | hq
    · exact ⟨q, List.mem_cons_self, Value.alike_self (hkeys q List.mem_cons_self)⟩
    · obtain ⟨q', hq', hname⟩ := ih hrest hq
      by_cases hsame : q'.transition.signature.alike p.transition.signature = true
      · -- the one found later has given way to `p`
        have hp : q'.transition.name.alike p.transition.name = true := by
          rw [Signature.alike, Bool.and_eq_true] at hsame
          exact hsame.1
        exact ⟨p, List.mem_cons_self, Value.alike_trans (hrest q hq)
          (hrest q' (mem_of_mem_firstOfEach hq')) (hkeys p List.mem_cons_self) hname hp⟩
      · exact ⟨q', List.mem_cons_of_mem _ (List.mem_filter.2 ⟨hq', by simpa using hsame⟩), hname⟩

/-! ## Names -/

/-- The names with that of one more transition, if it is a new one. -/
theorem transitionNames_append_singleton (ps : List Placed) (p : Placed) :
    transitionNames (ps ++ [p]) =
      if p.transition.name == .str defaultName || (transitionNames ps).any p.transition.name.alike
        then transitionNames ps
      else transitionNames ps ++ [p.transition.name] := by
  rw [transitionNames, List.foldl_append]
  rfl

/-- Only names of transitions are collected, and `Default` is not. -/
theorem exists_of_mem_transitionNames {union : List Placed} {name : Value}
    (h : name ∈ transitionNames union) :
    name ≠ .str defaultName ∧ ∃ q ∈ union, q.transition.name = name := by
  induction union using List.reverseRecOn with
  | nil => cases h
  | append_singleton ps p ih =>
    have hearlier : name ∈ transitionNames ps →
        name ≠ .str defaultName ∧ ∃ q ∈ ps ++ [p], q.transition.name = name := by
      intro h
      obtain ⟨hname, q, hq, heq⟩ := ih h
      exact ⟨hname, q, List.mem_append_left _ hq, heq⟩
    rw [transitionNames_append_singleton] at h
    split at h
    · exact hearlier h
    · next hnew =>
      rcases List.mem_append.1 h with h | h
      · exact hearlier h
      · have heq := List.mem_singleton.1 h
        refine ⟨fun hdefault => hnew ?_, p, List.mem_append_right _ List.mem_cons_self, heq.symm⟩
        rw [← heq, hdefault]
        rfl

/-- The name of a transition, other than `Default`, is among the names of the
    union. -/
theorem any_transitionNames {union : List Placed} {q : Placed} (hq : q ∈ union)
    (hkey : q.transition.name.isKey = true) (hname : q.transition.name ≠ .str defaultName) :
    (transitionNames union).any q.transition.name.alike = true := by
  induction union using List.reverseRecOn with
  | nil => cases hq
  | append_singleton ps p ih =>
    rw [transitionNames_append_singleton]
    rcases List.mem_append.1 hq with hq | hq
    · -- names that were collected stay
      split
      · exact ih hq
      · rw [List.any_append, ih hq, Bool.true_or]
    · obtain rfl := List.mem_singleton.1 hq
      rw [Bool.eq_false_iff.2 fun h => hname (Value.beq_str_iff.1 h), Bool.false_or]
      split
      · next h => exact h
      · rw [List.any_append, List.any_cons, Value.alike_self hkey, Bool.true_or, Bool.or_true]

/-- A name is collected from transitions if it is not `Default` and one of them has
    it. -/
theorem any_transitionNames_iff {ps : List Placed} (hkeys : KeyNames ps) {name : Value} :
    (transitionNames (signatureUnion ps)).any name.alike = true ↔
      name ≠ .str defaultName ∧ ∃ q ∈ ps, name.alike q.transition.name = true := by
  have hunion : ∀ {n}, n ∈ transitionNames (signatureUnion ps) →
      n ≠ .str defaultName ∧ n.isKey = true ∧ ∃ q ∈ ps, q.transition.name = n := by
    intro n hn
    obtain ⟨hne, q, hq, rfl⟩ := exists_of_mem_transitionNames hn
    have hq := mem_of_mem_signatureUnion hq
    exact ⟨hne, hkeys q hq, q, hq, rfl⟩
  rw [List.any_eq_true]
  constructor
  · rintro ⟨n, hn, hname⟩
    obtain ⟨hne, -, q, hq, rfl⟩ := hunion hn
    refine ⟨?_, q, hq, hname⟩
    rintro rfl
    exact hne (Value.str_alike_iff.1 hname)
  · rintro ⟨hne, q, hq, hname⟩
    -- `q` is represented in the union by some `q'`, and the name of this by some `n`
    obtain ⟨q', hq', hname'⟩ := exists_mem_firstOfEach hkeys hq
    have hq'ps := mem_of_mem_firstOfEach hq'
    have hkey := (Value.isKey_congr hname).trans (hkeys q hq)
    have hlike := Value.alike_trans hkey (hkeys q hq) (hkeys q' hq'ps) hname hname'
    have hdefault : q'.transition.name ≠ .str defaultName := by
      intro h
      rw [h] at hlike
      exact hne (Value.alike_str_iff.1 hlike)
    obtain ⟨n, hn, hn'⟩ := List.any_eq_true.1 (any_transitionNames
      ((signatureUnion_perm ps).mem_iff.2 hq') (hkeys q' hq'ps) hdefault)
    exact ⟨n, hn, Value.alike_trans hkey (hkeys q' hq'ps) (hunion hn).2.1 hlike hn'⟩

end StateMachine
