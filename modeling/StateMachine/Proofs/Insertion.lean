import Mathlib.Order.Lattice
import StateMachine.Proofs.TransitionNames

/-!
# Sorting by insertion

Signatures that hold the number that is none are sorted by insertion, with a comparison
that is no order. The items may still have keys that the comparison does not contradict
(`Follows`), as signatures have their names. Then the keys rise in what is sorted
(`inserted_rising`): the run it begins with rises, and an item is put where none before
it has a greater key and none after it a lesser one (`position_parts`).
-/

namespace StateMachine

variable {α β : Type} [LinearOrder β] {lt : α → α → Bool} {key : α → β} {P : α → Prop}

/-- Among the items with a property, the comparison does not contradict the order of keys. -/
structure Follows (lt : α → α → Bool) (key : α → β) (P : α → Prop) : Prop where
  le : ∀ {x y}, P x → P y → lt x y = true → key x ≤ key y
  ge : ∀ {x y}, P x → P y → lt x y = false → key y ≤ key x

/-- The keys of the items rise. -/
def Rising (key : α → β) (items : List α) : Prop :=
  items.Pairwise fun x y => key x ≤ key y

section Runs

variable {x : α} {ys : List α}

theorem risingRun_rising (h : Follows lt key P) (hx : P x) (hys : ∀ y ∈ ys, P y) :
    (∀ z ∈ (risingRun lt x ys).1, key x ≤ key z) ∧ Rising key (risingRun lt x ys).1 := by
  induction ys generalizing x with
  | nil => simp [risingRun, Rising]
  | cons y ys ih =>
    obtain ⟨hy, hys⟩ := List.forall_mem_cons.1 hys
    rw [risingRun]
    split
    · simp [Rising]
    · next hlt =>
      have hxy := h.ge hy hx (Bool.eq_false_iff.2 hlt)
      obtain ⟨hle, hrising⟩ := ih hy hys
      have hle : ∀ z ∈ (risingRun lt y ys).1, key x ≤ key z := fun z hz => hxy.trans (hle z hz)
      exact ⟨List.forall_mem_cons.2 ⟨le_rfl, hle⟩, .cons hle hrising⟩

/-- The run in reverse rises. -/
theorem fallingRun_falling (h : Follows lt key P) (hx : P x) (hys : ∀ y ∈ ys, P y) :
    (∀ z ∈ (fallingRun lt x ys).1, key z ≤ key x) ∧
      (fallingRun lt x ys).1.Pairwise fun x y => key y ≤ key x := by
  induction ys generalizing x with
  | nil => simp [fallingRun]
  | cons y ys ih =>
    obtain ⟨hy, hys⟩ := List.forall_mem_cons.1 hys
    rw [fallingRun]
    split
    · next hlt =>
      have hyx := h.le hy hx hlt
      obtain ⟨hle, hfalling⟩ := ih hy hys
      have hle : ∀ z ∈ (fallingRun lt y ys).1, key z ≤ key x := fun z hz => (hle z hz).trans hyx
      exact ⟨List.forall_mem_cons.2 ⟨le_rfl, hle⟩, .cons hle hfalling⟩
    · simp

end Runs

section Insertion

variable {items : List α} {x : α}

/-- At its position, an item has no greater key before it and no lesser one after it. The
    search is between `low` and `high`, outside of which this is known. -/
theorem position_parts (h : Follows lt key P) (hx : P x) (hitems : ∀ y ∈ items, P y)
    (hrising : Rising key items) {fuel low high : Nat} (hfuel : high - low < fuel)
    (hlow : low ≤ high) (hhigh : high ≤ items.length)
    (hbefore : ∀ y ∈ items.take low, key y ≤ key x)
    (hafter : ∀ y ∈ items.drop high, key x ≤ key y) :
    (∀ y ∈ items.take (position lt x items fuel low high), key y ≤ key x) ∧
      ∀ y ∈ items.drop (position lt x items fuel low high), key x ≤ key y := by
  induction fuel generalizing low high with
  | zero => omega
  | succ fuel ih =>
    rw [position]
    split
    · next hdone =>
      obtain rfl : low = high := by omega
      exact ⟨hbefore, hafter⟩
    · next hmore =>
      have hmiddle : (low + high) / 2 < items.length := by omega
      generalize hn : (low + high) / 2 = n at hmiddle ⊢
      have hy : P items[n] := hitems _ (List.getElem_mem hmiddle)
      -- the items are those before the middle, that in the middle, and those after it
      have hsplit : Rising key (items.take n ++ items[n] :: items.drop (n + 1)) := by
        rwa [← List.drop_eq_getElem_cons hmiddle, List.take_append_drop]
      obtain ⟨-, hright, hcross⟩ := List.pairwise_append.1 hsplit
      simp only [List.getElem?_eq_getElem hmiddle]
      split
      · next hlt =>
        have hxy := h.le hx hy hlt
        refine ih (by omega) (by omega) (by omega) hbefore ?_
        rw [List.drop_eq_getElem_cons hmiddle]
        exact List.forall_mem_cons.2
          ⟨hxy, fun z hz => hxy.trans ((List.pairwise_cons.1 hright).1 z hz)⟩
      · next hlt =>
        have hyx := h.ge hx hy (Bool.eq_false_iff.2 hlt)
        refine ih (by omega) (by omega) (by omega) ?_ hafter
        rw [List.take_succ_eq_append_getElem hmiddle]
        refine List.forall_mem_append.2 ⟨fun z hz => ?_, List.forall_mem_singleton.2 hyx⟩
        exact (hcross z hz _ List.mem_cons_self).trans hyx

/-- Putting an item at its position keeps keys rising. -/
theorem insertAtPosition_rising (h : Follows lt key P) (hx : P x) (hitems : ∀ y ∈ items, P y)
    (hrising : Rising key items) : Rising key (insertAtPosition lt items x) := by
  rw [insertAtPosition]
  obtain ⟨hbefore, hafter⟩ :=
    position_parts h hx hitems hrising (Nat.lt_succ_self (items.length - 0))
      (Nat.zero_le items.length) (Nat.le_refl _) (by simp) (by simp)
  rw [← List.take_append_drop (position lt x items (items.length + 1) 0 items.length) items]
    at hrising
  obtain ⟨hleft, hright, hcross⟩ := List.pairwise_append.1 hrising
  refine List.pairwise_append.2 ⟨hleft, .cons hafter hright, fun y hy z hz => ?_⟩
  rcases List.mem_cons.1 hz with rfl | hz
  · exact hbefore y hy
  · exact hcross y hy z hz

theorem foldl_insertAtPosition_rising (h : Follows lt key P) {new : List α}
    (hnew : ∀ x ∈ new, P x) (hitems : ∀ y ∈ items, P y) (hrising : Rising key items) :
    Rising key (new.foldl (insertAtPosition lt) items) := by
  induction new generalizing items with
  | nil => exact hrising
  | cons x new ih =>
    obtain ⟨hx, hnew⟩ := List.forall_mem_cons.1 hnew
    refine ih hnew (fun y hy => ?_) (insertAtPosition_rising h hx hitems hrising)
    rcases List.mem_cons.1 ((insertAtPosition_perm lt items x).mem_iff.1 hy) with rfl | hy
    · exact hx
    · exact hitems y hy

/-- In what is sorted by insertion, the keys rise. -/
theorem inserted_rising (h : Follows lt key P) (hitems : ∀ x ∈ items, P x) :
    Rising key (inserted lt items) := by
  have hparts : ∀ {run rest : List α} {items : List α}, run ++ rest = items →
      (∀ x ∈ items, P x) → (∀ x ∈ run, P x) ∧ ∀ x ∈ rest, P x := by
    rintro run rest _ rfl h
    exact List.forall_mem_append.1 h
  rcases items with _ | ⟨x, _ | ⟨y, ys⟩⟩
  · exact .nil
  · exact List.pairwise_singleton _ _
  · have hx := (List.forall_mem_cons.1 hitems).1
    have hys := (List.forall_mem_cons.1 hitems).2
    rw [inserted]
    by_cases hlt : lt y x = true
    · -- the run the items begin with falls, and is reversed
      simp only [hlt, if_true]
      obtain ⟨hrun, hrest⟩ := hparts (fallingRun_append lt x (y :: ys)) hitems
      refine foldl_insertAtPosition_rising h hrest (fun z hz => hrun z (List.mem_reverse.1 hz)) ?_
      exact List.pairwise_reverse.2 (fallingRun_falling h hx hys).2
    · simp only [hlt]
      obtain ⟨hrun, hrest⟩ := hparts (risingRun_append lt x (y :: ys)) hitems
      exact foldl_insertAtPosition_rising h hrest hrun (risingRun_rising h hx hys).2

end Insertion

end StateMachine
