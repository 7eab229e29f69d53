import Mathlib.Data.List.Basic
import StateMachine.Model.Transition

/-!
# The order of guards

Whether a guard has a condition is asked of its text, and a condition that is no
text cannot be asked at all. Such a condition is never blank
(`Value.isBlankText_text`), so it counts as one, and what is asked of the guards
of a transition in the order they are declared could as well be asked in the
order they are tried: the mismatch of ordering them (`orderMismatch?_eq`), the
first guard without a condition (`unconditional?_eq`), and the mismatch of
looking for it (`orderMismatch?_of_unconditionalMismatch?`).
-/

namespace StateMachine

/-! ## Conditions that are no texts -/

namespace Text

theorem isBlankText_append (s t : String) :
    isBlankText (s ++ t) = (isBlankText s && isBlankText t) := by
  rw [isBlankText, String.toList_append, List.all_append]
  rfl

theorem isBlankText_repr (n : Nat) : isBlankText n.repr = false := by
  have hdigit : ∀ c : Char, c.isDigit = true → isBlank c = false := by
    intro c hc
    simp only [Char.isDigit, Bool.and_eq_true, decide_eq_true_eq, UInt32.le_iff_toNat_le] at hc
    have hlow : 48 ≤ c.toNat := hc.1
    have hhigh : c.toNat ≤ 57 := hc.2
    simp only [isBlank, Bool.or_eq_false_iff, Bool.and_eq_false_iff, decide_eq_false_iff_not,
      beq_eq_false_iff_ne]
    omega
  obtain ⟨c, cs, hcs⟩ := List.exists_cons_of_ne_nil (Nat.toDigits_ne_nil (n := n) (b := 10))
  have hc : c.isDigit = true :=
    Nat.isDigit_of_mem_toDigits (by decide) (by decide) (hcs ▸ List.mem_cons_self)
  rw [isBlankText, Nat.repr, String.toList_ofList, hcs, List.all_cons, hdigit c hc, Bool.false_and]

end Text

/-- A number in decimal notation shows a point or an exponent. -/
theorem Binary64.isBlankText_decimalText (d : Decimal) :
    Text.isBlankText (decimalText d) = false := by
  have hpoint : Text.isBlankText "0." = false ∧ Text.isBlankText ".0" = false ∧
      Text.isBlankText "." = false ∧ Text.isBlankText "e" = false := by decide
  simp only [decimalText]
  split
  · split
    · simp [Text.isBlankText_append, hpoint]
    · split <;> simp [Text.isBlankText_append, hpoint]
  · simp [Text.isBlankText_append, hpoint]

/-- The text of a value that is no text is never blank. -/
theorem Value.isBlankText_text {v : Value} (h : v.isText = false) :
    Text.isBlankText v.text = false := by
  have hword : Text.isBlankText "0.0" = false ∧ Text.isBlankText "inf" = false ∧
      Text.isBlankText "[" = false ∧ Text.isBlankText "\x7b" = false := by decide
  cases v with
  | null => decide
  | bool b => cases b <;> decide
  | int i =>
    rcases i with n | n
    · exact Text.isBlankText_repr n
    · change Text.isBlankText ("-" ++ n.succ.repr) = false
      rw [Text.isBlankText_append, Text.isBlankText_repr, Bool.and_false]
  | float x =>
    change Text.isBlankText x.text = false
    cases x with
    | finite negative m e =>
      rw [Binary64.text, Binary64.textWith, Text.isBlankText_append, Bool.and_eq_false_iff]
      right
      split
      · exact hword.1
      · exact Binary64.isBlankText_decimalText _
    | infinite negative =>
      rw [Binary64.text, Binary64.textWith, Text.isBlankText_append, hword.2.1, Bool.and_false]
    | nan => decide
  | str s => cases h
  | list items => simp [text, literal, Text.isBlankText_append, hword]
  | object members => simp [text, literal, Text.isBlankText_append, hword]

/-- A guard without a condition has a text for it. -/
theorem Guard.conditionMismatch?_of_not_hasCondition {g : Guard} (h : g.hasCondition = false) :
    g.conditionMismatch? = none := by
  rw [conditionMismatch?, Value.textMismatch?]
  split
  · rfl
  · next htext =>
    rw [hasCondition, Value.isBlankText_text (Bool.eq_false_iff.2 htext)] at h
    cases h

/-! ## Transitions -/

namespace Transition

variable (t : Transition)

theorem length_ordered : t.ordered.length = t.guards.length := by
  rw [ordered, List.length_append]
  exact (List.length_eq_length_filter_add Guard.hasCondition).symm

/-- The guards that are tried last are all without a condition, so what is wrong with
    ordering them is wrong with the ordered ones. -/
theorem orderMismatch?_eq : t.orderMismatch? = t.ordered.findSome? Guard.conditionMismatch? := by
  have hlast : (t.guards.filter fun g => !g.hasCondition).findSome? Guard.conditionMismatch? =
      none := by
    refine List.findSome?_eq_none_iff.2 fun g hg => ?_
    exact g.conditionMismatch?_of_not_hasCondition (by simpa using (List.mem_filter.1 hg).2)
  rw [orderMismatch?, ordered, List.findSome?_append, hlast, Option.or_none]
  induction t.guards with
  | nil => rfl
  | cons g gs ih =>
    by_cases hg : g.hasCondition = true
    · rw [List.filter_cons_of_pos hg, List.findSome?_cons, List.findSome?_cons, ih]
    · rw [List.filter_cons_of_neg hg, List.findSome?_cons, ih,
        g.conditionMismatch?_of_not_hasCondition (Bool.eq_false_iff.2 hg)]

theorem unconditional?_eq : t.unconditional? = t.ordered.find? fun g => !g.hasCondition := by
  have hfirst : (t.guards.filter Guard.hasCondition).find? (fun g => !g.hasCondition) = none :=
    List.find?_eq_none.2 fun g hg => by simpa using (List.mem_filter.1 hg).2
  rw [ordered, List.find?_append, hfirst, Option.none_or, List.find?_filter, unconditional?]
  simp

/-- Looking for a guard without a condition meets what is wrong with ordering the guards, or
    nothing. -/
theorem orderMismatch?_of_unconditionalMismatch? {e : Mismatch}
    (h : t.unconditionalMismatch? = some e) : t.orderMismatch? = some e := by
  rw [unconditionalMismatch?] at h
  rw [orderMismatch?]
  generalize t.guards = gs at h ⊢
  induction gs with
  | nil => cases h
  | cons g gs ih =>
    rw [List.find?_cons] at h
    rw [List.findSome?_cons]
    split at h
    · rw [show g.conditionMismatch? = some e from h]
    · next hg =>
      have htext : g.condition.isText = true := by
        rw [Bool.or_eq_false_iff, Bool.not_eq_false'] at hg
        exact hg.1
      rw [Guard.conditionMismatch?, Value.textMismatch?, if_pos htext]
      exact ih h

end Transition

end StateMachine
