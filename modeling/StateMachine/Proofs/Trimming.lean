import Mathlib.Data.List.DropRight
import Mathlib.Data.List.TakeWhile
import StateMachine.Text.Blank

/-!
# Trimmed texts

What is trimmed of a text stands at its ends (`Text.exists_eq_append_trimBy`), so one that begins
and ends with characters that are kept is trimmed already (`Text.trimBy_eq_self`), and a trimmed
text does so (`Text.head?_trimBy`, `Text.getLast?_trimBy`).
-/

namespace StateMachine.Text

variable {p : Char → Bool} {cs lead trail : List Char}

/-- The text before what is dropped at the end. -/
theorem dropEndWhile_eq_rdropWhile (p : Char → Bool) (cs : List Char) :
    dropEndWhile p cs = cs.rdropWhile p :=
  rfl

theorem exists_eq_append_trimBy (p : Char → Bool) (cs : List Char) :
    ∃ lead trail, cs = lead ++ (trimBy p cs ++ trail) ∧ (∀ c ∈ lead, p c = true) ∧
      ∀ c ∈ trail, p c = true := by
  refine ⟨cs.takeWhile p, (cs.dropWhile p).rtakeWhile p, ?_,
    fun c hc => List.mem_takeWhile_imp hc, fun c hc => List.mem_rtakeWhile_imp hc⟩
  rw [trimBy, dropEndWhile_eq_rdropWhile, List.rdropWhile_append_rtakeWhile,
    List.takeWhile_append_dropWhile]

theorem head?_trimBy (p : Char → Bool) (cs : List Char) :
    ∀ c ∈ (trimBy p cs).head?, p c = false := by
  intro c hc
  obtain ⟨rest, hrest⟩ := List.rdropWhile_prefix p (cs.dropWhile p)
  have hhead : (cs.dropWhile p).head? = some c := by
    rw [← hrest, List.head?_append, ← dropEndWhile_eq_rdropWhile]
    exact congrArg (Option.or · rest.head?) hc
  have hnot := List.head?_dropWhile_not p cs
  rwa [hhead] at hnot

theorem getLast?_trimBy (p : Char → Bool) (cs : List Char) :
    ∀ c ∈ (trimBy p cs).getLast?, p c = false := by
  intro c hc
  obtain ⟨hne, rfl⟩ := List.mem_getLast?_eq_getLast hc
  exact Bool.eq_false_iff.2 (List.rdropWhile_last_not p _ hne)

theorem dropWhile_eq_self (h : ∀ c ∈ cs.head?, p c = false) : cs.dropWhile p = cs := by
  cases cs with
  | nil => rfl
  | cons c cs => rw [List.dropWhile_cons, h c rfl, if_neg Bool.false_ne_true]

theorem trimBy_eq_self (hhead : ∀ c ∈ cs.head?, p c = false)
    (hlast : ∀ c ∈ cs.getLast?, p c = false) : trimBy p cs = cs := by
  rw [trimBy, dropWhile_eq_self hhead, dropEndWhile_eq_rdropWhile, List.rdropWhile_eq_self_iff]
  intro hne
  rw [hlast _ (List.getLast?_eq_getLast_of_ne_nil hne)]
  exact Bool.false_ne_true

theorem trimBy_trimBy (p : Char → Bool) (cs : List Char) :
    trimBy p (trimBy p cs) = trimBy p cs :=
  trimBy_eq_self (head?_trimBy p cs) (getLast?_trimBy p cs)

theorem trimBy_append_left (h : ∀ c ∈ lead, p c = true) : trimBy p (lead ++ cs) = trimBy p cs := by
  rw [trimBy, List.dropWhile_append_of_pos h]
  rfl

theorem trimBy_append_right (h : ∀ c ∈ trail, p c = true) :
    trimBy p (cs ++ trail) = trimBy p cs := by
  have hdrop : ∀ ds : List Char, dropEndWhile p (ds ++ trail) = dropEndWhile p ds := by
    intro ds
    rw [dropEndWhile, List.reverse_append,
      List.dropWhile_append_of_pos fun c hc => h c (List.mem_reverse.1 hc)]
    rfl
  rw [trimBy, List.dropWhile_append]
  split
  · next hempty =>
    rw [trimBy, List.isEmpty_iff.1 hempty, List.dropWhile_eq_nil_iff.2 h]
  · exact hdrop _

/-- A text that begins with a character that is kept is trimmed at its end only. -/
theorem trimBy_prefix (h : ∀ c ∈ cs.head?, p c = false) : trimBy p cs <+: cs := by
  rw [trimBy, dropWhile_eq_self h, dropEndWhile_eq_rdropWhile]
  exact List.rdropWhile_prefix p cs

/-- A text that ends with a character that is kept is trimmed at its beginning only. -/
theorem trimBy_suffix (h : ∀ c ∈ cs.getLast?, p c = false) : trimBy p cs <:+ cs := by
  obtain ⟨lead, trail, hcs, -, htrail⟩ := exists_eq_append_trimBy p cs
  have hnil : trail = [] := by
    rcases List.eq_nil_or_concat trail with hnil | ⟨front, c, rfl⟩
    · exact hnil
    · have hlast := h c (by rw [hcs]; simp)
      have hdropped := htrail c (by simp)
      exact absurd (hlast.symm.trans hdropped) Bool.false_ne_true
  rw [hnil, List.append_nil] at hcs
  exact ⟨lead, hcs.symm⟩

/-- A text is trimmed to nothing if nothing in it is kept. -/
theorem trimBy_eq_nil_iff : trimBy p cs = [] ↔ ∀ c ∈ cs, p c = true := by
  constructor
  · intro h c hc
    obtain ⟨lead, trail, hcs, hlead, htrail⟩ := exists_eq_append_trimBy p cs
    rw [hcs, h, List.nil_append, List.mem_append] at hc
    exact hc.elim (hlead c) (htrail c)
  · intro h
    rw [trimBy, List.dropWhile_eq_nil_iff.2 h]
    rfl

theorem forall_mem_space_isBlank : ∀ c ∈ [' '], isBlank c = true :=
  List.forall_mem_singleton.2 (by decide)

/-- A text is trimmed to nothing exactly if it is blank. -/
theorem trim_eq_empty_iff {s : String} : trim s = "" ↔ isBlankText s = true := by
  rw [trim, onChars, ← String.toList_inj, String.toList_ofList, isBlankText, List.all_eq_true]
  exact trimBy_eq_nil_iff

end StateMachine.Text
