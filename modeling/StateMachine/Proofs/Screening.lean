import Mathlib.Data.List.TakeWhile
import StateMachine.Expression.Screen

/-!
# Screening

What the screen lets pass. A pattern is looked for at every place of a text, so it
is found exactly if the text is made up of what comes before such a place, what
the pattern describes, and anything (`occurs_iff`). A text passes exactly if it
imports nothing (`Imports`), asks for no hidden attribute directly after a dot
(`ReachesHidden`), and calls none of the restricted functions but those whose
names are known, whatever blanks stand before the parenthesis (`Calls`)
(`objection?_eq_none_iff`).

So what passes is harmless, and remains so when more names are known
(`passed_text_is_harmless`). Blanks are not looked through between the dot and the
name of an attribute, though: a hidden attribute that is asked for across blanks
passes (`spaced_class_passes`).
-/

namespace StateMachine.Screen

/-! ## Looking at every place -/

variable {α : Type}

theorem firstMatch_eq_none_iff {pattern : Option Char → List Char → Option α}
    {before : Option Char} {cs : List Char} :
    firstMatch pattern before cs = none ↔
      ∀ l r, cs = l ++ r → pattern (l.getLast?.or before) r = none := by
  induction cs generalizing before with
  | nil =>
    rw [firstMatch]
    constructor
    · intro h l r hlr
      obtain ⟨rfl, rfl⟩ := List.append_eq_nil_iff.1 hlr.symm
      exact h
    · exact fun h => h [] [] rfl
  | cons c cs ih =>
    rw [firstMatch, Option.orElse_eq_orElse, Option.orElse_eq_or, Option.or_eq_none_iff, ih]
    constructor
    · rintro ⟨hhere, hlater⟩ l r hlr
      cases l with
      | nil =>
        obtain rfl : c :: cs = r := hlr
        exact hhere
      | cons d l =>
        -- the character before a later place is the last of `l`, or the one that was passed
        obtain ⟨rfl, rfl⟩ := List.cons.inj hlr
        have h := hlater l r rfl
        rw [List.getLast?_cons]
        cases hlast : l.getLast? <;> simpa [hlast] using h
    · intro h
      refine ⟨h [] (c :: cs) rfl, fun l r hlr => ?_⟩
      have h := h (c :: l) r (by rw [hlr, List.cons_append])
      rw [List.getLast?_cons] at h
      cases hlast : l.getLast? <;> simpa [hlast] using h

/-- A pattern occurs in a text if it fits at one of its places. -/
theorem occurs_iff {pattern : Option Char → List Char → Bool} {text : List Char} :
    occurs pattern text = true ↔ ∃ l r, text = l ++ r ∧ pattern l.getLast? r = true := by
  rw [occurs, Option.isSome_iff_ne_none, Ne, firstMatch_eq_none_iff]
  simp

theorem after?_eq_some {word cs r : List Char} : after? word cs = some r ↔ cs = word ++ r := by
  rw [after?]
  constructor
  · intro h
    split at h
    · next hprefix =>
      obtain ⟨rest, rfl⟩ := List.isPrefixOf_iff_prefix.1 hprefix
      rw [List.drop_left] at h
      cases h
      rfl
    · cases h
  · rintro rfl
    rw [if_pos (List.isPrefixOf_iff_prefix.2 (List.prefix_append word r)), List.drop_left]

/-! ## What is looked for -/

/-- A word may begin after this text. -/
def WordStart (l : List Char) : Prop :=
  ∀ c ∈ l.getLast?, Text.isWordChar c = false

/-- The text is made of such characters, and there are some. -/
def Run (p : Char → Bool) (cs : List Char) : Prop :=
  cs ≠ [] ∧ ∀ c ∈ cs, p c = true

/-- The text imports something. -/
inductive Imports : List Char → Prop
  | direct {l r : List Char} {b : Char} : WordStart l → Text.isBlank b = true →
    Imports (l ++ importWord ++ b :: r)
  | of {l bs word bs' r : List Char} : WordStart l → Run Text.isBlank bs →
    Run Text.isWordChar word → Run Text.isBlank bs' →
    (∀ c ∈ r.head?, Text.isWordChar c = false) →
    Imports (l ++ fromWord ++ bs ++ word ++ bs' ++ importWord ++ r)

/-- The text asks for an attribute after a dot and `gap` the name of which begins with two
    underscores and a letter. -/
def Asks (gap text : List Char) : Prop :=
  ∃ l c r, text = l ++ ['.'] ++ gap ++ ['_', '_', c] ++ r ∧ c.isAlpha = true

/-- The text asks for an attribute right after a dot the name of which begins with two
    underscores and a letter or another underscore. -/
def ReachesHidden (text : List Char) : Prop :=
  ∃ l c r, text = l ++ ['.', '_', '_', c] ++ r ∧ isAttributeChar c = true

/-- The text calls the function: its name is not part of a longer one and not after a dot, and
    a parenthesis opens after it, with blanks between or not. -/
def Calls (function : String) (text : List Char) : Prop :=
  ∃ l blanks r, text = l ++ function.toList ++ blanks ++ ['('] ++ r ∧
    (∀ c ∈ blanks, Text.isBlank c = true) ∧ ∀ c ∈ l.getLast?, Text.isWordChar c = false ∧ c ≠ '.'

theorem isWordStart_iff {l : List Char} : isWordStart l.getLast? = true ↔ WordStart l := by
  rw [isWordStart, WordStart]
  cases l.getLast? <;> simp

/-! ## Hidden attributes -/

theorem hiddenHere_eq_none_iff {cs : List Char} : hiddenHere cs = none ↔
    ∀ c r, cs = ['.', '_', '_', c] ++ r → isAttributeChar c = false := by
  have hmark : ".__".toList = ['.', '_', '_'] := rfl
  rw [hiddenHere, Option.bind_eq_none_iff, hmark]
  simp only [after?_eq_some]
  constructor
  · rintro h c r rfl
    have h := h (c :: r) rfl
    rw [List.takeWhile_cons] at h
    cases hc : isAttributeChar c with
    | false => rfl
    | true => simp [hc] at h
  · rintro h rest rfl
    cases rest with
    | nil => rfl
    | cons c r => simp [h c r rfl]

theorem reachesHidden_iff {text : List Char} : ReachesHidden text ↔
    firstMatch (fun _ cs => hiddenHere cs) none text ≠ none := by
  rw [Ne, firstMatch_eq_none_iff]
  simp only [hiddenHere_eq_none_iff, ReachesHidden]
  constructor
  · rintro ⟨l, c, r, rfl, hc⟩ h
    rw [h l _ (List.append_assoc ..) c r rfl] at hc
    cases hc
  · intro h
    refine Classical.byContradiction fun hnone => h fun l cs hlcs c r hcs => ?_
    subst hlcs hcs
    exact Bool.eq_false_iff.2 fun hc => hnone ⟨l, c, r, (List.append_assoc ..).symm, hc⟩

theorem Asks.reachesHidden {text : List Char} (h : Asks [] text) : ReachesHidden text := by
  obtain ⟨l, c, r, rfl, hc⟩ := h
  exact ⟨l, c, r, by simp, by simp [isAttributeChar, hc]⟩

/-! ## Calls -/

theorem isCallStart_iff {before : Option Char} :
    (isWordStart before && before != some '.') = true ↔
      ∀ c ∈ before, Text.isWordChar c = false ∧ c ≠ '.' := by
  cases before <;> simp [isWordStart]

/-- Where a parenthesis opens after blanks. -/
theorem opens_iff {cs : List Char} : (cs.dropWhile Text.isBlank).head? = some '(' ↔
    ∃ blanks r, cs = blanks ++ ['('] ++ r ∧ ∀ c ∈ blanks, Text.isBlank c = true := by
  constructor
  · intro h
    obtain ⟨r, hr⟩ := List.head?_eq_some_iff.1 h
    refine ⟨cs.takeWhile Text.isBlank, r, ?_, fun c hc => List.mem_takeWhile_imp hc⟩
    rw [List.append_assoc, List.singleton_append, ← hr, List.takeWhile_append_dropWhile]
  · rintro ⟨blanks, r, rfl, hblanks⟩
    rw [List.append_assoc, List.dropWhile_append_of_pos hblanks]
    rfl

theorem calls_iff {function : String} {text : List Char} :
    Calls function text ↔ occurs (callsHere function) text = true := by
  simp only [occurs_iff, callsHere, Bool.and_eq_true (isWordStart _ && _), isCallStart_iff,
    Option.any_eq_true, after?_eq_some, beq_iff_eq, opens_iff]
  constructor
  · rintro ⟨l, blanks, r, rfl, hblanks, hbefore⟩
    exact ⟨l, function.toList ++ (blanks ++ ['('] ++ r), by simp, hbefore, _, rfl, blanks, r, rfl,
      hblanks⟩
  · rintro ⟨l, _, rfl, hbefore, _, rfl, blanks, r, rfl, hblanks⟩
    exact ⟨l, blanks, r, by simp only [List.append_assoc], hblanks, hbefore⟩

/-! ## Imports -/

/-- No blank stands inside a word. -/
theorem isWordChar_of_isBlank {c : Char} (h : Text.isBlank c = true) :
    Text.isWordChar c = false := by
  -- there are few blanks, and each is looked up in the ranges of word characters
  have hblanks : ∀ n ∈ List.range 0x21 ++ [0x85, 0xa0, 0x1680] ++ List.range' 0x2000 11 ++
      [0x2028, 0x2029, 0x202f, 0x205f, 0x3000],
      n ≠ 0x5f ∧ Text.inRanges Text.alphanumericRanges n = false := by decide +kernel
  have hc : c.toNat ∈ List.range 0x21 ++ [0x85, 0xa0, 0x1680] ++ List.range' 0x2000 11 ++
      [0x2028, 0x2029, 0x202f, 0x205f, 0x3000] := by
    simp only [Text.isBlank, Bool.or_eq_true, Bool.and_eq_true, decide_eq_true_eq, beq_iff_eq] at h
    simp only [List.mem_append, List.mem_range, List.mem_range'_1, List.mem_cons, List.not_mem_nil]
    omega
  obtain ⟨hmark, hranges⟩ := hblanks _ hc
  have hne : c ≠ '_' := by
    rintro rfl
    exact hmark rfl
  simp [Text.isWordChar, hne, hranges]

/-- What is left after a run. -/
theorem afterRun_iff {p : Char → Bool} {cs r : List Char} :
    (if cs.head?.any p then some (cs.dropWhile p) else none) = some r ↔
      ∃ run, Run p run ∧ (∀ c ∈ r.head?, p c = false) ∧ cs = run ++ r := by
  constructor
  · intro h
    split at h
    · next hhead =>
      cases h
      refine ⟨cs.takeWhile p, ⟨?_, fun c hc => List.mem_takeWhile_imp hc⟩, fun c hc => ?_,
        List.takeWhile_append_dropWhile.symm⟩
      · cases cs with
        | nil => cases hhead
        | cons c cs => simp_all
      · have hnot := List.head?_dropWhile_not p cs
        rw [Option.mem_def.1 hc] at hnot
        exact hnot
    · cases h
  · rintro ⟨run, ⟨hne, hrun⟩, hr, rfl⟩
    obtain ⟨c, cs, rfl⟩ := List.exists_cons_of_ne_nil hne
    rw [if_pos (by simpa using hrun c List.mem_cons_self), List.dropWhile_append_of_pos hrun]
    cases r with
    | nil => rfl
    | cons d r => rw [List.dropWhile_cons_of_neg (by simp [hr d rfl])]

theorem afterBlanks?_eq_some {cs r : List Char} : afterBlanks? cs = some r ↔
    ∃ run, Run Text.isBlank run ∧ (∀ c ∈ r.head?, Text.isBlank c = false) ∧ cs = run ++ r :=
  afterRun_iff

theorem afterWord?_eq_some {cs r : List Char} : afterWord? cs = some r ↔
    ∃ run, Run Text.isWordChar run ∧ (∀ c ∈ r.head?, Text.isWordChar c = false) ∧ cs = run ++ r :=
  afterRun_iff

theorem importsHere_iff {l cs : List Char} : importsHere l.getLast? cs = true ↔
    WordStart l ∧ ∃ b r, cs = importWord ++ b :: r ∧ Text.isBlank b = true := by
  simp only [importsHere, Bool.and_eq_true, isWordStart_iff, Option.any_eq_true, after?_eq_some]
  refine and_congr_right fun _ => ?_
  constructor
  · rintro ⟨rest, rfl, hblank⟩
    cases rest with
    | nil => cases hblank
    | cons b r => exact ⟨b, r, rfl, hblank⟩
  · rintro ⟨b, r, rfl, hb⟩
    exact ⟨b :: r, rfl, hb⟩

/-- The first character of a run, and of what follows it. -/
theorem Run.of_mem_head? {p : Char → Bool} {run r : List Char} (h : Run p run) {c : Char}
    (hc : c ∈ (run ++ r).head?) : p c = true := by
  obtain ⟨d, ds, rfl⟩ := List.exists_cons_of_ne_nil h.1
  obtain rfl : d = c := Option.some.inj hc
  exact h.2 d List.mem_cons_self

theorem importsFromHere_iff {l cs : List Char} : importsFromHere l.getLast? cs = true ↔
    WordStart l ∧ ∃ bs word bs' r, cs = fromWord ++ (bs ++ (word ++ (bs' ++ (importWord ++ r)))) ∧
      Run Text.isBlank bs ∧ Run Text.isWordChar word ∧ Run Text.isBlank bs' ∧
      ∀ c ∈ r.head?, Text.isWordChar c = false := by
  simp only [importsFromHere, Bool.and_eq_true, isWordStart_iff, Option.any_eq_true,
    Option.bind_eq_some_iff, after?_eq_some, afterBlanks?_eq_some, afterWord?_eq_some]
  refine and_congr_right fun _ => ?_
  have hend : ∀ r : List Char, (!r.head?.any Text.isWordChar) = true ↔
      ∀ c ∈ r.head?, Text.isWordChar c = false := by
    intro r
    cases r <;> simp
  constructor
  · rintro ⟨r, ⟨_, ⟨_, ⟨_, ⟨_, rfl, bs, hbs, -, rfl⟩, word, hword, -, rfl⟩, bs', hbs', -, rfl⟩,
      rfl⟩, hr⟩
    exact ⟨bs, word, bs', r, rfl, hbs, hword, hbs', (hend r).1 hr⟩
  · rintro ⟨bs, word, bs', r, rfl, hbs, hword, hbs', hr⟩
    -- every run ends where the next begins, as no blank stands inside a word
    refine ⟨r, ⟨_, ⟨_, ⟨_, ⟨_, rfl, bs, hbs, ?_, rfl⟩, word, hword, ?_, rfl⟩, bs', hbs', ?_, rfl⟩,
      rfl⟩, (hend r).2 hr⟩
    · intro c hc
      have hc := hword.of_mem_head? hc
      exact Bool.eq_false_iff.2 fun hblank => by
        rw [isWordChar_of_isBlank hblank] at hc
        cases hc
    · exact fun c hc => isWordChar_of_isBlank (hbs'.of_mem_head? hc)
    · intro c hc
      obtain rfl : 'i' = c := Option.some.inj hc
      decide

theorem imports_iff {text : List Char} : Imports text ↔
    occurs importsHere text = true ∨ occurs importsFromHere text = true := by
  simp only [occurs_iff, importsHere_iff, importsFromHere_iff]
  constructor
  · rintro (⟨hl, hb⟩ | ⟨hl, hbs, hword, hbs', hr⟩)
    · exact .inl ⟨_, _, List.append_assoc .., hl, _, _, rfl, hb⟩
    · exact .inr ⟨_, _, by simp only [List.append_assoc], hl, _, _, _, _, rfl, hbs, hword,
        hbs', hr⟩
  · rintro (⟨l, _, rfl, hl, b, r, rfl, hb⟩ | ⟨l, _, rfl, hl, bs, word, bs', r, rfl, hbs, hword,
      hbs', hr⟩)
    · rw [← List.append_assoc]
      exact .direct hl hb
    · simp only [← List.append_assoc]
      exact .of hl hbs hword hbs' hr

/-! ## What passes -/

/-- A text passes exactly if it imports nothing, asks for no hidden attribute right after a dot,
    and calls no restricted function whose name is not known. -/
theorem objection?_eq_none_iff {text : String} {known : List String} :
    objection? text known = none ↔ ¬Imports text.toList ∧ ¬ReachesHidden text.toList ∧
      ∀ f ∈ restricted, f ∉ known → ¬Calls f text.toList := by
  rw [objection?, imports_iff, reachesHidden_iff]
  simp only [calls_iff]
  split
  · next himports => simp_all
  · next himports =>
    split
    · next name hname => simp [hname]
    · next hname => simp_all [List.find?_eq_none]

/-- A text that passes imports nothing, asks for no hidden attribute right after a dot, and calls
    no restricted function but those whose names are known, whatever blanks stand before the
    parenthesis. It passes still when more names are known. -/
theorem passed_text_is_harmless (text : String) (known : List String)
    (h : objection? text known = none) :
    ¬Imports text.toList ∧ ¬Asks [] text.toList ∧
      (∀ f ∈ restricted, f ∉ known → ¬Calls f text.toList) ∧
      ∀ known', known ⊆ known' → objection? text known' = none := by
  obtain ⟨himports, hhidden, hcalls⟩ := objection?_eq_none_iff.1 h
  refine ⟨himports, fun hasks => hhidden hasks.reachesHidden, hcalls, fun known' hsub => ?_⟩
  exact objection?_eq_none_iff.2
    ⟨himports, hhidden, fun f hf hunknown => hcalls f hf fun hknown => hunknown (hsub hknown)⟩

/-- A door may be opened if there is a function for it, and another name does no harm. -/
theorem known_function_passes :
    objection? "open (door)" ["open"] = none ∧ Calls "open" "open (door)".toList ∧
      ¬Calls "eval" "open (door)".toList ∧
      objection? "open (door)" ["door", "open"] = none := by
  have hpasses : objection? "open (door)" ["open"] = none := by decide +kernel
  obtain ⟨-, -, hcalls, hmore⟩ := passed_text_is_harmless _ _ hpasses
  exact ⟨hpasses, ⟨[], [' '], "door)".toList, rfl, by simp [Text.isBlank], by simp⟩,
    hcalls "eval" (by simp [restricted]) (by simp), hmore _ (by simp)⟩

/-- Blanks after the dot hide a hidden attribute from the screen. -/
theorem spaced_class_passes :
    objection? "ctxt. __class__" [] = none ∧ Text.isBlank ' ' = true ∧
      Asks [' '] "ctxt. __class__".toList ∧
      objection? "ctxt.__class__" [] = some (.hidden "class__") :=
  ⟨by decide +kernel, rfl, ⟨"ctxt".toList, 'c', "lass__".toList, rfl, rfl⟩, by decide +kernel⟩

end StateMachine.Screen
