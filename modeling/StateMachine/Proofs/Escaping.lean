import Mathlib.Data.List.Basic
import StateMachine.Generate.Diagram

/-!
# Escaped texts

A text is written in a record label with a backslash before every character that
means something there. This is done in one pass after the other, each of which
replaces one character in the whole text; but it comes to writing every character
by itself (`escapeRecordChars_eq`), as the backslash is replaced first.

What is written is read in *glyphs*, from left to right: a character by itself, or
one after a backslash that escapes it. The characters of a text come back
(`readGlyphs_flatMap`), and those that mean something are all escaped. So a text
adds no mark to the structure of a label: the label of a state has the marks of its
layout, whatever the texts in it (`openMarks_stateLabel`).

* `record_escaping_is_decodable`: all this together.
-/

namespace StateMachine

namespace Text

/-! ## One pass -/

/-- The characters that are escaped in a record label, in the order of the passes. -/
def recordEscapes : List Char :=
  backslash :: doubleQuote :: recordMarks

/-- How a character is written where `xs` are escaped. -/
def escapedChar (xs : List Char) (c : Char) : List Char :=
  if c ∈ xs then [backslash, c] else [c]

/-- Replacing a character is done character by character. -/
theorem replaceAll_singleton (x : Char) (new cs : List Char) :
    replaceAll [x] new cs = cs.flatMap fun c => if c = x then new else [c] := by
  rw [replaceAll]
  induction cs with
  | nil => rfl
  | cons c cs ih =>
    rw [replaceAfter, List.flatMap_cons, ← ih]
    by_cases hc : c = x
    · simp [List.isPrefixOf, hc]
    · simp [List.isPrefixOf, hc, Ne.symm hc]

/-- A pass is a replacement in the whole text. -/
theorem protect_eq_replaceAll (x : Char) (cs : List Char) :
    protect x cs = replaceAll [x] [backslash, x] cs := by
  rw [replaceAll_singleton, protect]
  refine List.flatMap_congr fun c _ => ?_
  split
  · next h => rw [h]
  · rfl

/-- A text is escaped in passes, each of which replaces one character. -/
theorem escapeRecordChars_eq_foldl (cs : List Char) :
    escapeRecordChars cs =
      recordEscapes.foldl (fun t x => replaceAll [x] [backslash, x] t) cs := by
  simp only [← protect_eq_replaceAll]
  rfl

/-- A further pass does not meet the backslashes of those before it. -/
theorem protect_flatMap {xs : List Char} {x : Char} (hback : x ≠ backslash) (hx : x ∉ xs)
    (cs : List Char) :
    protect x (cs.flatMap (escapedChar xs)) = cs.flatMap (escapedChar (xs ++ [x])) := by
  rw [protect, List.flatMap_assoc]
  refine List.flatMap_congr fun c _ => ?_
  by_cases hc : c ∈ xs
  · have hne : c ≠ x := by
      rintro rfl
      exact hx hc
    simp [escapedChar, hc, hne, hback.symm]
  · simp [escapedChar, hc]

theorem foldl_protect {xs ys : List Char} (hback : backslash ∉ ys) (hnodup : (xs ++ ys).Nodup)
    (cs : List Char) :
    ys.foldl (fun t x => protect x t) (cs.flatMap (escapedChar xs)) =
      cs.flatMap (escapedChar (xs ++ ys)) := by
  induction ys generalizing xs with
  | nil => rw [List.append_nil, List.foldl_nil]
  | cons y ys ih =>
    -- the character of this pass is not one of those before it, nor the backslash
    obtain ⟨hy, hys⟩ := not_or.1 (mt List.mem_cons.2 hback)
    have hnew : y ∉ xs := fun h => (List.nodup_append.1 hnodup).2.2 y h y List.mem_cons_self rfl
    rw [← List.singleton_append, ← List.append_assoc] at hnodup ⊢
    rw [List.singleton_append, List.foldl_cons, protect_flatMap (Ne.symm hy) hnew, ih hys hnodup]

theorem protect_backslash (cs : List Char) :
    protect backslash cs = cs.flatMap (escapedChar [backslash]) := by
  rw [protect]
  refine List.flatMap_congr fun c _ => ?_
  simp only [escapedChar, List.mem_singleton]

/-- Between double quotes, the backslash and the double quote are escaped. -/
theorem escapeChars_eq (cs : List Char) :
    escapeChars cs = cs.flatMap (escapedChar [backslash, doubleQuote]) := by
  rw [escapeChars, protect_backslash, protect_flatMap (by decide) (by decide)]
  rfl

/-- In a record label, its marks are escaped as well. -/
theorem escapeRecordChars_eq (cs : List Char) :
    escapeRecordChars cs = cs.flatMap (escapedChar recordEscapes) := by
  rw [escapeRecordChars, escapeChars_eq, foldl_protect (by decide) (by decide)]
  rfl

theorem toList_escapeRecord (s : String) :
    (escapeRecord s).toList = s.toList.flatMap (escapedChar recordEscapes) := by
  rw [escapeRecord, onChars, String.toList_ofList, escapeRecordChars_eq]

/-! ## Reading -/

/-- A character as it is read: by itself, or after a backslash that escapes it. -/
structure Glyph where
  char : Char
  isEscaped : Bool
  deriving DecidableEq

/-- The glyphs of a text, from left to right. There are none if the last backslash has
    nothing to escape. -/
def readGlyphs : List Char → Option (List Glyph)
  | [] => some []
  | c :: cs =>
    if c = backslash then
      match cs with
      | [] => none
      | d :: ds => (readGlyphs ds).map (⟨d, true⟩ :: ·)
    else (readGlyphs cs).map (⟨c, false⟩ :: ·)

theorem readGlyphs_escaped (d : Char) (ds : List Char) :
    readGlyphs (backslash :: d :: ds) = (readGlyphs ds).map (⟨d, true⟩ :: ·) := by
  rw [readGlyphs.eq_def]
  exact if_pos rfl

theorem readGlyphs_cons {c : Char} (hc : c ≠ backslash) (cs : List Char) :
    readGlyphs (c :: cs) = (readGlyphs cs).map (⟨c, false⟩ :: ·) := by
  rw [readGlyphs.eq_def]
  exact if_neg hc

/-- What is written is read, with every character escaped that was to be. -/
theorem readGlyphs_flatMap {xs : List Char} (hback : backslash ∈ xs) (cs : List Char) :
    readGlyphs (cs.flatMap (escapedChar xs)) = some (cs.map fun c => ⟨c, decide (c ∈ xs)⟩) := by
  induction cs with
  | nil => rfl
  | cons c cs ih =>
    rw [List.flatMap_cons, List.map_cons, escapedChar]
    by_cases hc : c ∈ xs
    · rw [if_pos hc, List.cons_append, List.singleton_append, readGlyphs_escaped, ih]
      simp [hc]
    · have hne : c ≠ backslash := by
        rintro rfl
        exact hc hback
      rw [if_neg hc, List.singleton_append, readGlyphs_cons hne, ih]
      simp [hc]

theorem readGlyphs_escapeRecord (s : String) : readGlyphs (escapeRecord s).toList =
    some (s.toList.map fun c => ⟨c, decide (c ∈ recordEscapes)⟩) := by
  rw [toList_escapeRecord, readGlyphs_flatMap (by decide)]

/-- Dropping the backslashes gives the text back. -/
theorem map_char_readGlyphs_escapeRecord (s : String) :
    (readGlyphs (escapeRecord s).toList).map (·.map Glyph.char) = some s.toList := by
  rw [readGlyphs_escapeRecord, Option.map_some, List.map_map]
  exact congrArg some (List.map_id' _)

theorem escapeRecord_injective : Function.Injective escapeRecord := by
  intro s t h
  have hchars := map_char_readGlyphs_escapeRecord s
  rw [h, map_char_readGlyphs_escapeRecord, Option.some.injEq] at hchars
  exact (String.toList_inj.1 hchars).symm

/-- A text that can be read is read before what follows it. -/
theorem readGlyphs_append {l : List Char} {gs : List Glyph} (h : readGlyphs l = some gs)
    (r : List Char) : readGlyphs (l ++ r) = (readGlyphs r).map (gs ++ ·) := by
  induction l using readGlyphs.induct generalizing gs with
  | case1 =>
    cases h
    simp
  | case2 => cases h
  | case3 d ds ih =>
    rw [readGlyphs_escaped] at h
    obtain ⟨gs', hds, rfl⟩ := Option.map_eq_some_iff.1 h
    rw [List.cons_append, List.cons_append, readGlyphs_escaped, ih hds, Option.map_map]
    rfl
  | case4 c cs hc ih =>
    rw [readGlyphs_cons hc] at h
    obtain ⟨gs', hcs, rfl⟩ := Option.map_eq_some_iff.1 h
    rw [List.cons_append, readGlyphs_cons hc, ih hcs, Option.map_map]
    rfl

/-! ## Marks -/

/-- Is it a mark of a record label? -/
def Glyph.isMark (g : Glyph) : Bool :=
  !g.isEscaped && recordMarks.contains g.char

/-- The marks that a record label is structured by, if it can be read. -/
def openMarks (s : String) : Option (List Char) :=
  (readGlyphs s.toList).map fun gs => (gs.filter Glyph.isMark).map Glyph.char

theorem openMarks_append {s : String} {ms : List Char} (h : openMarks s = some ms) (t : String) :
    openMarks (s ++ t) = (openMarks t).map (ms ++ ·) := by
  obtain ⟨gs, hgs, rfl⟩ := Option.map_eq_some_iff.1 h
  rw [openMarks, String.toList_append, readGlyphs_append hgs, openMarks, Option.map_map,
    Option.map_map]
  congr 1
  funext gs'
  simp

theorem openMarks_append_some {s t : String} {ms ns : List Char} (hs : openMarks s = some ms)
    (ht : openMarks t = some ns) : openMarks (s ++ t) = some (ms ++ ns) := by
  rw [openMarks_append hs, ht]
  rfl

/-- A text that is escaped adds no mark. -/
theorem openMarks_escapeRecord (s : String) : openMarks (escapeRecord s) = some [] := by
  rw [openMarks, readGlyphs_escapeRecord, Option.map_some, List.filter_eq_nil_iff.2, List.map_nil]
  intro g hg
  obtain ⟨c, -, rfl⟩ := List.mem_map.1 hg
  simp only [Glyph.isMark, recordEscapes, List.mem_cons, List.contains_iff_mem,
    Bool.and_eq_true, Bool.not_eq_true', decide_eq_false_iff_not]
  exact fun ⟨hnot, hmark⟩ => hnot (.inr (.inr hmark))

/-- Texts without marks make up as many fields of a record. -/
theorem openMarks_joined {s : String} {ss : List String}
    (h : ∀ t ∈ s :: ss, openMarks t = some []) :
    openMarks (joined "|" (s :: ss)) = some (List.replicate ss.length '|') := by
  have hbar : openMarks "|" = some ['|'] := by decide +kernel
  rw [joined]
  induction ss generalizing s with
  | nil =>
    rw [String.intercalate_singleton]
    exact h s List.mem_cons_self
  | cons t ss ih =>
    rw [String.intercalate_cons_cons]
    exact openMarks_append_some (openMarks_append_some (h s List.mem_cons_self) hbar)
      (ih fun u hu => h u (List.mem_cons_of_mem s hu))

end Text

namespace Diagram

open Text

/-- The sections that the label of a state has below its name. -/
def sectionsOf (level : GraphLevel) (p : Place) : List String :=
  if level.showsGuards then
    (section? "Entry" (p.map.entryOf p.state)).toList
      ++ (section? "Exit" (p.map.exitOf p.state)).toList
  else []

theorem stateLabel_eq (level : GraphLevel) (p : Place) : stateLabel level p =
    if (sectionsOf level p).isEmpty then escapeRecord p.state.name
    else "\x7b" ++ joined "|" (escapeRecord p.state.name :: sectionsOf level p) ++ "\x7d" :=
  rfl

/-- Sections are put together from layout and escaped texts. -/
theorem sectionsOf_of_append {P : String → Prop} (hnil : P "")
    (happend : ∀ s t, P s → P t → P (s ++ t)) (hescaped : ∀ s, P (escapeRecord s))
    (hlayout : ∀ s ∈ ["Entry", "Exit", "/\\l", ";\\l"], P s) {level : GraphLevel} {p : Place} :
    ∀ t ∈ sectionsOf level p, P t := by
  have hactions : ∀ as : List Action,
      P (String.join (as.map fun a => escapeRecord a.text ++ ";\\l")) := by
    intro as
    induction as with
    | nil => exact hnil
    | cons a as ih =>
      rw [List.map_cons, String.join_cons]
      exact happend _ _ (happend _ _ (hescaped _) (hlayout _ (by simp))) ih
  have hsection : ∀ title ∈ ["Entry", "Exit"], ∀ as, ∀ t ∈ section? title as, P t := by
    intro title htitle as t ht
    rw [Option.mem_def, section?] at ht
    split at ht
    · cases ht
    · cases ht
      have htitle := hlayout title (List.mem_append_left ["/\\l", ";\\l"] htitle)
      exact happend _ _ (happend _ _ htitle (hlayout _ (by simp))) (hactions as)
  intro t ht
  rw [sectionsOf] at ht
  split at ht
  · rcases List.mem_append.1 ht with ht | ht
    · exact hsection "Entry" (by simp) _ t (Option.mem_toList.1 ht)
    · exact hsection "Exit" (by simp) _ t (Option.mem_toList.1 ht)
  · cases ht

/-- The marks in the label of a state are those around and between its name and its sections. -/
theorem openMarks_stateLabel (level : GraphLevel) (p : Place) :
    openMarks (stateLabel level p) = some (if (sectionsOf level p).isEmpty then []
      else '\x7b' :: List.replicate (sectionsOf level p).length '|' ++ ['\x7d']) := by
  have hsections : ∀ t ∈ sectionsOf level p, openMarks t = some [] :=
    sectionsOf_of_append (P := fun t => openMarks t = some []) rfl
      (fun _ _ => openMarks_append_some) openMarks_escapeRecord (by decide +kernel)
  have hopen : openMarks "\x7b" = some ['\x7b'] := by decide +kernel
  have hclose : openMarks "\x7d" = some ['\x7d'] := by decide +kernel
  rw [stateLabel_eq]
  split
  · exact openMarks_escapeRecord _
  · -- one bar before each section, in braces
    have hfields := openMarks_joined
      (List.forall_mem_cons.2 ⟨openMarks_escapeRecord p.state.name, hsections⟩)
    exact openMarks_append_some (openMarks_append_some hopen hfields) hclose

/-- To escape a text for a record label, seven characters are replaced in it one after the other,
    which puts a backslash before each of them and copies the others. Read in glyphs, the text
    comes back, with these characters escaped; so different texts are written differently. No
    text in the label of a state opens, closes or splits a field of it. -/
theorem record_escaping_is_decodable :
    recordEscapes = ['\x5c', '\x22', '\x7b', '\x7d', '|', '<', '>'] ∧
      (∀ s, (escapeRecord s).toList =
        recordEscapes.foldl (fun cs x => replaceAll [x] ['\x5c', x] cs) s.toList) ∧
      (∀ s, (escapeRecord s).toList =
        s.toList.flatMap fun c => if c ∈ recordEscapes then ['\x5c', c] else [c]) ∧
      (∀ s, ∃ gs, readGlyphs (escapeRecord s).toList = some gs ∧ gs.map Glyph.char = s.toList ∧
        ∀ g ∈ gs, g.isEscaped = true ↔ g.char ∈ recordEscapes) ∧
      Function.Injective escapeRecord ∧
      ∀ level p, openMarks (stateLabel level p) = some (if (sectionsOf level p).isEmpty then []
        else '\x7b' :: List.replicate (sectionsOf level p).length '|' ++ ['\x7d']) := by
  refine ⟨rfl, fun s => ?_, toList_escapeRecord, fun s => ⟨_, readGlyphs_escapeRecord s, ?_, ?_⟩,
    escapeRecord_injective, openMarks_stateLabel⟩
  · rw [escapeRecord, onChars, String.toList_ofList]
    exact escapeRecordChars_eq_foldl s.toList
  · rw [List.map_map]
    exact List.map_id' _
  · intro g hg
    obtain ⟨c, -, rfl⟩ := List.mem_map.1 hg
    exact decide_eq_true_iff

end Diagram
end StateMachine
