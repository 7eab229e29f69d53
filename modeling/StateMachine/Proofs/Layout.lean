import Mathlib.Data.List.Chain
import StateMachine.Document.Literal
import StateMachine.Text.Blank
import StateMachine.Text.Lines
import StateMachine.Text.Name

/-!
# Layout

A text is *laid out* if the margin of each of its lines of code is a multiple of
four spaces, that of the first one empty, and a line has a wider margin than the
one before it exactly if that one opens a block, by a colon at its end; then it is
wider by four. The last line opens no block (`Text.LaidOut`). Blank lines and
comments do not count.

Lines are put together by a grammar (`Text.Block`): at some depth, a block is made
of gaps, lines, and lines that open a block one deeper, with code in it. Blocks can
be appended and nested, and are laid out (`Block.laidOut`). The lines put together
are those the text is split into, as none of them holds a break
(`lines_unlines`).
-/

namespace StateMachine.Text

/-! ## Single lines -/

/-- Does the text hold no line break? -/
def isSingleLine (s : String) : Bool :=
  s.toList.all fun c => !isBreak c

/-- A single line given by its characters. -/
theorem isSingleLine_ofList {cs : List Char} (h : (cs.all fun c => !isBreak c) = true) :
    isSingleLine (String.ofList cs) = true := by
  rwa [isSingleLine, String.toList_ofList]

@[simp]
theorem isSingleLine_append (a b : String) :
    isSingleLine (a ++ b) = (isSingleLine a && isSingleLine b) := by
  rw [isSingleLine, String.toList_append, List.all_append]
  rfl

/-- A text made of the characters of a single line is a single line. -/
theorem isSingleLine_of_subset {s t : String} (h : isSingleLine t = true)
    (hs : ∀ c ∈ s.toList, c ∈ t.toList) : isSingleLine s = true :=
  List.all_eq_true.2 fun c hc => List.all_eq_true.1 h c (hs c hc)

theorem isSingleLine_join {ls : List String} (h : ∀ l ∈ ls, isSingleLine l = true) :
    isSingleLine (String.join ls) = true := by
  rw [isSingleLine, String.toList_join, List.all_flatMap]
  exact List.all_eq_true.2 h

theorem isSingleLine_joined {sep : String} (hsep : isSingleLine sep = true) {ls : List String}
    (h : ∀ l ∈ ls, isSingleLine l = true) : isSingleLine (joined sep ls) = true := by
  rw [joined]
  induction ls with
  | nil => rw [String.intercalate_nil]; rfl
  | cons l ls ih =>
    obtain ⟨hl, hls⟩ := List.forall_mem_cons.1 h
    cases ls with
    | nil => rw [String.intercalate_singleton]; exact hl
    | cons l' ls =>
      rw [String.intercalate_cons_cons, isSingleLine_append, isSingleLine_append, hl, hsep, ih hls]
      rfl

/-- The digits of a number are no breaks. -/
theorem isSingleLine_toDigits {base : Nat} (hpos : 0 < base) (hbase : base ≤ 16) (n : Nat) :
    isSingleLine (String.ofList (Nat.toDigits base n)) = true := by
  have hdigit : ∀ d < 16, isBreak (Nat.digitChar d) = false := by decide
  have hcore : ∀ fuel n ds, (∀ c ∈ ds, isBreak c = false) →
      ∀ c ∈ Nat.toDigitsCore base fuel n ds, isBreak c = false := by
    intro fuel
    induction fuel with
    | zero => exact fun n ds hds => hds
    | succ fuel ih =>
      intro n ds hds
      have hlt : n % base < 16 := Nat.lt_of_lt_of_le (Nat.mod_lt n hpos) hbase
      have hds' : ∀ c ∈ Nat.digitChar (n % base) :: ds, isBreak c = false :=
        List.forall_mem_cons.2 ⟨hdigit _ hlt, hds⟩
      rw [Nat.toDigitsCore]
      split
      · exact hds'
      · exact ih _ _ hds'
  rw [isSingleLine, String.toList_ofList, List.all_eq_true]
  intro c hc
  rw [Bool.not_eq_true']
  exact hcore _ n [] (List.forall_mem_nil _) c hc

theorem isSingleLine_nat (n : Nat) : isSingleLine (toString n) = true :=
  isSingleLine_toDigits (by decide) (by decide) n

theorem isSingleLine_int (i : Int) : isSingleLine (toString i) = true := by
  cases i with
  | ofNat n => exact isSingleLine_nat n
  | negSucc n =>
    change isSingleLine ("-" ++ n.succ.repr) = true
    rw [isSingleLine_append]
    exact Bool.and_eq_true_iff.2 ⟨by decide, isSingleLine_nat n.succ⟩

/-- A single line between quotes is one. -/
theorem isSingleLine_quoted {s : String} (h : isSingleLine s = true) :
    isSingleLine (quoted s) = true := by
  have hmark : isSingleLine (String.ofList [quoteFor s]) = true := by
    rw [quoteFor]
    split <;> decide
  have hhex : ∀ width n, isSingleLine (hexText width n) = true := by
    intro width n
    have hdigits : isSingleLine (String.ofList (Nat.toDigits 16 n)) = true :=
      isSingleLine_toDigits (by decide) (by decide) n
    rw [isSingleLine, String.toList_ofList] at hdigits
    rw [hexText, isSingleLine, String.toList_ofList, List.all_append, hdigits, Bool.and_true,
      List.all_replicate]
    split <;> rfl
  have hchar : ∀ c, isBreak c = false → isSingleLine (quotedChar (quoteFor s) c) = true := by
    intro c hc
    have hself : isSingleLine (String.ofList [c]) = true ∧
        isSingleLine (String.ofList [backslash, c]) = true := by
      simp only [isSingleLine, String.toList_ofList, List.all_cons, List.all_nil, hc]
      decide
    rw [quotedChar]
    split_ifs
    · exact hself.2
    · decide
    · decide
    · decide
    · exact hself.1
    all_goals rw [isSingleLine_append, hhex, Bool.and_true]; decide
  have hinside : isSingleLine (String.join (s.toList.map (quotedChar (quoteFor s)))) = true := by
    refine isSingleLine_join (List.forall_mem_map.2 fun c hc => hchar c ?_)
    simpa using List.all_eq_true.1 h c hc
  rw [quoted, isSingleLine_append, isSingleLine_append, hmark, hinside]
  rfl

/-- Escaping a single line leaves it one. -/
theorem isSingleLine_escape {s : String} (h : isSingleLine s = true) :
    isSingleLine (escape s) = true := by
  have hprotect : ∀ x cs, (∀ c ∈ cs, isBreak c = false) → ∀ c ∈ protect x cs, isBreak c = false := by
    intro x cs hcs c hc
    obtain ⟨d, hd, hc⟩ := List.mem_flatMap.1 hc
    split at hc
    · rcases List.mem_cons.1 hc with rfl | hc
      · decide
      · exact List.mem_singleton.1 hc ▸ hcs d hd
    · exact List.mem_singleton.1 hc ▸ hcs d hd
  have hs : ∀ c ∈ s.toList, isBreak c = false := fun c hc => by
    simpa using List.all_eq_true.1 h c hc
  refine isSingleLine_ofList (List.all_eq_true.2 fun c hc => ?_)
  simpa using hprotect _ _ (hprotect _ _ hs) c hc

/-- Replacing parts of a single line by one leaves it one. -/
theorem isSingleLine_replace {old new s : String} (hnew : isSingleLine new = true)
    (hs : isSingleLine s = true) : isSingleLine (replace old new s) = true := by
  have hmem : ∀ skip cs, ∀ c ∈ replaceAfter old.toList new.toList skip cs,
      c ∈ new.toList ∨ c ∈ cs := by
    intro skip cs
    induction skip, cs using replaceAfter.induct old.toList with
    | case1 => simp [replaceAfter]
    | case2 skip d cs ih =>
      intro c hc
      exact (ih c hc).imp_right (List.mem_cons_of_mem d)
    | case3 d cs hold ih =>
      intro c hc
      rw [replaceAfter, if_pos hold, List.mem_append] at hc
      exact hc.elim .inl fun hc => (ih c hc).imp_right (List.mem_cons_of_mem d)
    | case4 d cs hold ih =>
      intro c hc
      rw [replaceAfter, if_neg hold] at hc
      rcases List.mem_cons.1 hc with rfl | hc
      · exact .inr List.mem_cons_self
      · exact (ih c hc).imp_right (List.mem_cons_of_mem d)
  rw [replace, onChars, replaceAll]
  refine isSingleLine_ofList (List.all_eq_true.2 fun c hc => ?_)
  exact (hmem 0 s.toList c hc).elim (List.all_eq_true.1 hnew c) (List.all_eq_true.1 hs c)

/-! ## Lines of a text -/

/-- The lines of a text. -/
def lines (s : String) : List String :=
  (splitLines s.toList).map String.ofList

theorem splitLines_append {l : List Char} (h : ∀ c ∈ l, isBreak c = false) (rest : List Char) :
    splitLines (l ++ '\n' :: rest) = l :: splitLines rest := by
  induction l with
  | nil => simp [splitLines, isBreak]
  | cons c l ih =>
    obtain ⟨hc, hl⟩ := List.forall_mem_cons.1 h
    -- a character that is no break is no carriage return either
    have hreturn : ∀ cs, c = '\r' → l ++ '\n' :: rest = '\n' :: cs → False := by
      rintro cs rfl
      exact absurd hc (by decide)
    rw [List.cons_append, splitLines.eq_3 _ _ hreturn, hc, ih hl]
    rfl

/-- Single lines written one below the other are the lines of the text. -/
theorem lines_unlines {ls : List String} (h : ∀ l ∈ ls, isSingleLine l = true) :
    lines (unlines ls) = ls := by
  induction ls with
  | nil => rfl
  | cons l ls ih =>
    obtain ⟨hl, hls⟩ := List.forall_mem_cons.1 h
    have hsplit := splitLines_append (fun c hc => by simpa using List.all_eq_true.1 hl c hc)
      (unlines ls).toList
    have hcons : (unlines (l :: ls)).toList = l.toList ++ '\n' :: (unlines ls).toList := by
      rw [unlines, List.map_cons, String.join_cons, String.toList_append, String.toList_append,
        List.append_assoc]
      rfl
    rw [lines, hcons, hsplit, List.map_cons, String.ofList_toList]
    exact congrArg (l :: ·) (ih hls)

/-- A single line is printed as it is. -/
theorem physicalLines_of_isSingleLine {l : String} (h : isSingleLine l = true) :
    physicalLines l = [l] := by
  rw [physicalLines, splitLines_append (fun c hc => by simpa using List.all_eq_true.1 h c hc)]
  simp [splitLines]

/-! ## Laid out lines -/

/-- The blanks a line begins with. -/
def margin (line : String) : List Char :=
  line.toList.takeWhile isBlank

/-- Does the line end with a colon? -/
def opensBlock (line : String) : Bool :=
  line.toList.getLast? == some ':'

/-- Is the line neither blank nor a comment? -/
def isCode (line : String) : Bool :=
  !isBlankText line && line.toList.head? != some '#'

/-- A line has a wider margin than the one before it exactly if that one opens a
    block, and then it is wider by four. -/
def Follows (line next : String) : Prop :=
  ((margin line).length < (margin next).length ↔ opensBlock line = true) ∧
    (opensBlock line = true → (margin next).length = (margin line).length + 4)

/-- The lines of code are laid out at a depth. -/
structure LaidOutAt (depth : Nat) (ls : List String) : Prop where
  margins : ∀ l ∈ ls, ∃ k, depth ≤ k ∧ margin l = List.replicate (4 * k) ' '
  first : ∀ l ∈ ls.head?, margin l = List.replicate (4 * depth) ' '
  steps : ls.IsChain Follows
  last : ∀ l ∈ ls.getLast?, opensBlock l = false

/-- The lines of code of the text are laid out. -/
def LaidOut (s : String) : Prop :=
  LaidOutAt 0 ((lines s).filter isCode)

theorem LaidOutAt.nil (depth : Nat) : LaidOutAt depth [] :=
  ⟨by simp, by simp, .nil, by simp⟩

/-- Lines that are laid out at the same depth can follow one another. -/
theorem LaidOutAt.append {depth : Nat} {ls ls' : List String} (h : LaidOutAt depth ls)
    (h' : LaidOutAt depth ls') : LaidOutAt depth (ls ++ ls') := by
  refine ⟨?_, ?_, List.isChain_append.2 ⟨h.steps, h'.steps, ?_⟩, ?_⟩
  · intro l hl
    exact (List.mem_append.1 hl).elim (h.margins l) (h'.margins l)
  · intro l hl
    cases ls with
    | nil => exact h'.first l hl
    | cons a as => exact h.first l hl
  · -- the last line before opens no block, and is at least as deep
    intro l hl next hnext
    obtain ⟨k, hk, hmargin⟩ := h.margins l (List.mem_of_mem_getLast? hl)
    rw [Follows, h.last l hl, hmargin, h'.first next hnext]
    simp only [List.length_replicate, Bool.false_eq_true, iff_false, false_implies, and_true]
    omega
  · intro l hl
    rw [List.getLast?_append] at hl
    cases hlast : ls'.getLast? with
    | none =>
      rw [hlast] at hl
      exact h.last l hl
    | some a =>
      rw [hlast] at hl
      exact h'.last l (hlast.trans hl)

/-- A line that opens a block, with the lines of the block. -/
theorem LaidOutAt.open {depth : Nat} {l : String} {body : List String}
    (hmargin : margin l = List.replicate (4 * depth) ' ') (hopens : opensBlock l = true)
    (hbody : LaidOutAt (depth + 1) body) (hne : body ≠ []) : LaidOutAt depth (l :: body) := by
  obtain ⟨next, rest, rfl⟩ := List.exists_cons_of_ne_nil hne
  refine ⟨List.forall_mem_cons.2 ⟨⟨depth, Nat.le_refl _, hmargin⟩, fun l' hl' => ?_⟩, ?_,
    List.isChain_cons_cons.2 ⟨?_, hbody.steps⟩, ?_⟩
  · obtain ⟨k, hk, hl'⟩ := hbody.margins l' hl'
    exact ⟨k, by omega, hl'⟩
  · rintro _ ⟨⟩
    exact hmargin
  · have hnext := hbody.first next rfl
    rw [Follows, hopens, hmargin, hnext, List.length_replicate, List.length_replicate]
    exact ⟨iff_of_true (by omega) rfl, fun _ => by omega⟩
  · intro l' hl'
    exact hbody.last l' (by rwa [List.getLast?_cons_cons] at hl')

theorem LaidOutAt.single {depth : Nat} {l : String}
    (hmargin : margin l = List.replicate (4 * depth) ' ') (hcloses : opensBlock l = false) :
    LaidOutAt depth [l] := by
  refine ⟨?_, ?_, .singleton l, ?_⟩
  · rintro _ hl
    exact ⟨depth, Nat.le_refl _, List.mem_singleton.1 hl ▸ hmargin⟩
  · rintro _ ⟨⟩
    exact hmargin
  · rintro _ ⟨⟩
    exact hcloses

/-! ## Lines of code -/

/-- Is it a single line of code, with a margin for the depth? -/
def isLineChars (depth : Nat) (cs : List Char) : Bool :=
  (List.replicate (4 * depth) ' ').isPrefixOf cs
    && (cs.drop (4 * depth)).head?.any (fun c => !isBlank c && c != '#')
    && cs.all fun c => !isBreak c

/-- Is it a single line of code, with a margin for the depth? -/
def isLine (depth : Nat) (line : String) : Bool :=
  isLineChars depth line.toList

theorem isLine_iff {depth : Nat} {line : String} : isLine depth line = true ↔
    (∃ c cs, line.toList = List.replicate (4 * depth) ' ' ++ c :: cs ∧ isBlank c = false ∧
      c ≠ '#') ∧ isSingleLine line = true := by
  rw [isLine, isLineChars, Bool.and_eq_true, Bool.and_eq_true, List.isPrefixOf_iff_prefix]
  refine and_congr_left fun _ => ⟨?_, ?_⟩
  · rintro ⟨⟨rest, hrest⟩, hfirst⟩
    rw [← hrest, List.drop_left' (List.length_replicate ..)] at hfirst
    cases rest with
    | nil => cases hfirst
    | cons c cs =>
      refine ⟨c, cs, hrest.symm, ?_⟩
      simpa using hfirst
  · rintro ⟨c, cs, hline, hc⟩
    refine ⟨⟨c :: cs, hline.symm⟩, ?_⟩
    rw [hline, List.drop_left' (List.length_replicate ..)]
    simpa using hc

/-- What comes after the beginning of a line does not change its margin. -/
theorem isLine_append {depth : Nat} {a b : String} (ha : isLine depth a = true)
    (hb : isSingleLine b = true) : isLine depth (a ++ b) = true := by
  obtain ⟨⟨c, cs, hline, hc⟩, hsingle⟩ := isLine_iff.1 ha
  refine isLine_iff.2 ⟨⟨c, cs ++ b.toList, ?_, hc⟩, ?_⟩
  · rw [String.toList_append, hline, List.append_assoc]
    rfl
  · rw [isSingleLine_append, hsingle, hb]
    rfl

/-- A line of code moved right is one at a greater depth. -/
theorem isLine_spaces {depth : Nat} {line : String} (h : isLine depth line = true) (k : Nat) :
    isLine (depth + k) (spaces (4 * k) ++ line) = true := by
  obtain ⟨⟨c, cs, hline, hc⟩, hsingle⟩ := isLine_iff.1 h
  refine isLine_iff.2 ⟨⟨c, cs, ?_, hc⟩, ?_⟩
  · rw [String.toList_append, hline, spaces, String.toList_ofList, ← List.append_assoc,
      ← List.replicate_add, Nat.mul_add, Nat.add_comm (4 * k)]
  · rw [isSingleLine_append, hsingle, Bool.and_true, isSingleLine, spaces, String.toList_ofList,
      List.all_replicate]
    split <;> rfl

/-- A line of code after a margin given by its characters. -/
theorem isLine_margin {depth : Nat} {line : String} {cs : List Char}
    (hcs : cs = List.replicate (4 * depth) ' ') (h : isLine 0 line = true) :
    isLine depth (String.ofList cs ++ line) = true := by
  have hspaces := isLine_spaces h depth
  rwa [Nat.zero_add, spaces, ← hcs] at hspaces

theorem margin_of_isLine {depth : Nat} {line : String} (h : isLine depth line = true) :
    margin line = List.replicate (4 * depth) ' ' := by
  obtain ⟨⟨c, cs, hline, hc, -⟩, -⟩ := isLine_iff.1 h
  have hblank : isBlank ' ' = true := by decide
  rw [margin, hline, List.takeWhile_append_of_pos, List.takeWhile_cons_of_neg (by simp [hc]),
    List.append_nil]
  intro d hd
  rw [List.eq_of_mem_replicate hd]
  exact hblank

theorem isCode_of_isLine {depth : Nat} {line : String} (h : isLine depth line = true) :
    isCode line = true := by
  obtain ⟨⟨c, cs, hline, hc, hcomment⟩, -⟩ := isLine_iff.1 h
  have hblank : isBlankText line = false := by
    rw [isBlankText, List.all_eq_false]
    exact ⟨c, by rw [hline]; simp, by simp [hc]⟩
  have hfirst : line.toList.head? ≠ some '#' := by
    rw [hline]
    cases 4 * depth with
    | zero => simpa using hcomment
    | succ n => simp [List.replicate_succ]
  rw [isCode, hblank, bne_iff_ne.2 hfirst]
  rfl

theorem ne_empty_of_isLine {depth : Nat} {line : String} (h : isLine depth line = true) :
    line ≠ "" := by
  rintro rfl
  exact absurd (isCode_of_isLine h) (by decide)

theorem opensBlock_append {a b : String} (hb : b ≠ "") : opensBlock (a ++ b) = opensBlock b := by
  obtain ⟨c, hc⟩ : ∃ c, b.toList.getLast? = some c := by
    refine Option.isSome_iff_exists.1 (List.getLast?_isSome.2 ?_)
    simpa using hb
  rw [opensBlock, opensBlock, String.toList_append, List.getLast?_append, hc]
  rfl

/-- Is it a line of code that opens no block? -/
def isPlainLine (depth : Nat) (line : String) : Bool :=
  isLine depth line && !opensBlock line

/-- Is it a line of code that opens a block? -/
def isOpeningLine (depth : Nat) (line : String) : Bool :=
  isLine depth line && opensBlock line

/-- A line that ends with some characters, the last of which is no colon. -/
theorem isPlainLine_append {depth : Nat} {a : String} {cs : List Char}
    (ha : isLine depth a = true)
    (hcs : ((cs.all fun c => !isBreak c) && cs.getLast?.any (· != ':')) = true) :
    isPlainLine depth (a ++ String.ofList cs) = true := by
  obtain ⟨hsingle, hlast⟩ := Bool.and_eq_true_iff.1 hcs
  have hne : String.ofList cs ≠ "" := by
    rintro h
    rw [String.ofList_eq_empty_iff.1 h] at hlast
    cases hlast
  have hcloses : opensBlock (String.ofList cs) = false := by
    rw [opensBlock, String.toList_ofList]
    cases h : cs.getLast? with
    | none => rfl
    | some c => simpa [h] using hlast
  rw [isPlainLine, isLine_append ha (isSingleLine_ofList hsingle), opensBlock_append hne, hcloses]
  rfl

/-- A line that ends with some characters, the last of which is a colon. -/
theorem isOpeningLine_append {depth : Nat} {a : String} {cs : List Char}
    (ha : isLine depth a = true)
    (hcs : ((cs.all fun c => !isBreak c) && cs.getLast? == some ':') = true) :
    isOpeningLine depth (a ++ String.ofList cs) = true := by
  obtain ⟨hsingle, hlast⟩ := Bool.and_eq_true_iff.1 hcs
  have hne : String.ofList cs ≠ "" := by
    rintro h
    rw [String.ofList_eq_empty_iff.1 h] at hlast
    cases hlast
  have hopens : opensBlock (String.ofList cs) = true := by
    rwa [opensBlock, String.toList_ofList]
  rw [isOpeningLine, isLine_append ha (isSingleLine_ofList hsingle), opensBlock_append hne, hopens]
  rfl

/-- A plain line after a margin given by its characters. -/
theorem isPlainLine_margin {depth : Nat} {line : String} {cs : List Char}
    (hcs : cs = List.replicate (4 * depth) ' ') (h : isPlainLine 0 line = true) :
    isPlainLine depth (String.ofList cs ++ line) = true := by
  obtain ⟨hline, hcloses⟩ := Bool.and_eq_true_iff.1 h
  rw [isPlainLine, isLine_margin hcs hline, opensBlock_append (ne_empty_of_isLine hline), hcloses]
  rfl

/-- A line given by its characters. -/
theorem isLine_ofList {depth : Nat} {cs : List Char} (h : isLineChars depth cs = true) :
    isLine depth (String.ofList cs) = true := by
  rwa [isLine, String.toList_ofList]

theorem isPlainLine_ofList {depth : Nat} {cs : List Char}
    (h : (isLineChars depth cs && cs.getLast? != some ':') = true) :
    isPlainLine depth (String.ofList cs) = true := by
  rwa [isPlainLine, isLine, opensBlock, String.toList_ofList]

theorem isOpeningLine_ofList {depth : Nat} {cs : List Char}
    (h : (isLineChars depth cs && cs.getLast? == some ':') = true) :
    isOpeningLine depth (String.ofList cs) = true := by
  rwa [isOpeningLine, isLine, opensBlock, String.toList_ofList]

theorem isPlainLine_spaces {depth : Nat} {line : String} (h : isPlainLine depth line = true)
    (k : Nat) : isPlainLine (depth + k) (spaces (4 * k) ++ line) = true := by
  rw [isPlainLine, Bool.and_eq_true] at h
  rw [isPlainLine, isLine_spaces h.1, opensBlock_append (ne_empty_of_isLine h.1), h.2]
  rfl

theorem isOpeningLine_spaces {depth : Nat} {line : String} (h : isOpeningLine depth line = true)
    (k : Nat) : isOpeningLine (depth + k) (spaces (4 * k) ++ line) = true := by
  rw [isOpeningLine, Bool.and_eq_true] at h
  rw [isOpeningLine, isLine_spaces h.1, opensBlock_append (ne_empty_of_isLine h.1), h.2]
  rfl

/-! ## Names -/

/-- Is the text a name? -/
def isName (s : String) : Bool :=
  !s.isEmpty && (nameFault? s.toList).isNone

/-- The characters that are blank. -/
def blanks : List Char :=
  (List.range' 0x09 5 ++ List.range' 0x1c 5 ++ List.range' 0x2000 11
    ++ [0x85, 0xa0, 0x1680, 0x2028, 0x2029, 0x202f, 0x205f, 0x3000]).map Char.ofNat

theorem mem_blanks {c : Char} (h : isBlank c = true) : c ∈ blanks := by
  refine List.mem_map.2 ⟨c.toNat, ?_, Char.ofNat_toNat c⟩
  simp only [isBlank, Bool.or_eq_true, Bool.and_eq_true, decide_eq_true_eq, beq_iff_eq] at h
  simp only [List.mem_append, List.mem_range'_1, List.mem_cons, List.not_mem_nil, or_false]
  omega

/-- No blank stands in a name, and no comment begins with one. -/
theorem isNameChar_eq_false {c : Char} (h : isBlank c = true ∨ c = '#') :
    isNameChar c = false := by
  have hblanks : blanks.any isNameChar = false := by decide +kernel
  rcases h with h | rfl
  · exact Bool.eq_false_iff.2 (List.any_eq_false.1 hblanks c (mem_blanks h))
  · decide

theorem isBlank_of_isBreak {c : Char} (h : isBreak c = true) : isBlank c = true := by
  simp only [isBreak, isBlank, Bool.or_eq_true, Bool.and_eq_true, decide_eq_true_eq,
    beq_iff_eq] at h ⊢
  omega

/-- A name is a line of code. -/
theorem isLine_of_isName {s : String} (h : isName s = true) : isLine 0 s = true := by
  rw [isName, Bool.and_eq_true, Bool.not_eq_true', Option.isNone_iff_eq_none] at h
  obtain ⟨hne, hfault⟩ := h
  obtain ⟨c, cs, hcs⟩ : ∃ c cs, s.toList = c :: cs :=
    List.exists_cons_of_ne_nil (by simpa using hne)
  rw [hcs, nameFault?] at hfault
  split at hfault
  · next hstart =>
    have hc : isNameChar c = true := by rw [isNameChar, hstart]; rfl
    have hchars : ∀ d ∈ s.toList, isNameChar d = true := by
      rw [hcs]
      refine List.forall_mem_cons.2 ⟨hc, fun d hd => ?_⟩
      simpa using List.find?_eq_none.1 hfault d hd
    have hplain : ∀ {d}, isNameChar d = true → isBlank d = false ∧ d ≠ '#' := by
      intro d hd
      constructor
      · by_contra hblank
        rw [isNameChar_eq_false (.inl (by simpa using hblank))] at hd
        cases hd
      · intro hcomment
        rw [isNameChar_eq_false (.inr hcomment)] at hd
        cases hd
    refine isLine_iff.2 ⟨⟨c, cs, hcs, hplain hc⟩, List.all_eq_true.2 fun d hd => ?_⟩
    rw [Bool.not_eq_true']
    by_contra hbreak
    have hblank := isBlank_of_isBreak (by simpa using hbreak)
    rw [(hplain (hchars d hd)).1] at hblank
    cases hblank
  · cases hfault

theorem isSingleLine_of_isName {s : String} (h : isName s = true) : isSingleLine s = true :=
  (isLine_iff.1 (isLine_of_isName h)).2

/-! ## Blocks -/

/-- There is more than gaps. -/
def HasCode (ls : List String) : Prop :=
  ∃ l ∈ ls, l ≠ ""

theorem HasCode.of_cons {l : String} {ls : List String} (h : l ≠ "") : HasCode (l :: ls) :=
  ⟨l, List.mem_cons_self, h⟩

theorem HasCode.append_left {ls ls' : List String} (h : HasCode ls) : HasCode (ls ++ ls') := by
  obtain ⟨l, hl, hne⟩ := h
  exact ⟨l, List.mem_append_left _ hl, hne⟩

theorem HasCode.append_right {ls ls' : List String} (h : HasCode ls') : HasCode (ls ++ ls') := by
  obtain ⟨l, hl, hne⟩ := h
  exact ⟨l, List.mem_append_right _ hl, hne⟩

theorem HasCode.map_indentLine {ls : List String} (h : HasCode ls) (n : Nat) :
    HasCode (ls.map (indentLine n)) := by
  obtain ⟨l, hl, hne⟩ := h
  refine ⟨_, List.mem_map_of_mem hl, ?_⟩
  rw [indentLine, if_neg (by simpa using hne)]
  simp [hne]

/-- A block of lines at a depth. -/
inductive Block : Nat → List String → Prop
  | nil (depth : Nat) : Block depth []
  | gap {depth : Nat} {ls : List String} : Block depth ls → Block depth ("" :: ls)
  | line {depth : Nat} {l : String} {ls : List String} :
      isPlainLine depth l = true → Block depth ls → Block depth (l :: ls)
  | suite {depth : Nat} {l : String} {body ls : List String} : isOpeningLine depth l = true →
      Block (depth + 1) body → HasCode body → Block depth ls → Block depth (l :: (body ++ ls))

namespace Block

variable {depth : Nat} {ls ls' : List String}

/-- Every line of a block is a gap or a single line of code. -/
theorem forall_lines (h : Block depth ls) :
    ∀ l ∈ ls, isSingleLine l = true ∧ (l ≠ "" → isCode l = true) := by
  have hline : ∀ {depth l}, isLine depth l = true →
      isSingleLine l = true ∧ (l ≠ "" → isCode l = true) :=
    fun h => ⟨(isLine_iff.1 h).2, fun _ => isCode_of_isLine h⟩
  induction h with
  | nil => exact List.forall_mem_nil _
  | gap _ ih => exact List.forall_mem_cons.2 ⟨⟨rfl, fun h => absurd rfl h⟩, ih⟩
  | line hl _ ih => exact List.forall_mem_cons.2 ⟨hline (Bool.and_eq_true_iff.1 hl).1, ih⟩
  | suite hl _ _ _ ihbody ih =>
    refine List.forall_mem_cons.2 ⟨hline (Bool.and_eq_true_iff.1 hl).1, ?_⟩
    exact List.forall_mem_append.2 ⟨ihbody, ih⟩

theorem append (h : Block depth ls) (h' : Block depth ls') : Block depth (ls ++ ls') := by
  induction h with
  | nil => exact h'
  | gap _ ih => exact .gap (ih h')
  | line hl _ ih => exact .line hl (ih h')
  | suite hl hbody hcode _ _ ih =>
    rw [List.cons_append, List.append_assoc]
    exact .suite hl hbody hcode (ih h')

theorem flatMap {α : Type} {xs : List α} {f : α → List String} (h : ∀ x ∈ xs, Block depth (f x)) :
    Block depth (xs.flatMap f) := by
  induction xs with
  | nil => exact .nil depth
  | cons x xs ih =>
    obtain ⟨hx, hxs⟩ := List.forall_mem_cons.1 h
    exact hx.append (ih hxs)

/-- Lines none of which opens a block. -/
theorem of_lines (h : ∀ l ∈ ls, isPlainLine depth l = true) : Block depth ls := by
  induction ls with
  | nil => exact .nil depth
  | cons l ls ih =>
    obtain ⟨hl, hls⟩ := List.forall_mem_cons.1 h
    exact .line hl (ih hls)

theorem single {l : String} (h : isPlainLine depth l = true) : Block depth [l] :=
  .line h (.nil depth)

/-- A line that opens a block, with the block. -/
theorem opening {l : String} {body : List String} (hl : isOpeningLine depth l = true)
    (hbody : Block (depth + 1) body) (hcode : HasCode body) : Block depth (l :: body) := by
  have h := Block.suite hl hbody hcode (.nil depth)
  rwa [List.append_nil] at h

/-- Nesting moves each line. -/
theorem nest_eq_map (h : Block depth ls) (n : Nat) :
    Text.nest n ls = ls.map (indentLine n) := by
  have hlines : ls.flatMap physicalLines = ls := by
    rw [List.flatMap_congr fun l hl => physicalLines_of_isSingleLine (h.forall_lines l hl).1]
    exact List.flatMap_singleton' ls
  rw [Text.nest, hlines]

/-- A block moved right by four spaces for each of `k` levels is one `k` deeper. -/
theorem nest (h : Block depth ls) (k : Nat) : Block (depth + k) (Text.nest (4 * k) ls) := by
  have hindent : ∀ {depth l}, isLine depth l = true →
      indentLine (4 * k) l = spaces (4 * k) ++ l := by
    intro depth l hl
    rw [indentLine, if_neg (by simpa using ne_empty_of_isLine hl)]
  rw [h.nest_eq_map]
  induction h with
  | nil depth => exact .nil _
  | gap _ ih => exact .gap ih
  | line hl _ ih =>
    rw [List.map_cons, hindent (Bool.and_eq_true_iff.1 hl).1]
    exact .line (isPlainLine_spaces hl k) ih
  | suite hl _ hcode _ ihbody ih =>
    rw [List.map_cons, List.map_append, hindent (Bool.and_eq_true_iff.1 hl).1]
    rw [Nat.add_right_comm] at ihbody
    exact .suite (isOpeningLine_spaces hl k) ihbody (hcode.map_indentLine _) ih

theorem hasCode_nest (h : Block depth ls) (hcode : HasCode ls) (n : Nat) :
    HasCode (Text.nest n ls) := by
  rw [h.nest_eq_map]
  exact hcode.map_indentLine n

/-- The lines of code of a block are laid out at its depth. -/
theorem laidOut (h : Block depth ls) : LaidOutAt depth (ls.filter isCode) := by
  induction h with
  | nil depth => exact .nil depth
  | gap _ ih => exact ih
  | line hl _ ih =>
    obtain ⟨hline, hcloses⟩ := Bool.and_eq_true_iff.1 hl
    rw [List.filter_cons_of_pos (isCode_of_isLine hline)]
    exact (LaidOutAt.single (margin_of_isLine hline) (by simpa using hcloses)).append ih
  | suite hl hbody hcode _ ihbody ih =>
    obtain ⟨hline, hopens⟩ := Bool.and_eq_true_iff.1 hl
    rw [List.filter_cons_of_pos (isCode_of_isLine hline), List.filter_append, ← List.cons_append]
    refine (LaidOutAt.open (margin_of_isLine hline) hopens ihbody ?_).append ih
    -- the block inside is more than gaps
    obtain ⟨l, hl, hne⟩ := hcode
    exact List.ne_nil_of_mem (List.mem_filter.2 ⟨hl, (hbody.forall_lines l hl).2 hne⟩)

end Block
end StateMachine.Text
