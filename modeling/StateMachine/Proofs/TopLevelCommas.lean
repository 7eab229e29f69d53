import StateMachine.Load.Arguments
import StateMachine.Proofs.Trimming

/-!
# Top-level commas

Which commas of an argument list are top-level can be told from the text before them, without
keeping track of what is open: this text has to be made of closed quoted texts and of characters
outside of these, and of the characters outside as many must be opening brackets as closing ones
(`TopLevel`).

* The scan has nothing open exactly after such a text (`topLevel_iff`).
* So an argument list is cut at its top-level commas and nowhere else (`cutAt_pieces`), and there
  is only one way to cut it there (`CutAt.unique`).
* The arguments, written with a comma and a space between them, are the arguments again
  (`split_joined_split`): no blank around a piece matters to what is open.

All this is in `split_cuts_at_top_level`.
-/

namespace StateMachine.Arguments

/-! ## What a top-level comma is -/

/-- Does `c` open a quoted text? -/
def isQuote (c : Char) : Bool :=
  c == Text.doubleQuote || c == Text.singleQuote

/-- Is `c` an opening bracket? -/
def isOpening (c : Char) : Bool :=
  c == '(' || c == '[' || c == '\x7b'

/-- Is `c` a closing bracket? -/
def isClosing (c : Char) : Bool :=
  c == ')' || c == ']' || c == '\x7d'

/-- What may stand between two quotes `q`, where a quote `q` and a backslash are protected by a
    backslash. -/
inductive Quoted (q : Char) : List Char → Prop
  | nil : Quoted q []
  | char {c : Char} {cs : List Char} : c ≠ q → c ≠ Text.backslash → Quoted q cs → Quoted q (c :: cs)
  | escape (c : Char) {cs : List Char} : Quoted q cs → Quoted q (Text.backslash :: c :: cs)

/-- All quoted texts in the first text are closed, and without them it is the second. -/
inductive Outside : List Char → List Char → Prop
  | nil : Outside [] []
  | char {c : Char} {cs out : List Char} : isQuote c = false → Outside cs out →
    Outside (c :: cs) (c :: out)
  | quoted {q : Char} {body cs out : List Char} : isQuote q = true → Quoted q body →
    Outside cs out → Outside (q :: (body ++ q :: cs)) out

/-- What comes after this text is outside every quoted text, and outside of these as many brackets
    were opened as closed. -/
def TopLevel (before : List Char) : Prop :=
  ∃ out, Outside before out ∧ out.countP isOpening = out.countP isClosing

/-- The texts with commas between them. -/
def withCommas (rs : List (List Char)) : List Char :=
  [','].intercalate rs

/-- One of the commas between the texts `rs` comes after `before` and before `after`. -/
def CommaBetween (rs : List (List Char)) (before after : List Char) : Prop :=
  ∃ ps qs, ps ≠ [] ∧ qs ≠ [] ∧ rs = ps ++ qs ∧ withCommas ps = before ∧ withCommas qs = after

/-- Cutting the text at precisely its top-level commas gives the pieces `rs`. -/
structure CutAt (text : List Char) (rs : List (List Char)) : Prop where
  ne_nil : rs ≠ []
  joined : withCommas rs = text
  between (before after : List Char) :
    CommaBetween rs before after ↔ text = before ++ ',' :: after ∧ TopLevel before

section

variable {r : List Char} {rs : List (List Char)}

theorem withCommas_singleton (r : List Char) : withCommas [r] = r :=
  List.intercalate_singleton

theorem withCommas_cons (r : List Char) (h : rs ≠ []) :
    withCommas (r :: rs) = r ++ ',' :: withCommas rs := by
  rw [withCommas, List.intercalate_cons_of_ne_nil h, List.append_assoc]
  rfl

/-- What is written first is the first of the texts. -/
theorem prefix_withCommas (r : List Char) (rs : List (List Char)) : r <+: withCommas (r :: rs) := by
  cases rs with
  | nil => exact ⟨[], by rw [withCommas_singleton, List.append_nil]⟩
  | cons r' rs =>
    rw [withCommas_cons r (List.cons_ne_nil _ _)]
    exact List.prefix_append _ _

end

/-! ## What the scan has open -/

namespace Scan

/-- What is open after a text. -/
def after (s : Scan) (cs : List Char) : Scan :=
  cs.foldl step s

@[simp]
theorem after_nil (s : Scan) : s.after [] = s :=
  rfl

@[simp]
theorem after_cons (s : Scan) (c : Char) (cs : List Char) :
    s.after (c :: cs) = (s.step c).after cs :=
  rfl

@[simp]
theorem after_append (s : Scan) (cs ds : List Char) : s.after (cs ++ ds) = (s.after cs).after ds :=
  List.foldl_append

/-- Quoted texts are opened by quotes, and only in them is a character protected. -/
structure Sound (s : Scan) : Prop where
  quote : ∀ q ∈ s.quote, isQuote q = true
  escaped : s.quote = none → s.escaped = false

variable {s : Scan} {c : Char} {cs : List Char}

theorem start_sound : start.Sound :=
  ⟨nofun, fun _ => rfl⟩

theorem Sound.step (h : s.Sound) (c : Char) : (s.step c).Sound := by
  rw [Scan.step]
  split
  · next q hq =>
    -- the quoted text is closed only where nothing is protected
    have hquote := h.quote q hq
    split_ifs with hescaped
    · exact ⟨h.quote, fun _ => rfl⟩
    · exact ⟨h.quote, fun hnone => absurd (hq.symm.trans hnone) (Option.some_ne_none q)⟩
    · exact ⟨nofun, fun _ => Bool.eq_false_iff.2 hescaped⟩
    · exact h
  · split_ifs with hc
    · refine ⟨fun q hq => ?_, nofun⟩
      cases hq
      simpa [isQuote] using hc
    · exact ⟨h.quote, h.escaped⟩
    · exact ⟨h.quote, h.escaped⟩
    · exact h

theorem Sound.after (h : s.Sound) (cs : List Char) : (s.after cs).Sound := by
  induction cs generalizing s with
  | nil => exact h
  | cons c cs ih => exact ih (h.step c)

theorem isCut_iff : s.isCut c = true ↔ s.quote = none ∧ s.depth = 0 ∧ c = ',' := by
  simp [isCut, and_assoc]

/-- At a top-level comma nothing is open. -/
theorem Sound.eq_start (h : s.Sound) (hcut : s.isCut c = true) : s = start := by
  obtain ⟨hquote, hdepth, -⟩ := isCut_iff.1 hcut
  obtain ⟨depth, quote, escaped⟩ := s
  obtain rfl : quote = none := hquote
  obtain rfl : depth = 0 := hdepth
  obtain rfl : escaped = false := h.escaped rfl
  rfl

theorem step_of_isCut (hcut : s.isCut c = true) : s.step c = s := by
  obtain ⟨hquote, -, rfl⟩ := isCut_iff.1 hcut
  simp [step, hquote, Text.doubleQuote, Text.singleQuote]

/-- Outside of quoted texts, quotes open one and brackets are counted. -/
theorem step_eq (d : Int) (c : Char) : (⟨d, none, false⟩ : Scan).step c =
    if isQuote c then ⟨d, some c, false⟩
    else if isOpening c then ⟨d + 1, none, false⟩
    else if isClosing c then ⟨d - 1, none, false⟩
    else ⟨d, none, false⟩ :=
  rfl

theorem step_outside {d : Int} (hc : isQuote c = false) : (⟨d, none, false⟩ : Scan).step c =
    ⟨d + (if isOpening c then 1 else 0) - (if isClosing c then 1 else 0), none, false⟩ := by
  have hbracket : isOpening c = true → isClosing c = false := by
    simp only [isOpening, Bool.or_eq_true, beq_iff_eq]
    rintro ((rfl | rfl) | rfl) <;> rfl
  rw [step_eq, hc, if_neg Bool.false_ne_true]
  cases hopening : isOpening c with
  | true => simp [hbracket hopening]
  | false => cases isClosing c <;> simp

/-- What stands between quotes leaves the quoted text open. -/
theorem after_quoted {q : Char} {body : List Char} (h : Quoted q body) (d : Int) :
    (⟨d, some q, false⟩ : Scan).after body = ⟨d, some q, false⟩ := by
  induction h with
  | nil => rfl
  | char hq hbackslash _ ih => simpa [step, hq, hbackslash] using ih
  | escape c _ ih => simpa [step] using ih

theorem step_open {q : Char} (hq : isQuote q = true) (d : Int) :
    (⟨d, none, false⟩ : Scan).step q = ⟨d, some q, false⟩ := by
  rw [step_eq, if_pos hq]

theorem step_close {q : Char} (hq : isQuote q = true) (d : Int) :
    (⟨d, some q, false⟩ : Scan).step q = ⟨d, none, false⟩ := by
  have hbackslash : q ≠ Text.backslash := by
    rintro rfl
    exact absurd hq (by decide)
  simp [step, hbackslash]

/-- After a text with all quoted texts closed, the brackets outside of them are open. -/
theorem after_outside {cs out : List Char} (h : Outside cs out) (d : Int) :
    (⟨d, none, false⟩ : Scan).after cs =
      ⟨d + out.countP isOpening - out.countP isClosing, none, false⟩ := by
  induction h generalizing d with
  | nil => simp
  | @char c cs out hc _ ih =>
    rw [after_cons, step_outside hc, ih, List.countP_cons, List.countP_cons]
    congr 1
    split_ifs <;> omega
  | quoted hq hbody _ ih =>
    rw [after_cons, after_append, after_cons, step_open hq, after_quoted hbody, step_close hq, ih]

/-- A quoted text that does not stay open is closed somewhere. -/
theorem exists_quoted {d : Int} {q : Char} {escaped : Bool} {cs : List Char}
    (h : ((⟨d, some q, escaped⟩ : Scan).after cs).quote = none) :
    ∃ body rest, cs = body ++ q :: rest ∧
      Quoted q ((if escaped then [Text.backslash] else []) ++ body) := by
  induction cs generalizing escaped with
  | nil => cases h
  | cons c cs ih =>
    rw [after_cons] at h
    cases escaped with
    | true =>
      have h : ((⟨d, some q, false⟩ : Scan).after cs).quote = none := h
      obtain ⟨body, rest, rfl, hbody⟩ := ih h
      exact ⟨c :: body, rest, rfl, .escape c hbody⟩
    | false =>
      by_cases hbackslash : c = Text.backslash
      · subst hbackslash
        have h : ((⟨d, some q, true⟩ : Scan).after cs).quote = none := by simpa [step] using h
        obtain ⟨body, rest, rfl, hbody⟩ := ih h
        exact ⟨Text.backslash :: body, rest, rfl, hbody⟩
      · by_cases hq : c = q
        · subst hq
          exact ⟨[], cs, rfl, .nil⟩
        · have h : ((⟨d, some q, false⟩ : Scan).after cs).quote = none := by
            simpa [step, hbackslash, hq] using h
          obtain ⟨body, rest, rfl, hbody⟩ := ih h
          exact ⟨c :: body, rest, rfl, .char hq hbackslash hbody⟩

/-- Where no quoted text is open, all of them are closed. -/
theorem exists_outside {d : Int} {cs : List Char}
    (h : ((⟨d, none, false⟩ : Scan).after cs).quote = none) : ∃ out, Outside cs out := by
  induction hlength : cs.length using Nat.strong_induction_on generalizing cs d with
  | _ n ih =>
    cases cs with
    | nil => exact ⟨[], .nil⟩
    | cons c cs =>
      rw [after_cons] at h
      cases hc : isQuote c with
      | false =>
        rw [step_outside hc] at h
        obtain ⟨out, hout⟩ := ih cs.length (by simp [← hlength]) h rfl
        exact ⟨c :: out, .char hc hout⟩
      | true =>
        rw [step_open hc] at h
        obtain ⟨body, rest, rfl, hbody⟩ := exists_quoted h
        have hbody : Quoted c body := hbody
        rw [after_append, after_cons, after_quoted hbody, step_close hc] at h
        obtain ⟨out, hout⟩ := ih rest.length (by simp [← hlength]; omega) h rfl
        exact ⟨out, .quoted hc hbody hout⟩

end Scan

/-- A comma is top-level exactly where the scan has nothing open. -/
theorem topLevel_iff {before : List Char} : TopLevel before ↔ Scan.start.after before = .start := by
  constructor
  · rintro ⟨out, hout, hcount⟩
    rw [Scan.start, Scan.after_outside hout, hcount, Int.zero_add, Int.sub_self]
  · intro h
    obtain ⟨out, hout⟩ := Scan.exists_outside (congrArg Scan.quote h)
    have hafter := (Scan.after_outside hout 0).symm.trans h
    have hdepth := congrArg Scan.depth hafter
    refine ⟨out, hout, ?_⟩
    simp only [Scan.start] at hdepth
    omega

/-! ## Where a list is cut -/

section

variable {s : Scan} {c : Char} {cs ds before after : List Char}

theorem pieces_ne_nil (s : Scan) (cs : List Char) : pieces s cs ≠ [] := by
  cases cs with
  | nil => exact List.cons_ne_nil _ _
  | cons c cs =>
    rw [pieces]
    split
    · exact List.cons_ne_nil _ _
    · split <;> exact List.cons_ne_nil _ _

/-- A character begins a new piece if it is cut at, and otherwise belongs to the first one. -/
theorem pieces_cons (s : Scan) (c : Char) (cs : List Char) :
    pieces s (c :: cs) = if s.isCut c then [] :: pieces s cs
      else (pieces (s.step c) cs).modifyHead (c :: ·) := by
  rw [pieces]
  split
  · rfl
  · cases hpieces : pieces (s.step c) cs with
    | nil => exact absurd hpieces (pieces_ne_nil _ _)
    | cons p ps => rfl

theorem modifyHead_append {α : Type} {f : α → α} {xs : List α} (h : xs ≠ []) (ys : List α) :
    (xs ++ ys).modifyHead f = xs.modifyHead f ++ ys := by
  cases xs with
  | nil => exact absurd rfl h
  | cons x xs => rfl

/-- The pieces before a cut and after it. -/
theorem pieces_append_cut (h : (s.after before).isCut ',' = true) :
    pieces s (before ++ ',' :: after) = pieces s before ++ pieces (s.after before) after := by
  induction before generalizing s with
  | nil =>
    rw [List.nil_append, pieces_cons, if_pos (c := s.isCut ',' = true) h]
    rfl
  | cons c before ih =>
    rw [List.cons_append, pieces_cons, pieces_cons, Scan.after_cons]
    split
    · next hcut =>
      rw [Scan.after_cons, Scan.step_of_isCut hcut] at h
      rw [ih h, Scan.step_of_isCut hcut]
      rfl
    · rw [ih h, modifyHead_append (pieces_ne_nil _ _)]

/-- The text read from `s` on is one piece. -/
def Uncut (s : Scan) (cs : List Char) : Prop :=
  pieces s cs = [cs]

theorem uncut_cons_iff : Uncut s (c :: cs) ↔ s.isCut c = false ∧ Uncut (s.step c) cs := by
  rw [Uncut, Uncut, pieces_cons]
  cases s.isCut c with
  | true => simp
  | false =>
    cases pieces (s.step c) cs with
    | nil => simp
    | cons p ps => simp

theorem uncut_append_iff : Uncut s (cs ++ ds) ↔ Uncut s cs ∧ Uncut (s.after cs) ds := by
  induction cs generalizing s with
  | nil => exact (and_iff_right rfl).symm
  | cons c cs ih =>
    rw [List.cons_append, uncut_cons_iff, uncut_cons_iff, ih, and_assoc]
    rfl

/-- A text is one piece, or it has a first piece and is cut after it. -/
theorem uncut_or_cut (s : Scan) (cs : List Char) : Uncut s cs ∨
    ∃ r rest, cs = r ++ ',' :: rest ∧ Uncut s r ∧ (s.after r).isCut ',' = true ∧
      pieces s cs = r :: pieces (s.after r) rest := by
  induction cs generalizing s with
  | nil => exact .inl rfl
  | cons c cs ih =>
    cases hcut : s.isCut c with
    | true =>
      obtain ⟨-, -, rfl⟩ := Scan.isCut_iff.1 hcut
      refine .inr ⟨[], cs, rfl, rfl, hcut, ?_⟩
      rw [pieces_cons, if_pos hcut]
      rfl
    | false =>
      rcases ih (s.step c) with hwhole | ⟨r, rest, rfl, hr, hcut', hpieces⟩
      · exact .inl (uncut_cons_iff.2 ⟨hcut, hwhole⟩)
      · refine .inr ⟨c :: r, rest, rfl, uncut_cons_iff.2 ⟨hcut, hr⟩, hcut', ?_⟩
        rw [pieces_cons, hcut, hpieces]
        rfl

/-- The pieces, with commas between them, are the text. -/
theorem withCommas_pieces (s : Scan) (cs : List Char) : withCommas (pieces s cs) = cs := by
  induction hlength : cs.length using Nat.strong_induction_on generalizing cs s with
  | _ n ih =>
    rcases uncut_or_cut s cs with hwhole | ⟨r, rest, rfl, -, -, hpieces⟩
    · rw [hwhole, withCommas_singleton]
    · have hless : rest.length < n := by
        simp [← hlength]
        omega
      rw [hpieces, withCommas_cons r (pieces_ne_nil _ _), ih _ hless _ _ rfl]

end

/-- Between any two pieces there is a top-level comma. -/
theorem pieces_eq_append {text : List Char} {ps qs : List (List Char)} (hps : ps ≠ [])
    (hqs : qs ≠ []) (h : pieces .start text = ps ++ qs) :
    text = withCommas ps ++ ',' :: withCommas qs ∧ Scan.start.after (withCommas ps) = .start := by
  induction ps generalizing text with
  | nil => exact absurd rfl hps
  | cons p ps ih =>
    rcases uncut_or_cut .start text with hwhole | ⟨r, rest, rfl, -, hcut, hpieces⟩
    · -- a single piece is not on both sides
      rw [hwhole] at h
      have hnil := (List.append_eq_nil_iff.1 (List.cons.inj h).2.symm).2
      exact absurd hnil hqs
    · have hstart := (Scan.start_sound.after r).eq_start hcut
      rw [hstart] at hpieces
      obtain ⟨rfl, hrest⟩ := List.cons.inj (hpieces.symm.trans h)
      by_cases hnil : ps = []
      · have hqs : pieces .start rest = qs := by rw [hrest, hnil]; rfl
        rw [hnil, withCommas_singleton, ← hqs, withCommas_pieces]
        exact ⟨rfl, hstart⟩
      · obtain ⟨hrest, hafter⟩ := ih hnil hrest
        rw [withCommas_cons _ hnil, Scan.after_append, hstart, hrest, List.append_assoc]
        exact ⟨rfl, hafter⟩

/-- A text is cut into its pieces at its top-level commas. -/
theorem cutAt_pieces (text : List Char) : CutAt text (pieces .start text) where
  ne_nil := pieces_ne_nil _ _
  joined := withCommas_pieces _ _
  between before after := by
    constructor
    · rintro ⟨ps, qs, hps, hqs, h, rfl, rfl⟩
      obtain ⟨htext, hafter⟩ := pieces_eq_append hps hqs h
      exact ⟨htext, topLevel_iff.2 hafter⟩
    · rintro ⟨rfl, htop⟩
      have hafter := topLevel_iff.1 htop
      have hcut : (Scan.start.after before).isCut ',' = true := by
        rw [hafter]
        rfl
      refine ⟨_, _, pieces_ne_nil _ _, pieces_ne_nil _ _, ?_, withCommas_pieces .start before,
        withCommas_pieces .start after⟩
      rw [pieces_append_cut hcut, hafter]

section

variable {r r' before after : List Char} {rs rs' : List (List Char)}

theorem not_commaBetween_singleton : ¬CommaBetween [r] before after := by
  rintro ⟨_ | ⟨p, ps⟩, qs, hps, hqs, h, -, -⟩
  · exact hps rfl
  · exact hqs (List.append_eq_nil_iff.1 (List.cons.inj h).2.symm).2

theorem commaBetween_cons (h : rs ≠ []) : CommaBetween (r :: rs) before after ↔
    before = r ∧ after = withCommas rs ∨
      ∃ before', before = r ++ ',' :: before' ∧ CommaBetween rs before' after := by
  constructor
  · rintro ⟨_ | ⟨p, ps⟩, qs, hne, hqs, heq, rfl, rfl⟩
    · exact absurd rfl hne
    · obtain ⟨rfl, rfl⟩ := List.cons.inj heq
      by_cases hps : ps = []
      · exact .inl ⟨by rw [hps, withCommas_singleton], by rw [hps]; rfl⟩
      · exact .inr ⟨_, withCommas_cons r hps, ps, qs, hps, hqs, rfl, rfl, rfl⟩
  · rintro (⟨rfl, rfl⟩ | ⟨_, rfl, ps, qs, hps, hqs, rfl, rfl, rfl⟩)
    · exact ⟨[before], rs, List.cons_ne_nil _ _, h, rfl, withCommas_singleton _, rfl⟩
    · exact ⟨r :: ps, qs, List.cons_ne_nil _ _, hqs, rfl, withCommas_cons r hps, rfl⟩

/-- The first of the texts comes before every comma. -/
theorem CommaBetween.begins (h : CommaBetween (r :: rs) before after) : r <+: before := by
  obtain ⟨_ | ⟨p, ps⟩, qs, hne, -, heq, rfl, -⟩ := h
  · exact absurd rfl hne
  · obtain ⟨rfl, -⟩ := List.cons.inj heq
    exact prefix_withCommas r ps

/-- Texts are told by the commas between them. -/
theorem eq_of_commaBetween_iff (hne : rs ≠ []) (hne' : rs' ≠ [])
    (hjoined : withCommas rs = withCommas rs')
    (h : ∀ before after, CommaBetween rs before after ↔ CommaBetween rs' before after) :
    rs = rs' := by
  induction rs generalizing rs' with
  | nil => exact absurd rfl hne
  | cons r rs ih =>
    cases rs' with
    | nil => exact absurd rfl hne'
    | cons r' rs' =>
      have hfirst : ∀ {r : List Char} {rs : List (List Char)}, rs ≠ [] →
          CommaBetween (r :: rs) r (withCommas rs) := fun hrs =>
        (commaBetween_cons hrs).2 (.inl ⟨rfl, rfl⟩)
      by_cases hrs : rs = []
      · have hrs' : rs' = [] := by
          by_contra hrs'
          have hnone := (h r' _).2 (hfirst hrs')
          rw [hrs] at hnone
          exact not_commaBetween_singleton hnone
        rw [hrs, hrs', withCommas_singleton, withCommas_singleton] at hjoined
        rw [hrs, hrs', hjoined]
      · have hrs' : rs' ≠ [] := by
          intro hrs'
          have hnone := (h r _).1 (hfirst hrs)
          rw [hrs'] at hnone
          exact not_commaBetween_singleton hnone
        -- either first text comes before the first comma of the other
        have hle := ((h r' _).2 (hfirst hrs')).begins
        have hle' := ((h r _).1 (hfirst hrs)).begins
        obtain rfl : r = r' := hle.eq_of_length_le hle'.length_le
        rw [withCommas_cons r hrs, withCommas_cons r hrs', List.append_cancel_left_eq,
          List.cons.injEq] at hjoined
        have hrest : ∀ {rs : List (List Char)}, rs ≠ [] → ∀ before after,
            CommaBetween (r :: rs) (r ++ ',' :: before) after ↔ CommaBetween rs before after := by
          intro rs hrs before after
          rw [commaBetween_cons hrs]
          simp
        rw [ih hrs hrs' hjoined.2 fun before after => by
          rw [← hrest hrs, h, hrest hrs']]

end

/-- There is one way to cut a text at its top-level commas. -/
theorem CutAt.unique {text : List Char} {rs rs' : List (List Char)} (h : CutAt text rs)
    (h' : CutAt text rs') : rs = rs' :=
  eq_of_commaBetween_iff h.ne_nil h'.ne_nil (h.joined.trans h'.joined.symm) fun before after =>
    (h.between before after).trans (h'.between before after).symm

/-! ## Blanks -/

section

variable {s : Scan} {c : Char} {cs bs : List Char}

/-- A blank neither opens nor closes anything. -/
theorem ne_of_isBlank (hc : Text.isBlank c = true) {x : Char} (hx : Text.isBlank x = false) :
    c ≠ x := by
  rintro rfl
  exact Bool.false_ne_true (hx.symm.trans hc)

theorem isQuote_of_isBlank (hc : Text.isBlank c = true) : isQuote c = false := by
  simp [isQuote, ne_of_isBlank hc (x := Text.doubleQuote) (by decide),
    ne_of_isBlank hc (x := Text.singleQuote) (by decide)]

namespace Scan

theorem Sound.step_of_isBlank (h : s.Sound) (hquote : s.quote = none)
    (hc : Text.isBlank c = true) : s.step c = s := by
  have hopening : isOpening c = false := by
    simp [isOpening, ne_of_isBlank hc (x := '(') (by decide),
      ne_of_isBlank hc (x := '[') (by decide), ne_of_isBlank hc (x := '\x7b') (by decide)]
  have hclosing : isClosing c = false := by
    simp [isClosing, ne_of_isBlank hc (x := ')') (by decide),
      ne_of_isBlank hc (x := ']') (by decide), ne_of_isBlank hc (x := '\x7d') (by decide)]
  obtain ⟨depth, quote, escaped⟩ := s
  obtain rfl : quote = none := hquote
  obtain rfl : escaped = false := h.escaped rfl
  rw [step_outside (isQuote_of_isBlank hc), hopening, hclosing]
  simp

/-- A blank does not close a quoted text. -/
theorem Sound.quote_step_of_isBlank (h : s.Sound) (hc : Text.isBlank c = true) :
    (s.step c).quote = s.quote := by
  cases hquote : s.quote with
  | none => rw [h.step_of_isBlank hquote hc, hquote]
  | some q =>
    have hq : c ≠ q := by
      rintro rfl
      have hquote := h.quote c hquote
      rw [isQuote_of_isBlank hc] at hquote
      cases hquote
    rw [Scan.step, hquote]
    dsimp only
    split_ifs <;> simp [hquote]

theorem Sound.quote_after_blanks (h : s.Sound) (hbs : ∀ c ∈ bs, Text.isBlank c = true) :
    (s.after bs).quote = s.quote := by
  induction bs generalizing s with
  | nil => rfl
  | cons c bs ih =>
    obtain ⟨hc, hbs⟩ := List.forall_mem_cons.1 hbs
    rw [after_cons, ih (h.step c) hbs, h.quote_step_of_isBlank hc]

theorem Sound.after_blanks (h : s.Sound) (hquote : s.quote = none)
    (hbs : ∀ c ∈ bs, Text.isBlank c = true) : s.after bs = s := by
  induction bs with
  | nil => rfl
  | cons c bs ih =>
    obtain ⟨hc, hbs⟩ := List.forall_mem_cons.1 hbs
    rw [after_cons, h.step_of_isBlank hquote hc, ih hbs]

end Scan

theorem uncut_blanks (s : Scan) (hbs : ∀ c ∈ bs, Text.isBlank c = true) : Uncut s bs := by
  induction bs generalizing s with
  | nil => rfl
  | cons c bs ih =>
    obtain ⟨hc, hbs⟩ := List.forall_mem_cons.1 hbs
    refine uncut_cons_iff.2 ⟨Bool.eq_false_iff.2 fun hcut => ?_, ih _ hbs⟩
    exact ne_of_isBlank hc (x := ',') (by decide) (Scan.isCut_iff.1 hcut).2.2

/-- Blanks in front of a piece do not matter. -/
theorem Uncut.blanks_append (h : Uncut .start cs) (hbs : ∀ c ∈ bs, Text.isBlank c = true) :
    Uncut .start (bs ++ cs) := by
  rw [uncut_append_iff, Scan.start_sound.after_blanks rfl hbs]
  exact ⟨uncut_blanks _ hbs, h⟩

/-- A trimmed piece is one piece. If nothing is open after the piece, neither is after the
    trimmed one. -/
theorem Uncut.trim (h : Uncut .start cs) : Uncut .start (Text.trimChars cs) ∧
    (Scan.start.after cs = .start → Scan.start.after (Text.trimChars cs) = .start) := by
  obtain ⟨lead, trail, hcs, hlead, htrail⟩ := Text.exists_eq_append_trimBy Text.isBlank cs
  change cs = lead ++ (Text.trimChars cs ++ trail) at hcs
  have hlead := Scan.start_sound.after_blanks rfl hlead
  rw [hcs, uncut_append_iff, hlead, uncut_append_iff] at h
  refine ⟨h.2.1, fun hafter => ?_⟩
  rw [hcs, Scan.after_append, hlead, Scan.after_append] at hafter
  -- a quoted text open before the blanks at the end would be open after them
  have hsound := Scan.start_sound.after (Text.trimChars cs)
  have hquote : (Scan.start.after (Text.trimChars cs)).quote = none := by
    rw [← hsound.quote_after_blanks htrail, hafter]
    rfl
  rwa [hsound.after_blanks hquote htrail] at hafter

/-- The trimmed pieces of a text, with commas and spaces between them, have themselves as their
    trimmed pieces. -/
theorem map_trimChars_pieces (text : List Char) (hbs : ∀ c ∈ bs, Text.isBlank c = true) :
    (pieces .start (bs ++ [',', ' '].intercalate ((pieces .start text).map Text.trimChars))).map
      Text.trimChars = (pieces .start text).map Text.trimChars := by
  have htrim : ∀ r, Text.trimChars (bs ++ Text.trimChars r) = Text.trimChars r := fun r =>
    (Text.trimBy_append_left hbs).trans (Text.trimBy_trimBy Text.isBlank r)
  induction hlength : text.length using Nat.strong_induction_on generalizing text bs with
  | _ n ih =>
    rcases uncut_or_cut .start text with hwhole | ⟨r, rest, rfl, hr, hcut, hpieces⟩
    · rw [hwhole, List.map_singleton, List.intercalate_singleton,
        hwhole.trim.1.blanks_append hbs, List.map_singleton, htrim]
    · have hstart := (Scan.start_sound.after r).eq_start hcut
      obtain ⟨htrimmed, hafter⟩ := hr.trim
      have hspace := Text.forall_mem_space_isBlank
      -- what comes after the first piece begins with a space
      have hrest := ih rest.length (by simp [← hlength]; omega) rest hspace
        (fun r => (Text.trimBy_append_left hspace).trans (Text.trimBy_trimBy Text.isBlank r)) rfl
      have hopen : Scan.start.after (bs ++ Text.trimChars r) = .start := by
        rw [Scan.after_append, Scan.start_sound.after_blanks rfl hbs, hafter hstart]
      have hne : (pieces .start rest).map Text.trimChars ≠ [] := by
        simpa using pieces_ne_nil .start rest
      rw [hpieces, hstart, List.map_cons, List.intercalate_cons_of_ne_nil hne]
      have hassoc : ∀ xs : List Char, bs ++ (Text.trimChars r ++ [',', ' '] ++ xs) =
          (bs ++ Text.trimChars r) ++ ',' :: ([' '] ++ xs) := by simp
      rw [hassoc, pieces_append_cut (by rw [hopen]; rfl), hopen, List.map_append, hrest,
        htrimmed.blanks_append hbs, List.map_singleton, htrim]
      rfl

end

/-! ## Arguments -/

section

variable {text : String}

theorem trim_ofList (r : List Char) :
    Text.trim (String.ofList r) = String.ofList (Text.trimChars r) := by
  rw [Text.trim, Text.onChars, String.toList_ofList]

theorem split_of_blank (h : Text.isBlankText text = true) : split text = [] := by
  have hblank : ∀ c ∈ text.toList, Text.isBlank c = true := List.all_eq_true.1 h
  have htrim : Text.trimChars text.toList = [] := Text.trimBy_eq_nil_iff.2 hblank
  rw [split, uncut_blanks .start hblank, List.map_singleton, htrim]
  rfl

/-- The arguments are the pieces without the blanks around them, unless there is nothing but
    blanks. -/
theorem split_of_not_blank (h : Text.isBlankText text = false) :
    split text = (pieces .start text.toList).map fun r => Text.trim (String.ofList r) := by
  simp only [trim_ofList]
  rcases uncut_or_cut .start text.toList with hwhole | ⟨r, rest, -, -, -, hpieces⟩
  · have hne : String.ofList (Text.trimChars text.toList) ≠ "" := fun hempty =>
      Bool.eq_false_iff.1 h (Text.trim_eq_empty_iff.1 hempty)
    rw [split, hwhole, List.map_singleton]
    simp [hne]
  · rw [split, hpieces]
    cases hrest : pieces (Scan.start.after r) rest with
    | nil => exact absurd hrest (pieces_ne_nil _ _)
    | cons p ps => rfl

/-- The arguments are told by the trimmed pieces. -/
theorem split_congr {text' : String} (h : (pieces .start text.toList).map Text.trimChars =
    (pieces .start text'.toList).map Text.trimChars) : split text = split text' := by
  have harguments := congrArg (List.map String.ofList) h
  rw [List.map_map, List.map_map] at harguments
  change (pieces .start text.toList).map (fun r => String.ofList (Text.trimChars r)) =
    (pieces .start text'.toList).map (fun r => String.ofList (Text.trimChars r)) at harguments
  rw [split, split, harguments]

/-- The arguments, written with commas and spaces between them, are the arguments again. -/
theorem split_joined_split (text : String) :
    split (Text.joined ", " (split text)) = split text := by
  cases h : Text.isBlankText text with
  | true =>
    rw [split_of_blank h]
    rfl
  | false =>
    have hchars : (Text.joined ", " (split text)).toList =
        [',', ' '].intercalate ((pieces .start text.toList).map Text.trimChars) := by
      rw [Text.joined, String.toList_intercalate, split_of_not_blank h, List.map_map]
      simp [Function.comp_def, trim_ofList]
    have hpieces := map_trimChars_pieces text.toList (List.forall_mem_nil _)
    rw [List.nil_append, ← hchars] at hpieces
    exact split_congr hpieces

end

/-- An argument list can be cut at precisely its top-level commas in one way. Its arguments are the
    pieces without the blanks around them, except that a blank text without a top-level comma has
    none. Written with commas and spaces between them, they are the arguments again. -/
theorem split_cuts_at_top_level (text : String) :
    ∃ rs, CutAt text.toList rs ∧ (∀ rs', CutAt text.toList rs' → rs' = rs) ∧
      (Text.isBlankText text = true ∧
          (∀ before after, text.toList = before ++ ',' :: after → ¬TopLevel before) →
        split text = []) ∧
      (¬(Text.isBlankText text = true ∧
          ∀ before after, text.toList = before ++ ',' :: after → ¬TopLevel before) →
        split text = rs.map fun r => Text.trim (String.ofList r)) ∧
      split (Text.joined ", " (split text)) = split text := by
  refine ⟨pieces .start text.toList, cutAt_pieces _, fun rs' h => h.unique (cutAt_pieces _),
    fun h => split_of_blank h.1, fun h => ?_, split_joined_split text⟩
  refine split_of_not_blank (Bool.eq_false_iff.2 fun hblank => h ⟨hblank, ?_⟩)
  intro before after htext
  have hcomma : Text.isBlank ',' = true :=
    List.all_eq_true.1 hblank ',' (htext ▸ List.mem_append_right _ List.mem_cons_self)
  exact absurd hcomma (by decide)

/-- Three arguments: one comma is inside a quoted text, one between brackets, and two in a quoted
    text that stays open. -/
example : split "a , f([x, \"]\"], 'y,\\'') ,'b, c, " =
    ["a", "f([x, \"]\"], 'y,\\'')", "'b, c,"] := by
  decide +kernel

end StateMachine.Arguments
