import StateMachine.Document.Reader

/-!
# Bounds on reading

Two numbers bound the reader of documents, and only one of them can be felt.

* A list has at most as many items as there are characters left, and so has an object members.
  Every part of the reader takes at least one character (`readValue_consumes`), so the text ends
  before the bound does: with every number above its length the same is read (`readRow_bound`).
* The levels are a limit: a value that is read nests no deeper than there are levels for it
  (`readValue_nestsWithin`, `Value.nestsWithin_of_read`). They are nothing but that: where those
  there are suffice, the same is read with more (`readValue_levels`).
-/

namespace StateMachine

section Except

variable {ε δ α β : Type} {x : Except ε α}

theorem bind_eq_error {f : α → Except ε β} {e : ε} :
    (x >>= f) = .error e ↔ x = .error e ∨ ∃ a, x = .ok a ∧ f a = .error e := by
  cases x <;> simp [Bind.bind, Except.bind]

theorem bind_eq_ok {f : α → Except ε β} {b : β} :
    (x >>= f) = .ok b ↔ ∃ a, x = .ok a ∧ f a = .ok b := by
  cases x <;> simp [Bind.bind, Except.bind]

theorem toOption_eq_some {a : α} : x.toOption = some a ↔ x = .ok a := by
  cases x <;> simp [Except.toOption]

theorem mapError_error (g : ε → δ) (e : ε) :
    (Except.error e : Except ε α).mapError g = .error (g e) :=
  rfl

theorem mapError_ok (g : ε → δ) (a : α) : (Except.ok a : Except ε α).mapError g = .ok a :=
  rfl

theorem mapError_eq_error {g : ε → δ} {e : δ} :
    x.mapError g = .error e ↔ ∃ e', x = .error e' ∧ g e' = e := by
  cases x <;> simp [mapError_error, mapError_ok]

theorem mapError_eq_ok {g : ε → δ} {a : α} : x.mapError g = .ok a ↔ x = .ok a := by
  cases x <;> simp [mapError_error, mapError_ok]

end Except

/-- The value nests lists and objects no deeper than this many levels. -/
def Value.NestsWithin : (levels : Nat) → Value → Prop
  | 0, .list _ => False
  | levels + 1, .list items => ∀ v ∈ items, v.NestsWithin levels
  | 0, .object _ => False
  | levels + 1, .object members => ∀ m ∈ members, m.2.NestsWithin levels
  | _, _ => True

theorem Value.mem_put {key : String} {value : Value} {members : List (String × Value)}
    {m : String × Value} (h : m ∈ put key value members) : m.2 = value ∨ m ∈ members := by
  induction members with
  | nil =>
    rw [put, List.mem_singleton] at h
    exact .inl (h ▸ rfl)
  | cons m' members ih =>
    obtain ⟨k, v⟩ := m'
    rw [put] at h
    split at h
    · rcases List.mem_cons.1 h with rfl | h
      · exact .inl rfl
      · exact .inr (List.mem_cons_of_mem _ h)
    · rcases List.mem_cons.1 h with rfl | h
      · exact .inr List.mem_cons_self
      · exact (ih h).imp_right (List.mem_cons_of_mem _)

namespace Reader

variable {α β : Type} {read read' : Part Value} {limit : Option Nat} {levels levels' : Nat}
  {cs rest : List Char}

/-! ## Every part takes something -/

/-- What is read takes at least one character. -/
def Consumes (part : Part α) : Prop :=
  ∀ ⦃cs a rest⦄, part cs = .ok (a, rest) → rest.length < cs.length

theorem length_skip_le (cs : List Char) : (skip cs).length ≤ cs.length :=
  (List.dropWhile_suffix _).length_le

theorem onTheSpot_eq_ok {step : Except Fault α} {a : α} :
    onTheSpot levels step = .ok a ↔ step = .ok a :=
  mapError_eq_ok

theorem onTheSpot_complain_ne_ok {what : Complaint} {a : α × List Char} :
    onTheSpot levels (complain what cs) ≠ .ok a := by
  rw [Ne, onTheSpot_eq_ok, complain]
  exact fun h => by cases h

theorem length_codeUnit? {n : Nat} (h : codeUnit? cs = some (n, rest)) :
    rest.length < cs.length := by
  unfold codeUnit? at h
  split at h
  · simp only [Option.bind_eq_bind, Option.bind_eq_some_iff, Option.pure_def, Option.some.injEq,
      Prod.mk.injEq] at h
    obtain ⟨_, -, _, -, _, -, _, -, -, rfl⟩ := h
    simp only [List.length_cons]
    omega
  · cases h

theorem readCodePoint_consumes : Consumes readCodePoint := by
  intro cs x rest h
  unfold readCodePoint at h
  split at h
  · cases h
  next n rest₁ hunit =>
  have hrest₁ : rest₁.length < cs.length :=
    Nat.lt_of_lt_of_le (length_codeUnit? hunit) (List.drop_sublist 1 cs).length_le
  split at h
  · split at h
    · split at h
      · cases h
      next m rest₂ hlow =>
      -- the second half of a pair is read, too, if it is one
      split at h
      · have hrest₂ := length_codeUnit? hlow
        rw [List.length_cons, List.length_cons] at hrest₁
        rw [← (Prod.mk.inj (Except.ok.inj h)).2]
        omega
      · cases h
        exact hrest₁
    · cases h
      exact hrest₁
  · cases h
    exact hrest₁

theorem readChars_consumes (opened fuel : Nat) : Consumes (readChars opened fuel) := by
  induction fuel with
  | zero =>
    intro cs xs rest h
    cases h
  | succ fuel ih =>
    intro cs xs rest h
    rcases cs with _ | ⟨c, cs⟩
    · cases h
    rw [List.length_cons]
    unfold readChars at h
    split at h
    · cases h
      exact Nat.lt_add_one _
    split at h
    · -- what follows a backslash
      split at h
      · cases h
      next d more =>
      rw [List.length_cons]
      split at h
      · obtain ⟨⟨x, rest₁⟩, hx, h⟩ := bind_eq_ok.1 h
        obtain ⟨⟨xs', rest₂⟩, hxs, h⟩ := bind_eq_ok.1 h
        cases h
        have hrest₁ := readCodePoint_consumes hx
        have hrest := ih hxs
        rw [List.length_cons] at hrest₁
        omega
      · split at h
        · cases h
        · obtain ⟨⟨xs', rest₁⟩, hxs, h⟩ := bind_eq_ok.1 h
          cases h
          have hrest := ih hxs
          omega
    split at h
    · cases h
    · obtain ⟨⟨xs', rest₁⟩, hxs, h⟩ := bind_eq_ok.1 h
      cases h
      exact Nat.lt_succ_of_lt (ih hxs)

theorem readText_consumes : Consumes readText := by
  intro cs s rest h
  obtain ⟨⟨xs, rest₁⟩, hxs, h⟩ := bind_eq_ok.1 h
  cases h
  exact readChars_consumes _ _ hxs

theorem length_dropWhile_le (p : Char → Bool) (cs : List Char) :
    (cs.dropWhile p).length ≤ cs.length :=
  (List.dropWhile_suffix p).length_le

theorem length_wholePart? {ds : List Char} (h : wholePart? cs = some (ds, rest)) :
    rest.length < cs.length := by
  unfold wholePart? at h
  split at h
  · cases h
  next c more =>
  rw [List.length_cons]
  split at h
  · cases h
    exact Nat.lt_add_one _
  split at h
  next hdigit =>
    cases h
    rw [List.dropWhile_cons_of_pos hdigit]
    exact Nat.lt_succ_of_le (length_dropWhile_le _ _)
  · cases h

theorem length_fractionPart {ds : List Char} (h : fractionPart cs = some (ds, rest)) :
    rest.length ≤ cs.length := by
  unfold fractionPart at h
  split at h
  · split at h
    · cases h
      exact Nat.le_succ_of_le (length_dropWhile_le _ _)
    · cases h
  · cases h

theorem length_exponentPart {n : Int} (h : exponentPart cs = some (n, rest)) :
    rest.length ≤ cs.length := by
  unfold exponentPart at h
  split at h
  next e more =>
    split at h
    · -- a sign may stand before the digits
      split at h
      next negative digits hsign =>
      have hdigits : digits.length ≤ more.length := by
        split at hsign <;> cases hsign <;> simp
      dsimp only at h
      split at h
      · cases h
      · cases h
        exact Nat.le_succ_of_le (Nat.le_trans (length_dropWhile_le _ _) hdigits)
    · cases h
  · cases h

/-- What is left after a part that may be missing. -/
theorem length_afterPart_le {part : Option (α × List Char)}
    (h : ∀ a rest, part = some (a, rest) → rest.length ≤ cs.length) :
    ((part.map (·.2)).getD cs).length ≤ cs.length := by
  cases part with
  | none => exact Nat.le_refl _
  | some p => exact h p.1 p.2 rfl

theorem length_numeral? {n : Numeral} (h : numeral? cs = some (n, rest)) :
    rest.length < cs.length := by
  unfold numeral? at h
  split at h
  next negative body hsign =>
  have hbody : body.length ≤ cs.length := by
    split at hsign <;> cases hsign <;> simp
  obtain ⟨⟨whole, rest₁⟩, hwhole, h⟩ := Option.bind_eq_some_iff.1 h
  cases h
  have hrest₁ := length_wholePart? hwhole
  have hfraction : (((fractionPart rest₁).map (·.2)).getD rest₁).length ≤ rest₁.length :=
    length_afterPart_le fun _ _ => length_fractionPart
  have hexponent : ∀ cs : List Char,
      (((exponentPart cs).map (·.2)).getD cs).length ≤ cs.length :=
    fun cs => length_afterPart_le fun _ _ => length_exponentPart
  have hrest₂ := hexponent (((fractionPart rest₁).map (·.2)).getD rest₁)
  omega

/-- A word that the text begins with takes something of it. -/
theorem length_drop_word {word : String} {v : Value}
    (h : (words.find? fun w => w.1.toList.isPrefixOf cs) = some (word, v)) :
    (cs.drop word.length).length < cs.length := by
  have hprefix : word.toList <+: cs := by simpa using List.find?_some h
  have hle := hprefix.length_le
  rw [String.length_toList] at hle
  have hpos : ∀ w ∈ words, 0 < w.1.length := by decide
  have hword : 0 < word.length := hpos _ (List.mem_of_find?_eq_some h)
  rw [List.length_drop]
  exact Nat.sub_lt (Nat.lt_of_lt_of_le hword hle) hword

theorem readScalar_consumes (limit : Option Nat) (levels : Nat) :
    Consumes (readScalar limit levels) := by
  intro cs v rest h
  unfold readScalar at h
  split at h
  next hfind =>
    split at h
    · cases h
    · cases h
      exact length_drop_word hfind
  next hfind =>
    cases h
    exact length_drop_word hfind
  · split at h
    · split at h
      · cases h
      next hnumeral _ =>
        cases h
        exact length_numeral? hnumeral
    · cases h

/-! ## Values side by side -/

theorem length_tail_lt {c : Char} (h : cs.head? = some c) : cs.tail.length < cs.length := by
  cases cs with
  | nil => cases h
  | cons _ cs => exact Nat.lt_add_one _

theorem readRow_consumes {close : Char} {part : Part α} (hpart : Consumes part)
    (levels bound : Nat) : Consumes (readRow close part levels bound) := by
  induction bound with
  | zero =>
    intro cs as rest h
    exact absurd h onTheSpot_complain_ne_ok
  | succ bound ih =>
    intro cs as rest h
    obtain ⟨⟨a, rest₁⟩, ha, h⟩ := bind_eq_ok.1 h
    have hrest₁ := hpart ha
    have hskip := length_skip_le rest₁
    dsimp only at h
    split at h
    next hclose =>
      cases h
      have htail := length_tail_lt hclose
      omega
    split at h
    next hcomma =>
      obtain ⟨⟨as', rest₂⟩, has, h⟩ := bind_eq_ok.1 h
      cases h
      have htail := length_tail_lt hcomma
      have hskip' := length_skip_le (skip rest₁).tail
      have hrest₂ := ih has
      dsimp only
      omega
    · exact absurd h onTheSpot_complain_ne_ok

/-- The bound on the number of parts is not felt if it is above the number of characters. -/
theorem readRow_bound {close : Char} {part : Part α} (hpart : Consumes part) {n m : Nat}
    (hn : cs.length < n) (hm : cs.length < m) :
    readRow close part levels n cs = readRow close part levels m cs := by
  induction n generalizing cs m with
  | zero => omega
  | succ n ih =>
    obtain ⟨m, rfl⟩ := Nat.exists_eq_add_one_of_ne_zero (Nat.ne_zero_of_lt hm)
    rw [readRow, readRow]
    rcases ha : part cs with f | ⟨a, rest⟩
    · rfl
    have hrest := hpart ha
    have hskip := length_skip_le rest
    have hskip' := length_skip_le (skip rest).tail
    simp only [bind, Except.bind]
    by_cases hcomma : (skip rest).head? = some ','
    · have htail := length_tail_lt hcomma
      rw [ih (m := m) (by omega) (by omega)]
    · rw [if_neg hcomma, if_neg hcomma]

theorem readEnclosed_consumes {close : Char} {part : Part α} (hpart : Consumes part)
    (levels : Nat) : Consumes (readEnclosed close part levels) := by
  intro cs as rest h
  have hskip := length_skip_le cs
  dsimp only [readEnclosed] at h
  split at h
  next hclose =>
    cases h
    exact Nat.lt_of_lt_of_le (length_tail_lt hclose) hskip
  · exact Nat.lt_of_lt_of_le (readRow_consumes hpart _ _ h) hskip

theorem readMember_consumes (hread : Consumes read) (levels : Nat) :
    Consumes (readMember read levels) := by
  intro cs m rest h
  unfold readMember at h
  split at h
  next cs =>
    obtain ⟨⟨name, rest₁⟩, hname, h⟩ := bind_eq_ok.1 h
    have hrest₁ := readText_consumes (onTheSpot_eq_ok.1 hname)
    have hskip := length_skip_le rest₁
    dsimp only at h
    split at h
    next more hmore =>
      obtain ⟨⟨v, rest₂⟩, hv, h⟩ := bind_eq_ok.1 h
      cases h
      have hrest₂ := hread hv
      have hskip' := length_skip_le more
      rw [hmore, List.length_cons] at hskip
      rw [List.length_cons]
      dsimp only
      omega
    · exact absurd h onTheSpot_complain_ne_ok
  · exact absurd h onTheSpot_complain_ne_ok

/-! ## Values inside one another -/

/-- A value that is read is a list or an object, with values inside that are read with a level
    less, or a text, a word or a number. -/
theorem readValue_cases {v : Value} (h : readValue limit levels cs = .ok (v, rest)) :
    (∃ n items more, levels = n + 1 ∧ cs = '[' :: more ∧
      readEnclosed ']' (readValue limit n) n more = .ok (items, rest) ∧ v = .list items) ∨
    (∃ n members more, levels = n + 1 ∧ cs = '\x7b' :: more ∧
      readEnclosed '\x7d' (readMember (readValue limit n) n) n more = .ok (members, rest) ∧
      v = objectOf members) ∨
    (∃ s more, cs = '\x22' :: more ∧ readText more = .ok (s, rest) ∧ v = .str s) ∨
    readScalar limit levels cs = .ok (v, rest) := by
  unfold readValue at h
  split at h
  next more =>
    cases levels with
    | zero => cases h
    | succ n =>
      obtain ⟨⟨items, after⟩, hitems, h⟩ := bind_eq_ok.1 h
      cases h
      exact .inl ⟨n, items, more, rfl, rfl, hitems, rfl⟩
  next more =>
    cases levels with
    | zero => cases h
    | succ n =>
      obtain ⟨⟨members, after⟩, hmembers, h⟩ := bind_eq_ok.1 h
      cases h
      exact .inr (.inl ⟨n, members, more, rfl, rfl, hmembers, rfl⟩)
  next more =>
    obtain ⟨⟨s, after⟩, hs, h⟩ := bind_eq_ok.1 h
    cases h
    exact .inr (.inr (.inl ⟨s, more, rfl, onTheSpot_eq_ok.1 hs, rfl⟩))
  · exact .inr (.inr (.inr h))

/-- Every value takes at least one character. -/
theorem readValue_consumes (limit : Option Nat) (levels : Nat) :
    Consumes (readValue limit levels) := by
  induction levels with
  | zero =>
    intro cs v rest h
    obtain ⟨n, _, _, hn, -⟩ | ⟨n, _, _, hn, -⟩ | ⟨s, more, rfl, hs, -⟩ | h := readValue_cases h
    · cases hn
    · cases hn
    · exact Nat.lt_succ_of_lt (readText_consumes hs)
    · exact readScalar_consumes _ _ h
  | succ levels ih =>
    intro cs v rest h
    obtain ⟨n, items, more, hn, rfl, hitems, -⟩ | ⟨n, members, more, hn, rfl, hmembers, -⟩ |
      ⟨s, more, rfl, hs, -⟩ | h := readValue_cases h
    · cases hn
      exact Nat.lt_succ_of_lt (readEnclosed_consumes ih _ hitems)
    · cases hn
      exact Nat.lt_succ_of_lt (readEnclosed_consumes (readMember_consumes ih _) _ hmembers)
    · exact Nat.lt_succ_of_lt (readText_consumes hs)
    · exact readScalar_consumes _ _ h

/-- What holds of every part that is read holds of all parts in a row. -/
theorem forall_mem_of_readRow {close : Char} {part : Part α} {P : α → Prop}
    (hpart : ∀ ⦃cs a rest⦄, part cs = .ok (a, rest) → P a) {bound : Nat} {as : List α}
    (h : readRow close part levels bound cs = .ok (as, rest)) : ∀ a ∈ as, P a := by
  induction bound generalizing cs as with
  | zero => exact absurd h onTheSpot_complain_ne_ok
  | succ bound ih =>
    obtain ⟨⟨a, rest₁⟩, ha, h⟩ := bind_eq_ok.1 h
    dsimp only at h
    split at h
    · cases h
      exact List.forall_mem_singleton.2 (hpart ha)
    split at h
    · obtain ⟨⟨as', rest₂⟩, has, h⟩ := bind_eq_ok.1 h
      cases h
      exact List.forall_mem_cons.2 ⟨hpart ha, ih has⟩
    · exact absurd h onTheSpot_complain_ne_ok

theorem forall_mem_of_readEnclosed {close : Char} {part : Part α} {P : α → Prop}
    (hpart : ∀ ⦃cs a rest⦄, part cs = .ok (a, rest) → P a) {as : List α}
    (h : readEnclosed close part levels cs = .ok (as, rest)) : ∀ a ∈ as, P a := by
  dsimp only [readEnclosed] at h
  split at h
  · cases h
    exact List.forall_mem_nil P
  · exact forall_mem_of_readRow hpart h

theorem exists_of_readMember {m : String × Value} (h : readMember read levels cs = .ok (m, rest)) :
    ∃ cs', read cs' = .ok (m.2, rest) := by
  unfold readMember at h
  split at h
  next cs =>
    obtain ⟨⟨name, rest₁⟩, hname, h⟩ := bind_eq_ok.1 h
    dsimp only at h
    split at h
    next more hmore =>
      obtain ⟨⟨v, rest₂⟩, hv, h⟩ := bind_eq_ok.1 h
      cases h
      exact ⟨_, hv⟩
    · exact absurd h onTheSpot_complain_ne_ok
  · exact absurd h onTheSpot_complain_ne_ok

theorem objectOf_nestsWithin {members : List (String × Value)}
    (h : ∀ m ∈ members, m.2.NestsWithin levels) : (objectOf members).NestsWithin (levels + 1) := by
  have hfold : ∀ sofar : List (String × Value), (∀ m ∈ sofar, m.2.NestsWithin levels) →
      ∀ m ∈ members.foldl (fun sofar m => Value.put m.1 m.2 sofar) sofar,
        m.2.NestsWithin levels := by
    induction members with
    | nil => exact fun _ hsofar => hsofar
    | cons m members ih =>
      intro sofar hsofar
      obtain ⟨hm, hmembers⟩ := List.forall_mem_cons.1 h
      refine ih hmembers _ fun m' hm' => ?_
      rcases Value.mem_put hm' with heq | hmem
      · rw [heq]
        exact hm
      · exact hsofar m' hmem
  exact hfold [] (List.forall_mem_nil _)

theorem readScalar_nestsWithin {v : Value} (h : readScalar limit levels cs = .ok (v, rest))
    (n : Nat) : v.NestsWithin n := by
  have hnumeral : ∀ k : Numeral, k.value.NestsWithin n := by
    intro k
    unfold Numeral.value
    split <;> cases n <;> exact trivial
  have hwords : ∀ w ∈ words, w.2.NestsWithin n := by
    cases n <;> simp [words, Value.NestsWithin]
  unfold readScalar at h
  split at h
  next hfind =>
    split at h
    · cases h
    · cases h
      exact hwords _ (List.mem_of_find?_eq_some hfind)
  next hfind =>
    cases h
    exact hwords _ (List.mem_of_find?_eq_some hfind)
  · split at h
    · split at h
      · cases h
      · cases h
        exact hnumeral _
    · cases h

/-- A value that is read nests no deeper than there are levels. -/
theorem readValue_nestsWithin {v : Value} (h : readValue limit levels cs = .ok (v, rest)) :
    v.NestsWithin levels := by
  induction levels generalizing cs v rest with
  | zero =>
    obtain ⟨n, _, _, hn, -⟩ | ⟨n, _, _, hn, -⟩ | ⟨s, more, rfl, hs, rfl⟩ | h := readValue_cases h
    · cases hn
    · cases hn
    · exact trivial
    · exact readScalar_nestsWithin h 0
  | succ levels ih =>
    obtain ⟨n, items, more, hn, rfl, hitems, rfl⟩ | ⟨n, members, more, hn, rfl, hmembers, rfl⟩ |
      ⟨s, more, rfl, hs, rfl⟩ | h := readValue_cases h
    · cases hn
      exact forall_mem_of_readEnclosed (fun _ _ _ hv => ih hv) hitems
    · cases hn
      refine objectOf_nestsWithin (forall_mem_of_readEnclosed (fun _ _ _ hm => ?_) hmembers)
      obtain ⟨cs', hv⟩ := exists_of_readMember hm
      exact ih hv
    · exact trivial
    · exact readScalar_nestsWithin h _

/-! ## More levels -/

/-- The second step comes to what the first one comes to, unless that runs out of levels. -/
def Agrees (x y : Except Fault α) : Prop :=
  x = .error .tooDeep ∨ y = x

theorem Agrees.refl (x : Except Fault α) : Agrees x x :=
  .inr rfl

theorem Agrees.bind {x y : Except Fault α} {f g : α → Except Fault β} (h : Agrees x y)
    (hfg : ∀ a, Agrees (f a) (g a)) : Agrees (x >>= f) (y >>= g) := by
  rcases h with rfl | rfl
  · exact .inl rfl
  · cases y with
    | error fault => exact .refl _
    | ok a => exact hfg a

theorem Agrees.onTheSpot {x y : Except Fault α} (h : Agrees x y) (hle : levels ≤ levels') :
    Agrees (onTheSpot levels x) (onTheSpot levels' y) := by
  rcases h with rfl | rfl
  · exact .inl rfl
  rcases y with fault | a
  · rcases fault with ⟨what, left⟩ | digits | _
    · -- with fewer levels the complaint may run out of them, with more it does not
      by_cases hfew : levels < NestingLimit.complaining
      · refine .inl ?_
        simp only [Reader.onTheSpot, mapError_error, Fault.within, if_pos hfew]
      · have hmany : ¬levels' < NestingLimit.complaining := by omega
        refine .inr ?_
        simp only [Reader.onTheSpot, mapError_error, Fault.within, if_neg hfew, if_neg hmany]
    · exact .refl _
    · exact .refl _
  · exact .refl _

theorem readRow_agrees {close : Char} {part part' : Part α}
    (hpart : ∀ cs, Agrees (part cs) (part' cs)) (hle : levels ≤ levels') (bound : Nat)
    (cs : List Char) :
    Agrees (readRow close part levels bound cs) (readRow close part' levels' bound cs) := by
  induction bound generalizing cs with
  | zero => exact (Agrees.refl _).onTheSpot hle
  | succ bound ih =>
    refine (hpart cs).bind fun p => ?_
    dsimp only
    split
    · exact .refl _
    split
    · exact (ih _).bind fun _ => .refl _
    · exact (Agrees.refl _).onTheSpot hle

theorem readEnclosed_agrees {close : Char} {part part' : Part α}
    (hpart : ∀ cs, Agrees (part cs) (part' cs)) (hle : levels ≤ levels') (cs : List Char) :
    Agrees (readEnclosed close part levels cs) (readEnclosed close part' levels' cs) := by
  dsimp only [readEnclosed]
  split
  · exact .refl _
  · exact readRow_agrees hpart hle _ _

theorem readMember_agrees (hread : ∀ cs, Agrees (read cs) (read' cs)) (hle : levels ≤ levels')
    (cs : List Char) : Agrees (readMember read levels cs) (readMember read' levels' cs) := by
  unfold readMember
  split
  · refine ((Agrees.refl _).onTheSpot hle).bind fun p => ?_
    dsimp only
    split
    · exact (hread _).bind fun _ => .refl _
    · exact (Agrees.refl _).onTheSpot hle
  · exact (Agrees.refl _).onTheSpot hle

theorem readScalar_agrees (hle : levels ≤ levels') (cs : List Char) :
    Agrees (readScalar limit levels cs) (readScalar limit levels' cs) := by
  unfold readScalar
  split
  · by_cases hfew : levels < NestingLimit.lookingUp
    · exact .inl (if_pos hfew)
    · have hmany : ¬levels' < NestingLimit.lookingUp := by omega
      rw [if_neg hfew, if_neg hmany]
      exact .refl _
  · exact .refl _
  · exact .refl _

theorem readValue_agrees (hle : levels ≤ levels') (cs : List Char) :
    Agrees (readValue limit levels cs) (readValue limit levels' cs) := by
  induction levels generalizing levels' cs with
  | zero =>
    unfold readValue
    split
    · exact .inl rfl
    · exact .inl rfl
    · exact ((Agrees.refl _).onTheSpot hle).bind fun _ => .refl _
    · exact readScalar_agrees hle _
  | succ levels ih =>
    obtain ⟨levels', rfl⟩ := Nat.exists_eq_add_one_of_ne_zero (Nat.ne_zero_of_lt hle)
    have hle' := Nat.le_of_succ_le_succ hle
    unfold readValue
    split
    · exact (readEnclosed_agrees (ih hle') hle' _).bind fun _ => .refl _
    · exact (readEnclosed_agrees (readMember_agrees (ih hle') hle') hle' _).bind fun _ => .refl _
    · exact ((Agrees.refl _).onTheSpot hle).bind fun _ => .refl _
    · exact readScalar_agrees hle _

/-- Where the levels suffice, more levels change nothing. -/
theorem readValue_levels (hle : levels ≤ levels')
    (h : readValue limit levels cs ≠ .error .tooDeep) :
    readValue limit levels' cs = readValue limit levels cs :=
  (readValue_agrees hle cs).resolve_left h

end Reader

/-- A document that is read nests no deeper than the limit. -/
theorem Value.nestsWithin_of_read {cs : List Char} {v : Value} (h : Value.read cs = .ok v) :
    v.NestsWithin NestingLimit.levels := by
  have h := mapError_eq_ok.1 h
  unfold Reader.document at h
  split at h
  · cases h
  obtain ⟨⟨v', rest⟩, hv, h⟩ := bind_eq_ok.1 h
  dsimp only at h
  split at h
  · cases h
    exact Reader.readValue_nestsWithin hv
  · cases h

end StateMachine
