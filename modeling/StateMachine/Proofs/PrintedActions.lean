import StateMachine.Load.Description
import StateMachine.Proofs.GuardOrder
import StateMachine.Proofs.TopLevelCommas

/-!
# Printed actions

An action in shorthand has one of three forms (`Shorthand.Writes`): a value after the first `=`,
a list of arguments after the first `(`, or a name alone. It is printed in one of the first two,
with blanks set anew. This text is of the same form and has the same parts (`Writes.printed`), since
the names are trimmed and the arguments are those of their own list. So an action that was read
and printed is read back (`printed_action_reads_back`), however odd its name and arguments are.

Two texts are left out. A static action is printed without its mark. A semicolon that is left at
the end, in front of blanks and other semicolons, is dropped the next time.
-/

namespace StateMachine.Shorthand

/-! ## The three forms -/

/-- The text is a name in front of a list of arguments: it has no `(`, and no `=` unless it begins
    with one. -/
structure Called (n : List Char) : Prop where
  paren : '(' ∉ n
  equals : '=' ∈ n → n.head? = some '='

/-- The body is written in one of the three forms, and this is its action. -/
inductive Writes (static : Bool) : List Char → Action → Prop
  | assignment {n v : List Char} : n ≠ [] → '(' ∉ n → '=' ∉ n → Writes static (n ++ '=' :: v)
      (assignment (String.ofList (Text.trimChars n)) (String.ofList (Text.trimChars v)) static)
  | name {n : List Char} : Called n → Writes static n (call (String.ofList n) [] static)
  | call {n l : List Char} : Called n → Writes static (n ++ '(' :: (l ++ [')']))
      (call (String.ofList (Text.trimChars n)) (Arguments.split (String.ofList l)) static)

section

variable {static : Bool} {cs n l v : List Char} {a : Action}

theorem takeWhile_of_not_mem {x : Char} (h : x ∉ n) (rest : List Char) :
    (n ++ x :: rest).takeWhile (· != x) = n := by
  have hn : ∀ c ∈ n, (c != x) = true := fun c hc => bne_iff_ne.2 fun heq => h (heq ▸ hc)
  rw [List.takeWhile_append_of_pos hn, List.takeWhile_cons, if_neg (by simp), List.append_nil]

theorem dropWhile_of_not_mem {x : Char} (h : x ∉ n) (rest : List Char) :
    (n ++ x :: rest).dropWhile (· != x) = x :: rest := by
  have hn : ∀ c ∈ n, (c != x) = true := fun c hc => bne_iff_ne.2 fun heq => h (heq ▸ hc)
  rw [List.dropWhile_append_of_pos hn, List.dropWhile_cons, if_neg (by simp)]

/-- An assignment has a text in front of the first `=` in which there is no `(`. -/
theorem isAssignment_iff : isAssignment cs = true ↔
    ∃ n v, cs = n ++ '=' :: v ∧ n ≠ [] ∧ '(' ∉ n ∧ '=' ∉ n := by
  constructor
  · intro h
    have hcs := List.takeWhile_append_dropWhile (p := fun c => c != '=' && c != '(') (l := cs)
    rw [isAssignment] at h
    split at h
    · next v hv =>
      rw [hv] at hcs
      have hn : ∀ c ∈ cs.takeWhile fun c => c != '=' && c != '(', c ≠ '=' ∧ c ≠ '(' :=
        fun c hc => by simpa using List.mem_takeWhile_imp hc
      refine ⟨_, v, hcs.symm, fun hnil => ?_, fun hmem => (hn _ hmem).2 rfl,
        fun hmem => (hn _ hmem).1 rfl⟩
      rw [hnil] at hcs
      rw [← hcs] at h
      simp at h
    · cases h
  · rintro ⟨n, v, rfl, hne, hparen, hequals⟩
    have hn : ∀ c ∈ n, (c != '=' && c != '(') = true := by
      intro c hc
      have hequals : c ≠ '=' := fun h => hequals (h ▸ hc)
      have hparen : c ≠ '(' := fun h => hparen (h ▸ hc)
      simp [hequals, hparen]
    rw [isAssignment, List.dropWhile_append_of_pos hn]
    cases n with
    | nil => exact absurd rfl hne
    | cons c n =>
      have hc : c ≠ '=' := fun h => hequals (h ▸ List.mem_cons_self)
      simpa using hc

/-- Whether the text up to the first `(` is a name that is called does not depend on the rest. -/
theorem called_iff {rest : List Char} (hparen : '(' ∉ n) (hrest : ∀ c ∈ rest.head?, c = '(') :
    Called n ↔ isAssignment (n ++ rest) = false := by
  constructor
  · rintro ⟨-, hequals⟩
    refine Bool.eq_false_iff.2 fun h => ?_
    obtain ⟨m, v, hm, hne, hparen', hequals'⟩ := isAssignment_iff.1 h
    rcases List.append_eq_append_iff.1 hm with ⟨mid, rfl, rfl⟩ | ⟨mid, rfl, hmid⟩
    · -- the `=` is after the name, but the first character there is a `(`
      cases mid with
      | nil => exact absurd (hrest '=' rfl) (by decide)
      | cons c mid =>
        obtain rfl := hrest c rfl
        exact hparen' (List.mem_append_right _ List.mem_cons_self)
    · cases mid with
      | nil =>
        rw [List.nil_append] at hmid
        exact absurd (hrest '=' (by rw [← hmid]; rfl)) (by decide)
      | cons c mid =>
        obtain rfl := (List.cons.inj hmid).1
        have hhead := hequals (List.mem_append_right _ List.mem_cons_self)
        rw [List.head?_append_of_ne_nil m hne] at hhead
        exact hequals' (List.mem_of_mem_head? hhead)
  · intro h
    refine ⟨hparen, fun hmem => ?_⟩
    -- if the name did not begin with its first `=`, that would make it an assignment
    obtain ⟨m, v, rfl, hm⟩ := List.eq_append_cons_of_mem hmem
    by_contra hhead
    refine Bool.eq_false_iff.1 h (isAssignment_iff.2 ⟨m, v ++ rest, by simp, ?_, ?_, hm⟩)
    · rintro rfl
      exact hhead rfl
    · exact fun hmem => hparen (List.mem_append_left _ hmem)

theorem unclosed?_concat (l : List Char) : unclosed? (l ++ [')']) = some l := by
  rw [unclosed?, List.getLast?_concat, if_pos rfl, List.dropLast_concat]

theorem eq_concat_of_unclosed? {list : List Char} (h : unclosed? list = some l) :
    list = l ++ [')'] := by
  rw [unclosed?] at h
  split at h
  · next hlast =>
    obtain ⟨front, rfl⟩ := List.getLast?_eq_some_iff.1 hlast
    rw [List.dropLast_concat] at h
    cases h
    rfl
  · cases h

/-- A body is read as it is written. -/
theorem ofBody_eq_some_iff : ofBody static cs = some a ↔ Writes static cs a := by
  have hnothing : ∀ c ∈ ([] : List Char).head?, c = '(' := nofun
  constructor
  · intro h
    cases hassignment : isAssignment cs with
    | true =>
      obtain ⟨n, v, rfl, hne, hparen, hequals⟩ := isAssignment_iff.1 hassignment
      rw [ofBody, if_pos hassignment, takeWhile_of_not_mem hequals,
        dropWhile_of_not_mem hequals] at h
      cases h
      exact .assignment hne hparen hequals
    | false =>
      have hcs := List.takeWhile_append_dropWhile (p := (· != '(')) (l := cs)
      have hparen : '(' ∉ cs.takeWhile (· != '(') := fun hmem => by
        simpa using List.mem_takeWhile_imp hmem
      rw [ofBody, hassignment, if_neg Bool.false_ne_true] at h
      split at h
      · next hrest =>
        rw [hrest, List.append_nil] at hcs
        rw [hcs] at hparen
        cases h
        refine .name ((called_iff hparen hnothing).2 ?_)
        rwa [List.append_nil]
      · next c list hrest =>
        obtain rfl : c = '(' := by
          have hc := List.head?_dropWhile_not (· != '(') cs
          rw [hrest] at hc
          simpa using hc
        rw [hrest] at hcs
        obtain ⟨l, hl, rfl⟩ := Option.map_eq_some_iff.1 h
        rw [eq_concat_of_unclosed? hl] at hcs
        have hlist : ∀ c ∈ ('(' :: (l ++ [')'])).head?, c = '(' := by simp
        have hcalled := (called_iff hparen hlist).2 (by rwa [hcs])
        conv => arg 2; rw [← hcs]
        exact .call hcalled
  · rintro (⟨hne, hparen, hequals⟩ | hn | hn)
    · rw [ofBody, if_pos (isAssignment_iff.2 ⟨_, _, rfl, hne, hparen, hequals⟩),
        takeWhile_of_not_mem hequals, dropWhile_of_not_mem hequals]
      rfl
    · have hassignment := (called_iff hn.paren hnothing).1 hn
      rw [List.append_nil] at hassignment
      have hn : ∀ c ∈ cs, (c != '(') = true := fun c hc => bne_iff_ne.2 fun h => hn.paren (h ▸ hc)
      rw [ofBody, hassignment, if_neg Bool.false_ne_true, List.dropWhile_eq_nil_iff.2 hn]
    · rw [ofBody, (called_iff hn.paren (by simp)).1 hn, if_neg Bool.false_ne_true,
        dropWhile_of_not_mem hn.paren, takeWhile_of_not_mem hn.paren]
      simp only [unclosed?_concat, Option.map_some]

end

/-! ## Bodies -/

/-- The text is its own body, that of an action that is not static. -/
structure Settled (cs : List Char) : Prop where
  head : ∀ c ∈ cs.head?, Text.isBlank c = false
  last : ∀ c ∈ cs.getLast?, Text.isBlank c = false ∧ c ≠ ';'
  mark : ¬[':', ':'] <+: cs

section

variable {cs ds n l v rest : List Char} {a : Action} {s : String}

theorem trimChars_trimChars (cs : List Char) :
    Text.trimChars (Text.trimChars cs) = Text.trimChars cs :=
  Text.trimBy_trimBy Text.isBlank cs

theorem settled_body (hmark : ¬[':', ':'] <+: body s) (hend : ¬[';'] <:+ body s) :
    Settled (body s) := by
  refine ⟨Text.head?_trimBy _ _, fun c hc => ⟨Text.getLast?_trimBy _ _ c hc, ?_⟩, hmark⟩
  rintro rfl
  obtain ⟨front, hfront⟩ := List.getLast?_eq_some_iff.1 hc
  exact hend ⟨front, hfront.symm⟩

theorem Settled.unmarked_eq (h : Settled cs) : Shorthand.unmarked cs = (false, cs) := by
  unfold Shorthand.unmarked
  split
  · next rest => exact absurd ⟨rest, rfl⟩ h.mark
  · rfl

/-- Where a settled text is followed by blanks, it is the body. -/
theorem Settled.action?_eq (h : Settled cs) (hds : ∀ c ∈ ds, Text.isBlank c = true) :
    action? (String.ofList (cs ++ ds)) = ofBody false cs := by
  have htrim : Text.trimChars cs = cs := Text.trimBy_eq_self h.head fun c hc => (h.last c hc).1
  have hsemicolons : Text.dropEndWhile (· == ';') cs = cs := by
    rw [Text.dropEndWhile_eq_rdropWhile, List.rdropWhile_eq_self_iff]
    intro hne
    simpa using (h.last _ (List.getLast?_eq_getLast_of_ne_nil hne)).2
  have hbody : body (String.ofList (cs ++ ds)) = cs := by
    have hblanks : Text.trimChars (cs ++ ds) = Text.trimChars cs := Text.trimBy_append_right hds
    rw [body, String.toList_ofList, hblanks, htrim, hsemicolons, htrim]
  rw [action?, hbody, h.unmarked_eq]

/-- A text that begins with a trimmed name is settled if the name was that of a settled one. -/
theorem Settled.trimmed (h : Settled (n ++ rest)) {c : Char} {rest' : List Char} (hc : c ≠ ':')
    (hhead : Text.trimChars n = [] → Text.isBlank c = false)
    (hlast : ∀ x ∈ (Text.trimChars n ++ c :: rest').getLast?, Text.isBlank x = false ∧ x ≠ ';') :
    Settled (Text.trimChars n ++ c :: rest') := by
  refine ⟨fun x hx => ?_, hlast, fun hmark => h.mark ?_⟩
  · by_cases hnil : Text.trimChars n = []
    · rw [hnil] at hx
      cases hx
      exact hhead hnil
    · rw [List.head?_append_of_ne_nil _ hnil] at hx
      exact Text.head?_trimBy _ _ x hx
  · have hname : [':', ':'] <+: Text.trimChars n := by
      rcases hn : Text.trimChars n with _ | ⟨x, _ | ⟨y, m⟩⟩ <;> rw [hn] at hmark
      · exact absurd (List.cons_prefix_cons.1 hmark).1.symm hc
      · exact absurd (List.cons_prefix_cons.1 (List.cons_prefix_cons.1 hmark).2).1.symm hc
      · obtain ⟨rfl, hsecond⟩ := List.cons_prefix_cons.1 hmark
        obtain ⟨rfl, -⟩ := List.cons_prefix_cons.1 hsecond
        exact ⟨m, rfl⟩
    have hbegins : Text.trimChars n <+: n := by
      refine Text.trimBy_prefix fun x hx => h.head x ?_
      rw [List.head?_append, hx]
      rfl
    exact hname.trans (hbegins.trans (List.prefix_append n rest))

theorem Called.trimmed (h : Called n) (hhead : ∀ c ∈ n.head?, Text.isBlank c = false) :
    Called (Text.trimChars n) := by
  have hbegins : Text.trimChars n <+: n := Text.trimBy_prefix hhead
  refine ⟨fun hmem => h.paren (hbegins.subset hmem), fun hmem => ?_⟩
  obtain ⟨rest, hrest⟩ := hbegins
  have hequals := h.equals (by rw [← hrest]; exact List.mem_append_left _ hmem)
  rwa [← hrest, List.head?_append_of_ne_nil _ (List.ne_nil_of_mem hmem)] at hequals

/-- A name that is called is printed with its arguments. -/
theorem Called.printed (hn : Called n) (h : Settled (n ++ rest)) {arguments : List String}
    (harguments : Arguments.split (Text.joined ", " arguments) = arguments) :
    let a := call (String.ofList (Text.trimChars n)) arguments false
    ∃ ds, a.text = String.ofList ds ∧ Settled ds ∧ Writes false ds a := by
  intro a
  have hhead : ∀ c ∈ n.head?, Text.isBlank c = false := fun c hc =>
    h.head c (by rw [List.head?_append, hc]; rfl)
  refine ⟨Text.trimChars n ++ '(' :: ((Text.joined ", " arguments).toList ++ [')']), ?_, ?_, ?_⟩
  · change String.ofList (Text.trimChars n) ++ ("(" ++ Text.joined ", " arguments ++ ")") = _
    rw [← String.toList_inj]
    simp
  · refine h.trimmed (by decide) (fun _ => by decide) fun x hx => ?_
    rw [← List.cons_append, ← List.append_assoc, List.getLast?_concat] at hx
    obtain rfl := Option.some.inj hx
    decide
  · have hcall : Writes false _ _ :=
      Writes.call (hn.trimmed hhead) (l := (Text.joined ", " arguments).toList)
    rwa [String.ofList_toList, harguments, trimChars_trimChars] at hcall

/-- A value is printed after a name, blanks and a `=`. If it is empty, a blank is printed after
    the `=`. -/
theorem printed_assignment (hne : n ≠ []) (hparen : '(' ∉ n) (hequals : '=' ∉ n)
    (h : Settled (n ++ '=' :: v)) :
    let a := assignment (String.ofList (Text.trimChars n)) (String.ofList (Text.trimChars v)) false
    ∃ ds blanks, a.text = String.ofList (ds ++ blanks) ∧ (∀ c ∈ blanks, Text.isBlank c = true) ∧
      Settled ds ∧ Writes false ds a := by
  intro a
  have hhead : ∀ c ∈ n.head?, Text.isBlank c = false := fun c hc =>
    h.head c (by rw [List.head?_append, hc]; rfl)
  have hbegins : Text.trimChars n <+: n := Text.trimBy_prefix hhead
  have hname : Text.trimChars n ≠ [] := by
    intro hnil
    have hblank := Text.trimBy_eq_nil_iff.1 hnil
    have hfirst := hhead (n.head hne) (List.head_mem_head? hne)
    exact Bool.false_ne_true (hfirst.symm.trans (hblank _ (List.head_mem hne)))
  have hspace := Text.forall_mem_space_isBlank
  -- what is printed after the `=` is read as the value
  suffices hprints : ∀ rest blanks, rest ++ blanks = ' ' :: Text.trimChars v →
      (∀ c ∈ blanks, Text.isBlank c = true) → Text.trimChars rest = Text.trimChars v →
      (∀ x ∈ ('=' :: rest).getLast?, Text.isBlank x = false ∧ x ≠ ';') →
      ∃ ds blanks, a.text = String.ofList (ds ++ blanks) ∧
        (∀ c ∈ blanks, Text.isBlank c = true) ∧ Settled ds ∧ Writes false ds a by
    by_cases hempty : Text.trimChars v = []
    · refine hprints [] [' '] (by rw [hempty]; rfl) hspace (by rw [hempty]; rfl) fun x hx => ?_
      obtain rfl := Option.some.inj hx
      decide
    · refine hprints (' ' :: Text.trimChars v) [] (List.append_nil _) (List.forall_mem_nil _) ?_ ?_
      · exact (Text.trimBy_append_left hspace).trans (trimChars_trimChars v)
      · intro x hx
        have hlast : ∀ c ∈ v.getLast?, Text.isBlank c = false := by
          intro c hc
          refine (h.last c ?_).1
          rw [List.getLast?_append, List.getLast?_cons, hc]
          rfl
        obtain ⟨front, hfront⟩ := Text.trimBy_suffix hlast
        have hassoc : n ++ '=' :: (front ++ Text.trimChars v) =
            (n ++ '=' :: front) ++ Text.trimChars v := by simp
        refine h.last x ?_
        rw [← hfront]
        change x ∈ (n ++ '=' :: (front ++ Text.trimChars v)).getLast?
        rw [hassoc, List.getLast?_append_of_ne_nil _ hempty]
        exact (List.getLast?_append_of_ne_nil ['=', ' '] hempty) ▸ hx
  intro rest blanks htext hblanks hvalue hlast
  refine ⟨Text.trimChars n ++ ' ' :: '=' :: rest, blanks, ?_, hblanks, ?_, ?_⟩
  · change String.ofList (Text.trimChars n) ++ " = " ++ String.ofList (Text.trimChars v) = _
    rw [← String.toList_inj]
    simp [htext]
  · refine h.trimmed (by decide) (fun hnil => absurd hnil hname) fun x hx => hlast x ?_
    rwa [List.getLast?_append_of_ne_nil _ (List.cons_ne_nil _ _)] at hx
  · have hassignment : Writes false _ _ := Writes.assignment (n := Text.trimChars n ++ [' '])
      (v := rest) (by simp) (fun hmem => hparen (hbegins.subset (by simpa using hmem)))
      fun hmem => hequals (hbegins.subset (by simpa using hmem))
    have hn : Text.trimChars (Text.trimChars n ++ [' ']) = Text.trimChars n :=
      (Text.trimBy_append_right hspace).trans (trimChars_trimChars n)
    rwa [hn, hvalue, List.append_assoc] at hassignment

/-- An action written by a settled text is printed as such a text, followed by blanks. -/
theorem Writes.printed (h : Settled cs) (hw : Writes false cs a) :
    ∃ ds blanks, a.text = String.ofList (ds ++ blanks) ∧ (∀ c ∈ blanks, Text.isBlank c = true) ∧
      Settled ds ∧ Writes false ds a := by
  rcases hw with ⟨hne, hparen, hequals⟩ | hn | hn
  · exact printed_assignment hne hparen hequals h
  · have htrim : Text.trimChars cs = cs := Text.trimBy_eq_self h.head fun c hc => (h.last c hc).1
    have hsettled : Settled (cs ++ []) := by rwa [List.append_nil]
    have hnone : Arguments.split (Text.joined ", " []) = [] := rfl
    obtain ⟨ds, htext, hds⟩ := hn.printed hsettled hnone
    rw [htrim] at htext hds
    exact ⟨ds, [], by rw [List.append_nil, htext], List.forall_mem_nil _, hds⟩
  · obtain ⟨ds, htext, hds⟩ := hn.printed h (Arguments.split_joined_split _)
    exact ⟨ds, [], by rw [List.append_nil, htext], List.forall_mem_nil _, hds⟩

end

/-! ## Reading again -/

/-- What is printed is not blank. -/
theorem Writes.isBlankText_text {static : Bool} {cs : List Char} {a : Action}
    (h : Writes static cs a) : Text.isBlankText a.text = false := by
  have hmarks : Text.isBlankText " = " = false ∧ Text.isBlankText "(" = false := by decide
  have hcall : ∀ n arguments,
      Text.isBlankText (Shorthand.call n arguments static).text = false := by
    intro n arguments
    change Text.isBlankText (n ++ ("(" ++ Text.joined ", " arguments ++ ")")) = false
    simp [Text.isBlankText_append, hmarks]
  rcases h with ⟨-, -, -⟩ | - | -
  · change Text.isBlankText (_ ++ " = " ++ _) = false
    simp [Text.isBlankText_append, hmarks]
  · exact hcall _ _
  · exact hcall _ _

/-- A text that is not blank is read as its shorthand. -/
theorem action_outcome {s : String} (h : Text.isBlankText s = false) {a : Action}
    (ha : action? s = some a) : (Load.action (.str s)).outcome = (.ok (some a), []) := by
  rw [Load.action, h, if_neg Bool.false_ne_true, ha]
  rfl

theorem action?_of_outcome {s : String} {a : Action}
    (h : (Load.action (.str s)).outcome.1 = .ok (some a)) : action? s = some a := by
  rw [Load.action] at h
  split at h
  · cases h
  · cases ha : action? s with
    | none =>
      rw [ha] at h
      cases h
    | some b =>
      rw [ha] at h
      cases h
      rfl

/-- An action that was read from a text is printed as a text from which it is read back as it was,
    without a report, unless the first text is marked as static or a semicolon is left at its
    end. -/
theorem printed_action_reads_back {s : String} {a : Action}
    (h : (Load.action (.str s)).outcome.1 = .ok (some a)) (hmark : ¬[':', ':'] <+: body s)
    (hend : ¬[';'] <:+ body s) : (Load.action (.str a.text)).outcome = (.ok (some a), []) := by
  have hbody := settled_body hmark hend
  have hread := action?_of_outcome h
  rw [action?, hbody.unmarked_eq] at hread
  have hwrites := ofBody_eq_some_iff.1 hread
  obtain ⟨ds, blanks, htext, hblanks, hds, hprinted⟩ := hwrites.printed hbody
  refine action_outcome hwrites.isBlankText_text ?_
  rw [htext, hds.action?_eq hblanks]
  exact ofBody_eq_some_iff.2 hprinted

/-- A call with blanks in odd places, of a name that begins with `=`, with a bracket in a quoted
    text and a quoted text that stays open. -/
theorem odd_call_reads_back :
    let s := " =go ( f([1, \"]\"]) ,'x, ) ; "
    let a := call "=go" ["f([1, \"]\"])", "'x,"] false
    (Load.action (.str s)).outcome.1 = .ok (some a) ∧ ¬[':', ':'] <+: body s ∧
      ¬[';'] <:+ body s ∧ a.text = "=go(f([1, \"]\"]), 'x,)" ∧
      (Load.action (.str a.text)).outcome = (.ok (some a), []) := by
  intro s a
  have hcalled : Called "=go ".toList := ⟨by decide +kernel, fun _ => by decide +kernel⟩
  have hwrites : Writes false _ _ := .call hcalled (l := " f([1, \"]\"]) ,'x, ".toList)
  have hname : String.ofList (Text.trimChars "=go ".toList) = "=go" := by decide +kernel
  have harguments : Arguments.split (String.ofList " f([1, \"]\"]) ,'x, ".toList) =
      ["f([1, \"]\"])", "'x,"] := by decide +kernel
  rw [hname, harguments] at hwrites
  have hbody : unmarked (body s) =
      (false, "=go ".toList ++ '(' :: (" f([1, \"]\"]) ,'x, ".toList ++ [')'])) := by
    decide +kernel
  have hread : (Load.action (.str s)).outcome.1 = .ok (some a) := by
    refine congrArg Prod.fst (action_outcome (by decide +kernel) ?_)
    rw [action?, hbody]
    exact ofBody_eq_some_iff.2 hwrites
  have hmark : ¬[':', ':'] <+: body s := by decide +kernel
  have hend : ¬[';'] <:+ body s := by decide +kernel
  exact ⟨hread, hmark, hend, by decide +kernel, printed_action_reads_back hread hmark hend⟩

end StateMachine.Shorthand
