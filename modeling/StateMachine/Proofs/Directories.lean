import StateMachine.Proofs.Disks
import StateMachine.Proofs.Scoping
import StateMachine.Proofs.Trimming

/-!
# Directories

A directory is made after those above it. Where one of them cannot be made, those
before it stay, and the directory itself is not there (`isDirectory_of_fault`): the
path to it goes on from the path to the one above (`Path.Continues`), and where a path
goes on there is a directory (`isDirectory_of_continues`). So no file can be written
below a directory that could not be made (`fault_eq_none_of_write`).
-/

namespace StateMachine

/-! ## The steps of a path -/

namespace Path

theorem names_ne_nil (cs : List Char) : names cs ≠ [] := by
  cases cs with
  | nil => simp [names]
  | cons c cs =>
    rw [names]
    split
    · simp
    · split <;> simp

theorem names_slash (cs : List Char) : names ('/' :: cs) = [] :: names cs := by
  rw [names]
  split
  · next h => exact absurd h (names_ne_nil cs)
  · next h => rw [if_pos rfl, h]

theorem names_append_slash (l r : List Char) : names (l ++ '/' :: r) = names l ++ names r := by
  induction l with
  | nil => exact names_slash r
  | cons c l ih =>
    obtain ⟨n, ns, hnames⟩ := List.exists_cons_of_ne_nil (names_ne_nil l)
    rw [List.cons_append, names, names, ih, hnames]
    simp only [List.cons_append]
    split <;> rfl

theorem steps_append (a b : String) : steps (a ++ "/" ++ b) = steps a ++ steps b := by
  have hchars : (a ++ "/" ++ b).toList = a.toList ++ '/' :: b.toList := by simp
  rw [steps, hchars, names_append_slash, List.filter_append, List.map_append, steps, steps]

/-- Slashes at the end make no step. -/
theorem steps_append_slashes {a b : String} (hb : ∀ c ∈ b.toList, c = '/') :
    steps (a ++ b) = steps a := by
  have hslashes : ∀ cs : List Char, (∀ c ∈ cs, c = '/') →
      (names cs).filter (fun n => !n.isEmpty) = [] := by
    intro cs hcs
    induction cs with
    | nil => rfl
    | cons c cs ih =>
      rw [hcs c List.mem_cons_self, names_slash]
      exact ih fun d hd => hcs d (List.mem_cons_of_mem c hd)
  rw [steps, String.toList_append]
  cases hchars : b.toList with
  | nil => rw [List.append_nil, steps]
  | cons c cs =>
    rw [hchars] at hb
    obtain rfl : c = '/' := hb c List.mem_cons_self
    rw [names_append_slash, List.filter_append,
      hslashes cs fun d hd => hb d (List.mem_cons_of_mem _ hd), List.append_nil, steps]

theorem steps_ne_nil {name : String} (hname : name ≠ "") (hstart : name.toList.head? ≠ some '/') :
    steps name ≠ [] := by
  rw [steps]
  cases hchars : name.toList with
  | nil => exact absurd (String.toList_eq_nil_iff.1 hchars) hname
  | cons c cs =>
    rw [hchars] at hstart
    have hc : c ≠ '/' := fun h => hstart (congrArg some h)
    obtain ⟨n, ns, hnames⟩ := List.exists_cons_of_ne_nil (names_ne_nil cs)
    rw [names, hnames]
    simp [hc]

/-- The path begins with another one, and these steps follow. -/
structure Continues (head path : String) (more : List String) : Prop where
  ne_empty : head ≠ ""
  starts : ∃ rest, path = head ++ rest
  steps_eq : steps path = steps head ++ more

theorem Continues.trans {a b c : String} {more more' : List String} (h : Continues a b more)
    (h' : Continues b c more') : Continues a c (more ++ more') where
  ne_empty := h.ne_empty
  starts := by
    obtain ⟨rest, rfl⟩ := h.starts
    obtain ⟨rest', rfl⟩ := h'.starts
    exact ⟨rest ++ rest', String.append_assoc ..⟩
  steps_eq := by rw [h'.steps_eq, h.steps_eq, List.append_assoc]

theorem Continues.origin_eq {head path : String} {more : List String}
    (h : Continues head path more) : origin path = origin head := by
  obtain ⟨rest, rfl⟩ := h.starts
  cases hchars : head.toList with
  | nil => exact absurd (String.toList_eq_nil_iff.1 hchars) h.ne_empty
  | cons c cs => rw [origin, origin, String.toList_append, hchars]; rfl

theorem split_continues {path head tail : String} (h : split path = (head, tail))
    (hhead : head ≠ "") : Continues head path (steps tail) ∧ '/' ∉ tail.toList := by
  rw [split] at h
  split at h
  · exact absurd (Prod.mk.inj h).1.symm hhead
  · next before after hcut =>
    obtain ⟨hbare, rfl⟩ := Prod.mk.inj h
    have hlast : '/' ∉ after.toList := by
      obtain ⟨⟨l, r⟩, hchars, hlr⟩ := Option.map_eq_some_iff.1 hcut
      obtain ⟨-, rfl⟩ := Prod.mk.inj hlr
      rw [String.toList_ofList]
      exact Text.not_mem_of_cutLast_eq_some hchars
    obtain rfl := Text.cutLast?_eq_some hcut
    -- the slashes at the end of what is before make no step
    have hbefore : before =
        Text.onChars (Text.dropEndWhile (· == '/')) before ++
          String.ofList (before.toList.rtakeWhile (· == '/')) := by
      apply String.toList_inj.1
      rw [Text.onChars, String.toList_append, String.toList_ofList, String.toList_ofList,
        Text.dropEndWhile_eq_rdropWhile, List.rdropWhile_append_rtakeWhile]
    have hslashes :
        ∀ c ∈ (String.ofList (before.toList.rtakeWhile (· == '/'))).toList, c = '/' := by
      rw [String.toList_ofList]
      exact fun c hc => beq_iff_eq.1 (List.mem_rtakeWhile_imp (p := (· == '/')) hc)
    generalize Text.onChars (Text.dropEndWhile (· == '/')) before = bare at *
    generalize String.ofList (before.toList.rtakeWhile (· == '/')) = slashes at *
    subst hbefore
    refine ⟨⟨hhead, ?_, ?_⟩, hlast⟩
    · split at hbare <;> subst hbare
      · exact ⟨after, rfl⟩
      · exact ⟨slashes ++ "/" ++ after, by simp only [String.append_assoc]⟩
    · rw [steps_append]
      split at hbare <;> subst hbare
      · rw [steps_append_slashes (b := "/") (by simp)]
      · rw [steps_append_slashes hslashes]

theorem splitAbove_continues {path head tail : String} (h : Disk.splitAbove path = (head, tail))
    (hhead : head ≠ "") (htail : tail ≠ "") :
    ∃ more, more ≠ [] ∧ Continues head path more := by
  have hsteps : '/' ∉ tail.toList → steps tail ≠ [] := fun hslash =>
    steps_ne_nil htail fun hstart => hslash (List.mem_of_mem_head? hstart)
  rw [Disk.splitAbove] at h
  rcases hsplit : split path with ⟨above, last⟩
  rw [hsplit] at h
  dsimp only at h
  split at h
  · next hlast =>
    -- a slash at the end makes no step
    have habove : above ≠ "" := by
      rintro rfl
      have hnone : split "" = ("", "") := by decide +kernel
      rw [hnone] at h
      exact hhead (Prod.mk.inj h).1.symm
    obtain ⟨habove, -⟩ := split_continues hsplit habove
    obtain ⟨hcontinues, hslash⟩ := split_continues h hhead
    exact ⟨_, by simp [hsteps hslash], hcontinues.trans habove⟩
  · obtain ⟨rfl, rfl⟩ := Prod.mk.inj h
    obtain ⟨hcontinues, hslash⟩ := split_continues hsplit hhead
    exact ⟨_, hsteps hslash, hcontinues⟩

theorem join_of_endsOpen {path name : String} (hstart : name.toList.head? ≠ some '/')
    (hopen : endsOpen path = true) : join path name = path ++ name := by
  rw [join, if_neg hstart, hopen, Bool.or_true, if_pos rfl]

theorem join_of_not_endsOpen {path name : String} (hpath : path ≠ "")
    (hstart : name.toList.head? ≠ some '/') (hopen : endsOpen path = false) :
    join path name = path ++ "/" ++ name := by
  rw [join, if_neg hstart, hopen, Bool.or_false, if_neg (by simpa using hpath)]

theorem join_continues {path name : String} (hpath : path ≠ "")
    (hstart : name.toList.head? ≠ some '/') : Continues path (join path name) (steps name) := by
  cases hopen : endsOpen path with
  | true =>
    rw [join_of_endsOpen hstart hopen]
    refine ⟨hpath, ⟨name, rfl⟩, ?_⟩
    obtain ⟨cs, hcs⟩ := List.getLast?_eq_some_iff.1 (of_decide_eq_true hopen)
    obtain rfl : path = String.ofList cs ++ "/" := String.toList_inj.1 (by simpa using hcs)
    rw [steps_append, steps_append_slashes (b := "/") (by simp)]
  | false =>
    rw [join_of_not_endsOpen hpath hstart hopen]
    exact ⟨hpath, ⟨"/" ++ name, String.append_assoc ..⟩, steps_append path name⟩

/-- Without a name there is a slash at the end. -/
theorem endsOpen_join_empty {path : String} (hpath : path ≠ "") :
    endsOpen (join path "") = true := by
  cases hopen : endsOpen path with
  | true => rw [join_of_endsOpen (by simp) hopen, String.append_empty, hopen]
  | false =>
    rw [join_of_not_endsOpen hpath (by simp) hopen, String.append_empty, endsOpen]
    simp

end Path

namespace Disk

variable {d : Disk} {path head : String} {way : List String}

theorem isDirectory_iff : d.isDirectory path = true ↔
    ∃ way, d.locate path = .ok way ∧ d.at? way = some .directory := by
  rw [isDirectory, find]
  cases hlocate : d.locate path with
  | error e => simp [bind, Except.bind]
  | ok way =>
    simp only [bind, Except.bind, Except.ok.injEq, exists_eq_left']
    cases d.at? way with
    | none => simp [throw, throwThe, MonadExceptOf.throw]
    | some e =>
      cases e with
      | directory => simp [pure, Except.pure]
      | file content =>
        cases Path.endsOpen path <;>
          simp [pure, Except.pure, throw, throwThe, MonadExceptOf.throw]

theorem step_eq_ok (path' : String) {name : String} {way' : List String}
    (h : d.step path way name = .ok way') :
    d.step path' way name = .ok way' ∧ d.at? way = some .directory := by
  rw [step] at h ⊢
  cases hat : d.at? way with
  | none =>
    rw [hat] at h
    cases h
  | some e =>
    cases e with
    | file content =>
      rw [hat] at h
      cases h
    | directory =>
      rw [hat] at h
      dsimp only at h ⊢
      refine ⟨?_, rfl⟩
      split
      · next hname => rwa [if_pos hname] at h
      · next hname =>
        rw [if_neg hname] at h
        split
        · next hup => rwa [if_pos hup] at h
        · next hup =>
          rw [if_neg hup] at h
          split at h
          · cases h
          · next hlong => rwa [if_neg hlong]

theorem foldlM_step_eq_ok (path' : String) {names : List String} {start : List String}
    (h : names.foldlM (d.step path) start = .ok way) :
    names.foldlM (d.step path') start = .ok way := by
  induction names generalizing start with
  | nil => exact h
  | cons name names ih =>
    rw [List.foldlM_cons] at h ⊢
    cases hstep : d.step path start name with
    | error e =>
      rw [hstep] at h
      cases h
    | ok next =>
      rw [hstep] at h
      rw [(step_eq_ok path' hstep).1]
      exact ih h

/-- What is on the way to a place is a directory. -/
theorem isDirectory_of_continues {more : List String} (h : Path.Continues head path more)
    (hmore : more ≠ []) (hlocate : d.locate path = .ok way) : d.isDirectory head = true := by
  -- the steps to the first path lead to a place from which another step leads on
  obtain ⟨name, names, rfl⟩ := List.exists_cons_of_ne_nil hmore
  rw [locate] at hlocate
  split at hlocate
  · cases hlocate
  split at hlocate
  · cases hlocate
  next hlong =>
  rw [h.steps_eq, h.origin_eq, List.foldlM_append] at hlocate
  cases hfold : (Path.steps head).foldlM (d.step path) (Path.origin head) with
  | error e =>
    rw [hfold] at hlocate
    cases hlocate
  | ok way₀ =>
    have hnext : (name :: names).foldlM (d.step path) way₀ = .ok way := by rwa [hfold] at hlocate
    rw [List.foldlM_cons] at hnext
    cases hstep : d.step path way₀ name with
    | error e =>
      rw [hstep] at hnext
      cases hnext
    | ok way₁ =>
      refine isDirectory_iff.2 ⟨way₀, ?_, (step_eq_ok path hstep).2⟩
      obtain ⟨rest, rfl⟩ := h.starts
      have hshort : ¬tooLongPath ≤ head.utf8ByteSize := by
        intro hlong'
        refine hlong (hlong'.trans ?_)
        rw [String.utf8ByteSize_append]
        exact Nat.le_add_right _ _
      rw [locate, if_neg (by simpa using h.ne_empty), if_neg hshort]
      exact foldlM_step_eq_ok head hfold

theorem isDirectory_of_ensure {e : FileError} (h : d.ensureDirectory path = .error e) :
    d.isDirectory path = false := by
  rw [ensureDirectory] at h
  split at h
  · cases h
  · split at h
    · cases h
    · next hdir => exact Bool.eq_false_iff.2 hdir

theorem isDirectory_of_outcome {e : FileError}
    (h : (d.outcome (d.ensureDirectory path)).fault = some e) :
    (d.outcome (d.ensureDirectory path)).disk.isDirectory path = false := by
  cases hensure : d.ensureDirectory path with
  | ok d' =>
    rw [hensure] at h
    cases h
  | error e => exact isDirectory_of_ensure hensure

/-- A directory that could not be made is not there. -/
theorem isDirectory_of_fault {e : FileError} (h : (d.makeDirectories path).fault = some e) :
    (d.makeDirectories path).disk.isDirectory path = false := by
  rw [makeDirectories] at h ⊢
  revert h
  generalize path.length = fuel
  intro h
  induction fuel generalizing path e with
  | zero => exact isDirectory_of_outcome h
  | succ fuel ih =>
    rcases habove : splitAbove path with ⟨head, tail⟩
    rw [makeDirectoriesWithin, habove] at h ⊢
    dsimp only at h ⊢
    split at h
    · next hshort =>
      rw [if_pos hshort]
      exact isDirectory_of_outcome h
    · next hshort =>
      rw [if_neg hshort]
      have hthis : ∀ d' : Disk, (if tail = "." then { disk := d' }
          else d'.outcome (d'.ensureDirectory path) : Outcome).fault = some e →
          (if tail = "." then { disk := d' }
            else d'.outcome (d'.ensureDirectory path) : Outcome).disk.isDirectory path = false := by
        intro d' h
        split at h
        · cases h
        · next hdot =>
          rw [if_neg hdot]
          exact isDirectory_of_outcome h
      split at h
      · exact hthis _ h
      · exact hthis _ h
      · next hmade =>
        -- the path cannot be walked where a directory above could not be made
        have hhead := ih hmade
        simp only [Bool.or_eq_true, String.isEmpty_iff, not_or] at hshort
        obtain ⟨more, hmore, hcontinues⟩ := Path.splitAbove_continues habove hshort.1.1 hshort.1.2
        refine Bool.eq_false_iff.2 fun hdir => ?_
        obtain ⟨way, hlocate, -⟩ := isDirectory_iff.1 hdir
        rw [isDirectory_of_continues hcontinues hmore hlocate] at hhead
        cases hhead

/-- Below a directory that could not be made no file can be written. -/
theorem fault_eq_none_of_write {d' : Disk} {name text : String} (hpath : path ≠ "")
    (hstart : name.toList.head? ≠ some '/')
    (h : (d.makeDirectories path).disk.write (Path.join path name) text = .ok d') :
    (d.makeDirectories path).fault = none := by
  obtain ⟨way, hlocate, -⟩ := write_eq_ok h
  have hname : name ≠ "" := by
    rintro rfl
    simp only [write, hlocate, bind, Except.bind, Path.endsOpen_join_empty hpath, Bool.true_or,
      if_true] at h
    cases h
  cases hfault : (d.makeDirectories path).fault with
  | none => rfl
  | some e =>
    have hdir := isDirectory_of_continues (Path.join_continues hpath hstart)
      (Path.steps_ne_nil hname hstart) hlocate
    rw [isDirectory_of_fault hfault] at hdir
    cases hdir

end Disk
end StateMachine
