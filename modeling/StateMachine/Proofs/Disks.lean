import StateMachine.CommandLine.Disk

/-!
# Disks

What writing files and making directories leave as it was. A disk *extends*
another one if all directories are still there (`Disk.Extends`); what a path
leads to is then found at the same place (`Extends.locate`). Making directories
puts them where nothing was (`grows_makeDirectories`), so no file changes, and
writing a file changes the file at one place only (`write_eq_ok`).
-/

namespace StateMachine.Disk

variable {d d' d'' : Disk} {way way' : List String}

/-- The content of the file at a place. -/
def file? (d : Disk) (way : List String) : Option (List UInt8) :=
  match d.at? way with
  | some (.file content) => some content
  | _ => none

theorem file?_eq_some {content : List UInt8} :
    d.file? way = some content ↔ d.at? way = some (.file content) := by
  rw [file?]
  split
  · next h => simp [h]
  · next h => simpa using fun h' => h content h'

theorem file?_congr (h : d'.at? way = d.at? way) : d'.file? way = d.file? way := by
  rw [file?, file?, h]

/-! ## Putting something at a place -/

/-- Entries of another place do not matter. -/
theorem lookup_filter_ne {entries : List (List String × DiskEntry)} (h : way' ≠ way) :
    (entries.filter fun x => x.1 != way).lookup way' = entries.lookup way' := by
  induction entries with
  | nil => rfl
  | cons x xs ih =>
    obtain ⟨w, e⟩ := x
    by_cases hw : w = way
    · subst hw
      rw [List.filter_cons_of_neg (by simp), ih, List.lookup_cons, beq_false_of_ne h]
    · rw [List.filter_cons_of_pos (by simpa using hw), List.lookup_cons, List.lookup_cons, ih]

theorem lookup_filter_self {entries : List (List String × DiskEntry)} :
    (entries.filter fun x => x.1 != way).lookup way = none := by
  rw [List.lookup_eq_none_iff]
  intro x hx
  have hne : x.1 ≠ way := bne_iff_ne.1 (List.mem_filter.1 hx).2
  exact bne_iff_ne.2 hne.symm

theorem at?_put_of_ne (e : DiskEntry) (h : way' ≠ way) : (d.put way e).at? way' = d.at? way' := by
  simp [at?, put, List.lookup_append, lookup_filter_ne h, List.lookup_cons, beq_false_of_ne h]

/-- What is put at a place is there, if it is no directory already. -/
theorem at?_put_self (e : DiskEntry) (h : d.at? way ≠ some .directory) :
    (d.put way e).at? way = some e := by
  rw [at?] at h ⊢
  split at h
  · exact absurd rfl h
  · next hbase =>
    rw [if_neg hbase, put, List.lookup_append, lookup_filter_self]
    simp

/-- Putting a file at a place changes the file there. -/
theorem file?_put (content : List UInt8) (h : d.at? way ≠ some .directory) (way' : List String) :
    (d.put way (.file content)).file? way' =
      ([(way, content)].lookup way').or (d.file? way') := by
  by_cases hway : way' = way
  · subst hway
    rw [file?, at?_put_self _ h]
    simp
  · rw [file?_congr (at?_put_of_ne _ hway), List.lookup_cons, beq_false_of_ne hway]
    rfl

/-! ## Directories that stay -/

/-- All directories of the first disk are directories of the second. -/
def Extends (d d' : Disk) : Prop :=
  ∀ way, d.at? way = some .directory → d'.at? way = some .directory

theorem Extends.refl (d : Disk) : d.Extends d :=
  fun _ h => h

theorem Extends.trans (h : d.Extends d') (h' : d'.Extends d'') : d.Extends d'' :=
  fun way hway => h' way (h way hway)

theorem extends_put (e : DiskEntry) (h : d.at? way ≠ some .directory) :
    d.Extends (d.put way e) := by
  intro way' hdir
  have hway : way' ≠ way := by
    rintro rfl
    exact h hdir
  rw [at?_put_of_ne _ hway, hdir]

theorem Extends.step (h : d.Extends d') {path name : String}
    (hstep : d.step path way name = .ok way') : d'.step path way name = .ok way' := by
  rw [Disk.step] at hstep ⊢
  cases hat : d.at? way with
  | none =>
    rw [hat] at hstep
    cases hstep
  | some e =>
    cases e with
    | file content =>
      rw [hat] at hstep
      cases hstep
    | directory =>
      rw [hat] at hstep
      rw [h way hat]
      exact hstep

/-- A path leads to the same place. -/
theorem Extends.locate (h : d.Extends d') {path : String} (hlocate : d.locate path = .ok way) :
    d'.locate path = .ok way := by
  rw [Disk.locate] at hlocate ⊢
  split at hlocate
  · cases hlocate
  next hempty =>
  split at hlocate
  · cases hlocate
  next hlong =>
  rw [if_neg hempty, if_neg hlong]
  -- every step that led on before does so again
  generalize Path.origin path = start, Path.steps path = names at hlocate ⊢
  induction names generalizing start with
  | nil => exact hlocate
  | cons name names ih =>
    rw [List.foldlM_cons] at hlocate ⊢
    cases hstep : d.step path start name with
    | error e =>
      rw [hstep] at hlocate
      cases hlocate
    | ok next =>
      rw [hstep] at hlocate
      rw [h.step hstep]
      exact ih next hlocate

/-! ## Making directories -/

/-- The second disk is the first one with further directories. -/
def Grows (d d' : Disk) : Prop :=
  ∀ way, d'.at? way = d.at? way ∨ d.at? way = none ∧ d'.at? way = some .directory

theorem Grows.refl (d : Disk) : d.Grows d :=
  fun _ => .inl rfl

theorem Grows.trans (h : d.Grows d') (h' : d'.Grows d'') : d.Grows d'' := by
  intro way
  rcases h' way with h' | ⟨hnone, hdir⟩
  · rw [h']
    exact h way
  · rcases h way with h | ⟨-, hdir'⟩
    · exact .inr ⟨h ▸ hnone, hdir⟩
    · rw [hnone] at hdir'
      cases hdir'

theorem Grows.extends (h : d.Grows d') : d.Extends d' := by
  intro way hway
  rcases h way with h | ⟨hnone, -⟩
  · rw [h, hway]
  · rw [hway] at hnone
    cases hnone

theorem Grows.file?_eq (h : d.Grows d') (way : List String) : d'.file? way = d.file? way := by
  rcases h way with h | ⟨hnone, hdir⟩
  · exact file?_congr h
  · rw [file?, file?, hnone, hdir]

theorem grows_put (h : d.at? way = none) : d.Grows (d.put way .directory) := by
  intro way'
  by_cases hway : way' = way
  · subst hway
    exact .inr ⟨h, at?_put_self _ (by simp [h])⟩
  · exact .inl (at?_put_of_ne _ hway)

theorem grows_makeDirectory {path : String} (h : d.makeDirectory path = .ok d') : d.Grows d' := by
  rw [makeDirectory] at h
  cases hlocate : d.locate path with
  | error e =>
    rw [hlocate] at h
    cases h
  | ok way =>
    rw [hlocate] at h
    cases hat : d.at? way with
    | some e =>
      simp [hat, bind, Except.bind] at h
    | none =>
      simp only [hat, bind, Except.bind] at h
      cases h
      exact grows_put hat

theorem grows_ensureDirectory (d : Disk) (path : String) :
    d.Grows (d.outcome (d.ensureDirectory path)).disk := by
  rw [ensureDirectory]
  cases hmake : d.makeDirectory path with
  | ok d' => exact grows_makeDirectory hmake
  | error e =>
    dsimp only
    split <;> exact .refl d

theorem grows_makeDirectories (d : Disk) (path : String) :
    d.Grows (d.makeDirectories path).disk := by
  rw [makeDirectories]
  generalize path.length = fuel
  induction fuel generalizing d path with
  | zero => exact grows_ensureDirectory d path
  | succ fuel ih =>
    rw [makeDirectoriesWithin]
    dsimp only
    split
    · exact grows_ensureDirectory d path
    · -- first the directories above, then the directory itself
      have habove := ih d (splitAbove path).1
      have hthis : d.Grows (if (splitAbove path).2 = "." then
          { disk := (makeDirectoriesWithin fuel d (splitAbove path).1).disk }
        else (makeDirectoriesWithin fuel d (splitAbove path).1).disk.outcome
          ((makeDirectoriesWithin fuel d (splitAbove path).1).disk.ensureDirectory path) :
          Outcome).disk := by
        split
        · exact habove
        · exact habove.trans (grows_ensureDirectory _ path)
      split
      · exact hthis
      · exact hthis
      · exact habove

/-! ## Reading and writing files -/

theorem find_eq_file {path : String} {content : List UInt8} :
    d.find path = .ok (.file content) ↔
      ∃ way, d.locate path = .ok way ∧ d.file? way = some content ∧ Path.endsOpen path = false := by
  rw [find]
  cases hlocate : d.locate path with
  | error e => simp [bind, Except.bind]
  | ok way =>
    simp only [bind, Except.bind, Except.ok.injEq, exists_eq_left', file?_eq_some]
    cases d.at? way with
    | none => simp [throw, throwThe, MonadExceptOf.throw]
    | some e =>
      cases e with
      | directory => simp [pure, Except.pure]
      | file content' =>
        cases hopen : Path.endsOpen path <;>
          simp [pure, Except.pure, throw, throwThe, MonadExceptOf.throw]

theorem read_eq_ok {path : String} {content : List UInt8} :
    d.read path = .ok content ↔ d.find path = .ok (.file content) := by
  rw [read]
  cases d.find path with
  | error e => simp [bind, Except.bind]
  | ok e =>
    cases e <;> simp [bind, Except.bind, pure, Except.pure, throw, throwThe, MonadExceptOf.throw]

theorem isFile_of_read {path : String} {content : List UInt8} (h : d.read path = .ok content) :
    d.isFile path = true := by
  rw [isFile, read_eq_ok.1 h]

/-- A file is written at one place, where no directory is. -/
theorem write_eq_ok {path text : String} (h : d.write path text = .ok d') :
    ∃ way, d.locate path = .ok way ∧ d.at? way ≠ some .directory ∧
      d' = d.put way (.file text.toUTF8.toList) := by
  rw [write] at h
  cases hlocate : d.locate path with
  | error e =>
    rw [hlocate] at h
    cases h
  | ok way =>
    simp only [hlocate, bind, Except.bind] at h
    split at h
    · cases h
    · next hplace =>
      refine ⟨way, rfl, fun hdir => hplace ?_, (Except.ok.inj h).symm⟩
      have hfind : d.isDirectory path = true := by
        simp [isDirectory, find, hlocate, hdir, bind, Except.bind, pure, Except.pure]
      rw [hfind, Bool.or_true]

end StateMachine.Disk
