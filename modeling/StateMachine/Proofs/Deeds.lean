import StateMachine.CommandLine.Compile
import StateMachine.Proofs.Directories
import StateMachine.Proofs.Reading

/-!
# Deeds

What compiling a file does to a desk. Before its output is written, a file is only
read: what is made of it depends on its content alone (`exists_prepare_on`), and
is a crash for the contents that crash the command (`prepared_eq_crash_iff`). The
output is then written to one place, below the directory for outputs, or cannot be
opened (`writeOutput_cases`).

So a file has a *deed* (`Deed`): the messages and lines that are printed, and the
files that are written for it. It is the same on all desks that were reached by
writing other outputs (`exists_deed`), as long as the file itself was not written
over.
-/

namespace StateMachine

namespace Desk

variable {ε α β : Type}

/-- The desk with further messages. -/
def saying (e : Desk) (ms : List String) : Desk :=
  { e with messages := e.messages ++ ms }

/-! ## Running on a desk -/

theorem run_bind_ok {x : ExceptT ε (StateM Desk) α} {k : α → ExceptT ε (StateM Desk) β}
    {e e₁ : Desk} {a : α} (h : x.run.run e = (.ok a, e₁)) :
    (x >>= k).run.run e = (k a).run.run e₁ := by
  rw [ExceptT.run_bind, StateT.run_bind, h]
  rfl

theorem run_bind_error {x : ExceptT ε (StateM Desk) α} {k : α → ExceptT ε (StateM Desk) β}
    {e e₁ : Desk} {f : ε} (h : x.run.run e = (.error f, e₁)) :
    (x >>= k).run.run e = (.error f, e₁) := by
  rw [ExceptT.run_bind, StateT.run_bind, h]
  rfl

theorem run_lift {x : StateM Desk α} {e e₁ : Desk} {a : α} (h : x e = (a, e₁)) :
    (liftM x : ExceptT ε (StateM Desk) α).run.run e = (.ok a, e₁) :=
  congrArg (fun r : α × Desk => ((.ok r.1 : Except ε α), r.2)) h

/-- The action prints messages, the same on every desk. -/
def Speaks (x : StateM Desk Unit) : Prop :=
  ∃ ms, ∀ e, x.run e = ((), e.saying ms)

namespace Speaks

theorem silence : Speaks (pure ()) :=
  ⟨[], fun e => by simp [saying]; rfl⟩

theorem complain (text : String) : Speaks (world.complain text) :=
  ⟨[text], fun _ => rfl⟩

theorem bind {x y : StateM Desk Unit} (hx : Speaks x) (hy : Speaks y) :
    Speaks (x >>= fun _ => y) := by
  obtain ⟨ms, hx⟩ := hx
  obtain ⟨ms', hy⟩ := hy
  refine ⟨ms ++ ms', fun e => ?_⟩
  rw [StateT.run_bind, hx]
  simp [saying, hy, Bind.bind]

theorem report (console : Console) (r : Record) : Speaks (world.report console r) := by
  rw [World.report]
  split
  · exact ⟨[Console.line "TIME" r], fun _ => rfl⟩
  · exact silence

theorem reportAll (console : Console) (rs : List Record) : Speaks (world.reportAll console rs) := by
  induction rs with
  | nil => exact silence
  | cons r rs ih => exact (report console r).bind ih

theorem sayDiagnostics (ds : List Diagnostic) : Speaks (world.sayDiagnostics ds) := by
  induction ds with
  | nil => exact silence
  | cons d ds ih => exact (complain _).bind ih

end Speaks

/-- On every desk the action gives the result and prints the same messages. -/
def Says (x : ExceptT ε (StateM Desk) α) (r : Except ε α) : Prop :=
  ∃ ms, ∀ e, x.run.run e = (r, e.saying ms)

namespace Says

theorem pure (a : α) : Says (Pure.pure a : ExceptT ε (StateM Desk) α) (.ok a) :=
  ⟨[], fun e => by simp [saying]; rfl⟩

theorem throw (f : ε) : Says (MonadExcept.throw f : ExceptT ε (StateM Desk) α) (.error f) :=
  ⟨[], fun e => by simp [saying]; rfl⟩

theorem bind_ok {x : ExceptT ε (StateM Desk) α} {k : α → ExceptT ε (StateM Desk) β} {a : α}
    {r : Except ε β} (hx : Says x (.ok a)) (hk : Says (k a) r) : Says (x >>= k) r := by
  obtain ⟨ms, hx⟩ := hx
  obtain ⟨ms', hk⟩ := hk
  refine ⟨ms ++ ms', fun e => ?_⟩
  rw [run_bind_ok (hx e), hk]
  simp [saying]

theorem bind {x : ExceptT ε (StateM Desk) α} {k : α → ExceptT ε (StateM Desk) β}
    {r : Except ε α} {g : α → Except ε β} (hx : Says x r) (hk : ∀ a, Says (k a) (g a)) :
    Says (x >>= k) (r >>= g) := by
  cases r with
  | error f =>
    obtain ⟨ms, hx⟩ := hx
    exact ⟨ms, fun e => run_bind_error (hx e)⟩
  | ok a => exact hx.bind_ok (hk a)

theorem lift {x : StateM Desk Unit} (h : Speaks x) :
    Says (liftM x : ExceptT ε (StateM Desk) Unit) (.ok ()) := by
  obtain ⟨ms, hx⟩ := h
  exact ⟨ms, fun e => run_lift (hx e)⟩

end Says
end Desk

namespace Compile

open Desk

variable {console : Console} {job : Job} {path : String}

/-! ## Reading a file -/

/-- All that is done with a file before its output is written. -/
def prepare {m : Type → Type} [Monad m] (w : World m) (console : Console) (job : Job)
    (path : String) : ExceptT Failure m OutputFile := do
  let machine ← loadFile w console path
  checkMachine w console job path machine
  outputOf w console job path machine

theorem compileFile_eq_prepare : compileFile world console job path =
    prepare world console job path >>= writeOutput world job := by
  simp only [compileFile, prepare, bind_assoc]

/-- The file with this content crashes the command. -/
inductive Crashes (job : Job) (path : String) (bytes : List UInt8) : Crash → Prop
  /-- It holds no text. -/
  | notText {fault : Bytes.Malformed} : (Load.file path bytes).outcome.1 = .error (.badText fault) →
    Crashes job path bytes (.badText fault)
  /-- It holds an integer with too many digits. -/
  | tooLong {digits : Nat} : (Load.file path bytes).outcome.1 = .error (.tooLong digits) →
    Crashes job path bytes (.tooLong digits)
  /-- Its values are nested too deep. -/
  | tooDeep : (Load.file path bytes).outcome.1 = .error .tooDeep → Crashes job path bytes .tooDeep
  /-- A value is of a kind that is not expected when the machine is read. -/
  | reading {e : Mismatch} : (Load.file path bytes).outcome.1 = .error (.mismatch e) →
    Crashes job path bytes (.mismatch e)
  /-- A value is of a kind that is not expected when the machine is checked. -/
  | checking {machine : Machine} {e : Mismatch} :
    (Load.file path bytes).outcome.1 = .ok machine →
    machine.validate job.target (some (.str path)) = .error e → Crashes job path bytes (.mismatch e)
  /-- A value is of a kind that is not expected when the output is generated. -/
  | generating {machine : Machine} {v : Validation} {e : Mismatch} :
    (Load.file path bytes).outcome.1 = .ok machine →
    machine.validate job.target (some (.str path)) = .ok v → v.isValid = true →
    job.exporter = none →
    machine.generate job.target { job.options with sourceFileName := .str (Path.baseName path) }
      .null = .error (.mismatch e) → Crashes job path bytes (.mismatch e)

/-- Whether the check of a machine lets it pass. -/
def checked (job : Job) (path : String) (machine : Machine) : Except Failure Unit := do
  let v ← (machine.validate job.target (some (.str path))).mapError fun e => .crash (.mismatch e)
  if v.isValid then return else throw .invalid

/-- What is written of a valid machine. -/
def rendered (job : Job) (path : String) (machine : Machine) : Except Failure OutputFile :=
  match job.exporter with
  | some e => .ok (e.file machine (some machine.name))
  | none =>
    (machine.generate job.target { job.options with sourceFileName := .str (Path.baseName path) }
      .null).mapError generateFailure

/-- What is made of a file with this content. -/
def prepared (job : Job) (path : String) (bytes : List UInt8) : Except Failure OutputFile := do
  let machine ← (Load.file path bytes).outcome.1.mapError loadFailure
  checked job path machine
  rendered job path machine

/-- What is done with the content of a file to make a machine of it. -/
def loadBytes (console : Console) (path : String) (bytes : List UInt8) :
    ExceptT Failure (StateM Desk) Machine := do
  liftM (world.reportAll console (Load.file path bytes).outcome.2)
  match (Load.file path bytes).outcome.1 with
  | .ok machine => return machine
  | .error e => throw (loadFailure e)

/-- A file that is there is read, and no more is asked of the desk. -/
theorem loadFile_on {bytes : List UInt8} {e : Desk} (h : e.disk.read path = .ok bytes) :
    (loadFile world console path).run.run e = (loadBytes console path bytes).run.run e := by
  have hfile : world.isFile path e = (true, e) := by
    rw [← Disk.isFile_of_read h]
    rfl
  have hread : world.read path e = (.ok bytes, e) := by
    rw [← h]
    rfl
  rw [loadFile, run_bind_ok (run_lift hfile)]
  simp only [Bool.not_true, Bool.false_eq_true, if_false]
  rw [run_bind_ok (run_lift hread)]
  rfl

theorem says_loadBytes (console : Console) (path : String) (bytes : List UInt8) :
    Says (loadBytes console path bytes)
      ((Load.file path bytes).outcome.1.mapError loadFailure) := by
  refine .bind_ok (.lift (.reportAll _ _)) ?_
  cases (Load.file path bytes).outcome.1 with
  | error e => exact .throw _
  | ok machine => exact .pure machine

theorem checked_eq_ok {machine : Machine} : checked job path machine = .ok () ↔
    ∃ v, machine.validate job.target (some (.str path)) = .ok v ∧ v.isValid = true := by
  rw [checked]
  cases machine.validate job.target (some (.str path)) with
  | error e => simp [mapError_error, Bind.bind, Except.bind]
  | ok v => cases h : v.isValid <;>
      simp [mapError_ok, Bind.bind, Except.bind, h, Pure.pure, Except.pure, throw, throwThe,
        MonadExceptOf.throw]

theorem says_checkMachine (console : Console) (job : Job) (path : String) (machine : Machine) :
    Says (checkMachine world console job path machine) (checked job path machine) := by
  rw [checkMachine, checked]
  cases machine.validate job.target (some (.str path)) with
  | error e => exact .throw _
  | ok v =>
    refine .bind_ok (.lift (.report _ _)) (.bind_ok (.lift (.sayDiagnostics _)) ?_)
    change Says _ (if v.isValid then .ok () else .error Failure.invalid)
    cases v.isValid with
    | true => exact .pure ()
    | false => exact .bind_ok (.lift (.report _ _)) (.throw _)

theorem says_outputOf (console : Console) (job : Job) (path : String) (machine : Machine) :
    Says (outputOf world console job path machine) (rendered job path machine) := by
  rw [outputOf, rendered]
  cases job.exporter with
  | some e => exact .pure _
  | none =>
    refine .bind_ok (.lift (.report _ _)) ?_
    cases machine.generate job.target _ .null with
    | error e => exact .throw _
    | ok f => exact .bind_ok (.lift (.report _ _)) (.pure f)

/-- What is done with a file before its output is written depends on its content alone. -/
theorem exists_prepare_on (console : Console) (job : Job) (path : String) (bytes : List UInt8) :
    ∃ ms, ∀ e : Desk, e.disk.read path = .ok bytes →
      (prepare world console job path).run.run e = (prepared job path bytes, e.saying ms) := by
  obtain ⟨ms, hsays⟩ : Says (loadBytes console path bytes >>= fun machine => do
      checkMachine world console job path machine
      outputOf world console job path machine) (prepared job path bytes) :=
    (says_loadBytes console path bytes).bind fun machine =>
      (says_checkMachine console job path machine).bind fun _ =>
        says_outputOf console job path machine
  refine ⟨ms, fun e he => ?_⟩
  rw [← hsays e, prepare, ExceptT.run_bind, StateT.run_bind, loadFile_on he]
  rfl

/-- The contents that crash the command are those of which nothing but a crash is made. -/
theorem prepared_eq_crash_iff {bytes : List UInt8} {c : Crash} :
    prepared job path bytes = .error (.crash c) ↔ Crashes job path bytes c := by
  constructor
  · intro h
    rcases bind_eq_error.1 h with h | ⟨machine, hload, h⟩
    · obtain ⟨e, hload, h⟩ := mapError_eq_error.1 h
      cases e with
      | badText fault =>
        cases h
        exact .notText hload
      | tooLong digits =>
        cases h
        exact .tooLong hload
      | tooDeep =>
        cases h
        exact .tooDeep hload
      | mismatch e =>
        cases h
        exact .reading hload
      | _ => cases h
    · have hload := mapError_eq_ok.1 hload
      rcases bind_eq_error.1 h with h | ⟨_, hchecked, h⟩
      · -- a check that fails is no crash, unless it cannot be made
        rcases bind_eq_error.1 h with h | ⟨v, -, h⟩
        · obtain ⟨e, hvalidate, h⟩ := mapError_eq_error.1 h
          cases h
          exact .checking hload hvalidate
        · split at h <;> cases h
      · obtain ⟨v, hvalidate, hvalid⟩ := checked_eq_ok.1 hchecked
        rw [rendered] at h
        split at h
        · cases h
        · next hexporter =>
          obtain ⟨e, hgenerate, h⟩ := mapError_eq_error.1 h
          cases e with
          | mismatch e =>
            cases h
            exact .generating hload hvalidate hvalid hexporter hgenerate
          | _ => cases h
  · intro h
    rw [prepared]
    cases h with
    | notText hload | tooLong hload | tooDeep hload | reading hload =>
      rw [hload]
      rfl
    | checking hload hvalidate =>
      refine bind_eq_error.2 (.inr ⟨_, mapError_eq_ok.2 hload, bind_eq_error.2 (.inl ?_)⟩)
      rw [checked, hvalidate]
      rfl
    | generating hload hvalidate hvalid hexporter hgenerate =>
      refine bind_eq_error.2 (.inr ⟨_, mapError_eq_ok.2 hload, bind_eq_error.2 (.inr
        ⟨(), checked_eq_ok.2 ⟨_, hvalidate, hvalid⟩, ?_⟩)⟩)
      rw [rendered, hexporter]
      exact mapError_eq_error.2 ⟨_, hgenerate, rfl⟩

/-! ## Writing outputs -/

/-- The disk with the directory for outputs. -/
def ready (job : Job) (d : Disk) : Disk :=
  match job.options.targetDirectory with
  | .str path => if path.isEmpty then d else (d.makeDirectories path).disk
  | _ => d

/-- The path an output is written to. -/
def pathOf (job : Job) (f : OutputFile) : String :=
  match job.options.targetDirectory with
  | .str path => if path.isEmpty then f.name else Path.join path f.name
  | _ => f.name

/-- The disk after an output was written, if that succeeds. -/
def stored? (job : Job) (d : Disk) (f : OutputFile) : Option Disk :=
  match (writeOutput world job f).run.run { disk := d } with
  | (.ok (), e) => some e.disk
  | (.error _, _) => none

theorem grows_ready (job : Job) (d : Disk) : d.Grows (ready job d) := by
  rw [ready]
  split
  · split
    · exact .refl d
    · exact Disk.grows_makeDirectories d _
  · exact .refl d

/-- The line about an output that was written. -/
def wroteLine (path : String) : String :=
  "[Wrote " ++ path ++ "]" ++ "\n"

/-- The output has a usable name, and a file of this name can be opened and written. -/
structure Opens (job : Job) (d : Disk) (f : OutputFile) : Prop where
  /-- The name leads below the directory for outputs, if one is given. -/
  below : job.options.targetDirectory.isSet = true → f.name.toList.head? ≠ some '/'
  unbroken : Path.holdsZero (pathOf job f) = false
  writes : ∃ d', (ready job d).write (pathOf job f) f.content = .ok d'

/-- The directory for outputs is made or, whatever else is on the desk, cannot be made. Some of
    those above it may be new then, but the output cannot be opened. -/
theorem makeDirectory_on (job : Job) (f : OutputFile) (d : Disk) :
    (∃ directory,
      (if directory.isEmpty then f.name else Path.join directory f.name) = pathOf job f ∧
      ∀ e : Desk, e.disk = d → (makeDirectory world job.options.targetDirectory).run.run e =
        (.ok directory, { e with disk := ready job d })) ∨
    ∀ e : Desk, e.disk = d → ∃ x e',
      (makeDirectory world job.options.targetDirectory).run.run e = (.error x, e') ∧
      (e'.disk = d ∨ e'.disk = ready job d ∧ ¬Opens job d f) := by
  have hopens : Opens job d f → job.options.targetDirectory.isSet = true →
      f.name.toList.head? ≠ some '/' ∧
        ∃ d', (ready job d).write (pathOf job f) f.content = .ok d' :=
    fun h hset => ⟨h.below hset, h.writes⟩
  rw [pathOf, ready] at hopens ⊢
  generalize job.options.targetDirectory = v at hopens ⊢
  cases v with
  | str path =>
    -- an empty path stands for the directory the command runs in
    by_cases hempty : path.isEmpty = true
    · refine .inl ⟨path, by simp [hempty], ?_⟩
      rintro e rfl
      simp only [makeDirectory, hempty]
      rfl
    · simp only [makeDirectory, hempty] at hopens ⊢
      cases hzero : Path.holdsZero path with
      | true => exact .inr fun e he => ⟨_, e, rfl, .inl he⟩
      | false =>
        rcases hmade : d.makeDirectories path with ⟨d', _ | x⟩
        · refine .inl ⟨path, by simp [hempty], ?_⟩
          rintro e rfl
          have hworld : world.makeDirectories path e = (.ok (), { e with disk := d' }) := by
            simp only [world, onDisk, hmade]
          exact run_bind_ok (run_lift hworld)
        · refine .inr ?_
          rintro e rfl
          have hworld : world.makeDirectories path e = (.error x, { e with disk := d' }) := by
            simp only [world, onDisk, hmade]
          refine ⟨_, { e with disk := d' }, run_bind_ok (run_lift hworld), .inr ⟨?_, fun h => ?_⟩⟩
          · simp
          · obtain ⟨hbelow, d'', hwrites⟩ := hopens h (by simpa [Value.isSet] using hempty)
            have hfault := Disk.fault_eq_none_of_write (by simpa using hempty) hbelow hwrites
            rw [hmade] at hfault
            cases hfault
  | null | bool | int | float | list | object =>
    simp only [makeDirectory]
    split
    · exact .inr fun e he => ⟨_, e, rfl, .inl he⟩
    · refine .inl ⟨"", by simp, ?_⟩
      rintro e rfl
      rfl

/-- What is left of writing an output once its path is known. -/
def writeAt (path content : String) : ExceptT Failure (StateM Desk) Unit := do
  if Path.holdsZero path then throw (.crash .badPath)
  match ← world.write path content with
  | .error e => throw (.said ("cannot write output: " ++ e.message))
  | .ok () => world.print ("[Wrote " ++ path ++ "]")

/-- A text is written to one place or, whatever else is on the desk, cannot be written. -/
theorem writeAt_on (path content : String) (d : Disk) :
    (∃ way, d.locate path = .ok way ∧ d.at? way ≠ some .directory ∧
      ∀ e : Desk, e.disk = d → (writeAt path content).run.run e = (.ok (), { e with
        disk := d.put way (.file content.toUTF8.toList)
        output := e.output ++ [wroteLine path] })) ∨
    (Path.holdsZero path = false → ∀ d', d.write path content ≠ .ok d') ∧
      ∀ e : Desk, e.disk = d → ∃ x, (writeAt path content).run.run e = (.error x, e) := by
  rw [writeAt]
  cases hzero : Path.holdsZero path with
  | true => exact .inr ⟨by simp, fun e _ => ⟨_, rfl⟩⟩
  | false =>
    cases hwrite : d.write path content with
    | error x =>
      refine .inr ⟨by simp, ?_⟩
      rintro e rfl
      have hworld : world.write path content e = (.error x, e) := by
        simp only [world, onDisk, hwrite, Disk.outcome]
      exact ⟨_, run_bind_ok (run_lift hworld)⟩
    | ok d' =>
      obtain ⟨way, hlocate, hplace, rfl⟩ := Disk.write_eq_ok hwrite
      refine .inl ⟨way, hlocate, hplace, ?_⟩
      rintro e rfl
      have hworld : world.write path content e =
          (.ok (), { e with disk := e.disk.put way (.file content.toUTF8.toList) }) := by
        simp only [world, onDisk, hwrite, Disk.outcome]
      exact run_bind_ok (run_lift hworld)

/-- Writing an output changes the file at one place or, whatever else is on the desk, fails. At most
    the directory for outputs is new then, and only if the output cannot be opened. -/
theorem writeOutput_cases (job : Job) (f : OutputFile) (d : Disk) :
    (∃ way, (ready job d).locate (pathOf job f) = .ok way ∧
      (ready job d).at? way ≠ some .directory ∧
      ∀ e : Desk, e.disk = d → (writeOutput world job f).run.run e = (.ok (), { e with
        disk := (ready job d).put way (.file f.content.toUTF8.toList)
        output := e.output ++ [wroteLine (pathOf job f)] })) ∨
    ∀ e : Desk, e.disk = d → ∃ x e', (writeOutput world job f).run.run e = (.error x, e') ∧
      (e'.disk = d ∨ e'.disk = ready job d ∧ ¬Opens job d f) := by
  rcases makeDirectory_on job f d with ⟨directory, hpath, hmade⟩ | hfails
  · have hwrite : ∀ e : Desk, e.disk = d → (writeOutput world job f).run.run e =
        (writeAt (pathOf job f) f.content).run.run { e with disk := ready job d } := by
      intro e he
      rw [writeOutput, run_bind_ok (hmade e he), ← hpath]
      rfl
    rcases writeAt_on (pathOf job f) f.content (ready job d) with
      ⟨way, hlocate, hplace, hput⟩ | ⟨hnot, hfails⟩
    · exact .inl ⟨way, hlocate, hplace, fun e he => (hwrite e he).trans (hput _ rfl)⟩
    · refine .inr fun e he => ?_
      obtain ⟨x, herror⟩ := hfails { e with disk := ready job d } rfl
      refine ⟨x, _, (hwrite e he).trans herror, .inr ⟨rfl, fun h => ?_⟩⟩
      obtain ⟨d', hd'⟩ := h.writes
      exact hnot h.unbroken d' hd'
  · refine .inr fun e he => ?_
    obtain ⟨x, e', herror, hdisk⟩ := hfails e he
    exact ⟨x, e', by rw [writeOutput, run_bind_error herror], hdisk⟩

/-- On a disk on which it succeeds, writing an output changes the file at one place. -/
theorem writeOutput_on {f : OutputFile} {d d' : Disk} (h : stored? job d f = some d') :
    ∃ way, (ready job d).locate (pathOf job f) = .ok way ∧
      (ready job d).at? way ≠ some .directory ∧
      d' = (ready job d).put way (.file f.content.toUTF8.toList) ∧
      ∀ e : Desk, e.disk = d → (writeOutput world job f).run.run e =
        (.ok (), { e with disk := d', output := e.output ++ [wroteLine (pathOf job f)] }) := by
  rw [stored?] at h
  rcases writeOutput_cases job f d with ⟨way, hlocate, hplace, hrun⟩ | hfails
  · rw [hrun { disk := d } rfl] at h
    cases h
    exact ⟨way, hlocate, hplace, rfl, hrun⟩
  · obtain ⟨x, e', herror, -⟩ := hfails { disk := d } rfl
    rw [herror] at h
    cases h

/-- On a disk on which it fails, writing an output changes no file, and nothing at all unless the
    output cannot be opened. -/
theorem writeOutput_of_none {f : OutputFile} {e : Desk} (h : stored? job e.disk f = none) :
    ∃ x e', (writeOutput world job f).run.run e = (.error x, e') ∧ e.disk.Grows e'.disk ∧
      (Opens job e.disk f → e'.disk = e.disk) := by
  rw [stored?] at h
  rcases writeOutput_cases job f e.disk with ⟨way, -, -, hrun⟩ | hfails
  · rw [hrun { disk := e.disk } rfl] at h
    cases h
  · obtain ⟨x, e', herror, hdisk | ⟨hdisk, hnot⟩⟩ := hfails e rfl
    · exact ⟨x, e', herror, hdisk ▸ .refl _, fun _ => hdisk⟩
    · exact ⟨x, e', herror, hdisk ▸ grows_ready job e.disk, fun h => absurd h hnot⟩

/-! ## Deeds -/

/-- What was done to a desk: the messages and lines that were printed, and the files that were
    written, the last one first. -/
structure Deed where
  messages : List String := []
  output : List String := []
  files : List (List String × List UInt8) := []

/-- What is done by one deed after the other. -/
def Deed.andThen (a b : Deed) : Deed :=
  ⟨a.messages ++ b.messages, a.output ++ b.output, b.files ++ a.files⟩

/-- The deed leads from one desk to another. -/
structure Deed.Leads (deed : Deed) (e e' : Desk) : Prop where
  messages : e'.messages = e.messages ++ deed.messages
  output : e'.output = e.output ++ deed.output
  files : ∀ way, e'.disk.file? way = (deed.files.lookup way).or (e.disk.file? way)
  directories : e.disk.Extends e'.disk

theorem Deed.leads_saying (e : Desk) (ms : List String) :
    Leads { messages := ms } e (e.saying ms) where
  messages := rfl
  output := (List.append_nil _).symm
  files _ := rfl
  directories := .refl _

theorem Deed.Leads.andThen {a b : Deed} {e e₁ e₂ : Desk} (ha : a.Leads e e₁) (hb : b.Leads e₁ e₂) :
    (a.andThen b).Leads e e₂ where
  messages := by rw [hb.messages, ha.messages, List.append_assoc]; rfl
  output := by rw [hb.output, ha.output, List.append_assoc]; rfl
  files way := by
    rw [hb.files, ha.files, Deed.andThen, List.lookup_append, Option.or_assoc]
  directories := ha.directories.trans hb.directories

/-- A file that no deed wrote to is read as before. -/
theorem Deed.Leads.read {deed : Deed} {e e' : Desk} (h : deed.Leads e e') {bytes : List UInt8}
    (hread : e.disk.read path = .ok bytes)
    (hplace : ∀ way, e.disk.locate path = .ok way → deed.files.lookup way = none) :
    e'.disk.read path = .ok bytes := by
  rw [Disk.read_eq_ok, Disk.find_eq_file] at hread ⊢
  obtain ⟨way, hlocate, hfile, hopen⟩ := hread
  refine ⟨way, h.directories.locate hlocate, ?_, hopen⟩
  rw [h.files, hplace way hlocate, Option.none_or, hfile]

/-- The desk came from the disk by writing outputs. -/
structure Reached (job : Job) (d : Disk) (e : Desk) : Prop where
  directories : d.Extends e.disk
  ready : e.disk = d ∨ (ready job d).Extends e.disk

theorem Reached.here (job : Job) (e : Desk) : Reached job e.disk e :=
  ⟨.refl _, .inl rfl⟩

/-- The directory for outputs stays there. -/
theorem Reached.ready_extends {d : Disk} {e : Desk} (h : Reached job d e) :
    (Compile.ready job d).Extends (Compile.ready job e.disk) := by
  rcases h.ready with h | h
  · rw [h]
    exact .refl _
  · exact h.trans (grows_ready job e.disk).extends

/-- What becomes of a failure: a file that is not compiled, or a crash. -/
def Failure.verdict : Failure → Except Crash Bool
  | .crash c => .error c
  | .said _ | .invalid => .ok false

/-- The message about a failure. -/
def Failure.complaint : Failure → List String
  | .said message => ["Error: " ++ message ++ "\n"]
  | .invalid | .crash _ => []

/-- Whether a file is compiled of which this is made. -/
def verdict : Except Failure OutputFile → Except Crash Bool
  | .ok _ => .ok true
  | .error failure => failure.verdict

theorem compiled_of_error {failure : Failure} {e e₁ : Desk}
    (h : (compileFile world console job path).run.run e = (.error failure, e₁)) :
    (compiled world console job path).run.run e =
      (failure.verdict, e₁.saying failure.complaint) := by
  rw [compiled, run_bind_ok (run_lift (x := (compileFile world console job path).run) h)]
  cases failure with
  | said message => rfl
  | invalid | crash =>
    rw [Failure.complaint, saying, List.append_nil]
    rfl

theorem compiled_of_ok {e e₁ : Desk}
    (h : (compileFile world console job path).run.run e = (.ok (), e₁)) :
    (compiled world console job path).run.run e = (.ok true, e₁) := by
  rw [compiled, run_bind_ok (run_lift (x := (compileFile world console job path).run) h)]
  rfl

/-- What is made of a file on a disk. -/
def madeOf (job : Job) (d : Disk) (path : String) : Except Failure OutputFile :=
  match d.read path with
  | .ok bytes => prepared job path bytes
  | .error e => .error (.said ("cannot read " ++ path ++ ": " ++ e.message))

/-- The output of a file on a disk. -/
def output? (job : Job) (d : Disk) (path : String) : Option OutputFile :=
  (madeOf job d path).toOption

theorem output?_eq_some {d : Disk} {f : OutputFile} :
    output? job d path = some f ↔ madeOf job d path = .ok f :=
  toOption_eq_some

/-- The deed is what compiling a file does to all desks that were reached from a disk, provided
    that its output can be written there. -/
structure Deed.OfFile (console : Console) (job : Job) (d : Disk) (path : String) (deed : Deed) :
    Prop where
  files : ∀ way content, (way, content) ∈ deed.files → ∃ f, output? job d path = some f ∧
    (ready job d).locate (pathOf job f) = .ok way
  leads : ∀ e, Reached job d e → e.disk.read path = d.read path →
    (∀ f, output? job d path = some f → (stored? job e.disk f).isSome = true) →
    ∃ e', (compiled world console job path).run.run e = (verdict (madeOf job d path), e') ∧
      deed.Leads e e' ∧ Reached job d e' ∧
      match output? job d path with
      | none => e'.disk = e.disk
      | some f => stored? job e.disk f = some e'.disk

/-- A file of which nothing is made only prints messages. -/
theorem exists_deed_of_error (console : Console) {d : Disk} {bytes : List UInt8} {failure : Failure}
    (hread : d.read path = .ok bytes) (hprepared : prepared job path bytes = .error failure) :
    ∃ deed : Deed, deed.OfFile console job d path := by
  obtain ⟨ms, hprepare⟩ := exists_prepare_on console job path bytes
  have hmade : madeOf job d path = .error failure := by rw [madeOf, hread]; exact hprepared
  have houtput : output? job d path = none := by rw [output?, hmade]; rfl
  refine ⟨Deed.andThen { messages := ms } { messages := failure.complaint },
    by simp [Deed.andThen], fun e hreached hread' _ => ?_⟩
  have hfile : (compileFile world console job path).run.run e = (.error failure, e.saying ms) := by
    rw [compileFile_eq_prepare]
    exact run_bind_error (hprepared ▸ hprepare e (hread'.trans hread))
  rw [hmade, houtput]
  exact ⟨_, compiled_of_error hfile, (Deed.leads_saying e ms).andThen (Deed.leads_saying _ _),
    ⟨hreached.directories, hreached.ready⟩, rfl⟩

/-- A file that has an output writes it to the same place from everywhere, since the directory for
    outputs is there. -/
theorem exists_deed_of_ok (console : Console) {d : Disk} {bytes : List UInt8} {f : OutputFile}
    (hread : d.read path = .ok bytes) (hprepared : prepared job path bytes = .ok f)
    (hstored : (stored? job d f).isSome = true) :
    ∃ deed : Deed, deed.OfFile console job d path := by
  obtain ⟨ms, hprepare⟩ := exists_prepare_on console job path bytes
  have hmade : madeOf job d path = .ok f := by rw [madeOf, hread]; exact hprepared
  have houtput : output? job d path = some f := output?_eq_some.2 hmade
  obtain ⟨d', hd'⟩ := Option.isSome_iff_exists.1 hstored
  obtain ⟨way, hlocate, -, -, -⟩ := writeOutput_on hd'
  refine ⟨Deed.andThen { messages := ms } ⟨[], [wroteLine (pathOf job f)],
    [(way, f.content.toUTF8.toList)]⟩, ?_, fun e hreached hread' hstored => ?_⟩
  · rintro way' content hfile
    obtain ⟨rfl, -⟩ : way' = way ∧ content = _ := by simpa [Deed.andThen] using hfile
    exact ⟨f, houtput, hlocate⟩
  · obtain ⟨d₁, hd₁⟩ := Option.isSome_iff_exists.1 (hstored f houtput)
    obtain ⟨way', hlocate', hplace, hput, hwrite⟩ := writeOutput_on hd₁
    -- a path that led somewhere once the directory was made leads there still
    obtain rfl : way' = way := by
      rw [hreached.ready_extends.locate hlocate] at hlocate'
      exact (Except.ok.inj hlocate').symm
    have hfile : (compileFile world console job path).run.run e = (.ok (), { e.saying ms with
        disk := d₁, output := e.output ++ [wroteLine (pathOf job f)] }) := by
      rw [compileFile_eq_prepare, run_bind_ok (hprepared ▸ hprepare e (hread'.trans hread))]
      exact hwrite (e.saying ms) rfl
    have hready : (ready job e.disk).Extends d₁ := by
      rw [hput]
      exact Disk.extends_put _ hplace
    have hdirectories : e.disk.Extends d₁ := (grows_ready job e.disk).extends.trans hready
    have hfiles : ∀ way, d₁.file? way =
        ([(way', f.content.toUTF8.toList)].lookup way).or (e.disk.file? way) := by
      intro way
      rw [hput, Disk.file?_put _ hplace, (grows_ready job e.disk).file?_eq]
    rw [hmade, houtput]
    exact ⟨_, compiled_of_ok hfile, (Deed.leads_saying e ms).andThen
      ⟨(List.append_nil _).symm, rfl, hfiles, hdirectories⟩,
      ⟨hreached.directories.trans hdirectories, .inr (hreached.ready_extends.trans hready)⟩, hd₁⟩

/-- Every file that is there has its deed. -/
theorem exists_deed (console : Console) (job : Job) {d : Disk} {bytes : List UInt8}
    (hread : d.read path = .ok bytes)
    (hstored : ∀ f, output? job d path = some f → (stored? job d f).isSome = true) :
    ∃ deed : Deed, deed.OfFile console job d path := by
  cases hprepared : prepared job path bytes with
  | error failure => exact exists_deed_of_error console hread hprepared
  | ok f =>
    refine exists_deed_of_ok console hread hprepared (hstored f (output?_eq_some.2 ?_))
    rw [madeOf, hread]
    exact hprepared

end Compile
end StateMachine
