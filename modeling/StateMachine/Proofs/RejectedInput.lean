import StateMachine.Proofs.FileByFile

/-!
# Rejected input

Who finds a file written for a machine should be able to rely on it. The command
keeps to this. It accepts a configuration exactly if it names a target, its
options can be read and are supported by the target, and there is an exporter of
the name or a generator for the target (`Fits`, `gives_settle`); otherwise it
writes nothing. It then takes the files in turn (`InTurn`). A file of which an
output can be made describes a machine without errors (`Makes`); compiling it
writes this output to one place. Compiling any other file changes nothing, and
where an output cannot be written, at most directories are new (`Turn`,
`turn_compiled`).

So at the end of the command every file holds what it held before or the output
of a machine without errors (`rejected_input_changes_nothing`).
-/

namespace StateMachine

/-- The file at `way` is the only one that is changed, and it holds the text. -/
structure Disk.Rewrites (d : Disk) (way : List String) (text : String) (d' : Disk) : Prop where
  content : d'.file? way = some text.toUTF8.toList
  others : ∀ way', way' ≠ way → d'.file? way' = d.file? way'
  directories : d.Extends d'

/-- Writing a file where no directory is changes no other file, and neither do new directories. -/
theorem Disk.Grows.rewrites {d d₁ : Disk} {way : List String} (h : d.Grows d₁)
    (hplace : d₁.at? way ≠ some .directory) (text : String) :
    d.Rewrites way text (d₁.put way (.file text.toUTF8.toList)) where
  content := by
    rw [Disk.file?_put _ hplace]
    simp
  others way' hway := by
    rw [Disk.file?_put _ hplace, List.lookup_cons, beq_false_of_ne hway, h.file?_eq]
    rfl
  directories := h.extends.trans (Disk.extends_put _ hplace)

namespace Compile

open Desk

variable {console : Console} {job : Job} {path : String}

/-! ## Configurations that are accepted -/

section Gives

variable {ε δ α β : Type} {x : ExceptT ε (StateM Desk) α} {P Q : Disk → α → Prop}

/-- The results of the action are those that are right for the disk. -/
def Gives (x : ExceptT ε (StateM Desk) α) (P : Disk → α → Prop) : Prop :=
  ∀ e a, (x.run.run e).1 = .ok a ↔ P e.disk a

namespace Gives

theorem congr (h : Gives x P) (hPQ : ∀ d a, P d a ↔ Q d a) : Gives x Q :=
  fun e a => (h e a).trans (hPQ e.disk a)

theorem pure (a : α) :
    Gives (Pure.pure a : ExceptT ε (StateM Desk) α) fun _ b => b = a :=
  fun _ _ => ⟨fun h => (Except.ok.inj h).symm, fun h => congrArg Except.ok h.symm⟩

theorem throw (f : ε) :
    Gives (MonadExcept.throw f : ExceptT ε (StateM Desk) α) fun _ _ => False :=
  fun _ _ => ⟨fun h => (by cases h), False.elim⟩

theorem bind {k : α → ExceptT ε (StateM Desk) β} {R : α → Disk → β → Prop} (hx : Gives x P)
    (hkeeps : Keeps x) (hk : ∀ a, Gives (k a) (R a)) :
    Gives (x >>= k) fun d b => ∃ a, P d a ∧ R a d b := by
  intro e b
  have hx := hx e
  rcases hrun : x.run.run e with ⟨f | a, e₁⟩
  · rw [run_bind_error hrun]
    simp [← hx, hrun]
  · rw [run_bind_ok hrun, hk a e₁]
    have hdisk : e₁.disk = e.disk := by simpa [hrun] using hkeeps e
    simp [← hx, hrun, hdisk]

theorem adapt (f : ε → δ) (hx : Gives x P) : Gives (ExceptT.adapt f x) P := by
  intro e a
  rw [← hx e a]
  exact mapError_eq_ok

/-- Messages in front do not matter. -/
theorem after {y : StateM Desk Unit} (hy : Speaks y) (hx : Gives x P) :
    Gives (liftM y >>= fun _ => x) P := by
  obtain ⟨ms, hy⟩ := hy
  intro e a
  have hrun : (liftM y >>= fun _ => x).run.run e = x.run.run (e.saying ms) :=
    run_bind_ok (run_lift (hy e))
  rw [hrun]
  exact hx (e.saying ms) a

end Gives
end Gives

/-- The options that are given further settings: those of the options file, if there is one. -/
def StartsFrom (d : Disk) (file : Value) (base : Options) : Prop :=
  match file with
  | .str path =>
    if path.isEmpty then base = Options.default
    else Path.holdsZero path = false ∧
      ∃ bytes, d.read path = .ok bytes ∧ Options.ofFile path bytes = .ok base
  | _ => base = Options.default

/-- The invocation is one that can be followed, and the job is what it asks for. -/
structure Fits (d : Disk) (i : Invocation) (job : Job) : Prop where
  target : targetOf i.target = .ok job.target
  options : ∃ base, StartsFrom d i.optionsFile base ∧ i.options base = .ok job.options
  supported : job.options.check job.target = .ok ()
  exported : i.exporter.isSet = true →
    ∃ e, Exporter.ofName? i.exporter.text = some e ∧ job.exporter = some e
  generated : i.exporter.isSet = false →
    (Generator.ofTarget? job.target).isSome = true ∧ job.exporter = none

theorem gives_baseOptions (file : Value) :
    Gives (baseOptions world file) fun d base => StartsFrom d file base := by
  cases file with
  | str path =>
    simp only [baseOptions, StartsFrom]
    cases path.isEmpty with
    | true => exact .pure Options.default
    | false =>
      cases Path.holdsZero path with
      | true => exact (Gives.throw _).congr (by simp)
      | false =>
        intro e base
        have hread : world.read path e = (e.disk.read path, e) := rfl
        simp only [Bool.false_eq_true, if_false, true_and]
        rw [run_bind_ok (run_lift hread)]
        cases e.disk.read path with
        | error x => simp
        | ok bytes =>
          simp only [Except.ok.injEq, exists_eq_left']
          cases Options.ofFile path bytes with
          | error x => simp
          | ok o => exact (Gives.pure o e base).trans (by simp [eq_comm])
  | null | bool | int | float | list | object => exact .pure Options.default

theorem gives_optionsOf (i : Invocation) : Gives (optionsOf world i) fun d options =>
    ∃ base, StartsFrom d i.optionsFile base ∧ i.options base = .ok options := by
  refine .bind (gives_baseOptions i.optionsFile) (.baseOptions i.optionsFile) fun base => ?_
  cases i.options base with
  | error e => exact (Gives.throw _).congr (by simp)
  | ok options => exact (Gives.pure options).congr (by simp [eq_comm])

theorem gives_exporterOf (console : Console) (v : Value) (target : Target) :
    Gives (exporterOf world console v target) fun _ exporter =>
      (v.isSet = true → ∃ e, Exporter.ofName? v.text = some e ∧ exporter = some e) ∧
      (v.isSet = false → (Generator.ofTarget? target).isSome = true ∧ exporter = none) := by
  rw [exporterOf]
  cases v.isSet with
  | true =>
    refine .after (.reportAll _ _) ?_
    cases Exporter.ofName? v.text with
    | none => exact (Gives.throw _).congr (by simp)
    | some e =>
      refine (Gives.pure (some e)).congr fun _ exporter => ⟨?_, ?_⟩
      · rintro rfl
        exact ⟨fun _ => ⟨e, rfl, rfl⟩, fun h => absurd h (by decide)⟩
      · rintro ⟨h, -⟩
        obtain ⟨e', he', rfl⟩ := h rfl
        exact he'.symm
  | false =>
    cases Generator.ofTarget? target with
    | none => exact (Gives.throw _).congr (by simp)
    | some g => exact (Gives.pure none).congr (by simp)

theorem gives_targetOf (v : Value) :
    Gives (liftM (targetOf v) : ExceptT Unsettled (StateM Desk) Target) fun _ t =>
      targetOf v = .ok t := by
  cases targetOf v with
  | error e => exact (Gives.throw e).congr (by simp)
  | ok t => exact (Gives.pure t).congr (by simp [eq_comm])

/-- What is left of settling the job once its options are known. -/
theorem gives_job (console : Console) (v : Value) (target : Target) (options : Options) :
    Gives (do
      match options.check target with
      | .error e => throw (OptionsFault.options e).unsettled
      | .ok () => world.report console (options.acceptedRecord target)
      let exporter ← exporterOf world console v target
      return ⟨target, options, exporter⟩ : ExceptT Unsettled (StateM Desk) Job) fun _ job =>
      job.target = target ∧ job.options = options ∧ options.check target = .ok () ∧
      (v.isSet = true → ∃ e, Exporter.ofName? v.text = some e ∧ job.exporter = some e) ∧
      (v.isSet = false → (Generator.ofTarget? target).isSome = true ∧ job.exporter = none) := by
  cases options.check target with
  | error e =>
    intro d job
    constructor
    · intro h
      cases h
    · rintro ⟨-, -, h, -⟩
      cases h
  | ok _ =>
    refine (Gives.after (.report _ _) ((gives_exporterOf console v target).bind
      (.exporterOf console v target) fun exporter => .pure _)).congr fun _ job => ⟨?_, ?_⟩
    · rintro ⟨exporter, h, rfl⟩
      exact ⟨rfl, rfl, rfl, h⟩
    · rintro ⟨rfl, rfl, -, h⟩
      exact ⟨job.exporter, h, rfl⟩

/-- A job is settled exactly if it is what the invocation asks for. -/
theorem gives_settle (console : Console) (i : Invocation) :
    Gives (settle world console i) fun d job => Fits d i job := by
  have hkeeps : Keeps (liftM (targetOf i.target) : ExceptT Unsettled (StateM Desk) Target) := by
    cases targetOf i.target with
    | error e => exact .of_saying (.throw e)
    | ok t => exact .of_saying (.pure t)
  refine ((gives_targetOf i.target).bind hkeeps fun target => ((gives_optionsOf i).adapt _).bind
    (.adapt _ (.optionsOf i)) fun options => gives_job console i.exporter target options).congr
    fun d job => ⟨?_, ?_⟩
  · rintro ⟨_, htarget, _, hoptions, rfl, rfl, hcheck, hexported, hgenerated⟩
    exact ⟨htarget, hoptions, hcheck, hexported, hgenerated⟩
  · rintro ⟨htarget, hoptions, hcheck, hexported, hgenerated⟩
    exact ⟨_, htarget, _, hoptions, rfl, rfl, hcheck, hexported, hgenerated⟩

/-! ## Files that are compiled -/

/-- The file describes a machine without errors, and this is its output. -/
structure Makes (job : Job) (d : Disk) (path : String) (machine : Machine) (f : OutputFile) :
    Prop where
  loaded : ∃ bytes, d.read path = .ok bytes ∧ (Load.file path bytes).outcome.1 = .ok machine
  faultless : ∃ v, machine.validate job.target (some (.str path)) = .ok v ∧ v.errors = []
  output : rendered job path machine = .ok f

theorem output?_eq_some_iff_makes {d : Disk} {f : OutputFile} :
    output? job d path = some f ↔ ∃ machine, Makes job d path machine f := by
  rw [output?_eq_some, madeOf]
  constructor
  · intro h
    split at h
    · next bytes hread =>
      obtain ⟨machine, hload, h⟩ := bind_eq_ok.1 h
      obtain ⟨_, hchecked, houtput⟩ := bind_eq_ok.1 h
      obtain ⟨v, hvalidate, hvalid⟩ := checked_eq_ok.1 hchecked
      exact ⟨machine, ⟨bytes, hread, mapError_eq_ok.1 hload⟩,
        ⟨v, hvalidate, List.isEmpty_iff.1 hvalid⟩, houtput⟩
    · cases h
  · rintro ⟨machine, ⟨bytes, hread, hload⟩, ⟨v, hvalidate, hvalid⟩, houtput⟩
    rw [hread]
    exact bind_eq_ok.2 ⟨machine, mapError_eq_ok.2 hload, bind_eq_ok.2
      ⟨(), checked_eq_ok.2 ⟨v, hvalidate, List.isEmpty_iff.2 hvalid⟩, houtput⟩⟩

/-- The output of the file, if there is one, can be opened and written. -/
def Writable (job : Job) (d : Disk) (path : String) : Prop :=
  ∀ machine f, Makes job d path machine f → Opens job d f

/-- What compiling a file with this result may do to a disk. -/
structure Turn (job : Job) (path : String) (d : Disk) (result : Except Crash Bool) (d' : Disk) :
    Prop where
  /-- A file that is compiled describes a machine without errors, and its output is written. -/
  written : result = .ok true → ∃ machine f way, Makes job d path machine f ∧
    (ready job d).locate (pathOf job f) = .ok way ∧ d.Rewrites way f.content d'
  /-- No other file has an effect, provided that outputs can be written. -/
  unchanged : result ≠ .ok true → Writable job d path → d' = d
  /-- Where they cannot, at most directories are new. -/
  grows : result ≠ .ok true → d.Grows d'

theorem Failure.verdict_ne_true (failure : Failure) : failure.verdict ≠ .ok true := by
  cases failure <;> simp [Failure.verdict]

/-- A file that cannot be read is not compiled. -/
theorem loadFile_of_error (console : Console) {e : Desk} {x : FileError}
    (h : e.disk.read path = .error x) :
    ∃ failure, (loadFile world console path).run.run e = (.error failure, e) := by
  have hfile : world.isFile path e = (e.disk.isFile path, e) := rfl
  have hread : world.read path e = (.error x, e) := by
    rw [← h]
    rfl
  rw [loadFile, run_bind_ok (run_lift hfile)]
  cases e.disk.isFile path with
  | false => exact ⟨_, rfl⟩
  | true => exact ⟨_, run_bind_ok (run_lift hread)⟩

/-- What is made of a file is made without changing the disk. -/
theorem exists_prepare_eq (console : Console) (job : Job) (path : String) (e : Desk) :
    ∃ r ms, (prepare world console job path).run.run e = (r, e.saying ms) ∧
      r.toOption = output? job e.disk path := by
  cases hread : e.disk.read path with
  | error x =>
    obtain ⟨failure, hload⟩ := loadFile_of_error console hread
    refine ⟨.error failure, [], ?_, ?_⟩
    · rw [prepare, run_bind_error hload, saying, List.append_nil]
    · rw [output?, madeOf, hread]
      rfl
  | ok bytes =>
    obtain ⟨ms, hprepare⟩ := exists_prepare_on console job path bytes
    refine ⟨_, ms, hprepare e hread, ?_⟩
    rw [output?, madeOf, hread]

/-- Compiling a file, step by step: its output is made, and written if there is one. -/
theorem turn_compiled (console : Console) (job : Job) (path : String) (e : Desk) :
    Turn job path e.disk ((compiled world console job path).run.run e).1
      ((compiled world console job path).run.run e).2.disk := by
  obtain ⟨r, ms, hprepare, hr⟩ := exists_prepare_eq console job path e
  cases r with
  | error failure =>
    -- nothing was made, so nothing is written
    have hfile : (compileFile world console job path).run.run e = (.error failure, e.saying ms) :=
      compileFile_eq_prepare ▸ run_bind_error hprepare
    rw [compiled_of_error hfile]
    exact ⟨fun h => absurd h failure.verdict_ne_true, fun _ _ => rfl, fun _ => .refl _⟩
  | ok f =>
    obtain ⟨machine, hmakes⟩ := output?_eq_some_iff_makes.1 hr.symm
    have hfile : (compileFile world console job path).run.run e =
        (writeOutput world job f).run.run (e.saying ms) :=
      compileFile_eq_prepare ▸ run_bind_ok hprepare
    cases hstored : stored? job e.disk f with
    | some d' =>
      obtain ⟨way, hlocate, hplace, rfl, hwrite⟩ := writeOutput_on hstored
      rw [compiled_of_ok (hfile.trans (hwrite (e.saying ms) rfl))]
      exact ⟨fun _ => ⟨machine, f, way, hmakes, hlocate,
        (grows_ready job e.disk).rewrites hplace f.content⟩, fun h => absurd rfl h,
        fun h => absurd rfl h⟩
    | none =>
      obtain ⟨x, e', hwrite, hgrows, hopens⟩ := writeOutput_of_none (e := e.saying ms) hstored
      rw [compiled_of_error (hfile.trans hwrite)]
      exact ⟨fun h => absurd h x.verdict_ne_true,
        fun _ hwritable => hopens (hwritable machine f hmakes), fun _ => hgrows⟩

/-! ## Files in turn -/

/-- The files were compiled one by one, up to the first one that crashed the command. -/
inductive InTurn (console : Console) (job : Job) : List String → Desk → Desk → Prop
  | done {e : Desk} : InTurn console job [] e e
  | next {path : String} {paths : List String} {e e₁ e' : Desk} {here : Bool} :
    (compiled world console job path).run.run e = (.ok here, e₁) →
    InTurn console job paths e₁ e' → InTurn console job (path :: paths) e e'
  | crash {path : String} {paths : List String} {e e' : Desk} {c : Crash} :
    (compiled world console job path).run.run e = (.error c, e') →
    InTurn console job (path :: paths) e e'

theorem inTurn_compileAll (console : Console) (job : Job) (paths : List String) (e : Desk) :
    InTurn console job paths e ((compileAll world console job paths).run.run e).2 := by
  induction paths generalizing e with
  | nil => exact .done
  | cons path paths ih =>
    -- the result is put together from the results, the desk is the last one
    rw [compileAll]
    rcases hrun : (compiled world console job path).run.run e with ⟨c | here, e₁⟩
    · rw [run_bind_error hrun]
      exact .crash hrun
    · rw [run_bind_ok hrun]
      refine .next hrun ?_
      have hrest := ih e₁
      rcases hall : (compileAll world console job paths).run.run e₁ with ⟨c | rest, e₂⟩
      · rw [run_bind_error hall]
        rwa [hall] at hrest
      · rw [run_bind_ok hall]
        rwa [hall] at hrest

/-- This is the output that one of the files has on the way, and the place it is written to. -/
def OutputOf (console : Console) (job : Job) (paths : List String) (e : Desk) (way : List String)
    (f : OutputFile) : Prop :=
  ∃ before path after e₁ machine, paths = before ++ path :: after ∧
    InTurn console job before e e₁ ∧ Makes job e₁.disk path machine f ∧
    (ready job e₁.disk).locate (pathOf job f) = .ok way

theorem OutputOf.cons {paths : List String} {e e₁ : Desk} {here : Bool} {way : List String}
    {f : OutputFile} (hrun : (compiled world console job path).run.run e = (.ok here, e₁))
    (h : OutputOf console job paths e₁ way f) : OutputOf console job (path :: paths) e way f := by
  obtain ⟨before, path', after, e₂, machine, rfl, hbefore, hmakes, hlocate⟩ := h
  exact ⟨path :: before, path', after, e₂, machine, rfl, .next hrun hbefore, hmakes, hlocate⟩

/-- However many files were compiled, every file holds what it held before or the output of one of
    them. -/
theorem InTurn.kept_or_output {paths : List String} {e e' : Desk}
    (h : InTurn console job paths e e') (way : List String) :
    e'.disk.file? way = e.disk.file? way ∨
      ∃ f, OutputOf console job paths e way f ∧
        e'.disk.file? way = some f.content.toUTF8.toList := by
  induction h with
  | done => exact .inl rfl
  | @next path paths e e₁ e' here hrun hrest ih =>
    have hturn := turn_compiled console job path e
    rw [hrun] at hturn
    -- a file that is not written later holds what it holds after this turn
    rcases ih with hkept | ⟨f, hf, hcontent⟩
    · rw [hkept]
      cases here with
      | false => exact .inl ((hturn.grows (by simp)).file?_eq way)
      | true =>
        obtain ⟨machine, f, way', hmakes, hlocate, hrewrites⟩ := hturn.written rfl
        by_cases hway : way = way'
        · subst hway
          exact .inr ⟨f, ⟨[], path, paths, e, machine, rfl, .done, hmakes, hlocate⟩,
            hrewrites.content⟩
        · exact .inl (hrewrites.others way hway)
    · exact .inr ⟨f, hf.cons hrun, hcontent⟩
  | @crash path paths e e' c hrun =>
    have hturn := turn_compiled console job path e
    rw [hrun] at hturn
    exact .inl ((hturn.grows (by simp)).file?_eq way)

end Compile

namespace Desk

open Compile

variable {d : Desk} {arguments : List String} {i : Invocation}

/-- An invocation that cannot be followed changes nothing. -/
theorem disk_invoke_of_unfit (hunfit : ∀ job, ¬Fits d.disk i job) :
    ((Compile.invoke world i).run.run d).2.disk = d.disk := by
  obtain ⟨ms, hannounced⟩ := exists_announced i
  obtain ⟨hreport, -⟩ := hannounced d
  have hkeeps := Keeps.settle (consoleFor i.verbosity) i (d.saying ms)
  rcases hsettle : (Compile.settle world (consoleFor i.verbosity) i).run.run (d.saying ms)
    with ⟨u | job, e⟩
  · rw [hsettle] at hkeeps
    have hrun : (Compile.invoke world i).run.run d = _ :=
      (run_bind_ok (run_lift hreport)).trans (run_bind_ok (run_lift hsettle))
    rw [hrun]
    -- at most a message follows
    cases u <;> exact hkeeps
  · have hfits := (gives_settle (consoleFor i.verbosity) i (d.saying ms) job).1 (by rw [hsettle])
    exact absurd hfits (hunfit job)

theorem command_eq_invoke (h : Usage.read arguments = .ok i) :
    d.command arguments = (Compile.invoke world i).run.run d := by
  rw [command, Compile.command, h]

/-- A command line that cannot be read, or asks for what cannot be followed, changes nothing. -/
theorem disk_command_of_unfit
    (h : ∀ i, Usage.read arguments = .ok i → ∀ job, ¬Fits d.disk i job) :
    (d.command arguments).2.disk = d.disk := by
  cases hread : Usage.read arguments with
  | ok i =>
    rw [command_eq_invoke hread]
    exact disk_invoke_of_unfit (h i hread)
  | error stop =>
    rw [command, Compile.command, hread]
    cases stop <;> rfl

/-- A job that fits the invocation is settled, and the files are compiled in turn. -/
theorem inTurn_command (hread : Usage.read arguments = .ok i) {job : Job}
    (hfits : Fits d.disk i job) : ∃ d₀, d₀.disk = d.disk ∧
      InTurn (consoleFor i.verbosity) job i.files d₀ (d.command arguments).2 := by
  obtain ⟨ms, hannounced⟩ := exists_announced i
  obtain ⟨-, hsettle⟩ := hannounced d
  have hjob := (gives_settle (consoleFor i.verbosity) i (d.saying ms) job).2 hfits
  rcases hd₀ : d.settle i with ⟨u, d₀⟩
  obtain rfl : u = .ok job := by rw [← hsettle, hd₀] at hjob; exact hjob
  refine ⟨d₀, disk_of_settle hd₀, ?_⟩
  have hinvoke : d.command arguments = d.invoke i i.files := command_eq_invoke hread
  rw [hinvoke, invoke_on hd₀]
  exact inTurn_compileAll ..

/-- Rejected input changes nothing.

    Where the command line cannot be read or the configuration is not accepted, the disk is as it
    was. Otherwise the files are compiled in turn, and at the end every file holds what it held
    before or the output of a machine without errors.

    Compiling a file, on whatever desk, gives the result that it is compiled only if it describes
    a machine without errors, and then writes what was generated or exported for the machine to
    one place. With any other result the disk is as it was, provided that outputs can be
    written. -/
theorem rejected_input_changes_nothing (d : Desk) (arguments : List String) :
    ((∀ i, Usage.read arguments = .ok i → ∀ job, ¬Fits d.disk i job) →
      (d.command arguments).2.disk = d.disk) ∧
    (∀ i job, Usage.read arguments = .ok i → Fits d.disk i job →
      ∃ d₀, d₀.disk = d.disk ∧
        InTurn (consoleFor i.verbosity) job i.files d₀ (d.command arguments).2 ∧
        ∀ way, (d.command arguments).2.disk.file? way = d.disk.file? way ∨
          ∃ f, OutputOf (consoleFor i.verbosity) job i.files d₀ way f ∧
            (d.command arguments).2.disk.file? way = some f.content.toUTF8.toList) ∧
    ∀ console job path e, Turn job path e.disk ((compiled world console job path).run.run e).1
      ((compiled world console job path).run.run e).2.disk := by
  refine ⟨disk_command_of_unfit, fun i job hread hfits => ?_, turn_compiled⟩
  obtain ⟨d₀, hd₀, hturns⟩ := inTurn_command hread hfits
  exact ⟨d₀, hd₀, hturns, fun way => hd₀ ▸ hturns.kept_or_output way⟩

/-- The bell is rejected for a target that has no generator. For one that has, it is compiled; the
    broken file beside it is not. -/
theorem only_bell_is_written :
    (∀ i, Usage.read ["good.json", "-t", "java"] = .ok i →
      ∀ job, ¬Fits (bellDesk [0x7b]).disk i job) ∧
    ((bellDesk [0x7b]).command ["good.json", "-t", "java"]).2.disk = (bellDesk [0x7b]).disk ∧
    Usage.read ["bad.json", "good.json"] = .ok bothFiles ∧
    Fits (bellDesk [0x7b]).disk bothFiles bellJob ∧
    (∃ f d₀, OutputOf (consoleFor 0) bellJob ["bad.json", "good.json"] d₀ ["good_sm.py"] f ∧
      ((bellDesk [0x7b]).command ["bad.json", "good.json"]).2.disk.file? ["good_sm.py"] =
        some f.content.toUTF8.toList) ∧
    ((compiled world (consoleFor 0) bellJob "bad.json").run.run (bellDesk [0x7b])).1 = .ok false ∧
    Writable bellJob (bellDesk [0x7b]).disk "bad.json" ∧
    ((compiled world (consoleFor 0) bellJob "bad.json").run.run (bellDesk [0x7b])).2.disk =
      (bellDesk [0x7b]).disk ∧
    ((compiled world (consoleFor 0) bellJob "good.json").run.run (bellDesk [0x7b])).1 = .ok true ∧
    ∃ machine f way, Makes bellJob (bellDesk [0x7b]).disk "good.json" machine f ∧
      (bellDesk [0x7b]).disk.Rewrites way f.content
        ((compiled world (consoleFor 0) bellJob "good.json").run.run (bellDesk [0x7b])).2.disk := by
  obtain ⟨hrejected, -, hturn⟩ :=
    rejected_input_changes_nothing (bellDesk [0x7b]) ["good.json", "-t", "java"]
  obtain ⟨-, haccepted, -⟩ :=
    rejected_input_changes_nothing (bellDesk [0x7b]) ["bad.json", "good.json"]
  -- no generator is there for the target that is read
  have hunfit : ∀ i, Usage.read ["good.json", "-t", "java"] = .ok i →
      ∀ job, ¬Fits (bellDesk [0x7b]).disk i job := by
    have hall : ((Usage.read ["good.json", "-t", "java"]).toOption.all fun i =>
        (targetOf i.target).toOption == some .java && !i.exporter.isSet) = true := by
      decide +kernel
    intro i hi job hfits
    have hjava : job.target = .java ∧ i.exporter.isSet = false := by
      simpa [hi, Except.toOption, hfits.target] using hall
    have hgenerator := (hfits.generated hjava.2).1
    rw [hjava.1] at hgenerator
    cases hgenerator
  have hboth : Usage.read ["bad.json", "good.json"] = .ok bothFiles := by
    with_unfolding_all rfl
  have hfits : Fits (bellDesk [0x7b]).disk bothFiles bellJob :=
    ⟨by with_unfolding_all rfl, ⟨Options.default, by with_unfolding_all rfl, rfl⟩,
      by with_unfolding_all rfl, fun h => absurd h (by decide), fun _ => ⟨rfl, rfl⟩⟩
  -- there is a file at the end that was not there before
  obtain ⟨d₀, -, -, hfiles⟩ := haccepted bothFiles bellJob hboth hfits
  have hnew : (((bellDesk [0x7b]).command ["bad.json", "good.json"]).2.disk.file?
      ["good_sm.py"]).isSome = true := by decide +kernel
  have hwritten := (hfiles ["good_sm.py"]).resolve_left fun hkept => by
    rw [hkept] at hnew
    cases hnew
  obtain ⟨f, hf, hcontent⟩ := hwritten
  have hwritable : Writable bellJob (bellDesk [0x7b]).disk "bad.json" := by
    have hnone : (output? bellJob (bellDesk [0x7b]).disk "bad.json").isNone = true := by
      decide +kernel
    intro machine f hmakes
    rw [output?_eq_some_iff_makes.2 ⟨machine, hmakes⟩] at hnone
    cases hnone
  have hbad : ((compiled world (consoleFor 0) bellJob "bad.json").run.run
      (bellDesk [0x7b])).1 = .ok false := toOption_eq_some.1 (by decide +kernel)
  have hgood : ((compiled world (consoleFor 0) bellJob "good.json").run.run
      (bellDesk [0x7b])).1 = .ok true := toOption_eq_some.1 (by decide +kernel)
  have hkept := (hturn (consoleFor 0) bellJob "bad.json" (bellDesk [0x7b])).unchanged
    (by simp [hbad]) hwritable
  obtain ⟨machine, g, way, hmakes, -, hrewrites⟩ :=
    (hturn (consoleFor 0) bellJob "good.json" (bellDesk [0x7b])).written hgood
  exact ⟨hunfit, hrejected hunfit, hboth, hfits, ⟨f, d₀, hf, hcontent⟩, hbad, hwritable, hkept,
    hgood, machine, g, way, hmakes, hrewrites⟩

end Desk
end StateMachine
