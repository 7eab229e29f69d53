import Mathlib.Data.List.Basic
import StateMachine.Proofs.Deeds

/-!
# File by file

The command compiles files one by one, and each should do what it does alone. It
does, unless it comes after a file that *crashes* the command: one that holds no
text, an integer with too many digits, values that are nested too deep, or a value
of a kind that is not expected where it stands (`Compile.Crashes`). Such a file ends
the command without an exit status, and the files after it are not looked at
(`files_are_compiled_as_alone`, `garbled_file_stops_bell`).

This is for outputs that can be written, each to a place of its own and none over
a file that is still to be read (`Compile.NeverFails`, `Compile.Apart`).
-/

namespace StateMachine

namespace Compile

open Desk

variable {console : Console} {job : Job} {path : String}

/-! ## Files one by one -/

/-- The files up to the first one that crashes the command. -/
def upToCrash (judged : String → Except Crash Bool) : List String → List String
  | [] => []
  | p :: ps =>
    match judged p with
    | .error _ => [p]
    | .ok _ => p :: upToCrash judged ps

/-- Whether all files are compiled. -/
def judgedAll (judged : String → Except Crash Bool) : List String → Except Crash Bool
  | [] => .ok true
  | p :: ps => do
    let here ← judged p
    let rest ← judgedAll judged ps
    return here && rest

/-- Writing the outputs, however many of them were written before, never fails. -/
def NeverFails (job : Job) (d : Disk) (outputs : List OutputFile) : Prop :=
  ∀ fs : List OutputFile, fs.Sublist outputs → (fs.foldlM (stored? job) d).isSome = true

theorem NeverFails.mono {d : Disk} {fs gs : List OutputFile} (h : NeverFails job d gs)
    (hsub : fs.Sublist gs) : NeverFails job d fs :=
  fun _ hes => h _ (hes.trans hsub)

theorem NeverFails.head {d : Disk} {f : OutputFile} {fs : List OutputFile}
    (h : NeverFails job d (f :: fs)) : (stored? job d f).isSome = true := by
  have := h [f] (by simp)
  rw [List.foldlM_cons] at this
  cases hstored : stored? job d f with
  | none =>
    rw [hstored] at this
    cases this
  | some d' => rfl

theorem NeverFails.tail {d d' : Disk} {f : OutputFile} {fs : List OutputFile}
    (h : NeverFails job d (f :: fs)) (hd' : stored? job d f = some d') : NeverFails job d' fs := by
  intro gs hgs
  have := h (f :: gs) (hgs.cons_cons f)
  rwa [List.foldlM_cons, hd'] at this

/-- One deed after the other. -/
def Deed.all (deeds : List Deed) : Deed :=
  deeds.foldr Deed.andThen {}

theorem Deed.all_singleton (a : Deed) : Deed.all [a] = a := by
  simp [Deed.all, Deed.andThen]

theorem Deed.leads_none (e : Desk) : Leads {} e e where
  messages := (List.append_nil _).symm
  output := (List.append_nil _).symm
  files _ := rfl
  directories := .refl _

/-- The output of a file is written elsewhere than the other file and its output. -/
def Apart (job : Job) (d : Disk) (p q : String) : Prop :=
  ∀ f way, output? job d p = some f → (ready job d).locate (pathOf job f) = .ok way →
    d.locate q ≠ .ok way ∧
      ∀ g, output? job d q = some g → (ready job d).locate (pathOf job g) ≠ .ok way

/-- A file that is kept apart is read as before. -/
theorem Deed.OfFile.read_eq {d : Disk} {p q : String} {deed : Deed} {e e' : Desk}
    (h : deed.OfFile console job d p) (hleads : deed.Leads e e') (hreached : Reached job d e)
    (hapart : Apart job d p q) {bytes : List UInt8} (hread : d.read q = .ok bytes)
    (hread' : e.disk.read q = d.read q) : e'.disk.read q = d.read q := by
  obtain ⟨way, hlocate, -⟩ := Disk.find_eq_file.1 (Disk.read_eq_ok.1 hread)
  rw [hread]
  refine hleads.read (hread'.trans hread) fun way' hlocate' => ?_
  rw [hreached.directories.locate hlocate] at hlocate'
  cases hlocate'
  rw [List.lookup_eq_none_iff]
  rintro ⟨way', content⟩ hfile
  obtain ⟨f, hf, hplace⟩ := h.files way' content hfile
  refine bne_iff_ne.2 ?_
  rintro rfl
  exact (hapart f _ hf hplace).1 hlocate

/-- Compiling files does what each of them does, up to the first one that crashes. -/
theorem compileAll_leads {d : Disk} {deedOf : String → Deed} {ps : List String} {e : Desk}
    (hdeeds : ∀ p ∈ ps, (deedOf p).OfFile console job d p) (hreached : Reached job d e)
    (hread : ∀ p ∈ ps, ∃ bytes, d.read p = .ok bytes) (hsame : ∀ p ∈ ps, e.disk.read p = d.read p)
    (hwrites : NeverFails job e.disk (ps.filterMap (output? job d)))
    (hapart : ps.Pairwise (Apart job d)) :
    ∃ e', (compileAll world console job ps).run.run e =
        (judgedAll (fun p => verdict (madeOf job d p)) ps, e') ∧
      (Deed.all ((upToCrash (fun p => verdict (madeOf job d p)) ps).map deedOf)).Leads e e' := by
  induction ps generalizing e with
  | nil => exact ⟨e, rfl, Deed.leads_none e⟩
  | cons p ps ih =>
    rw [List.pairwise_cons] at hapart
    have hp := hdeeds p List.mem_cons_self
    have hstored : ∀ f, output? job d p = some f → (stored? job e.disk f).isSome = true := by
      intro f hf
      rw [List.filterMap_cons_some hf] at hwrites
      exact hwrites.head
    obtain ⟨e₁, hrun, hleads, hreached', hdisk⟩ :=
      hp.leads e hreached (hsame p List.mem_cons_self) hstored
    -- what is left to be written can be written wherever this file led
    have hwrites' : NeverFails job e₁.disk (ps.filterMap (output? job d)) := by
      cases houtput : output? job d p with
      | none =>
        rw [houtput] at hdisk
        rw [List.filterMap_cons_none houtput] at hwrites
        rwa [hdisk]
      | some f =>
        rw [houtput] at hdisk
        rw [List.filterMap_cons_some houtput] at hwrites
        exact hwrites.tail hdisk
    rw [compileAll, judgedAll, upToCrash]
    cases hjudged : verdict (madeOf job d p) with
    | error c =>
      -- the files after one that crashes are not looked at
      rw [hjudged] at hrun
      refine ⟨e₁, run_bind_error hrun, ?_⟩
      exact hleads.andThen (Deed.leads_none e₁)
    | ok here =>
      rw [hjudged] at hrun
      have hsame' : ∀ q ∈ ps, e₁.disk.read q = d.read q := by
        intro q hq
        obtain ⟨bytes, hbytes⟩ := hread q (List.mem_cons_of_mem p hq)
        exact hp.read_eq hleads hreached (hapart.1 q hq) hbytes
          (hsame q (List.mem_cons_of_mem p hq))
      obtain ⟨e₂, hrest, hleads'⟩ := ih (fun q hq => hdeeds q (List.mem_cons_of_mem p hq)) hreached'
        (fun q hq => hread q (List.mem_cons_of_mem p hq)) hsame' hwrites' hapart.2
      refine ⟨e₂, ?_, hleads.andThen hleads'⟩
      rw [run_bind_ok hrun]
      cases hall : judgedAll (fun p => verdict (madeOf job d p)) ps with
      | error c =>
        rw [hall] at hrest
        exact run_bind_error hrest
      | ok rest =>
        rw [hall] at hrest
        exact run_bind_ok hrest

/-! ## Settling the job -/

/-- The action leaves the disk as it is. -/
def Keeps {ε α : Type} (x : ExceptT ε (StateM Desk) α) : Prop :=
  ∀ e, (x.run.run e).2.disk = e.disk

namespace Keeps

variable {ε δ α β : Type}

theorem of_saying {x : ExceptT ε (StateM Desk) α} {r : Except ε α} (h : Says x r) : Keeps x := by
  obtain ⟨ms, h⟩ := h
  intro e
  rw [h e]
  rfl

theorem bind {x : ExceptT ε (StateM Desk) α} {k : α → ExceptT ε (StateM Desk) β} (hx : Keeps x)
    (hk : ∀ a, Keeps (k a)) : Keeps (x >>= k) := by
  intro e
  have hdisk := hx e
  rcases hrun : x.run.run e with ⟨f | a, e₁⟩
  · rw [run_bind_error hrun]
    rwa [hrun] at hdisk
  · rw [run_bind_ok hrun, hk a e₁]
    rwa [hrun] at hdisk

theorem adapt (f : ε → δ) {x : ExceptT ε (StateM Desk) α} (hx : Keeps x) :
    Keeps (ExceptT.adapt f x) := by
  intro e
  exact hx e

/-- Options are read from a file, if at all, and nothing is written. -/
theorem baseOptions (file : Value) : Keeps (baseOptions world file) := by
  rw [baseOptions.eq_def]
  split
  · split
    · exact .of_saying (.pure _)
    · split
      · exact .of_saying (.throw _)
      · refine .bind (fun e => rfl) fun r => ?_
        split
        · exact .of_saying (.throw _)
        · split
          · exact .of_saying (.pure _)
          · exact .of_saying (.throw _)
  · exact .of_saying (.pure _)

theorem optionsOf (i : Invocation) : Keeps (optionsOf world i) := by
  rw [Compile.optionsOf]
  refine .bind (baseOptions i.optionsFile) fun base => ?_
  cases i.options base with
  | error e => exact .of_saying (.throw _)
  | ok o => exact .of_saying (.pure o)

theorem exporterOf (console : Console) (v : Value) (target : Target) :
    Keeps (exporterOf world console v target) := by
  rw [Compile.exporterOf]
  split
  · refine .bind (.of_saying (.lift (.reportAll _ _))) fun _ => ?_
    split
    · exact .of_saying (.pure _)
    · exact .of_saying (.throw _)
  · split
    · exact .of_saying (.throw _)
    · exact .of_saying (.pure _)

theorem settle (console : Console) (i : Invocation) : Keeps (settle world console i) := by
  rw [Compile.settle]
  refine .bind ?_ fun target => .bind (.adapt _ (optionsOf i)) fun options => ?_
  · cases targetOf i.target with
    | error e => exact .of_saying (.throw e)
    | ok t => exact .of_saying (.pure t)
  · have hexporter : Keeps (do
        let exporter ← Compile.exporterOf world console i.exporter target
        return ⟨target, options, exporter⟩ : ExceptT Unsettled (StateM Desk) Job) :=
      .bind (exporterOf console i.exporter target) fun exporter => .of_saying (.pure _)
    cases options.check target with
    | error e => exact .bind (.of_saying (.throw _)) fun _ => hexporter
    | ok _ => exact .bind (.of_saying (.lift (.report _ _))) fun _ => hexporter

end Keeps

end Compile

namespace Desk

open Compile

/-- Settles the job that an invocation asks for. -/
def settle (d : Desk) (i : Invocation) : Except Unsettled Job × Desk :=
  (do
    world.report (consoleFor i.verbosity) (consoleFor i.verbosity).announcement
    (Compile.settle world (consoleFor i.verbosity) i).run : StateM Desk _).run d

/-- Does what an invocation asks for, but with these files. -/
def invoke (d : Desk) (i : Invocation) (files : List String) : Except Crash Nat × Desk :=
  (Compile.invoke world { i with files := files }).run.run d

/-- The exit status. -/
def status (ok : Bool) : Nat :=
  if ok then 0 else 1

variable {d d₀ : Desk} {i : Invocation} {job : Job}

/-- The job is settled on the desk with the first message. -/
theorem exists_announced (i : Invocation) : ∃ ms, ∀ d : Desk,
    (world.report (consoleFor i.verbosity) (consoleFor i.verbosity).announcement).run d =
      ((), d.saying ms) ∧
    d.settle i = (Compile.settle world (consoleFor i.verbosity) i).run.run (d.saying ms) := by
  obtain ⟨ms, hreport⟩ :=
    Speaks.report (consoleFor i.verbosity) (consoleFor i.verbosity).announcement
  refine ⟨ms, fun d => ⟨hreport d, ?_⟩⟩
  rw [settle, StateT.run_bind, hreport]
  rfl

theorem disk_of_settle (h : d.settle i = (.ok job, d₀)) : d₀.disk = d.disk := by
  obtain ⟨ms, hannounced⟩ := exists_announced i
  have hdisk := Keeps.settle (consoleFor i.verbosity) i (d.saying ms)
  rwa [← (hannounced d).2, h] at hdisk

/-- Once the job is settled, the files are compiled. -/
theorem invoke_on (h : d.settle i = (.ok job, d₀)) (files : List String) :
    d.invoke i files =
      (((compileAll world (consoleFor i.verbosity) job files).run.run d₀).1.map status,
        ((compileAll world (consoleFor i.verbosity) job files).run.run d₀).2) := by
  obtain ⟨ms, hannounced⟩ := exists_announced i
  obtain ⟨hreport, hsettle⟩ := hannounced d
  rw [hsettle] at h
  refine (run_bind_ok (run_lift hreport)).trans ((run_bind_ok (run_lift h)).trans ?_)
  rcases hrun : (compileAll world (consoleFor i.verbosity) job files).run.run d₀ with ⟨c | ok, e⟩
  · exact run_bind_error hrun
  · exact run_bind_ok hrun

/-- Where the files were compiled on a desk, each did what it does alone: the messages and lines
    are those it prints alone, and the files are changed that it changes alone, as it changes
    them. -/
structure AsAlone (d : Desk) (alone : String → Desk) (files : List String) (e : Desk) : Prop where
  messages : e.messages =
    d.messages ++ files.flatMap fun p => (alone p).messages.drop d.messages.length
  output : e.output = d.output ++ files.flatMap fun p => (alone p).output.drop d.output.length
  written : ∀ p ∈ files, ∀ way, (alone p).disk.file? way ≠ d.disk.file? way →
    e.disk.file? way = (alone p).disk.file? way
  unwritten : ∀ way, (∀ p ∈ files, (alone p).disk.file? way = d.disk.file? way) →
    e.disk.file? way = d.disk.file? way

theorem messages_all (deeds : List Deed) :
    (Deed.all deeds).messages = deeds.flatMap Deed.messages := by
  induction deeds with
  | nil => rfl
  | cons a deeds ih =>
    rw [List.flatMap_cons, ← ih]
    rfl

theorem output_all (deeds : List Deed) : (Deed.all deeds).output = deeds.flatMap Deed.output := by
  induction deeds with
  | nil => rfl
  | cons a deeds ih =>
    rw [List.flatMap_cons, ← ih]
    rfl

theorem lookup_all_cons (a : Deed) (deeds : List Deed) (way : List String) :
    (Deed.all (a :: deeds)).files.lookup way =
      ((Deed.all deeds).files.lookup way).or (a.files.lookup way) :=
  List.lookup_append

theorem mem_of_lookup {files : List (List String × List UInt8)} {way : List String}
    {content : List UInt8} (h : files.lookup way = some content) : (way, content) ∈ files := by
  obtain ⟨before, after, rfl, -⟩ := List.lookup_eq_some_iff.1 h
  simp

/-- A file that was written was written by one of the deeds. -/
theorem exists_of_lookup_all {deeds : List Deed} {way : List String} {content : List UInt8}
    (h : (Deed.all deeds).files.lookup way = some content) :
    ∃ a ∈ deeds, a.files.lookup way = some content := by
  induction deeds with
  | nil => cases h
  | cons a deeds ih =>
    rw [lookup_all_cons] at h
    rcases Option.or_eq_some_iff.1 h with h | ⟨-, h⟩
    · obtain ⟨b, hb, hfile⟩ := ih h
      exact ⟨b, List.mem_cons_of_mem a hb, hfile⟩
    · exact ⟨a, List.mem_cons_self, h⟩

/-- Where no two deeds write to one place, all that was written is there. -/
theorem lookup_all_of_mem {deeds : List Deed} (hapart : deeds.Pairwise fun a b => ∀ way content,
      a.files.lookup way = some content → b.files.lookup way = none)
    {a : Deed} (ha : a ∈ deeds) {way : List String} {content : List UInt8}
    (hfile : a.files.lookup way = some content) :
    (Deed.all deeds).files.lookup way = some content := by
  induction deeds with
  | nil => cases ha
  | cons b deeds ih =>
    rw [List.pairwise_cons] at hapart
    rw [lookup_all_cons]
    rcases List.mem_cons.1 ha with rfl | ha
    · -- no later deed writes over it
      have hlater : (Deed.all deeds).files.lookup way = none := by
        rw [Option.eq_none_iff_forall_ne_some]
        intro content' h
        obtain ⟨c, hc, hfile'⟩ := exists_of_lookup_all h
        rw [hapart.1 c hc way content hfile] at hfile'
        cases hfile'
      rw [hlater, hfile]
      rfl
    · rw [ih hapart.2 ha]
      rfl

/-- Deeds that are done one after the other, and each of which is done alone. -/
theorem asAlone_of_leads {alone : String → Desk} {deedOf : String → Deed} {ps : List String}
    {e : Desk} (hleads : (Deed.all (ps.map deedOf)).Leads d e)
    (halone : ∀ p ∈ ps, (deedOf p).Leads d (alone p))
    (hapart : ps.Pairwise fun p q => ∀ way content,
      (deedOf p).files.lookup way = some content → (deedOf q).files.lookup way = none) :
    AsAlone d alone ps e where
  messages := by
    rw [hleads.messages, messages_all, List.flatMap_map]
    congr 1
    refine List.flatMap_congr fun p hp => ?_
    rw [(halone p hp).messages, List.drop_left]
  output := by
    rw [hleads.output, output_all, List.flatMap_map]
    congr 1
    refine List.flatMap_congr fun p hp => ?_
    rw [(halone p hp).output, List.drop_left]
  written p hp way hchanged := by
    rw [(halone p hp).files] at hchanged ⊢
    cases hfile : (deedOf p).files.lookup way with
    | none =>
      rw [hfile] at hchanged
      exact absurd rfl hchanged
    | some content =>
      rw [hleads.files,
        lookup_all_of_mem (List.pairwise_map.2 hapart) (List.mem_map_of_mem hp) hfile]
  unwritten way hunchanged := by
    rw [hleads.files]
    cases hfile : (Deed.all (ps.map deedOf)).files.lookup way with
    | none => rfl
    | some content =>
      obtain ⟨_, ha, hfile⟩ := exists_of_lookup_all hfile
      obtain ⟨p, hp, rfl⟩ := List.mem_map.1 ha
      have := hunchanged p hp
      rwa [(halone p hp).files, hfile] at this

/-! ## The command -/

theorem upToCrash_eq_self {judged : String → Except Crash Bool} {ps : List String}
    (h : ∀ p ∈ ps, ∀ c, judged p ≠ .error c) : upToCrash judged ps = ps := by
  induction ps with
  | nil => rfl
  | cons p ps ih =>
    rw [upToCrash]
    split
    · next c hc => exact absurd hc (h p List.mem_cons_self c)
    · rw [ih fun q hq => h q (List.mem_cons_of_mem p hq)]

theorem judgedAll_eq_ok {judged : String → Except Crash Bool} {ps : List String}
    (h : ∀ p ∈ ps, ∀ c, judged p ≠ .error c) :
    ∃ ok, judgedAll judged ps = .ok ok ∧ (ok = true ↔ ∀ p ∈ ps, judged p = .ok true) := by
  induction ps with
  | nil => exact ⟨true, rfl, by simp⟩
  | cons p ps ih =>
    obtain ⟨ok, hall, hok⟩ := ih fun q hq => h q (List.mem_cons_of_mem p hq)
    rw [judgedAll, hall]
    cases hp : judged p with
    | error c => exact absurd hp (h p List.mem_cons_self c)
    | ok here =>
      refine ⟨here && ok, rfl, ?_⟩
      simp [hok, hp]

theorem judgedAll_eq_error {judged : String → Except Crash Bool} {before : List String}
    {p : String} {c : Crash} (h : ∀ q ∈ before, ∀ c, judged q ≠ .error c)
    (hp : judged p = .error c) (after : List String) :
    judgedAll judged (before ++ p :: after) = .error c ∧
      upToCrash judged (before ++ p :: after) = before ++ [p] := by
  induction before with
  | nil => simp [judgedAll, upToCrash, hp, Bind.bind, Except.bind]
  | cons q before ih =>
    obtain ⟨hall, hup⟩ := ih fun r hr => h r (List.mem_cons_of_mem q hr)
    rw [List.cons_append, judgedAll, upToCrash, hall, hup]
    cases hq : judged q with
    | error c => exact absurd hq (h q List.mem_cons_self c)
    | ok here => exact ⟨rfl, rfl⟩

theorem judgedAll_singleton (judged : String → Except Crash Bool) (p : String) :
    judgedAll judged [p] = judged p := by
  rw [judgedAll, judgedAll]
  cases judged p with
  | error c => rfl
  | ok here => exact congrArg Except.ok (Bool.and_true here)

theorem upToCrash_singleton (judged : String → Except Crash Bool) (p : String) :
    upToCrash judged [p] = [p] := by
  rw [upToCrash, upToCrash]
  split <;> rfl

theorem verdict_eq_error {r : Except Failure OutputFile} {c : Crash} :
    verdict r = .error c ↔ r = .error (.crash c) := by
  rcases r with (_ | _ | _) | _ <;> simp [verdict, Failure.verdict]

theorem verdict_eq_true {r : Except Failure OutputFile} :
    verdict r = .ok true ↔ r.toOption.isSome = true := by
  rcases r with (_ | _ | _) | _ <;> simp [verdict, Failure.verdict, Except.toOption]

section Files

variable (hsettle : d.settle i = (.ok job, d₀))
  (hread : ∀ p ∈ i.files, ∃ bytes, d.disk.read p = .ok bytes)
  (hwrites : NeverFails job d.disk (i.files.filterMap (output? job d.disk)))
  (hapart : i.files.Pairwise (Apart job d.disk))

include hsettle hread hwrites hapart

/-- Every file has its deed, which it does alone; together they do their deeds one after the
    other, up to the first file that crashes. -/
theorem exists_deeds : ∃ deedOf : String → Deed,
    (i.files.Pairwise fun p q => ∀ way content,
      (deedOf p).files.lookup way = some content → (deedOf q).files.lookup way = none) ∧
    (∀ p ∈ i.files, (d.invoke i [p]).1 = (verdict (madeOf job d.disk p)).map status ∧
      (deedOf p).Leads d₀ (d.invoke i [p]).2) ∧
    (d.invoke i i.files).1 =
      (judgedAll (fun p => verdict (madeOf job d.disk p)) i.files).map status ∧
    (Deed.all ((upToCrash (fun p => verdict (madeOf job d.disk p)) i.files).map deedOf)).Leads d₀
      (d.invoke i i.files).2 := by
  have hdisk := disk_of_settle hsettle
  have hdeed : ∀ p, ∃ deed : Deed, p ∈ i.files →
      deed.OfFile (consoleFor i.verbosity) job d.disk p := by
    intro p
    by_cases hp : p ∈ i.files
    · obtain ⟨bytes, hbytes⟩ := hread p hp
      obtain ⟨deed, hdeed⟩ := exists_deed (consoleFor i.verbosity) job hbytes fun f hf =>
        (hwrites.mono (List.singleton_sublist.2 (List.mem_filterMap.2 ⟨p, hp, hf⟩))).head
      exact ⟨deed, fun _ => hdeed⟩
    · exact ⟨{}, fun h => absurd h hp⟩
  obtain ⟨deedOf, hdeeds⟩ := Classical.skolem.1 hdeed
  -- some of the files meet the same conditions as all of them; a file alone is one such choice
  have hinvoke : ∀ ps : List String, ps.Sublist i.files →
      (d.invoke i ps).1 = (judgedAll (fun p => verdict (madeOf job d.disk p)) ps).map status ∧
      (Deed.all ((upToCrash (fun p => verdict (madeOf job d.disk p)) ps).map deedOf)).Leads d₀
        (d.invoke i ps).2 := by
    intro ps hps
    obtain ⟨e, hrun, hleads⟩ := compileAll_leads (e := d₀)
      (fun p hp => hdeeds p (hps.subset hp)) (hdisk ▸ Reached.here job d₀)
      (fun p hp => hread p (hps.subset hp)) (fun p _ => by rw [hdisk])
      (by rw [hdisk]; exact hwrites.mono (hps.filterMap _)) (hapart.sublist hps)
    rw [invoke_on hsettle, hrun]
    exact ⟨rfl, hleads⟩
  refine ⟨deedOf, hapart.imp_of_mem fun {p q} hp hq hpq way content hfile => ?_, fun p hp => ?_,
    hinvoke i.files (.refl _)⟩
  · -- two outputs would be written to one place
    obtain ⟨f, hf, hplace⟩ := (hdeeds p hp).files way content (mem_of_lookup hfile)
    rw [Option.eq_none_iff_forall_ne_some]
    intro content' hfile'
    obtain ⟨g, hg, hplace'⟩ := (hdeeds q hq).files way content' (mem_of_lookup hfile')
    exact (hpq f way hf hplace).2 g hg hplace'
  · obtain ⟨hstatus, hleads⟩ := hinvoke [p] (List.singleton_sublist.2 hp)
    rw [judgedAll_singleton] at hstatus
    rw [upToCrash_singleton, List.map_singleton, Deed.all_singleton] at hleads
    exact ⟨hstatus, hleads⟩

end Files

/-- Files that are there are compiled one by one, provided that writing their outputs never fails
    and no output is written over another one or over a file that is still to be read.

    A file alone ends the command with status zero exactly if it has an output, and crashes it
    exactly if it holds no text, too long an integer, values that are nested too deep, or a value
    of a kind that is not expected.
    Where no file does so alone, each file does what it does alone, and the status is zero
    exactly if each gives zero alone. The first file that crashes the command alone crashes it
    among others, too: files before it do what they do alone, and those after it nothing. -/
theorem files_are_compiled_as_alone (d : Desk) (i : Invocation) {job : Job} {d₀ : Desk}
    (hsettle : d.settle i = (.ok job, d₀))
    (hread : ∀ p ∈ i.files, ∃ bytes, d.disk.read p = .ok bytes)
    (hwrites : NeverFails job d.disk (i.files.filterMap (output? job d.disk)))
    (hapart : i.files.Pairwise (Apart job d.disk)) :
    (∀ p ∈ i.files, ((d.invoke i [p]).1 = .ok 0 ↔ (output? job d.disk p).isSome = true) ∧
      ∀ bytes, d.disk.read p = .ok bytes →
        ∀ c, (d.invoke i [p]).1 = .error c ↔ Crashes job p bytes c) ∧
    ((∀ p ∈ i.files, ∀ c, (d.invoke i [p]).1 ≠ .error c) →
      (∃ n, (d.invoke i i.files).1 = .ok n ∧ (n = 0 ∨ n = 1) ∧
        (n = 0 ↔ ∀ p ∈ i.files, (d.invoke i [p]).1 = .ok 0)) ∧
      AsAlone d₀ (fun p => (d.invoke i [p]).2) i.files (d.invoke i i.files).2) ∧
    ∀ before p after c, i.files = before ++ p :: after →
      (∀ q ∈ before, ∀ c, (d.invoke i [q]).1 ≠ .error c) → (d.invoke i [p]).1 = .error c →
      (d.invoke i i.files).1 = .error c ∧
        AsAlone d₀ (fun p => (d.invoke i [p]).2) (before ++ [p]) (d.invoke i i.files).2 := by
  obtain ⟨deedOf, hpairwise, halone, hstatus, hleads⟩ := exists_deeds hsettle hread hwrites hapart
  have hcrash : ∀ p ∈ i.files, ∀ c, (d.invoke i [p]).1 = .error c ↔
      verdict (madeOf job d.disk p) = .error c := by
    intro p hp c
    rw [(halone p hp).1]
    cases verdict (madeOf job d.disk p) <;> simp [Except.map]
  have hzero : ∀ p ∈ i.files, (d.invoke i [p]).1 = .ok 0 ↔
      verdict (madeOf job d.disk p) = .ok true := by
    intro p hp
    rw [(halone p hp).1]
    rcases verdict (madeOf job d.disk p) with c | _ | _ <;> simp [Except.map, status]
  refine ⟨fun p hp => ⟨(hzero p hp).trans verdict_eq_true, fun bytes hbytes c => ?_⟩,
    fun hnone => ?_, fun before p after c hfiles hbefore hp => ?_⟩
  · rw [hcrash p hp, verdict_eq_error, madeOf, hbytes]
    exact prepared_eq_crash_iff
  · have hnone : ∀ p ∈ i.files, ∀ c, verdict (madeOf job d.disk p) ≠ .error c :=
      fun p hp c hc => hnone p hp c ((hcrash p hp c).2 hc)
    rw [upToCrash_eq_self hnone] at hleads
    obtain ⟨ok, hok, hall⟩ := judgedAll_eq_ok hnone
    rw [hok] at hstatus
    refine ⟨⟨status ok, hstatus, by cases ok <;> simp [status], ?_⟩,
      asAlone_of_leads hleads (fun p hp => (halone p hp).2) hpairwise⟩
    rw [show status ok = 0 ↔ ok = true by cases ok <;> simp [status], hall]
    exact forall₂_congr fun p hp => (hzero p hp).symm
  · have hsub : (before ++ [p]).Sublist i.files := by
      rw [hfiles]
      simp
    have hmem : ∀ q ∈ before ++ [p], q ∈ i.files := fun q hq => hsub.subset hq
    have hbefore : ∀ q ∈ before, ∀ c, verdict (madeOf job d.disk q) ≠ .error c :=
      fun q hq c hc => hbefore q hq c ((hcrash q (hmem q (by simp [hq])) c).2 hc)
    obtain ⟨hall, hup⟩ := judgedAll_eq_error hbefore ((hcrash p (hmem p (by simp)) c).1 hp) after
    rw [← hfiles] at hall hup
    rw [hall] at hstatus
    rw [hup] at hleads
    exact ⟨hstatus, asAlone_of_leads hleads (fun q hq => (halone q (hmem q hq)).2)
      (hpairwise.sublist hsub)⟩

/-- The description of a bell, as it is written in a file. -/
def bellText : String :=
  "\x7b\"class\": \"Bell\", \"start\": \"Tower::Still\", \"maps\": [\x7b" ++
    "\"name\": \"Tower\", \"states\": [\x7b\"name\": \"Still\"\x7d]\x7d]\x7d"

/-- A desk with a file of this content, and one that describes a bell. -/
def bellDesk (content : List UInt8) : Desk where
  disk := (({} : Disk).addFile "bad.json" content).addFile "good.json" bellText.toUTF8.toList

/-- The command is to compile both files. -/
def bothFiles : Invocation where
  files := ["bad.json", "good.json"]

/-- The job it settles. -/
def bellJob : Job := ⟨.python, Options.default, none⟩

/-- The desk can be worked on: both files are there, and the output of the second can be written
    if the first has none. -/
theorem bellDesk_ready (content : List UInt8)
    (hbad : (output? bellJob (bellDesk content).disk "bad.json").isNone = true)
    (hgood : (output? bellJob (bellDesk content).disk "good.json").map
      (fun f => (stored? bellJob (bellDesk content).disk f).isSome) = some true) :
    (bellDesk content).settle bothFiles = (.ok bellJob, bellDesk content) ∧
      (∀ p ∈ bothFiles.files, ∃ bytes, (bellDesk content).disk.read p = .ok bytes) ∧
      NeverFails bellJob (bellDesk content).disk
        (bothFiles.files.filterMap (output? bellJob (bellDesk content).disk)) ∧
      bothFiles.files.Pairwise (Apart bellJob (bellDesk content).disk) := by
  have hbad := Option.isNone_iff_eq_none.1 hbad
  obtain ⟨f, hf, hstored⟩ := Option.map_eq_some_iff.1 hgood
  refine ⟨by with_unfolding_all rfl, ?_, ?_, ?_⟩
  · intro p hp
    rcases List.mem_pair.1 hp with rfl | rfl
    · exact ⟨content, rfl⟩
    · exact ⟨bellText.toUTF8.toList, rfl⟩
  · have houtputs : bothFiles.files.filterMap (output? bellJob (bellDesk content).disk) = [f] := by
      rw [bothFiles, List.filterMap_cons_none hbad, List.filterMap_cons_some hf, List.filterMap_nil]
    rw [houtputs]
    intro fs hfs
    rcases List.sublist_singleton.1 hfs with rfl | rfl
    · rfl
    · obtain ⟨d', hd'⟩ := Option.isSome_iff_exists.1 hstored
      rw [List.foldlM_cons, hd']
      rfl
  · refine List.pairwise_pair.2 ?_
    intro f way hf
    rw [hbad] at hf
    cases hf

/-- A file that is no document does not keep the bell from being compiled. -/
theorem broken_file_spares_bell :
    (bellDesk [0x7b]).settle bothFiles = (.ok bellJob, bellDesk [0x7b]) ∧
      (∀ p ∈ bothFiles.files, ∃ bytes, (bellDesk [0x7b]).disk.read p = .ok bytes) ∧
      NeverFails bellJob (bellDesk [0x7b]).disk
        (bothFiles.files.filterMap (output? bellJob (bellDesk [0x7b]).disk)) ∧
      bothFiles.files.Pairwise (Apart bellJob (bellDesk [0x7b]).disk) ∧
      ((bellDesk [0x7b]).invoke bothFiles ["good.json"]).1 = .ok 0 ∧
      ((bellDesk [0x7b]).invoke bothFiles bothFiles.files).1 = .ok 1 ∧
      AsAlone (bellDesk [0x7b]) (fun p => ((bellDesk [0x7b]).invoke bothFiles [p]).2)
        bothFiles.files ((bellDesk [0x7b]).invoke bothFiles bothFiles.files).2 := by
  have hgood : (output? bellJob (bellDesk [0x7b]).disk "good.json").map
      (fun f => (stored? bellJob (bellDesk [0x7b]).disk f).isSome) = some true := by decide +kernel
  have hbad : (output? bellJob (bellDesk [0x7b]).disk "bad.json").isNone = true := by decide +kernel
  obtain ⟨hsettle, hread, hwrites, hapart⟩ := bellDesk_ready [0x7b] hbad hgood
  obtain ⟨halone, hall, -⟩ := files_are_compiled_as_alone (bellDesk [0x7b]) bothFiles hsettle hread
    hwrites hapart
  have hbell : ((bellDesk [0x7b]).invoke bothFiles ["good.json"]).1 = .ok 0 := by
    obtain ⟨f, hf, -⟩ := Option.map_eq_some_iff.1 hgood
    exact (halone "good.json" (by simp [bothFiles])).1.2 (by rw [hf]; rfl)
  have hbroken : ((bellDesk [0x7b]).invoke bothFiles ["bad.json"]).1.toOption = some 1 := by
    decide +kernel
  obtain ⟨⟨n, hn, hzeroOne, hzero⟩, hasAlone⟩ := hall (by
    intro p hp c hc
    rcases List.mem_pair.1 hp with rfl | rfl
    · rw [hc] at hbroken
      cases hbroken
    · rw [hbell] at hc
      cases hc)
  have hone : n = 1 := by
    refine hzeroOne.resolve_left fun h => ?_
    rw [hzero.1 h "bad.json" (by simp [bothFiles])] at hbroken
    cases hbroken
  exact ⟨hsettle, hread, hwrites, hapart, hbell, hone ▸ hn, hasAlone⟩

/-- What a crash says. -/
def crashMessage? : Except Crash Nat → Option String
  | .ok _ => none
  | .error c => some c.message

/-- A file that holds no text does keep it: the command crashes and writes nothing for the bell,
    which is compiled when it is alone. -/
theorem garbled_file_stops_bell :
    (bellDesk [0xff]).settle bothFiles = (.ok bellJob, bellDesk [0xff]) ∧
      (∀ p ∈ bothFiles.files, ∃ bytes, (bellDesk [0xff]).disk.read p = .ok bytes) ∧
      NeverFails bellJob (bellDesk [0xff]).disk
        (bothFiles.files.filterMap (output? bellJob (bellDesk [0xff]).disk)) ∧
      bothFiles.files.Pairwise (Apart bellJob (bellDesk [0xff]).disk) ∧
      ((bellDesk [0xff]).invoke bothFiles ["good.json"]).1.toOption = some 0 ∧
      (((bellDesk [0xff]).invoke bothFiles ["good.json"]).2.disk.file?
        ["good_sm.py"]).isSome = true ∧
      crashMessage? ((bellDesk [0xff]).invoke bothFiles bothFiles.files).1 =
        some "'utf-8' codec can't decode byte 0xff in position 0: invalid start byte" ∧
      ((bellDesk [0xff]).invoke bothFiles bothFiles.files).2.disk.file? ["good_sm.py"] = none := by
  obtain ⟨hsettle, hread, hwrites, hapart⟩ := bellDesk_ready [0xff] (by decide +kernel)
    (by decide +kernel)
  exact ⟨hsettle, hread, hwrites, hapart, by decide +kernel, by decide +kernel, by decide +kernel,
    by decide +kernel⟩

end Desk
end StateMachine
