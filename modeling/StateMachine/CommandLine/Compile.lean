import StateMachine.CommandLine.Disk
import StateMachine.CommandLine.Usage
import StateMachine.Export.Exporter
import StateMachine.Generate.File
import StateMachine.Load.Description
import StateMachine.Semantics.Validate

/-!
# Compiling files

What the command does with the files it is given. The target, the options and
the exporter are settled first; a fault in them ends the command. Each file is
then read, checked and, if it is valid, compiled or exported; a file that fails
does not keep the others from being compiled. The exit status tells whether
anything failed.

The command works on a *world*: the files, the two streams it prints to, and
the time in front of log records. `Desk` is a world made of values.
-/

namespace StateMachine

/-- The world a command works on. -/
structure World (m : Type → Type) where
  /-- Is there a file at a path? -/
  isFile : String → m Bool
  /-- The bytes of a file. -/
  read : String → m (Except FileError (List UInt8))
  /-- Makes a directory and those above it. -/
  makeDirectories : String → m (Except FileError Unit)
  /-- Writes a text to a file. -/
  write : String → String → m (Except FileError Unit)
  /-- Prints a line. -/
  print : String → m Unit
  /-- Prints to the stream for messages. -/
  complain : String → m Unit
  /-- The time, as log records show it. -/
  time : m String

namespace World

variable {m : Type → Type} [Monad m]

/-- Prints an error. -/
def sayError (w : World m) (message : String) : m Unit :=
  w.complain ("Error: " ++ message ++ "\n")

/-- Prints diagnostics. -/
def sayDiagnostics (w : World m) : List Diagnostic → m Unit
  | [] => pure ()
  | d :: ds => do
    w.complain (d.text ++ "\n")
    w.sayDiagnostics ds

/-- Shows a record of the log, if it is serious enough. -/
def report (w : World m) (console : Console) (r : Record) : m Unit := do
  if console.shows r then
    let time ← w.time
    w.complain (Console.line time r)

/-- Shows records of the log. -/
def reportAll (w : World m) (console : Console) : List Record → m Unit
  | [] => pure ()
  | r :: rs => do
    w.report console r
    w.reportAll console rs

end World

/-- What ends a command without an exit status. -/
inductive Crash
  | mismatch (m : Mismatch)
  /-- A file holds no text. -/
  | badText (fault : Bytes.Malformed)
  /-- An integer in a file has too many digits. -/
  | tooLong (digits : Nat)
  /-- The values in a file are nested too deep. -/
  | tooDeep
  /-- A setting is infinite where an integer is asked for. -/
  | infinite
  /-- A path holds the character zero. -/
  | badPath

/-- The wording of a crash. -/
def Crash.message : Crash → String
  | .mismatch _ => "a value of the wrong kind"
  | .badText fault => fault.message
  | .tooLong digits => DigitLimit.reading digits
  | .tooDeep => NestingLimit.wording
  | .infinite => IntegerFault.infinite.message
  | .badPath => "embedded null byte"

/-- The settled part of an invocation. -/
structure Job where
  target : Target
  options : Options
  exporter : Option Exporter

/-- The name of the command. -/
def commandName : String := "fsmc"

/-- The line that answers the question for the version. -/
def versionLine : String := commandName ++ " 1.0.0"

/-- What is shown of a log at a verbosity. -/
def consoleFor (verbosity : Nat) : Console :=
  if 2 ≤ verbosity then ⟨.debug⟩ else if verbosity = 1 then ⟨.info⟩ else ⟨.warning⟩

namespace Compile

variable {m : Type → Type} [Monad m] (w : World m) (console : Console)

/-! ## Settling the job -/

/-- Why the job is not settled: with a message, or without any. -/
inductive Unsettled
  | said (message : String)
  | crash (c : Crash)

/-- What is wrong with the options of an invocation, or with their file. -/
inductive OptionsFault
  | file (e : FileError)
  /-- The path holds the character zero. -/
  | badPath
  | options (e : OptionError)

/-- What becomes of a fault in the options. -/
def OptionsFault.unsettled : OptionsFault → Unsettled
  | .file e => .said ("cannot read options file: " ++ e.message)
  | .badPath => .said Crash.badPath.message
  | .options (.badInteger .infinite) => .crash .infinite
  | .options .tooDeep => .crash .tooDeep
  | .options e => .said e.message

/-- The target asked for. -/
def targetOf (v : Value) : Except Unsettled Target :=
  match v with
  | .str word =>
    match Target.ofWord? word with
    | some t => .ok t
    | none => .error (.said ("Unknown target language '" ++ word ++ "'."))
  | v => .error (.crash (.mismatch (.notText v.kindName "lower")))

/-- The options of the options file, if there is one. -/
def baseOptions (file : Value) : ExceptT OptionsFault m Options :=
  match file with
  | .str path =>
    if path.isEmpty then pure Options.default
    else if Path.holdsZero path then throw .badPath
    else do
      match ← w.read path with
      | .error e => throw (.file e)
      | .ok bytes =>
        match Options.ofFile path bytes with
        | .ok o => pure o
        | .error e => throw (.options e)
  | _ => pure Options.default

/-- The options an invocation asks for. -/
def optionsOf (i : Invocation) : ExceptT OptionsFault m Options := do
  let base ← baseOptions w i.optionsFile
  match i.options base with
  | .ok o => return o
  | .error e => throw (.options e)

/-- The exporter asked for. -/
def exporterOf (v : Value) (target : Target) : ExceptT Unsettled m (Option Exporter) :=
  if v.isSet then do
    w.reportAll console Exporter.foundRecords
    match Exporter.ofName? v.text with
    | some e => return some e
    | none =>
      throw (.said ("unknown exporter '" ++ v.text ++ "'. Available: "
        ++ Text.joined ", " (Exporter.all.map Exporter.name)))
  else if (Generator.ofTarget? target).isNone then
    throw (.said ("code generation for " ++ target.displayName ++ " is not available."))
  else return none

/-- Settles the job an invocation asks for. -/
def settle (i : Invocation) : ExceptT Unsettled m Job := do
  let target ← targetOf i.target
  let options ← ExceptT.adapt OptionsFault.unsettled (optionsOf w i)
  match options.check target with
  | .error e => throw (OptionsFault.options e).unsettled
  | .ok () => w.report console (options.acceptedRecord target)
  let exporter ← exporterOf w console i.exporter target
  return ⟨target, options, exporter⟩

/-! ## Compiling a file -/

/-- Why a file gives no output: with a message, after its diagnostics, or by a
    crash. -/
inductive Failure
  | said (message : String)
  | invalid
  | crash (c : Crash)

/-- What becomes of a fault in a description. -/
def loadFailure (e : LoadError) : Failure :=
  match e with
  | .badText fault => .crash (.badText fault)
  | .tooLong digits => .crash (.tooLong digits)
  | .tooDeep => .crash .tooDeep
  | .mismatch m => .crash (.mismatch m)
  | e => .said e.message

/-- Reads the machine of a file. -/
def loadFile (path : String) : ExceptT Failure m Machine := do
  if !(← w.isFile path) then throw (.said ("file not found: " ++ path))
  match ← w.read path with
  | .error e => throw (.said ("cannot read " ++ path ++ ": " ++ e.message))
  | .ok bytes =>
    let (result, records) := (Load.file path bytes).outcome
    w.reportAll console records
    match result with
    | .ok machine => return machine
    | .error e => throw (loadFailure e)

/-- Checks the machine of a file. -/
def checkMachine (job : Job) (path : String) (machine : Machine) : ExceptT Failure m Unit := do
  match machine.validate job.target (some (.str path)) with
  | .error e => throw (.crash (.mismatch e))
  | .ok v =>
    w.report console (machine.validationRecord v)
    w.sayDiagnostics v.diagnostics
    if !v.isValid then
      w.report console ⟨.info, Topic.commandLine, "'" ++ path ++ "' has "
        ++ toString v.errors.length ++ " error(s); no code generated."⟩
      throw .invalid

/-- What becomes of a fault in generating a file. -/
def generateFailure (e : GenerateError) : Failure :=
  match e with
  | .mismatch m => .crash (.mismatch m)
  | e => .said e.message

/-- The output of a valid machine. -/
def outputOf (job : Job) (path : String) (machine : Machine) : ExceptT Failure m OutputFile := do
  match job.exporter with
  | some e => return e.file machine (some machine.name)
  | none =>
    let options := { job.options with sourceFileName := .str (Path.baseName path) }
    w.report console (options.acceptedRecord job.target)
    match machine.generate job.target options .null with
    | .error e => throw (generateFailure e)
    | .ok f =>
      w.report console (machine.generatedRecord job.target f)
      return f

/-- Makes the directory for the output, if one is given. -/
def makeDirectory (directory : Value) : ExceptT Failure m String :=
  match directory with
  | .str path =>
    if path.isEmpty then pure path
    else do
      if Path.holdsZero path then throw (.crash .badPath)
      match ← w.makeDirectories path with
      | .ok () => return path
      | .error e => throw (.said ("cannot write output: " ++ e.message))
  | v => if v.isSet then throw (.crash (.mismatch .unsupported)) else pure ""

/-- Writes the output. -/
def writeOutput (job : Job) (f : OutputFile) : ExceptT Failure m Unit := do
  let directory ← makeDirectory w job.options.targetDirectory
  let path := if directory.isEmpty then f.name else Path.join directory f.name
  if Path.holdsZero path then throw (.crash .badPath)
  match ← w.write path f.content with
  | .error e => throw (.said ("cannot write output: " ++ e.message))
  | .ok () => w.print ("[Wrote " ++ path ++ "]")

/-- All that is done with a file. -/
def compileFile (job : Job) (path : String) : ExceptT Failure m Unit := do
  let machine ← loadFile w console path
  checkMachine w console job path machine
  let f ← outputOf w console job path machine
  writeOutput w job f

/-- Compiles a file; tells whether that succeeded. -/
def compiled (job : Job) (path : String) : ExceptT Crash m Bool := do
  match ← (compileFile w console job path).run with
  | .ok () => return true
  | .error .invalid => return false
  | .error (.said message) =>
    w.sayError message
    return false
  | .error (.crash c) => throw c

/-- Compiles files one by one; tells whether all succeeded. -/
def compileAll (job : Job) : List String → ExceptT Crash m Bool
  | [] => return true
  | path :: paths => do
    let here ← compiled w console job path
    let rest ← compileAll job paths
    return here && rest

/-! ## The command -/

/-- Does what an invocation asks for; gives the exit status. -/
def invoke (i : Invocation) : ExceptT Crash m Nat := do
  let console := consoleFor i.verbosity
  w.report console console.announcement
  match ← (settle w console i).run with
  | .error (.said message) =>
    w.sayError message
    return 1
  | .error (.crash c) => throw c
  | .ok job =>
    let ok ← compileAll w console job i.files
    return if ok then 0 else 1

/-- Runs the command with its arguments; gives the exit status. -/
def command (arguments : List String) : ExceptT Crash m Nat :=
  match Usage.read arguments with
  | .ok i => invoke w i
  | .error .version => do
    w.print versionLine
    return 0
  | .error .help => do
    w.print ("usage: " ++ commandName ++ " [options] FILE [FILE ...]")
    return 0
  | .error (.error e) => do
    w.complain (commandName ++ ": error: " ++ e.message ++ "\n")
    return 2

end Compile

/-! ## A world made of values -/

/-- A tree of files and what was printed. -/
structure Desk where
  disk : Disk := {}
  output : List String := []
  messages : List String := []

namespace Desk

/-- Does something to the tree that may fail. -/
def onDisk (f : Disk → Disk.Outcome) : StateM Desk (Except FileError Unit) :=
  fun d =>
    let o := f d.disk
    (match o.fault with
      | none => .ok ()
      | some e => .error e, { d with disk := o.disk })

/-- The world of a desk; every record bears the mark `TIME`. -/
def world : World (StateM Desk) where
  isFile path := return (← get).disk.isFile path
  read path := return (← get).disk.read path
  makeDirectories path := onDisk fun d => d.makeDirectories path
  write path content := onDisk fun d => d.outcome (d.write path content)
  print line := modify fun d => { d with output := d.output ++ [line ++ "\n"] }
  complain text := modify fun d => { d with messages := d.messages ++ [text] }
  time := return "TIME"

/-- Runs the command on a desk. -/
def command (d : Desk) (arguments : List String) : Except Crash Nat × Desk :=
  (Compile.command world arguments).run.run d

end Desk
end StateMachine
