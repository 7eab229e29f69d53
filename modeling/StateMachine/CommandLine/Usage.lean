import StateMachine.Generate.Options

/-!
# Usage

How the arguments of the command line are read. They are options, the values
of options and the files to be compiled.

* An option has a long name (`--target`), which may be shortened as long as it
  stays unambiguous, a short one (`-t`), or both.
* Its value follows as the next argument, or in the same one: after `=`, or
  right after a short name.
* Short names of options without values may be joined (`-vg`).
* What begins with a dash is no value, unless it looks like a negative number
  or holds a space.
* After `--` every argument is a file.
* The files stand side by side; further ones after an option are not
  recognized.

Every argument is classified before any is taken, so an ambiguous name is
found first; the other faults are found from left to right.
-/

namespace StateMachine

/-- What an option does. -/
inductive Effect
  | help
  | version
  /-- More is reported. -/
  | verbose
  | target
  | optionsFile
  | exporter
  /-- A setting gets a fixed value. -/
  | fix (s : Setting) (v : Value)
  /-- A setting gets the value of the option. -/
  | text (s : Setting)
  /-- A setting gets the value of the option, an integer; one of the choices, if
      there are any. -/
  | integer (s : Setting) (choices : List Int)

/-- Does the option have a value? -/
def Effect.takesValue : Effect → Bool
  | .target => true
  | .optionsFile => true
  | .exporter => true
  | .text _ => true
  | .integer _ _ => true
  | _ => false

/-- An option of the command line. -/
structure Flag where
  names : List String
  effect : Effect

namespace Flag

/-- The option as it is called in messages. -/
def label (f : Flag) : String :=
  Text.joined "/" f.names

/-- An option that switches a setting on. -/
def switch (name : String) (s : Setting) : Flag :=
  ⟨[name], .fix s (.bool true)⟩

/-- All options. -/
def all : List Flag := [
  ⟨["-h", "--help"], .help⟩,
  ⟨["-t", "--target"], .target⟩,
  ⟨["-d", "--directory"], .text .targetDirectory⟩,
  ⟨["--suffix"], .text .suffix⟩,
  ⟨["-g"], .fix .debugLevel (.int 0)⟩,
  ⟨["-g0"], .fix .debugLevel (.int 0)⟩,
  ⟨["-g1"], .fix .debugLevel (.int 1)⟩,
  switch "--nocatch" .noCatch,
  switch "--reflect" .reflect,
  switch "--sync" .sync,
  switch "--serial" .serial,
  switch "--generic" .generic,
  switch "--noex" .noExceptions,
  switch "--nostreams" .noStreams,
  switch "--crtp" .crtp,
  switch "--protocol" .useProtocol,
  ⟨["--glevel"], .integer .graphLevel [0, 1, 2]⟩,
  ⟨["--access"], .text .accessLevel⟩,
  ⟨["--cast"], .text .castType⟩,
  ⟨["--stack"], .integer .stackSize []⟩,
  ⟨["--headerd"], .text .headerDirectory⟩,
  ⟨["--hsuffix"], .text .headerSuffix⟩,
  ⟨["--options"], .optionsFile⟩,
  ⟨["--export"], .exporter⟩,
  ⟨["-v", "--verbose"], .verbose⟩,
  ⟨["--version"], .version⟩]

/-- The names of all options, each with its option. -/
def named : List (String × Flag) :=
  all.flatMap fun f => f.names.map fun n => (n, f)

/-- The option of a name. -/
def ofName? (name : String) : Option Flag :=
  named.lookup name

end Flag

/-- A fault in the use of the command line. -/
inductive UsageError
  | ambiguous (argument : String) (matching : List String)
  | noValue (option : String)
  | ignoredValue (option value : String)
  | badInteger (option value : String)
  | badChoice (option : String) (value : Int) (choices : List Int)
  | unrecognized (arguments : List String)
  | noFile

/-- The wording of a fault. -/
def UsageError.message : UsageError → String
  | .ambiguous argument matching =>
    "ambiguous option: " ++ argument ++ " could match " ++ Text.joined ", " matching
  | .noValue option => "argument " ++ option ++ ": expected one argument"
  | .ignoredValue option value =>
    "argument " ++ option ++ ": ignored explicit argument " ++ Text.quoted value
  | .badInteger option value =>
    "argument " ++ option ++ ": invalid int value: " ++ Text.quoted value
  | .badChoice option value choices =>
    "argument " ++ option ++ ": invalid choice: " ++ toString value ++ " (choose from "
      ++ Text.joined ", " (choices.map toString) ++ ")"
  | .unrecognized arguments => "unrecognized arguments: " ++ Text.joined " " arguments
  | .noFile => "the following arguments are required: FILE"

/-- Why nothing is compiled: a fault, or a question that is answered instead. -/
inductive Stop
  | error (e : UsageError)
  | version
  | help

/-- What the command line asks for. -/
structure Invocation where
  files : List String := []
  target : Value := .str "python"
  /-- The settings given, the last one of a kind counting. -/
  settings : List (Setting × Value) := []
  optionsFile : Value := .null
  exporter : Value := .null
  verbosity : Nat := 0

namespace Usage

/-! ## Classifying arguments -/

/-- An argument as it is classified. -/
inductive Piece
  /-- The mark after which all arguments are files. -/
  | separator
  /-- A file, or the value of an option. -/
  | plain (s : String)
  /-- An option, the name it is given by, and the value in the same argument. -/
  | option (f : Flag) (name : String) (value : Option String)
  /-- What looks like an option and is none. -/
  | unknown (s : String)

/-- The separator as it is written. -/
def separatorText : String := "--"

/-- The text before and after the first `=`. -/
def cutValue? (s : String) : Option (String × String) :=
  (Text.cutFirst ['='] s.toList).map fun r => (String.ofList r.1, String.ofList r.2)

/-- An option an argument may stand for. -/
structure Candidate where
  flag : Flag
  name : String
  value : Option String

/-- The options a long name, possibly shortened, may stand for. -/
def longCandidates (argument : String) : List Candidate :=
  let (stem, value) :=
    match cutValue? argument with
    | some (stem, value) => (stem, some value)
    | none => (argument, none)
  (Flag.named.filter fun p => stem.isPrefixOf p.1).map fun p => ⟨p.2, p.1, value⟩

/-- The option a short name may stand for, with the rest of the argument as its
    value, or as the beginning of whose name the argument may stand. -/
def shortCandidate? (argument : String) (name : String) (f : Flag) : Option Candidate :=
  if name.toList = argument.toList.take 2 then
    some ⟨f, name, some (String.ofList (argument.toList.drop 2))⟩
  else if argument.isPrefixOf name then some ⟨f, name, none⟩
  else none

/-- The options an argument may stand for that is no full name. -/
def candidates (argument : String) : List Candidate :=
  if separatorText.isPrefixOf argument then longCandidates argument
  else Flag.named.filterMap fun p => shortCandidate? argument p.1 p.2

/-- Are there only digits, at least one? -/
def isDigits (cs : List Char) : Bool :=
  !cs.isEmpty && cs.all fun c => (Text.digitValue? c).isSome

/-- The characters without a line end at their end. -/
def withoutLineEnd (cs : List Char) : List Char :=
  if cs.getLast? = some '\n' then cs.dropLast else cs

/-- Does the text look like a negative number, a line end after it aside? -/
def isNegativeNumber (s : String) : Bool :=
  match withoutLineEnd s.toList with
  | '-' :: cs =>
    isDigits cs ||
      (match Text.cutFirst ['.'] cs with
      | some (whole, fraction) => (whole.isEmpty || isDigits whole) && isDigits fraction
      | none => false)
  | _ => false

/-- What an argument is that begins with a dash and is no full name. -/
def guess (s : String) : Except Stop Piece :=
  match candidates s with
  | [c] => .ok (.option c.flag c.name c.value)
  | [] => .ok (if isNegativeNumber s || s.toList.contains ' ' then .plain s else .unknown s)
  | cs => .error (.error (.ambiguous s (cs.map Candidate.name)))

/-- Classifies an argument before the separator. -/
def classify (s : String) : Except Stop Piece :=
  if s.toList.head? != some '-' then .ok (.plain s)
  else
    match Flag.ofName? s, cutValue? s with
    | some f, _ => .ok (.option f s none)
    | none, some (name, value) =>
      match Flag.ofName? name with
      | some f => .ok (.option f name (some value))
      | none => guess s
    | none, none => if s.length = 1 then .ok (.plain s) else guess s

/-- Classifies all arguments. -/
def classifyAll : List String → Except Stop (List Piece)
  | [] => .ok []
  | s :: ss =>
    if s = separatorText then .ok (.separator :: ss.map .plain)
    else do
      let p ← classify s
      let ps ← classifyAll ss
      return p :: ps

/-! ## Taking options -/

/-- The value of an option; the separator stands for none. -/
def valueOf (s : String) : Value :=
  if s = separatorText then .list [] else .str s

/-- The invocation with a setting. -/
def give (i : Invocation) (s : Setting) (v : Value) : Invocation :=
  { i with settings := i.settings ++ [(s, v)] }

/-- The integer given as the value of an option. -/
def integerOf (f : Flag) (choices : List Int) (s : String) : Except Stop Value :=
  match Integer.ofText s with
  | .error _ => .error (.error (.badInteger f.label s))
  | .ok n =>
    if choices.isEmpty || choices.contains n then .ok (.int n)
    else .error (.error (.badChoice f.label n choices))

/-- Takes an option with its value, if it has one. -/
def take (i : Invocation) (f : Flag) (value : String) : Except Stop Invocation :=
  match f.effect with
  | .help => .error .help
  | .version => .error .version
  | .verbose => .ok { i with verbosity := i.verbosity + 1 }
  | .target => .ok { i with target := valueOf value }
  | .optionsFile => .ok { i with optionsFile := valueOf value }
  | .exporter => .ok { i with exporter := valueOf value }
  | .fix s v => .ok (give i s v)
  | .text s => .ok (give i s (valueOf value))
  | .integer s choices =>
    if value = separatorText then .ok (give i s (valueOf value))
    else do
      let v ← integerOf f choices value
      return give i s v

/-- The options joined in one argument: those taken as they are, with their
    values, and the last one if its value has yet to come. -/
structure Joined where
  taken : List (Flag × String)
  awaiting : Option Flag

/-- Takes a joined argument apart: an option under the name `name`, and what
    follows the name in the argument. -/
def unjoin (f : Flag) (name : String) : List Char → Except Stop Joined
  | [] =>
    if f.effect.takesValue then .ok ⟨[(f, "")], none⟩
    else .error (.error (.ignoredValue f.label ""))
  | c :: cs =>
    if f.effect.takesValue then .ok ⟨[(f, String.ofList (c :: cs))], none⟩
    else if separatorText.isPrefixOf name then
      .error (.error (.ignoredValue f.label (String.ofList (c :: cs))))
    else
      let next := String.ofList ['-', c]
      match Flag.ofName? next with
      | none => .error (.error (.ignoredValue f.label (String.ofList (c :: cs))))
      | some g =>
        if cs.isEmpty then
          if g.effect.takesValue then .ok ⟨[(f, "")], some g⟩ else .ok ⟨[(f, ""), (g, "")], none⟩
        else do
          let rest ← unjoin g next cs
          return { rest with taken := (f, "") :: rest.taken }

/-- Takes options with their values from left to right. -/
def takeAll : Invocation → List (Flag × String) → Except Stop Invocation
  | i, [] => .ok i
  | i, (f, value) :: rest => do
    let i ← take i f value
    takeAll i rest

/-- What an option's argument says: the options taken, and the one whose value
    has yet to come. -/
def joinedOf (f : Flag) (name : String) (value : Option String) : Except Stop Joined :=
  match value with
  | some v => unjoin f name v.toList
  | none => if f.effect.takesValue then .ok ⟨[], some f⟩ else .ok ⟨[(f, "")], none⟩

/-! ## Reading the command line -/

/-- How far the reading has come. -/
structure Reading where
  invocation : Invocation := {}
  /-- Have the files yet to come? -/
  awaitsFiles : Bool := true
  /-- The arguments since the last option. -/
  row : List Piece := []
  /-- The arguments that are not recognized. -/
  extras : List String := []

/-- An argument as it was written, if it is no option. -/
def Piece.text : Piece → String
  | .separator => separatorText
  | .plain s => s
  | .option _ name _ => name
  | .unknown s => s

/-- The files among arguments. -/
def fileNames (row : List Piece) : List String :=
  row.filterMap fun p =>
    match p with
    | .plain s => some s
    | _ => none

/-- Ends a row of arguments: the first row that has files gives the files. -/
def Reading.endRow (r : Reading) : Reading :=
  let files := fileNames r.row
  if r.awaitsFiles && !files.isEmpty then
    { r with invocation := { r.invocation with files := files }, awaitsFiles := false, row := [] }
  else { r with extras := r.extras ++ r.row.map Piece.text, row := [] }

/-- Reads classified arguments. -/
def readPieces : Reading → List Piece → Except Stop Reading
  | r, [] => .ok r.endRow
  | r, .plain s :: ps => readPieces { r with row := r.row ++ [.plain s] } ps
  | r, .separator :: ps => readPieces { r with row := r.row ++ [.separator] } ps
  | r, .unknown s :: ps =>
    let r := r.endRow
    readPieces { r with extras := r.extras ++ [s] } ps
  | r, .option f name value :: ps => do
    let r := r.endRow
    let joined ← joinedOf f name value
    match joined.awaiting, ps with
    | none, ps =>
      let i ← takeAll r.invocation joined.taken
      readPieces { r with invocation := i } ps
    | some g, .plain s :: rest =>
      let i ← takeAll r.invocation (joined.taken ++ [(g, s)])
      readPieces { r with invocation := i } rest
    | some g, _ => throw (.error (.noValue g.label))

/-- What is wrong with a finished reading. -/
def Reading.check (r : Reading) : Except Stop Invocation :=
  if r.awaitsFiles then .error (.error .noFile)
  else if !r.extras.isEmpty then .error (.error (.unrecognized r.extras))
  else .ok r.invocation

/-- Reads the arguments of the command line. -/
def read (arguments : List String) : Except Stop Invocation := do
  let pieces ← classifyAll arguments
  let r ← readPieces {} pieces
  r.check

end Usage

namespace Invocation

/-- The value given for a setting. -/
def given? (i : Invocation) (s : Setting) : Option Value :=
  (i.settings.reverse.find? fun p => p.1 = s).map fun p => p.2

/-- The options an invocation asks for, beginning with those of an options
    file; a graph level that is given has to be a number. -/
def options (i : Invocation) (base : Options) : Except OptionError Options :=
  match i.given? .graphLevel with
  | some (.list vs) => .error (.notGraphLevel (.list vs))
  | _ => .ok (i.settings.foldl (fun o p => o.put p.1 p.2) base)

end Invocation

end StateMachine
