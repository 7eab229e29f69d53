import StateMachine.Document.Bytes
import StateMachine.Document.Literal
import StateMachine.Document.Reader
import StateMachine.Load.Shorthand
import StateMachine.Log
import StateMachine.Model.Machine

/-!
# Machine descriptions

Reads a machine from a document: an object with a list of maps, each with a
list of states, each with a list of transition entries. An entry that lacks
what it takes to build its part (nearly always a name) is skipped with a
warning. Each transition entry has one guard; the entries of a state with the
same signature make up one transition.

The values of a description are taken over as they are. Only three things end
the reading: a document that is no object, a transition entry with an unknown
move, and a value whose kind makes it impossible to go on, such as a number
where a list is walked through.
-/

namespace StateMachine

/-- Why a description cannot be read. -/
inductive LoadError
  /-- The document is a value of another kind than an object. -/
  | notObject (kind : String)
  /-- A transition entry has an unknown move. -/
  | unknownMove (word : String) (transition : String)
  /-- The file holds no document. -/
  | badDocument (path : String) (error : ReadError)
  /-- An integer in the file has too many digits. -/
  | tooLong (digits : Nat)
  /-- The values in the file are nested too deep. -/
  | tooDeep
  /-- The file holds no text. -/
  | badText (fault : Bytes.Malformed)
  /-- A value is of a kind that does not fit. -/
  | mismatch (m : Mismatch)

/-- The wording of an error. -/
def LoadError.message : LoadError → String
  | .notObject kind => "State machine data must be a mapping, got " ++ kind ++ "."
  | .unknownMove word transition =>
    "Unknown transition type '" ++ word ++ "' for transition '" ++ transition ++ "'."
  | .badDocument path error => path ++ ": invalid JSON: " ++ error.message
  | .tooLong digits => DigitLimit.reading digits
  | .tooDeep => NestingLimit.wording
  | .badText fault => fault.message
  | .mismatch m => m.message

/-- Reading with reports: the records made so far are kept, also when the reading
    ends in an error. -/
abbrev Load := ExceptT LoadError (StateM (List Record))

namespace Load

/-- Makes a report. -/
def report (level : Level) (message : String) : Load Unit :=
  modify fun records => records ++ [⟨level, Topic.loader, message⟩]

/-- Reports something skipped. -/
def warn (message : String) : Load Unit :=
  report .warning message

/-- What a walk through a value meets. -/
def elements (v : Value) : Load (List Value) :=
  match v.elements with
  | .ok items => pure items
  | .error m => throw (.mismatch m)

/-- The parts read from the entries, without those that are skipped. -/
def collect {α : Type} (read : Value → Load (Option α)) : List Value → Load (List α)
  | [] => pure []
  | v :: vs => do
    let part ← read v
    let parts ← collect read vs
    return part.toList ++ parts

/-- The member `key`, where it counts as set; the empty text otherwise. -/
def settled (v : Value) (key : String) : Value :=
  let value := v.getD key (.str "")
  if value.isSet then value else .str ""

/-- Is the entry an object with a name? -/
def isNamed (v : Value) : Bool :=
  (v.getD "name" .null).isSet

/-- Reads an action. -/
def action (v : Value) : Load (Option Action) :=
  match v with
  | .object _ =>
    if isNamed v then do
      let arguments ← elements (v.getD "arguments" (.list []))
      let name := v.getD "name" .null
      return some
        { name := name
          arguments := arguments.map Value.text
          property := (v.getD "property" (.bool false)).isSet
          static := (v.getD "static" (.bool false)).isSet
          emptiesStack := name == .str emptyStackName
          line := v.getD "line" (.int 0) }
    else do
      warn ("Skipping invalid action entry: " ++ v.text)
      return none
  | .str s =>
    if Text.isBlankText s then do
      warn ("Skipping invalid action entry: " ++ v.literal)
      return none
    else
      match Shorthand.action? s with
      | some a => return some a
      | none => do
        warn ("Skipping malformed action '" ++ s ++ "'.")
        return none
  | _ => do
    warn ("Skipping invalid action entry: " ++ v.literal)
    return none

/-- Reads a list of actions; a null stands for no list at all. -/
def actions? (v : Value) : Load (Option (List Action)) :=
  match v with
  | .null => return none
  | _ => do
    let entries ← elements v
    return some (← collect action entries)

/-- Reads a parameter: a text `name` or `name: type`, or an object. -/
def parameter (line : Value) (v : Value) : Load (Option Parameter) :=
  match v with
  | .str s =>
    let (name, type) := (Text.cutFirst [':'] s.toList).getD (s.toList, [])
    return some
      { name := .str (String.ofList (Text.trimChars name))
        type := .str (String.ofList (Text.trimChars type))
        line := line }
  | _ =>
    if isNamed v then
      return some { name := v.getD "name" .null, type := v.getD "type" (.str ""), line := line }
    else do
      warn ("Skipping invalid parameter entry: " ++ v.text)
      return none

/-- Reads the transition of a named entry, with its one guard. -/
def transition (v : Value) : Load Transition := do
  let name := v.getD "name" .null
  let word := Text.lower (v.getD "type" (.str "set")).text
  match Move.ofWord? word with
  | none => throw (.unknownMove word name.text)
  | some move => do
    let line := v.getD "line" (.int 0)
    let parameters ← collect (parameter line) (← elements (v.getD "parameters" (.list [])))
    let actions ← actions? (v.getD "actions" .null)
    let guard : Guard :=
      { condition := settled v "guard"
        move := move
        endState := settled v "end_state"
        pushState := settled v "push_state"
        actions := actions.getD []
        popArguments := settled v "pop_args"
        line := line }
    return { name := name, parameters := parameters, guards := [guard], line := line }

/-- Reads the transition entries of a state, addressed by its scoped name. -/
def transitionEntry (scopedName : String) (v : Value) : Load (Option Transition) :=
  if isNamed v then some <$> transition v
  else do
    warn ("Skipping invalid transition data entry in state '" ++ scopedName ++ "': " ++ v.text)
    return none

/-- Reads the states of a map named `mapName`. -/
def state (mapName : Value) (v : Value) : Load (Option State) :=
  if isNamed v then do
    let entry ← actions? (v.getD "entry" .null)
    let exit ← actions? (v.getD "exit" .null)
    match v.getD "name" .null with
    | .str name => do
      let scopedName := mapName.text ++ scopeMark ++ name
      let transitions ← collect (transitionEntry scopedName)
        (← elements (v.getD "transitions" (.list [])))
      let empty : State :=
        { name := name, entry := entry, exit := exit, transitions := []
          line := v.getD "line" (.int 0) }
      return some (transitions.foldl State.addTransition empty)
    | name => throw (.mismatch (.notText name.kindName "lower"))
  else do
    warn ("Skipping invalid state data entry in map '" ++ mapName.text ++ "': " ++ v.text)
    return none

/-- Reads a map. -/
def map (v : Value) : Load (Option StateMap) :=
  if isNamed v then do
    let name := v.getD "name" .null
    let states ← collect (state name) (← elements (v.getD "states" (.list [])))
    let empty : StateMap :=
      { name := name, states := [], default? := none, line := v.getD "line" (.int 0) }
    return some (states.foldl StateMap.addState empty)
  else do
    warn ("Skipping invalid map data entry: " ++ v.text)
    return none

/-- The first of the values that is set. -/
def firstSet : List Value → Value → Value
  | [], default => default
  | v :: vs, default => if v.isSet then v else firstSet vs default

/-- Reads a machine; a name given from outside comes before those of the
    description. -/
def machine (v : Value) (name : Value) : Load Machine :=
  match v with
  | .object _ => do
    let name := firstSet [name, v.getD "name" .null, v.getD "class" .null] (.str "UntitledFSM")
    let imports ← elements (v.getD "imports" (.list []))
    let includes ← elements (v.getD "includes" (.list []))
    let maps ← collect map (← elements (v.getD "maps" (.list [])))
    report .debug
      ("Parsed FSM '" ++ name.text ++ "' with " ++ toString maps.length ++ " map(s).")
    return {
      name := name
      context := v.getD "class" (.str "")
      start := v.getD "start" (.str "")
      maps := maps
      fsmClass := v.getD "fsmclass" (.str "")
      source := v.getD "source" (.str "")
      header := v.getD "header" (.str "")
      package := v.getD "package" (.str "")
      imports := imports
      includes := includes
      access := v.getD "access" (.str "")
      line := v.getD "line" (.int 0) }
  | _ => throw (.notObject v.kindName)

/-! ## Files -/

/-- The name of a file without its directory and everything from the first dot
    on. -/
def baseName (path : String) : String :=
  Text.before "." ((Text.cutLast? "/" path).map (·.2) |>.getD path)

/-- A description without a name of its own is named after its file. -/
def withFileName (path : String) (v : Value) : Value :=
  match v with
  | .object members =>
    if isNamed v then v else .object (Value.put "name" (.str (baseName path)) members)
  | _ => v

/-- Reads a machine from the bytes of a file. -/
def file (path : String) (bytes : List UInt8) : Load Machine :=
  match Bytes.fileText bytes with
  | .error fault => throw (.badText fault)
  | .ok text =>
    match Value.read text with
    | .error (.complaint error) => throw (.badDocument path error)
    | .error (.tooLong digits) => throw (.tooLong digits)
    | .error .tooDeep => throw .tooDeep
    | .ok v => machine (withFileName path v) .null

end Load

/-- What a reading gave, and the records it made. -/
def Load.outcome {α : Type} (x : Load α) : Except LoadError α × List Record :=
  x.run.run []

end StateMachine
