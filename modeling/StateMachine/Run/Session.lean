import StateMachine.Run.Context

/-!
# Sessions

A context worked by hand: one command after the other, with listeners that
react in a fixed way. A command answers with a value or ends in a fault; what
happens on the way is kept as a record: the changes the listeners were told
about, the entries and exits of states that keep a log, and the trace, which
goes to the console or to a stream of the session's own.

Commands do not differ when they are given while the lock of the context is
held, as one who holds the lock may take it again.
-/

namespace StateMachine

/-- A state worked by hand. States are told apart by their keys. -/
structure Station where
  key : Nat
  name : Value
  id : Value
  /-- Does the state log its entry and exit? -/
  logged : Bool

namespace Station

instance : Named Station := ⟨Station.name⟩

instance : BEq Station := ⟨fun s t => s.key == t.key⟩

/-- The kind of a state. -/
def kind (s : Station) : String :=
  if s.logged then "LoggedState" else "State"

/-- A state as it is shown. -/
def shown (s : Station) : String :=
  "<" ++ s.kind ++ " " ++ s.name.text ++ " (" ++ s.id.text ++ ")>"

/-- The log of an entry or exit. -/
def logLine (s : Station) (word : String) : List String :=
  if s.logged then [word ++ " " ++ s.name.text] else []

end Station

/-- What a listener does when it is told of a change. -/
inductive Reaction
  | quiet
  /-- It fails. -/
  | fail
  /-- It listens no more. -/
  | remove
  /-- It adds another listener. -/
  | add

/-- Why a command fails. -/
inductive SessionFault
  | context (e : ContextError)
  /-- A listener failed. -/
  | listener (id : String)
  /-- A state whose name is no text was to be shown by it. -/
  | badName (kind : String)

/-- The wording of a fault. -/
def SessionFault.message : SessionFault → String
  | .context e => e.message
  | .listener id => "listener " ++ id
  | .badName kind => "__str__ returned non-string (type " ++ kind ++ ")"

/-- A context with its reacting listeners, and what happened so far. -/
structure Session where
  context : Context Station
  /-- How the listeners react. -/
  reactions : List (String × Reaction) := []
  told : List Told := []
  log : List String := []
  /-- The trace on the console. -/
  console : String := ""
  /-- The trace on a stream of the session's own, where there is one. -/
  stream : Option String := none

/-- A command. -/
inductive Command
  | state
  | previousState
  | set (s : Option Station)
  | push (s : Option Station)
  | pop
  | clear
  | emptyStack
  | depth
  | enter
  | isInTransition
  | transition
  | setTransition (name : Value)
  | name
  | debug
  | setDebug (flag : Value)
  | listen (id : String) (reaction : Reaction)
  | unlisten (id : String) (reaction : Reaction)
  | ownStream
  | streamText
  | describe (s : Station)
  | enterAndExit (s : Station)

namespace Session

/-- How a listener reacts. -/
def reaction (s : Session) (id : String) : Reaction :=
  (s.reactions.lookup id).getD .quiet

/-- Writes to the trace. -/
def write (s : Session) (text : String) : Session :=
  match s.stream with
  | some t => { s with stream := some (t ++ text) }
  | none => { s with console := s.console ++ text }

/-- The session with the reaction of a listener; the first one counts. -/
def settle (s : Session) (id : String) (reaction : Reaction) : Session :=
  if (s.reactions.lookup id).isSome then s
  else { s with reactions := s.reactions ++ [(id, reaction)] }

/-- Tells a listener of a change. -/
def tell (s : Session) (id : String) (change : Change Station) :
    Except SessionFault Unit × Session :=
  let s := { s with told := s.told ++ [s.context.told id change] }
  match s.reaction id with
  | .quiet => (.ok (), s)
  | .fail => (.error (.listener id), s)
  | .remove => (.ok (), { s with context := s.context.removeListener id })
  | .add =>
    let s := s.settle (id ++ "+") .quiet
    (.ok (), { s with context := s.context.addListener (id ++ "+") })

/-- Tells the listeners of a change one by one, until one of them fails. -/
def tellAll (change : Change Station) : List String → Session → Except SessionFault Unit × Session
  | [], s => (.ok (), s)
  | id :: ids, s =>
    match s.tell id change with
    | (.ok (), s) => tellAll change ids s
    | failed => failed

/-- Takes over an attempt on the context. The listeners told of the change are
    those registered when it was made. -/
def attempt (s : Session) (a : Attempt Station) : Except SessionFault Unit × Session :=
  let s := a.trace.foldl write { s with context := a.context }
  match a.result with
  | .error e => (.error (.context e), s)
  | .ok none => (.ok (), s)
  | .ok (some change) => tellAll change a.context.listeners s

/-- The session with a listener. -/
def listen (s : Session) (id : String) (reaction : Reaction) : Session :=
  let s := s.settle id reaction
  { s with context := s.context.addListener id }

/-- The session without a listener. -/
def unlisten (s : Session) (id : String) (reaction : Reaction) : Session :=
  let s := s.settle id reaction
  { s with context := s.context.removeListener id }

/-- A state with all that is shown of it, if its name is a text. -/
def description (p : Station) : Except SessionFault Value :=
  if p.name.isText then .ok (.list [p.name, p.id, p.name, .str p.shown, .object []])
  else .error (.badName p.name.kindName)

/-- The session with further lines of the log. -/
def addLog (s : Session) (lines : List String) : Session :=
  { s with log := s.log ++ lines }

/-- The answer of a command that only asks the context. -/
def ask {α : Type} (s : Session) (r : Except ContextError α) (answer : α → Value) :
    Except SessionFault Value × Session :=
  match r with
  | .ok a => (.ok (answer a), s)
  | .error e => (.error (.context e), s)

/-- The answer of a command that has none of its own. -/
def silent (r : Except SessionFault Unit × Session) : Except SessionFault Value × Session :=
  (r.1.map fun _ => .null, r.2)

/-- Carries out a command. -/
def perform (s : Session) : Command → Except SessionFault Value × Session
  | .state => s.ask s.context.state Station.name
  | .previousState => s.ask s.context.previousState Station.name
  | .set p => silent (s.attempt (s.context.set p))
  | .push p => silent (s.attempt (s.context.push p))
  | .pop => silent (s.attempt s.context.pop)
  | .clear => (.ok .null, { s with context := s.context.clear })
  | .emptyStack => (.ok .null, { s with context := s.context.emptyStack })
  | .depth => (.ok (.int s.context.depth), s)
  | .enter =>
    match s.context.state with
    | .ok p => (.ok .null, s.addLog (p.logLine "entry"))
    | .error e => (.error (.context e), s)
  | .isInTransition => (.ok (.bool s.context.isInTransition), s)
  | .transition => (.ok s.context.transition, s)
  | .setTransition name => (.ok .null, { s with context := s.context.setTransition name })
  | .name => (.ok s.context.name, s)
  | .debug => (.ok s.context.debug, s)
  | .setDebug flag => (.ok .null, { s with context := { s.context with debug := flag } })
  | .listen id reaction => (.ok .null, s.listen id reaction)
  | .unlisten id reaction => (.ok .null, s.unlisten id reaction)
  | .ownStream => (.ok .null, { s with stream := some "" })
  | .streamText => (.ok (.str (s.stream.getD "")), s)
  | .describe p => (description p, s)
  | .enterAndExit p =>
    (.ok (.list [.null, .null]), s.addLog (p.logLine "entry" ++ p.logLine "exit"))

/-- The session with nothing recorded. -/
def forget (s : Session) : Session :=
  { s with told := [], log := [], console := "" }

end Session
end StateMachine
