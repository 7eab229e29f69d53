import StateMachine.Document.Literal

/-!
# Run contexts

The part of a running machine that knows where it is. A *context* holds the
current state, the state before it, the stack of suspended states, the name of
the transition under way and the listeners. While the actions of a transition
run there is no current state: the context is *in transition*.

Three operations *commit* a state: `set`, `push` (which suspends the current
state) and `pop` (which goes back to the state suspended last). Each of them
gives an `Attempt`: the context afterwards, the lines of the trace, and the
error or else the change the listeners are told about. A commit of the state
the context was in before is no change. An attempt that ends in an error
leaves the context as it was.
-/

namespace StateMachine

/-- Things that have a name. -/
class Named (S : Type) where
  name : S → Value

/-- A name names itself. -/
instance : Named String := ⟨.str⟩

/-- Why an operation on a context fails. -/
inductive ContextError
  /-- There is no current state. -/
  | inTransition (context transition : String)
  /-- There is no state before the current one. -/
  | noPrevious (context : String)
  /-- There is no current state to be suspended for `state`. -/
  | pushInTransition (context state : String)
  /-- The stack is full. -/
  | stackFull (context size : String)
  /-- The depth of the stack cannot be compared with a size of this kind. -/
  | badStackSize (kind : String)
  /-- No state is suspended. -/
  | stackEmpty (context : String)
  /-- The name of the state that is none was asked for. -/
  | nameless
  deriving DecidableEq

/-- The wording of an error. -/
def ContextError.message : ContextError → String
  | .inTransition context transition =>
    context ++ ": state undefined while in transition '" ++ transition ++ "'."
  | .noPrevious context => context ++ ": previous state not set."
  | .pushInTransition context state =>
    context ++ ": cannot push state '" ++ state ++ "' while the state is undefined."
  | .stackFull context size => context ++ ": state stack of size " ++ size ++ " is full."
  | .badStackSize kind => "'>=' not supported between instances of 'int' and '" ++ kind ++ "'"
  | .stackEmpty context => context ++ ": popping on an empty state stack."
  | .nameless => "'NoneType' object has no attribute 'get_name'"

/-- Where a running machine is. -/
structure Context (S : Type) where
  name : Value
  /-- The current state; nothing in transition. -/
  current : Option S
  /-- The state before the current one. -/
  previous : Option S := none
  /-- The name of the transition under way. -/
  transition : Value := .null
  /-- The suspended states, the last one first. -/
  stack : List S := []
  /-- The greatest depth of the stack; a value that is not set allows any depth. -/
  stackSize : Value := .int 0
  /-- Are commits traced? Any value that is set says so. -/
  debug : Value := .bool false
  /-- The listeners in the order they are told of changes. -/
  listeners : List String := []

/-- A change of state, as the listeners are told about it. -/
structure Change (S : Type) where
  previous : Option S
  next : Option S

/-- A listener that was told of a change, with the names of the states. -/
structure Told where
  listener : String
  context : Value
  previous : Option Value
  next : Option Value

/-- What an operation on a context came to. -/
structure Attempt (S : Type) where
  context : Context S
  trace : List String
  result : Except ContextError (Option (Change S))

namespace Context

variable {S : Type} [BEq S] [Named S]

/-! ## The current state -/

/-- Is there no current state? -/
def isInTransition (c : Context S) : Bool :=
  c.current.isNone

/-- The current state. -/
def state (c : Context S) : Except ContextError S :=
  match c.current with
  | some s => .ok s
  | none => .error (.inTransition c.name.text c.transition.text)

/-- The state before the current one. -/
def previousState (c : Context S) : Except ContextError S :=
  match c.previous with
  | some s => .ok s
  | none => .error (.noPrevious c.name.text)

/-- The context with a transition of a name under way. -/
def setTransition (c : Context S) (name : Value) : Context S :=
  { c with transition := name }

/-- The context in transition. -/
def clear (c : Context S) : Context S :=
  { c with previous := c.current, current := none }

/-! ## Commits -/

/-- The lines traced for a commit. -/
def traced (c : Context S) (line : String) : List String :=
  if c.debug.isSet then [line ++ "\n"] else []

/-- The state that counts as the one before: the current one or, in transition,
    the one kept. -/
def leaving (c : Context S) : Option S :=
  c.current <|> c.previous

/-- A commit of a state, with what becomes of the stack. -/
def arrive (c : Context S) (next : Option S) (stack : List S) (trace : List String) :
    Attempt S where
  context := { c with previous := c.leaving, current := next, stack := stack }
  trace := trace
  result := .ok (if c.leaving == next then none else some ⟨c.leaving, next⟩)

/-- An operation that failed. -/
def failed (c : Context S) (e : ContextError) (trace : List String) : Attempt S :=
  ⟨c, trace, .error e⟩

/-- The name of a state, if it is one. -/
def nameOf (s : Option S) : String :=
  (s.map fun s => (Named.name s).text).getD ""

/-- Commits a state. Without a state the context is in transition; the trace
    cannot name it. -/
def set (c : Context S) (next : Option S) : Attempt S :=
  if c.debug.isSet && next.isNone then c.failed .nameless []
  else c.arrive next c.stack (c.traced ("ENTERING STATE  : " ++ nameOf next))

/-- Is there no room for a further suspended state? -/
def isFull (c : Context S) : Except ContextError Bool :=
  if !c.stackSize.isSet then .ok false
  else
    match c.stackSize.lt? (.int c.stack.length) with
    | some below => .ok (below || c.stackSize == .int c.stack.length)
    | none => .error (.badStackSize c.stackSize.kindName)

/-- Suspends the current state and commits another. -/
def push (c : Context S) (next : Option S) : Attempt S :=
  match c.current with
  | none =>
    if next.isNone then c.failed .nameless []
    else c.failed (.pushInTransition c.name.text (nameOf next)) []
  | some s =>
    match c.isFull with
    | .error e => c.failed e []
    | .ok true => c.failed (.stackFull c.name.text c.stackSize.text) []
    | .ok false =>
      if c.debug.isSet && next.isNone then c.failed .nameless []
      else c.arrive next (s :: c.stack) (c.traced ("PUSH TO STATE   : " ++ nameOf next))

/-- Commits the state suspended last. -/
def pop (c : Context S) : Attempt S :=
  match c.stack with
  | [] => c.failed (.stackEmpty c.name.text) (c.traced "POPPING ON EMPTY STATE STACK.")
  | s :: rest => c.arrive (some s) rest (c.traced ("POP TO STATE    : " ++ nameOf (some s)))

/-- The context without suspended states. -/
def emptyStack (c : Context S) : Context S :=
  { c with stack := [] }

/-- The number of suspended states. -/
def depth (c : Context S) : Nat :=
  c.stack.length

/-! ## Listeners -/

/-- The context with one more listener; it listens once only. -/
def addListener (c : Context S) (id : String) : Context S :=
  if c.listeners.contains id then c else { c with listeners := c.listeners ++ [id] }

/-- The context without a listener. -/
def removeListener (c : Context S) (id : String) : Context S :=
  { c with listeners := c.listeners.erase id }

/-- What a listener is told of a change. -/
def told (c : Context S) (id : String) (change : Change S) : Told :=
  ⟨id, c.name, change.previous.map Named.name, change.next.map Named.name⟩

end Context
end StateMachine
