import StateMachine.Model.Machine
import StateMachine.Simulate.Fault

/-!
# Simulations and their hosts

A *simulation* is a machine while it is simulated: its context, the log of the
current step, the listeners that are to be registered again after a reset, the
trace, and the state of its *host*. The host is the world around the machine:
the owner, the names around it and the listeners. It evaluates expressions,
assigns properties, carries out actions and is told of changes.

Everything happens in `Run`: a step may end in a fault, and what it did to the
simulation before that stays done. Since an owner may issue a transition while
it carries out an action, the operations of a host that run code are given a
way to issue transitions.
-/

namespace StateMachine

/-- A machine while it is simulated. The current state is given by its scoped
    name. -/
structure Simulation (σ : Type) where
  context : Context String
  /-- The log of the current step. -/
  log : List String := []
  /-- The listeners added to the simulation and not removed from it. -/
  listeners : List String := []
  /-- The lines of the trace. -/
  trace : List String := []
  /-- The state of the host. -/
  host : σ

/-- A step of a simulation: it may end in a fault. -/
abbrev Run (σ α : Type) := ExceptT Fault (StateM (Simulation σ)) α

/-- The values of parameters by their names; of several values of one name the
    last one counts. -/
abbrev Bindings (V : Type) := List (Value × V)

/-- A way to issue a transition with arguments; gives the state arrived at. -/
abbrev Issue (σ V : Type) := Value → List V → Run σ String

/-- The world around a machine. -/
structure Host (σ V : Type) where
  /-- What the owner is called. -/
  ownerName : String
  /-- The names around the machine. -/
  names : σ → List String
  /-- Evaluates an expression. -/
  evaluate : Issue σ V → String → Bindings V → Run σ V
  /-- Does a value count as true? -/
  isTrue : V → Bool
  /-- The arguments a value stands for, where a list of them is asked for. -/
  spread : V → Run σ (List V)
  /-- Assigns to a name around the machine, if it is static, or to a property of
      the owner. -/
  assign : (static : Bool) → Value → V → Run σ Unit
  /-- What a name means: a name around the machine, if it is static, or one of
      the owner's. -/
  member : (static : Bool) → Value → Run σ (Option V)
  /-- Calls what a name means. -/
  call : Issue σ V → V → List V → Run σ Unit
  /-- Tells a listener of a change. -/
  notify : String → Change String → Run σ Unit

namespace Run

variable {σ : Type}

/-- Adds a line to the log. -/
def report (line : String) : Run σ Unit :=
  modify fun s => { s with log := s.log ++ [line] }

/-- Empties the log. -/
def clearLog : Run σ Unit :=
  modify fun s => { s with log := [] }

/-- The log, which is emptied. -/
def takeLog : Run σ (List String) := do
  let s ← get
  clearLog
  return s.log

/-- Changes the context. -/
def changeContext (f : Context String → Context String) : Run σ Unit :=
  modify fun s => { s with context := f s.context }

/-- Changes the state of the host. -/
def changeHost (f : σ → σ) : Run σ Unit :=
  modify fun s => { s with host := f s.host }

/-- Adds a listener to the simulation and to its context. -/
def addListener (id : String) : Run σ Unit :=
  modify fun s =>
    { s with listeners := s.listeners ++ [id], context := s.context.addListener id }

/-- Removes a listener from the simulation and from its context. -/
def removeListener (id : String) : Run σ Unit :=
  modify fun s =>
    { s with listeners := s.listeners.erase id, context := s.context.removeListener id }

/-- The result, or the fault in its place. -/
def lift {α : Type} (r : Except Fault α) : Run σ α :=
  match r with
  | .ok a => pure a
  | .error f => throw f

/-- The fault of a mismatch, if there is one. -/
def fit (m : Option Mismatch) : Run σ Unit :=
  match m with
  | some m => throw (.mismatch m)
  | none => pure ()

/-- The scoped name of the current state. -/
def current : Run σ String := do
  let s ← get
  lift (s.context.state.mapError .context)

/-- The scoped name of the current state, or the word for having none. -/
def currentName : Run σ String := do
  let s ← get
  return s.context.current.getD "InTransition"

/-- Runs a step and then another, whatever the first came to. A fault of the
    second one counts before one of the first. -/
def ensure {α : Type} (step : Run σ α) (final : Run σ Unit) : Run σ α :=
  ExceptT.mk do
    let first ← step.run
    let second ← final.run
    match second with
    | .ok () => pure first
    | .error f => pure (.error f)

/-- Tells listeners of a change one by one, until one of them raises a fault. -/
def notifyAll {V : Type} (host : Host σ V) (change : Change String) : List String → Run σ Unit
  | [] => pure ()
  | id :: ids => do
    host.notify id change
    notifyAll host change ids

/-- Takes over an attempt on the context, and tells those listeners of the change
    that are registered when it is made. -/
def attempt {V : Type} (host : Host σ V) (operation : Context String → Attempt String) :
    Run σ Unit := do
  let s ← get
  let a := operation s.context
  set { s with context := a.context, trace := s.trace ++ a.trace }
  match a.result with
  | .error e => throw (.context e)
  | .ok none => pure ()
  | .ok (some change) => notifyAll host change a.context.listeners

end Run
end StateMachine
