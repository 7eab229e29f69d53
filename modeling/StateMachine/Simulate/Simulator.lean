import StateMachine.Model.StateIndex
import StateMachine.Simulate.Dispatch

/-!
# The simulator

Starting a machine, issuing transitions to it, starting it over, and the
listeners. Listeners are added to the simulation and to its context; a reset
makes a new context and registers those of the simulation again.
-/

namespace StateMachine.Simulator

variable {σ V : Type} (sim : Simulator σ V)

/-- How many transitions an owner may issue inside one another. -/
def nestingLimit : Nat := 1000

/-- How many transitions may be under way in a context: as many as an owner may
    issue, and one for each state a pop can go back to. A chain of pops that issue
    one another is never cut short by that. An interpreter also has a limit of its
    own on nested calls, which ends such a chain earlier, after some hundred
    re-issues; it is left out here. -/
def limit (c : Context String) : Nat :=
  nestingLimit + c.depth + 1

/-- Dispatches a transition in the simulation as it stands. -/
def dispatchHere : Dispatch σ V := fun name args => do
  let s ← get
  sim.dispatch (limit s.context) name args

/-- Issues a transition: gives the state arrived at and the log of the step. -/
def issue (name : Value) (args : List V) : Run σ (String × List String) :=
  issueBy sim.dispatchHere name args

/-- Enters the current state, from outside a transition. -/
def enterHere : Run σ Unit :=
  sim.enter sim.dispatchHere

/-- A context in no state. -/
def blankContext : Context String where
  name := sim.machine.className
  current := none
  stackSize := sim.stackSize
  debug := sim.debug

/-- A new context in a state, with listeners. -/
def freshContext (state : String) (listeners : List String) : Context String :=
  listeners.foldl Context.addListener { sim.blankContext with current := some state }

/-- Starts the machine over. -/
def reset : Run σ Unit := do
  Run.clearLog
  Run.fit sim.machine.startMismatch?
  match sim.machine.startPlace? with
  | none => throw (.noStart sim.machine.start.text sim.machine.name.text)
  | some p => do
    modify fun s => { s with context := sim.freshContext p.scopedName s.listeners }
    Run.report ("Entering start state: " ++ p.scopedName)
    sim.enterHere

/-- The simulation before the machine is started. -/
def blank (host : σ) : Simulation σ where
  context := sim.blankContext
  host := host

/-- Starts the machine. -/
def start (host : σ) : Except Fault Unit × Simulation σ :=
  sim.reset.run.run (sim.blank host)

/-- Pops the state, from outside a transition. -/
def popHere : Run σ Unit :=
  Run.attempt sim.host Context.pop

/-- The states of the machine as they are shown, with the numbers they are looked
    up by: of states with the same scoped name that of the last one. -/
def shownStates : List String :=
  sim.machine.places.map fun p =>
    "<_SimulatedState " ++ p.scopedName ++ " ("
      ++ toString ((sim.machine.index.idAt p).toOption.getD defaultStateId) ++ ")>"

end StateMachine.Simulator
