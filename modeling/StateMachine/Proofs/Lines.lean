import StateMachine.Proofs.RetouchedFiles

/-!
# Lines do not matter

The lines on which a machine and its maps were written are for messages about
the description. To leave them out (`Machine.unlined`) is a retouch, so nothing
that is done with a machine depends on them: a simulation of the machine without
these lines is the same (`Simulator.agrees_unlined`), and so is every generated
file (`Machine.generateWith_unlined`).
-/

namespace StateMachine

variable {σ V : Type}

/-- The map without its line. -/
def StateMap.unlined (m : StateMap) : StateMap :=
  { m with line := .int 0 }

/-- The machine without its line and those of its maps. -/
def Machine.unlined (m : Machine) : Machine :=
  { m with maps := m.maps.map StateMap.unlined, line := .int 0 }

/-- To leave out the lines of a machine and its maps. -/
def Retouch.unlining : Retouch where
  line _ := .int 0
  transition t := t
  name _ := rfl
  parameters _ := rfl
  ordered _ := rfl

theorem Machine.retouched_unlining (m : Machine) : m.retouched .unlining = m.unlined := by
  have hstate : State.retouched .unlining = id := by
    funext s
    exact congrArg (fun ts => { s with transitions := ts }) (List.map_id s.transitions)
  have hmap : StateMap.retouched .unlining = StateMap.unlined := by
    funext map
    rw [StateMap.retouched, hstate, List.map_id, Option.map_id]
    rfl
  rw [retouched, hmap]
  rfl

/-- The simulator of the machine without lines. -/
def Simulator.unlined (sim : Simulator σ V) : Simulator σ V :=
  { sim with machine := sim.machine.unlined }

/-- A simulator of a machine without lines does what that of the machine does. -/
theorem Simulator.agrees_unlined (sim : Simulator σ V) : sim.unlined.Agrees sim := by
  rw [unlined, ← sim.machine.retouched_unlining]
  exact sim.agrees_retouched .unlining

/-- Of the machine without lines, a generator makes the file it makes of the machine. -/
theorem Machine.generateWith_unlined (m : Machine) (g : Generator) (o : Options) (base : Value) :
    m.unlined.generateWith g o base = m.generateWith g o base := by
  rw [← m.retouched_unlining]
  exact m.generateWith_retouched .unlining (fun _ _ _ _ _ _ _ => rfl) o base

end StateMachine
