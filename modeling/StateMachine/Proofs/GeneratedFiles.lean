import StateMachine.Generate.File

/-!
# Generated files

What a file that was generated says about its machine: every check on the way to
it was passed, and it holds the text that the generator of the target makes of
the machine and its start state (`generate_eq_ok`).
-/

namespace StateMachine.Machine

variable {m : Machine} {t : Target} {o : Options} {base : Value}

theorem generatorFor_eq_ok {g : Generator} (h : generatorFor t o = .ok g) :
    Generator.ofTarget? t = some g := by
  rw [generatorFor] at h
  split at h
  · cases h
  · split at h
    · next hg =>
      cases h
      exact hg
    · cases h

/-- A file is generated for a machine with a start state and no mismatch, and holds the text of
    the generator. -/
theorem generate_eq_ok {f : OutputFile} (h : m.generate t o base = .ok f) :
    ∃ g start, Generator.ofTarget? t = some g ∧ m.startPlace? = some start ∧
      g.mismatch? m o = none ∧ f.content = g.text m o start := by
  rw [generate] at h
  split at h
  · cases h
  next g hg =>
  rw [generateWith] at h
  -- every check on the way to the file either fails or leads on
  split at h
  · cases h
  split at h
  · cases h
  split at h
  · cases h
  next start hstart =>
  split at h
  · cases h
  next hmismatch =>
  cases h
  exact ⟨g, start, generatorFor_eq_ok hg, hstart, hmismatch, rfl⟩

theorem exists_file_of_isSome (h : (m.generate t o base).toOption.isSome = true) :
    ∃ f, m.generate t o base = .ok f := by
  cases hf : m.generate t o base with
  | error e =>
    rw [hf] at h
    cases h
  | ok f => exact ⟨f, rfl⟩

end StateMachine.Machine
