import StateMachine.Proofs.Scoping

/-!
# Known states

A context *holds* the state it is in, the state it was in before and those it
has suspended. States are *known* if they are found by their scoped names. A
machine *covers* a context if all states are known that the context holds
(`Machine.Covers`); operations on a context that commit known states keep it
covered.

The guards of a valid machine commit the states that the check found
(`Guard.Valid.endState_plan`, `Guard.Valid.pushState_plan`). If names are
unambiguous, they are the very same states (`Simulator.commitsFound`).
-/

namespace StateMachine

variable {σ V : Type}

/-! ## Covered contexts -/

/-- The context is in the state, was in it before, or has suspended it. -/
def Context.Holds (c : Context String) (name : String) : Prop :=
  c.current = some name ∨ c.previous = some name ∨ name ∈ c.stack

namespace Machine

variable {m : Machine} {c : Context String}

/-- The scoped name is that of a real state. -/
def Knows (m : Machine) (name : String) : Prop :=
  ∃ p, m.stateNamed? name = some p

/-- All states the context holds are known. -/
def Covers (m : Machine) (c : Context String) : Prop :=
  ∀ name, c.Holds name → m.Knows name

theorem covers_ignoresListeners (m : Machine) : Context.IgnoresListeners m.Covers := by
  intro c c' hcc' hc name hname
  rw [Context.Holds, hcc'.current_eq, hcc'.previous_eq, hcc'.stack_eq] at hname
  exact hc name hname

theorem Covers.emptyStack (h : m.Covers c) : m.Covers c.emptyStack := by
  rintro name (hname | hname | hname)
  · exact h name (.inl hname)
  · exact h name (.inr (.inl hname))
  · cases hname

theorem Covers.clear (h : m.Covers c) : m.Covers c.clear := by
  rintro name (hname | hname | hname)
  · cases hname
  · exact h name (.inl hname)
  · exact h name (.inr (.inr hname))

theorem Covers.setTransition (h : m.Covers c) (name : Value) : m.Covers (c.setTransition name) :=
  h

/-- A commit of a known state, with known states on the stack. -/
theorem Covers.arrive (h : m.Covers c) {next : String} (hnext : m.Knows next) {stack : List String}
    (hstack : ∀ name ∈ stack, m.Knows name) (trace : List String) :
    m.Covers (c.arrive (some next) stack trace).context := by
  rintro name (hname | hname | hname)
  · cases hname
    exact hnext
  · -- the state left is the current one or, in transition, the one kept
    have hleaving : (c.current <|> c.previous) = some name := hname
    rw [Option.orElse_eq_orElse, Option.orElse_eq_or] at hleaving
    rcases Option.or_eq_some_iff.1 hleaving with hcurrent | ⟨-, hprevious⟩
    · exact h name (.inl hcurrent)
    · exact h name (.inr (.inl hprevious))
  · exact hstack name hname

theorem Covers.set (h : m.Covers c) {next : String} (hnext : m.Knows next) :
    m.Covers (c.set (some next)).context := by
  rw [Context.set]
  split
  · exact h
  · exact h.arrive hnext (fun name hname => h name (.inr (.inr hname))) _

theorem Covers.push (h : m.Covers c) {next : String} (hnext : m.Knows next) :
    m.Covers (c.push (some next)).context := by
  rw [Context.push]
  cases hcurrent : c.current with
  | none => exact h
  | some name =>
    have hstack : ∀ name' ∈ name :: c.stack, m.Knows name' :=
      List.forall_mem_cons.2 ⟨h name (.inl hcurrent), fun name' hname' => h name' (.inr (.inr hname'))⟩
    rcases c.isFull with e | _ | _
    · exact h
    · dsimp only
      split
      · exact h
      · exact h.arrive hnext hstack _
    · exact h

theorem Covers.pop (h : m.Covers c) : m.Covers c.pop.context := by
  rw [Context.pop]
  cases hstack : c.stack with
  | nil => exact h
  | cons name rest =>
    have hknown : ∀ name' ∈ name :: rest, m.Knows name' := by
      intro name' hname'
      exact h name' (.inr (.inr (hstack ▸ hname')))
    obtain ⟨hname, hrest⟩ := List.forall_mem_cons.1 hknown
    exact h.arrive hname hrest _

/-- In a map, the text names the state, for the check and by the scoped name. -/
def Names (m : Machine) (map : StateMap) (v : Value) (p : Place) : Prop :=
  ∃ name, v = .str name ∧ m.findState? name (some map) = some p ∧
    m.stateNamed? p.scopedName = some p

end Machine

/-! ## Planned states -/

namespace Guard.Valid

variable {m : Machine} {map : StateMap} {g : Guard}

/-- A name that means a state is not empty. -/
theorem ne_empty_of_findState? (hwf : m.WellFormed) (hmap : map ∈ m.maps) {name : String} {p : Place}
    (h : m.findState? name (some map) = some p) : name ≠ "" := by
  rintro rfl
  obtain ⟨-, hs, hname⟩ := Machine.inMap?_eq_some h
  exact ((hwf map hmap).states _ hs).named hname

/-- The plan of a guard that does not stay names the state that the check found. -/
theorem endState_plan (hg : g.Valid m map) (hwf : m.WellFormed) (hmap : map ∈ m.maps)
    (hmove : g.move ≠ .pop) (hnil : g.endState ≠ .str nilState) :
    ∃ name p, g.endState = .str name ∧ m.findState? name (some map) = some p ∧ p ∈ m.places ∧
      (g.plan map.name.text).endState = .str p.scopedName := by
  obtain ⟨name, hname, hknown⟩ := hg.endState hmove
  obtain ⟨p, hp⟩ := hknown.resolve_left fun h => hnil (by rw [hname, h])
  refine ⟨name, p, hname, hp, Machine.mem_places_of_findState? (by rintro _ ⟨⟩; exact hmap) hp, ?_⟩
  have htarget : g.hasTarget = true := by
    have hset : (Value.str name).isSet = true := by
      simpa [Value.isSet] using ne_empty_of_findState? hwf hmap hp
    have hne : (g.endState == .str nilState) = false :=
      Bool.eq_false_iff.2 fun h => hnil (Value.beq_str_iff.1 h)
    rw [hasTarget, hne, hname, hset, bne_iff_ne.2 hmove]
    rfl
  change (if g.hasTarget then scopeValue g.endState map.name.text else .str "") = _
  rw [htarget, hname, ← Machine.scopeName_of_findState? hp]
  rfl

/-- The plan of a guard that pushes names the state that the check found. -/
theorem pushState_plan (hg : g.Valid m map) (hmap : map ∈ m.maps) (hmove : g.move = .push) :
    ∃ name p, g.pushState = .str name ∧ m.findState? name (some map) = some p ∧ p ∈ m.places ∧
      (g.plan map.name.text).pushState = .str p.scopedName := by
  obtain ⟨name, hname, p, hp⟩ := hg.pushState hmove
  refine ⟨name, p, hname, hp, Machine.mem_places_of_findState? (by rintro _ ⟨⟩; exact hmap) hp, ?_⟩
  change (if g.move == .push then scopeValue g.pushState map.name.text else .str "") = _
  rw [hmove, hname, ← Machine.scopeName_of_findState? hp]
  rfl

end Guard.Valid

namespace Simulator

variable {sim : Simulator σ V}

/-- A real state can be gone to by its scoped name. -/
theorem target_scopedName {p : Place} (hp : p ∈ sim.machine.places) :
    sim.target (.str p.scopedName) = (pure p.scopedName : Run σ String) := by
  obtain ⟨q, hq⟩ := Machine.exists_stateNamed hp
  have hplace : sim.place p.scopedName = (pure q : Run σ Place) := by rw [place, hq]
  rw [target, hplace, pure_bind]

/-! ## Commits -/

/-- The guard commits the states that its names mean to the check. -/
structure CommitsFound (sim : Simulator σ V) (map : StateMap) (g : Guard) : Prop where
  /-- A guard that sets goes to its end state. -/
  set : g.move = .set → g.endState ≠ .str nilState → (g.plan map.name.text).savesState = false ∧
    ∃ p, sim.machine.Names map g.endState p ∧
      ∀ again, sim.commit again (g.plan map.name.text) none = (do
        Run.attempt sim.host fun c => c.set (some p.scopedName)
        sim.enter again)
  /-- A guard that pushes goes to its end state and from there to its push state. -/
  push : g.move = .push → g.endState ≠ .str nilState → (g.plan map.name.text).savesState = false ∧
    ∃ p q, sim.machine.Names map g.endState p ∧ sim.machine.Names map g.pushState q ∧
      ∀ again, sim.commit again (g.plan map.name.text) none = (do
        Run.attempt sim.host fun c => c.set (some p.scopedName)
        sim.enter again
        Run.attempt sim.host fun c => c.push (some q.scopedName)
        sim.enter again)
  /-- A guard that pushes and stays goes to its push state. -/
  pushHere : g.move = .push → g.endState = .str nilState →
    ∃ q, sim.machine.Names map g.pushState q ∧
      ∀ again saved, sim.commit again (g.plan map.name.text) saved = (do
        if g.hasActions then sim.setDestination (g.plan map.name.text) saved
        Run.attempt sim.host fun c => c.push (some q.scopedName)
        sim.enter again)

/-- A valid guard of an unambiguous machine does. -/
theorem commitsFound (hwf : sim.machine.WellFormed) (hnames : sim.machine.Unambiguous)
    {map : StateMap} (hmap : map ∈ sim.machine.maps) {g : Guard} (hg : g.Valid sim.machine map) :
    sim.CommitsFound map g := by
  -- a guard with an end state leaves the state it is taken in
  have hloop : g.endState ≠ .str nilState → g.isLoopback = false := by
    intro hnil
    have hne : (g.endState == .str nilState) = false :=
      Bool.eq_false_iff.2 fun h => hnil (Value.beq_str_iff.1 h)
    rw [Guard.isLoopback, hne, Bool.and_false]
  have hend : g.move ≠ .pop → g.endState ≠ .str nilState →
      ∃ p, sim.machine.Names map g.endState p ∧
        sim.setDestination (g.plan map.name.text) none =
          (Run.attempt sim.host fun c => c.set (some p.scopedName)) := by
    intro hmove hnil
    obtain ⟨name, p, hname, hfind, hp, hplan⟩ := hg.endState_plan hwf hmap hmove hnil
    refine ⟨p, ⟨name, hname, hfind, hnames.stateNamed hp⟩, ?_⟩
    rw [setDestination, destination, hplan, target_scopedName hp, pure_bind]
  have hpush : g.move = .push → ∃ q, sim.machine.Names map g.pushState q ∧
      sim.target (g.plan map.name.text).pushState = (pure q.scopedName : Run σ String) := by
    intro hmove
    obtain ⟨name, q, hname, hfind, hq, hplan⟩ := hg.pushState_plan hmap hmove
    exact ⟨q, ⟨name, hname, hfind, hnames.stateNamed hq⟩, by rw [hplan, target_scopedName hq]⟩
  constructor
  · intro hmove hnil
    obtain ⟨p, hp, hset⟩ := hend (by rw [hmove]; decide) hnil
    refine ⟨by simp [Guard.plan, hloop hnil], p, hp, fun again => ?_⟩
    rw [commit, hset]
    simp [Guard.plan, hmove, hloop hnil]
  · intro hmove hnil
    obtain ⟨p, hp, hset⟩ := hend (by rw [hmove]; decide) hnil
    obtain ⟨q, hq, htarget⟩ := hpush hmove
    refine ⟨by simp [Guard.plan, hloop hnil], p, q, hp, hq, fun again => ?_⟩
    rw [commit, hset, htarget]
    simp [Guard.plan, hmove, hloop hnil]
  · intro hmove hnil
    obtain ⟨q, hq, htarget⟩ := hpush hmove
    have hloop : g.isLoopback = true := by
      rw [Guard.isLoopback, Value.beq_str_iff.2 hnil, hmove]
      rfl
    refine ⟨q, hq, fun again saved => ?_⟩
    rw [commit, htarget]
    simp [Guard.plan, hmove, hloop]

end Simulator
end StateMachine
