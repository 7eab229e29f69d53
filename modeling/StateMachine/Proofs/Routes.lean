import StateMachine.Proofs.KnownStates
import StateMachine.Proofs.Reissue

/-!
# Routes

Where the guards of a valid machine lead. A guard leads along one of five
*routes* (`Route`): to a state, to nowhere, to a state and on to another one for
which it is suspended, to a state for which the current one is suspended, or
back to the state suspended last.

A choice is taken in four stages: *setting out* from the current state
(`Simulator.setOut`), carrying out the actions, *settling* where the route leads
(`Simulator.settle`), and offering a further transition.

* Every guard of a valid machine has a route (`Guard.Valid.exists_route`).
* Committing the next state is settling along the route (`commit_eq_settle`).
* Taking a choice goes through its stages (`takeUpTo_eq_setOut`), and issuing a
  transition comes to what taking the selected choice came to (`issue_taken`).
-/

namespace StateMachine

variable {σ V : Type}

/-- Where a guard leads. -/
inductive Route
  /-- To a state. -/
  | set (q : Place)
  /-- Nowhere: the machine stays in its state. -/
  | stay
  /-- To the state `q` and, suspending it, to the state `r`. -/
  | push (q r : Place)
  /-- To the state `r`, suspending the current one. -/
  | pushHere (r : Place)
  /-- Back to the state suspended last. -/
  | pop

/-- Is the current state not left? -/
def Route.stays : Route → Bool
  | .stay | .pushHere _ => true
  | .set _ | .push _ _ | .pop => false

/-- In a map, the value names a real state, which is found by this name. -/
def Machine.Means (m : Machine) (map : StateMap) (v : Value) (q : Place) : Prop :=
  scopeValue v map.name.text = .str q.scopedName ∧ m.stateNamed? q.scopedName = some q

/-- The guard of a state of the map leads along the route. -/
def Guard.Leads (g : Guard) (m : Machine) (map : StateMap) : Route → Prop
  | .set q => g.move = .set ∧ g.hasTarget = true ∧ m.Means map g.endState q
  | .stay => g.move = .set ∧ g.isLoopback = true
  | .push q r => g.move = .push ∧ g.hasTarget = true ∧ m.Means map g.endState q ∧
    m.Means map g.pushState r
  | .pushHere r => g.move = .push ∧ g.isLoopback = true ∧ m.Means map g.pushState r
  | .pop => g.move = .pop

namespace Guard

variable {m : Machine} {map : StateMap} {g : Guard}

/-- A guard that has a target does not stay. -/
theorem isLoopback_of_hasTarget (h : g.hasTarget = true) : g.isLoopback = false := by
  simp only [hasTarget, Bool.and_eq_true, Bool.not_eq_true'] at h
  rw [isLoopback, h.2, Bool.and_false]

theorem isLoopback_of_pop (h : g.move = .pop) : g.isLoopback = false := by
  rw [isLoopback, h]
  rfl

/-- A guard that stays leads along a route that does. -/
theorem Leads.isLoopback_eq {r : Route} (h : g.Leads m map r) : g.isLoopback = r.stays := by
  cases r with
  | set q => exact isLoopback_of_hasTarget h.2.1
  | stay => exact h.2
  | push q r => exact isLoopback_of_hasTarget h.2.1
  | pushHere r => exact h.2.1
  | pop => exact isLoopback_of_pop h

/-- A guard that pops leads back. -/
theorem Leads.eq_pop {r : Route} (h : g.Leads m map r) (hmove : g.move = .pop) : r = .pop := by
  cases r with
  | pop => rfl
  | set q | stay | push q r | pushHere r =>
    rw [h.1] at hmove
    cases hmove

/-- Every guard of a valid machine leads somewhere. -/
theorem Valid.exists_route (hg : g.Valid m map) (hwf : m.WellFormed) (hmap : map ∈ m.maps) :
    ∃ r, g.Leads m map r := by
  -- the state found by a scoped name may be another one than the check found
  have hmeans : ∀ {v : Value} {p : Place}, p ∈ m.places →
      scopeValue v map.name.text = .str p.scopedName → ∃ q, m.Means map v q := by
    intro v p hp hv
    obtain ⟨q, hq⟩ := Machine.exists_stateNamed hp
    have hname := (Machine.stateNamed?_eq_some hq).2
    exact ⟨q, by rw [hv, hname], by rw [hname, hq]⟩
  have hend : g.move ≠ .pop → g.endState ≠ .str nilState →
      g.hasTarget = true ∧ ∃ q, m.Means map g.endState q := by
    intro hmove hnil
    obtain ⟨name, p, hname, hfind, hp, hplan⟩ := hg.endState_plan hwf hmap hmove hnil
    have htarget : g.hasTarget = true := by
      have hset : (Value.str name).isSet = true := by
        simpa [Value.isSet] using ne_empty_of_findState? hwf hmap hfind
      have hne : (g.endState == .str nilState) = false :=
        Bool.eq_false_iff.2 fun h => hnil (Value.beq_str_iff.1 h)
      rw [hasTarget, hne, hname, hset, bne_iff_ne.2 hmove]
      rfl
    refine ⟨htarget, hmeans hp ?_⟩
    rw [← hplan]
    simp [Guard.plan, htarget]
  have hpush : g.move = .push → ∃ r, m.Means map g.pushState r := by
    intro hmove
    obtain ⟨name, p, -, -, hp, hplan⟩ := hg.pushState_plan hmap hmove
    refine hmeans hp ?_
    rw [← hplan]
    simp [Guard.plan, hmove]
  have hloop : g.move ≠ .pop → g.endState = .str nilState → g.isLoopback = true := by
    intro hmove hnil
    rw [isLoopback, Value.beq_str_iff.2 hnil, bne_iff_ne.2 hmove]
    rfl
  by_cases hnil : g.endState = .str nilState <;> cases hmove : g.move
  · exact ⟨.stay, hmove, hloop (by rw [hmove]; decide) hnil⟩
  · obtain ⟨r, hr⟩ := hpush hmove
    exact ⟨.pushHere r, hmove, hloop (by rw [hmove]; decide) hnil, hr⟩
  · exact ⟨.pop, hmove⟩
  · obtain ⟨htarget, q, hq⟩ := hend (by rw [hmove]; decide) hnil
    exact ⟨.set q, hmove, htarget, hq⟩
  · obtain ⟨htarget, q, hq⟩ := hend (by rw [hmove]; decide) hnil
    obtain ⟨r, hr⟩ := hpush hmove
    exact ⟨.push q r, hmove, htarget, hq, hr⟩
  · exact ⟨.pop, hmove⟩

end Guard

namespace Choice

/-- The plan of the guard, in the map it belongs to. -/
def plan (x : Choice) : Plan :=
  x.guard.plan x.candidate.placed.place.map.name.text

/-- The values of the parameters of the transition. -/
def bindings (x : Choice) (args : List V) : Bindings V :=
  Simulator.bind x.candidate.transition (x.candidate.arguments args)

end Choice

namespace Simulator

section

variable (sim : Simulator σ V) (again : Dispatch σ V)

/-! ## Stages -/

/-- Begins to take a choice: all that comes before its actions. Gives the state that
    was saved, if any. -/
def setOut (x : Choice) : Run σ (Option String) := do
  let state ← Run.current
  Run.report (takenLine x.candidate.transition x.guard state)
  Run.fit x.guard.planMismatch?
  let saved ← if x.plan.savesState then some <$> Run.current else pure none
  if x.plan.exitsCurrent then sim.leave again
  if x.plan.clearsState then Run.changeContext Context.clear
  return saved

/-- Puts the next state in place and enters it, along a route from the state
    `here`. The state is set again if there were actions. -/
def settle (here : String) (acted : Bool) : Route → Run σ Unit
  | .set q => do
    Run.attempt sim.host fun c => c.set (some q.scopedName)
    sim.enter again
  | .stay => if acted then Run.attempt sim.host fun c => c.set (some here) else pure ()
  | .push q r => do
    Run.attempt sim.host fun c => c.set (some q.scopedName)
    sim.enter again
    Run.attempt sim.host fun c => c.push (some r.scopedName)
    sim.enter again
  | .pushHere r => do
    if acted then Run.attempt sim.host fun c => c.set (some here)
    Run.attempt sim.host fun c => c.push (some r.scopedName)
    sim.enter again
  | .pop => Run.attempt sim.host Context.pop

theorem takeUpTo_eq_setOut (args : List V) (x : Choice) :
    sim.takeUpTo again args x = (do
      let saved ← sim.setOut again x
      sim.actAndCommit again x.plan x.guard.actions (x.bindings args) saved
      sim.offer again x.plan (x.bindings args)) := by
  change (do
    let state ← Run.current
    Run.report (takenLine x.candidate.transition x.guard state)
    Run.fit x.guard.planMismatch?
    sim.takeAlone again x.plan x.guard.actions (x.bindings args)
    sim.offer again x.plan (x.bindings args)) = _
  simp only [takeAlone, setOut, bind_assoc]
  refine bind_congr fun _ => bind_congr fun _ => bind_congr fun _ => ?_
  cases hsaves : x.plan.savesState <;> cases hexits : x.plan.exitsCurrent <;>
    cases hclears : x.plan.clearsState <;> simp

end

variable {sim : Simulator σ V} {again : Dispatch σ V}

/-- Setting out from the state `here` by a guard that can be planned. -/
theorem setOut_on {x : Choice} (hplan : x.guard.planMismatch? = none) {s : Simulation σ}
    {here : String} (hhere : s.context.current = some here) :
    (sim.setOut again x).on s = (do
      if x.plan.exitsCurrent then sim.leave again
      if x.plan.clearsState then Run.changeContext Context.clear
      return if x.plan.savesState then some here else none).on
        { s with log := s.log ++ [takenLine x.candidate.transition x.guard here] } := by
  rw [setOut, Run.on_bind_ok (Run.on_current_of_some hhere), Run.on_bind_ok (Run.on_report _), hplan,
    Run.fit_none, pure_bind]
  cases x.plan.savesState with
  | false => rfl
  | true =>
    rw [if_pos rfl, map_eq_pure_bind, bind_assoc,
      Run.on_bind_ok (Run.on_current_of_some (by exact hhere))]
    rfl

/-- A state can be gone to by a name that means it. -/
theorem target_of_means {map : StateMap} {v : Value} {q : Place} (h : sim.machine.Means map v q) :
    sim.target (scopeValue v map.name.text) = (pure q.scopedName : Run σ String) := by
  rw [h.1]
  exact target_scopedName (Machine.stateNamed?_eq_some h.2).1

/-- Committing the next state is settling along the route of the guard. -/
theorem commit_eq_settle (again : Dispatch σ V) {g : Guard} {map : StateMap} {r : Route}
    (hr : g.Leads sim.machine map r) {here : String} {saved : Option String}
    (hsaved : saved = if (g.plan map.name.text).savesState then some here else none) :
    sim.commit again (g.plan map.name.text) saved = sim.settle again here g.hasActions r := by
  subst hsaved
  cases r with
  | set q =>
    obtain ⟨hmove, htarget, hq⟩ := hr
    simp [commit, settle, Guard.plan, hmove, Guard.isLoopback_of_hasTarget htarget, setDestination,
      destination, htarget, target_of_means hq]
  | stay =>
    obtain ⟨hmove, hloop⟩ := hr
    cases hacts : g.hasActions <;>
      simp [commit, settle, Guard.plan, hmove, hloop, hacts, setDestination, destination]
  | push q r =>
    obtain ⟨hmove, htarget, hq, hr⟩ := hr
    simp [commit, settle, Guard.plan, hmove, Guard.isLoopback_of_hasTarget htarget, setDestination,
      destination, htarget, target_of_means hq, target_of_means hr]
  | pushHere r =>
    obtain ⟨hmove, hloop, hr⟩ := hr
    cases hacts : g.hasActions <;>
      simp [commit, settle, Guard.plan, hmove, hloop, hacts, setDestination, destination,
        target_of_means hr]
  | pop =>
    have hmove : g.move = .pop := hr
    simp [commit, settle, Guard.plan, hmove]

/-! ## Selected choices -/

/-- The current state is the one the simulation is in. -/
theorem At.current_eq {p : Place} {s : Simulation σ} (hp : sim.At p s) :
    s.context.current = some p.scopedName := by
  obtain ⟨state, hcurrent, hstate⟩ := hp
  rw [hcurrent, (Machine.stateNamed?_eq_some hstate).2]

/-- The state the simulation is in is found by its scoped name. -/
theorem At.stateNamed?_eq {p : Place} {s : Simulation σ} (hp : sim.At p s) :
    sim.machine.stateNamed? p.scopedName = some p := by
  obtain ⟨state, -, hstate⟩ := hp
  rwa [(Machine.stateNamed?_eq_some hstate).2]

/-- A choice is ready to be taken in the state `p`, along a route. -/
structure Ready (sim : Simulator σ V) (p : Place) (x : Choice) (r : Route) (s : Simulation σ) :
    Prop where
  leads : x.guard.Leads sim.machine p.map r
  plan_eq : x.plan = x.guard.plan p.map.name.text
  fits : x.guard.planMismatch? = none
  named : sim.machine.stateNamed? p.scopedName = some p
  current : s.context.current = some p.scopedName

/-- Committing the next state of a choice that was ready is settling along its
    route. -/
theorem Ready.commit_eq {p : Place} {x : Choice} {r : Route} {s : Simulation σ}
    (hr : sim.Ready p x r s) (again : Dispatch σ V) {saved : Option String}
    (hsaved : saved = if x.plan.savesState then some p.scopedName else none) :
    sim.commit again x.plan saved = sim.settle again p.scopedName x.guard.hasActions r := by
  rw [hr.plan_eq] at hsaved ⊢
  exact commit_eq_settle again hr.leads hsaved

section Selected

variable (hwf : sim.machine.WellFormed) {p : Place} {name : Value} {args : List V}
  {s s₁ : Simulation σ} {x : Choice}

include hwf

/-- A choice is picked if and only if it is selected. -/
theorem pick_eq_ok_iff (hp : p ∈ sim.machine.places) :
    (sim.pick again p name args).on (s.underway name) = (.ok x, s₁) ↔
      sim.Selects again p name args s (.ok x) s₁ := by
  have hguards : ∀ c ∈ p.candidates name args.length, c.transition.guards ≠ [] :=
    fun c hc => hwf.guards_of_mem_candidates hp hc
  rw [pick, findSomeM?_choose sim again args hguards, Run.on_bind_eq_ok]
  constructor
  · rintro ⟨_ | y, s₂, hfind, hy⟩
    · cases hy
    · cases hy
      have := Run.findM?_on (sim.asks again args) (p.choices name args.length) (s.underway name)
      rw [Place.choices, hfind] at this
      exact .choice this
  · rintro (hs | _ | _)
    exact ⟨some x, s₁, hs.eq, rfl⟩

/-- A dispatch that picks a choice selects it. -/
theorem exists_selects_ok (hp : p ∈ sim.machine.places)
    (h : ((sim.pick again p name args).on (s.underway name)).1.isOk = true) :
    ∃ x, sim.Selects again p name args s (.ok x)
      ((sim.pick again p name args).on (s.underway name)).2 := by
  obtain ⟨x, hpick⟩ := Run.exists_ok h
  exact ⟨x, (pick_eq_ok_iff hwf hp).1 hpick⟩

omit hwf in
/-- What is selected is one of the choices. -/
theorem Selects.mem_choices (h : sim.Selects again p name args s (.ok x) s₁) :
    x ∈ p.choices name args.length := by
  obtain ⟨before, after, hxs, -, -⟩ | _ | _ := h
  rw [hxs]
  exact List.mem_append_right _ List.mem_cons_self

omit hwf in
/-- Selecting leaves the machine where it is. -/
theorem Selects.alike (h : sim.Selects again p name args s (.ok x) s₁)
    (hobserves : sim.host.Observes) : (s.underway name).context.Alike s₁.context := by
  obtain hs | _ | _ := h
  exact search_alike again hobserves hs

omit hwf in
/-- What is selected belongs to a state of the same map. -/
theorem Selects.plan_eq (h : sim.Selects again p name args s (.ok x) s₁) :
    x.plan = x.guard.plan p.map.name.text := by
  rw [Choice.plan, Place.map_of_mem_candidates (Place.mem_choices h.mem_choices).1]

/-- What is selected in a valid machine is ready to be taken, along a route. -/
theorem Selects.exists_ready (h : sim.Selects again p name args s (.ok x) s₁)
    (hvalid : sim.machine.Valid) (haloof : sim.host.Aloof) (hp : sim.At p s) :
    ∃ r, sim.Ready p x r s₁ := by
  have hnamed := hp.stateNamed?_eq
  have hplace := (Machine.stateNamed?_eq_some hnamed).1
  obtain ⟨hc, hg⟩ := Place.mem_choices h.mem_choices
  have hguard := (hvalid.of_mem_candidates hplace hc).guards _ hg
  obtain ⟨r, hr⟩ := hguard.exists_route hwf (Machine.mem_places.1 hplace).1
  have hcurrent := (h.alike haloof.observes).current_eq.trans hp.current_eq
  exact ⟨r, hr, h.plan_eq, hguard.plan, hnamed, hcurrent⟩

/-- Issuing a transition comes to what taking the selected choice, and the transition
    issued after it, came to. -/
theorem issue_taken (haloof : sim.host.Aloof) (hp : sim.At p s)
    (hselects : sim.Selects again p name args s.unlogged (.ok x) s₁)
    {r : Except Fault (Option (List V))} {s₂ : Simulation σ}
    (htake : (sim.takeUpTo again args x).on s₁ = (r, s₂)) :
    (sim.issue name args).on s =
      issued (concluded name x (match r with
        | .error f => (.error f, s₂)
        | .ok none => (.ok (), s₂)
        | .ok (some args') =>
          (sim.dispatch (nestingLimit + s.context.depth) x.guard.popTransition args').on s₂)) := by
  have hplace := (Machine.stateNamed?_eq_some hp.stateNamed?_eq).1
  have hpick := (pick_eq_ok_iff hwf hplace).2 hselects
  have hunlogged : sim.At p s.unlogged := hp
  exact issue_on (dispatchBy_taken haloof again _ hunlogged hpick htake)

end Selected

end Simulator
end StateMachine
