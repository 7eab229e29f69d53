import StateMachine.Proofs.KnownStates
import StateMachine.Proofs.Steps

/-!
# Valid machines stay in known states

In a simulation of a valid machine with an aloof host, all states that the
context holds are known.

* Each step keeps this and does not miss a state, from committing a state
  (`commit_keeps`) and taking a guard (`take_keeps`) up to transitions issued
  inside one another (`dispatch_keeps`).
* So it is true of every simulation that requests lead to
  (`Simulator.Reachable`), and no request misses a state
  (`valid_machine_stays_known`).
-/

namespace StateMachine

variable {σ V : Type}

/-- The fault is one that the host may raise. -/
def Host.MayRaise (h : Host σ V) (f : Fault) : Prop :=
  ∃ (α : Type) (x : Run σ α), h.Does x ∧ ∃ s s', x.on s = (.error f, s')

/-- The fault is not that of a missing state, unless it is the host's own. -/
def Simulator.Expects (sim : Simulator σ V) (f : Fault) : Prop :=
  (∀ name, f ≠ .noState name) ∨ sim.host.MayRaise f

/-- The step keeps the context in known states, and does not miss one. -/
abbrev Simulator.Safe {α : Type} (sim : Simulator σ V) (x : Run σ α) : Prop :=
  Run.Keeps sim.machine.Covers sim.Expects x

namespace Simulator

variable {sim : Simulator σ V}

/-- Being in known states is kept by what an aloof host does. -/
theorem steady_covers (haloof : sim.host.Aloof) :
    sim.Steady sim.machine.Covers sim.Expects where
  aloof := haloof
  raises hx s _ s' hf := .inr ⟨_, _, hx, s, s', hf⟩
  faults _ hf := .inl hf
  listeners := sim.machine.covers_ignoresListeners
  emptyStack _ hc := hc.emptyStack
  current _ name hc hname := .inl (hc name (.inl hname))

/-- A new context in a real state is in known states. -/
theorem freshContext_covers {p : Place} (hp : p ∈ sim.machine.places) (ids : List String) :
    sim.machine.Covers (sim.freshContext p.scopedName ids) := by
  have hadd : ∀ c : Context String, sim.machine.Covers c →
      sim.machine.Covers (ids.foldl Context.addListener c) := by
    induction ids with
    | nil => exact fun c hc => hc
    | cons id ids ih =>
      refine fun c hc => ih _ (sim.machine.covers_ignoresListeners _ _ ?_ hc)
      rw [Context.addListener]
      split <;> rfl
  refine hadd _ ?_
  rintro name (hname | hname | hname) <;> cases hname
  exact Machine.exists_stateNamed hp

/-! ## Guards -/

section Steps

variable (h : sim.Steady sim.machine.Covers sim.Expects)

include h

/-- Setting the state saved, or else a real one. -/
theorem setDestination_keeps {plan : Plan} {saved : Option String}
    (hsaved : ∀ name, saved = some name → sim.machine.Knows name)
    (htarget : saved = none → ∃ p ∈ sim.machine.places, plan.endState = .str p.scopedName) :
    sim.Safe (sim.setDestination plan saved) := by
  rw [setDestination]
  cases saved with
  | some name =>
    rw [destination, pure_bind]
    exact attempt_keeps h fun c hc => hc.set (hsaved name rfl)
  | none =>
    obtain ⟨p, hp, hend⟩ := htarget rfl
    rw [destination, hend, target_scopedName hp, pure_bind]
    exact attempt_keeps h fun c hc => hc.set (Machine.exists_stateNamed hp)

variable (hwf : sim.machine.WellFormed) {map : StateMap} (hmap : map ∈ sim.machine.maps)
  {g : Guard} (hg : g.Valid sim.machine map)

include hwf hmap hg

/-- Committing the next state of a valid guard. The state saved is known, and there
    is one if the guard stays and has actions. -/
theorem commit_keeps (again : Dispatch σ V) {saved : Option String}
    (hsaved : ∀ name, saved = some name → sim.machine.Knows name)
    (hnone : saved = none → (g.plan map.name.text).savesState = false) :
    sim.Safe
      (sim.commit again (g.plan map.name.text) saved) := by
  have hdestination : g.move ≠ .pop → (g.hasActions || !g.isLoopback) = true →
      sim.Safe
        (sim.setDestination (g.plan map.name.text) saved) := by
    intro hmove hleaves
    refine setDestination_keeps h hsaved fun hsaved => ?_
    -- a guard that stays and sets a state has actions, and so has saved one
    have hsaves : (g.isLoopback && g.hasActions) = false := hnone hsaved
    have hnil : g.endState ≠ .str nilState := by
      intro hnil
      have hloop : g.isLoopback = true := by
        rw [Guard.isLoopback, Value.beq_str_iff.2 hnil, bne_iff_ne.2 hmove]
        rfl
      rw [hloop, Bool.true_and] at hsaves
      rw [hloop, hsaves] at hleaves
      cases hleaves
    obtain ⟨name, p, -, -, hp, hend⟩ := hg.endState_plan hwf hmap hmove hnil
    exact ⟨p, hp, hend⟩
  have hnew : sim.Safe
      (if (g.plan map.name.text).entersNew then sim.enter again else pure () : Run σ Unit) :=
    .ite (fun _ => enter_keeps h again) fun _ => .pure ()
  have hpush : g.move = .push → sim.Safe (do
      let name ← sim.target (g.plan map.name.text).pushState
      Run.attempt sim.host fun c => c.push (some name)
      if (g.plan map.name.text).entersNew then sim.enter again) := by
    intro hmove
    obtain ⟨name, p, -, -, hp, hstate⟩ := hg.pushState_plan hmap hmove
    rw [hstate, target_scopedName hp, pure_bind]
    exact .bind (attempt_keeps h fun c hc => hc.push (Machine.exists_stateNamed hp)) fun _ => hnew
  rw [commit]
  refine .ite (fun hsets => ?_) fun _ => .ite (fun hpushes => ?_) fun _ => .ite (fun _ => ?_)
    fun _ => hnew
  · obtain ⟨hmove, hleaves⟩ := Bool.and_eq_true_iff.1 hsets
    exact .bind (hdestination (by rw [beq_iff_eq.1 hmove]; decide) hleaves) fun _ => hnew
  · have hmove : g.move = .push := beq_iff_eq.1 hpushes
    have hrest : sim.Safe (do
        if (g.plan map.name.text).entersBeforePush then sim.enter again
        let name ← sim.target (g.plan map.name.text).pushState
        Run.attempt sim.host fun c => c.push (some name)
        if (g.plan map.name.text).entersNew then sim.enter again) :=
      .ite (fun _ => .bind (enter_keeps h again) fun _ => hpush hmove) fun _ => hpush hmove
    refine .ite (fun hsets => .bind (hdestination ?_ ?_) fun _ => hrest) fun _ => hrest
    · rw [hmove]
      decide
    · exact (Bool.and_eq_true_iff.1 hsets).2
  · exact .bind (attempt_keeps h fun c hc => hc.pop) fun _ => hnew

variable (again : Dispatch σ V)
  (hagain : ∀ name args, sim.Safe (again name args))

include hagain

/-- Taking a valid guard. -/
theorem take_keeps (bindings : Bindings V) :
    sim.Safe (sim.take again (g.plan map.name.text) g.actions bindings) := by
  rw [take_eq_takeAlone]
  refine .bind ?_ fun _ => .ite (fun _ => ?_) fun _ => .pure ()
  · -- the state that is saved is the current one, and known as such
    refine takeAlone_triple h again (R := fun saved =>
      (∀ name, saved = some name → sim.machine.Knows name) ∧
        (saved = none → (g.plan map.name.text).savesState = false))
      (fun c hc => hc.clear) (fun c name hc hname => ?_) (fun hsaves => ?_) fun saved hsaved => ?_
    · refine ⟨fun name' hname' => ?_, nofun⟩
      cases hname'
      exact hc name (.inl hname)
    · exact ⟨nofun, fun _ => hsaves⟩
    · have hperform := performAll_keeps h again bindings g.actions
      have hcommit := commit_keeps h hwf hmap hg again hsaved.1 hsaved.2
      exact Run.Keeps.ite (fun _ => .ensure hperform hcommit) fun _ =>
        .bind hperform fun _ => hcommit
  · exact .bind (argumentList_keeps h again _ bindings) fun args =>
      .bind (.report _) fun _ => hagain _ args

end Steps

/-! ## Dispatches -/

section Dispatches

variable (h : sim.Steady sim.machine.Covers sim.Expects) (hwf : sim.machine.WellFormed)
  (hvalid : sim.machine.Valid)

include h hwf hvalid

/-- Taking a choice of a state. -/
theorem follow_keeps {again : Dispatch σ V}
    (hagain : ∀ name args, sim.Safe (again name args))
    {p : Place} (hp : p ∈ sim.machine.places) {name : Value} {args : List V} {x : Choice}
    (hx : x ∈ p.choices name args.length) :
    sim.Safe (sim.follow again name args x) := by
  obtain ⟨hc, hg⟩ := Place.mem_choices hx
  have hmap : p.map ∈ sim.machine.maps := (Machine.mem_places.1 hp).1
  have hguard : x.guard.Valid sim.machine p.map := (hvalid.of_mem_candidates hp hc).guards _ hg
  have htake : sim.Safe (sim.takeChoice again args x) := by
    refine .bind (current_keeps h) fun state => .bind (.report _) fun _ =>
      .bind (fit_keeps h _) fun _ => ?_
    rw [Place.map_of_mem_candidates hc]
    exact take_keeps h hwf hmap hguard again hagain _
  refine .bind htake fun _ => ?_
  cases x.candidate.step with
  | none => exact .pure ()
  | some step => exact .report _

/-- Dispatching a transition, whatever transitions are issued inside it. -/
theorem dispatch_keeps (limit : Nat) (name : Value) (args : List V) :
    sim.Safe (sim.dispatch limit name args) := by
  -- transitions issued inside are dispatched with a lower limit
  induction limit generalizing name args with
  | zero => exact .throw (h.faults _ (by simp))
  | succ limit ih =>
    refine dispatchBy_keeps h _ (fun c name hc => hc.setTransition name) fun state p hp => ?_
    obtain ⟨hplace, -⟩ := Machine.stateNamed?_eq_some hp
    exact handle_keeps h _ (fun c hc => hwf.guards_of_mem_candidates hplace hc) fun x hx =>
      follow_keeps h hwf hvalid ih hplace hx

theorem issue_keeps (name : Value) (args : List V) : sim.Safe (sim.issue name args) := by
  have hdispatch : sim.Safe (sim.dispatchHere name args) :=
    .bind .get fun s => dispatch_keeps h hwf hvalid _ name args
  refine .bind (fun _ hs => hs) fun _ => .bind hdispatch fun _ => ?_
  exact .bind (.bind .get fun _ => .pure _) fun _ =>
    .bind (.bind .get fun _ => .bind (fun _ hs => hs) fun _ => .pure _) fun _ => .pure _

omit hwf in
/-- Starting over, from whatever simulation. -/
theorem reset_keeps :
    Run.Triple (fun _ => True) sim.reset (fun _ s => sim.machine.Covers s.context)
      (fun f s => sim.machine.Covers s.context ∧ sim.Expects f) := by
  obtain ⟨p, hp⟩ := hvalid.start
  have henter : sim.Safe (do
      Run.report ("Entering start state: " ++ p.scopedName)
      sim.enterHere) :=
    .bind (.report _) fun _ => enter_keeps h _
  intro s _
  rw [reset, Run.on_bind_ok Run.on_clearLog, hvalid.startMismatch, Run.fit_none, pure_bind, hp]
  refine henter { s with log := [], context := _ } ?_
  exact freshContext_covers (Machine.mem_places_of_startPlace? hp) _

end Dispatches

/-! ## Reachable simulations -/

/-- The simulations that requests lead to, one after the other, whatever they come
    to. -/
inductive Reachable (sim : Simulator σ V) : Simulation σ → Prop
  | start (host : σ) : Reachable sim (sim.start host).2
  | issue {s : Simulation σ} (name : Value) (args : List V) :
    Reachable sim s → Reachable sim ((sim.issue name args).on s).2
  | reset {s : Simulation σ} : Reachable sim s → Reachable sim (sim.reset.on s).2
  /-- Between requests listeners come and go, and the host changes. -/
  | outside {s s' : Simulation σ} :
    Reachable sim s → s.context.Alike s'.context → Reachable sim s'

/-- A valid machine is always in known states. -/
theorem Reachable.covers (h : sim.Steady sim.machine.Covers sim.Expects)
    (hwf : sim.machine.WellFormed) (hvalid : sim.machine.Valid) {s : Simulation σ}
    (hs : sim.Reachable s) : sim.machine.Covers s.context := by
  induction hs with
  | start host => exact (reset_keeps h hvalid).after trivial
  | issue name args _ ih => exact (issue_keeps h hwf hvalid name args).after ih
  | reset _ ih => exact (reset_keeps h hvalid).after trivial
  | outside _ hsame ih => exact h.listeners _ _ hsame ih

/-- A machine that was loaded and found valid, with a host that is aloof, is always
    in real states, was in real states before and has suspended real states, and no
    request misses a state. If its names are unambiguous, it goes to those states
    that the check found. -/
theorem valid_machine_stays_known (sim : Simulator σ V) {v n : Value}
    (hload : (Load.machine v n).outcome.1 = .ok sim.machine) {target : Option Target}
    {source : Option Value} {w : Validation} (hcheck : sim.machine.validate target source = .ok w)
    (hvalid : w.isValid = true) (haloof : sim.host.Aloof) :
    (∀ s, sim.Reachable s → ∀ name, s.context.Holds name →
      ∃ p ∈ sim.machine.places, sim.machine.stateNamed? name = some p ∧ p.scopedName = name ∧
        p.state.isDefault = false) ∧
    (∀ name, ¬sim.host.MayRaise (.noState name) →
      (∀ host s, sim.start host ≠ (.error (.noState name), s)) ∧
      ∀ s, sim.Reachable s → ∀ s',
        (∀ t args, (sim.issue t args).on s ≠ (.error (.noState name), s')) ∧
        sim.reset.on s ≠ (.error (.noState name), s')) ∧
    (sim.machine.Unambiguous → ∀ p ∈ sim.machine.allPlaces, ∀ t ∈ p.state.transitions,
      ∀ g ∈ t.guards, sim.CommitsFound p.map g) := by
  have hwf := Load.wellFormed_of_outcome hload
  have hm := Machine.valid_of_validate hcheck hvalid
  have h := steady_covers haloof
  refine ⟨fun s hs name hname => ?_, fun name hhost => ?_, fun hnames p hp t ht g hg => ?_⟩
  · obtain ⟨p, hp⟩ := hs.covers h hwf hm name hname
    obtain ⟨hplace, hscoped⟩ := Machine.stateNamed?_eq_some hp
    obtain ⟨hmap, hstate⟩ := Machine.mem_places.1 hplace
    exact ⟨p, hplace, hp, hscoped, (hwf _ hmap).real _ hstate⟩
  · have hmissing : ¬sim.Expects (.noState name) := by
      rintro (hne | hraise)
      · exact hne name rfl
      · exact hhost hraise
    refine ⟨fun host s hstart => ?_, fun s hs s' => ⟨fun t args hissue => ?_, fun hreset => ?_⟩⟩
    · exact hmissing ((reset_keeps h hm).fault trivial hstart).2
    · exact hmissing ((issue_keeps h hwf hm t args).fault (hs.covers h hwf hm) hissue).2
    · exact hmissing ((reset_keeps h hm).fault trivial hreset).2
  · exact commitsFound hwf hnames (Machine.mem_allPlaces.1 hp).1 ((hm.transitions p hp t ht).guards g hg)

theorem door_unambiguous : (doorMachine "False").Unambiguous where
  mapNames := ⟨["Hall"], rfl, by decide⟩
  stateNames := by
    rintro map hmap
    cases List.mem_singleton.1 hmap
    decide
  colon := by
    rintro map hmap s hs
    cases List.mem_singleton.1 hmap
    revert s
    decide

/-- A door that was asked is in the state of being asked, and has suspended being
    shut; both are its states. -/
theorem asked_door_stays_known :
    (Load.machine (door "False") .null).outcome.1 = .ok (doorMachine "False") ∧
      (∃ w, (doorMachine "False").validate none none = .ok w ∧ w.isValid = true) ∧
      stillHost.Aloof ∧ (doorMachine "False").Unambiguous ∧
      ∃ s, (doorWith stillHost "False").Reachable s ∧ s.context.current = some "Hall::Asked" ∧
        s.context.stack = ["Hall::Shut"] ∧
        (∀ name, s.context.Holds name → ∃ p ∈ (doorMachine "False").places,
          (doorMachine "False").stateNamed? name = some p ∧ p.scopedName = name ∧
            p.state.isDefault = false) ∧
        (doorWith stillHost "False").CommitsFound (hall "False")
          (doorGuard "" .push "nil" "Asked") := by
  obtain ⟨w, hcheck, hvalid⟩ := door_valid
  obtain ⟨hknown, -, hcommits⟩ := valid_machine_stays_known (doorWith stillHost "False")
    door_loads hcheck hvalid stillHost_aloof
  have hs : (doorWith stillHost "False").Reachable _ :=
    .issue (.str "ask") [] (.start ())
  refine ⟨door_loads, ⟨w, hcheck, hvalid⟩, stillHost_aloof, door_unambiguous, _, hs,
    by decide +kernel, by decide +kernel, hknown _ hs, ?_⟩
  exact hcommits door_unambiguous ⟨hall "False", shut "False"⟩
    (by simp [Machine.allPlaces, doorWith, doorMachine, StateMap.allStates, hall])
    (doorTransition "ask" (doorGuard "" .push "nil" "Asked")) (by simp [shut, doorState]) _
    (by simp [doorTransition])

end Simulator
end StateMachine
