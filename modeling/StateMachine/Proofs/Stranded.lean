import StateMachine.Proofs.Events

/-!
# Machines that lose their state

While the actions of a guard are carried out, the machine is in transition. The
next state is committed also if an action raised a fault, unless the simulator is
told not to. So with an aloof host there is only one way to end in transition:
the guard taken last pops, it has actions, and no state is suspended when they
are done (`Simulator.PopsNothing`).

* The choices a dispatch takes, one inside the other, are described together with
  the simulations in which they are taken (`Simulator.Takes`).
* Taking a choice ends in transition if and only if it pops nothing
  (`takeUpTo_stranded_iff`), and then no further one is taken.
* A machine in transition refuses whatever is issued, and stays as it is
  (`issue_stranded`).

Both parts are put together in `stranded_iff_pops_nothing`.
-/

namespace StateMachine

variable {σ V : Type}

/-- A choice with the arguments and the simulation in which it is taken. -/
structure Taking (σ V : Type) where
  choice : Choice
  args : List V
  before : Simulation σ

namespace Simulator

section

variable (sim : Simulator σ V) (again : Dispatch σ V)

/-- A choice that pops and has actions is taken, and no state is suspended when the
    actions are done, or one of them has raised a fault. -/
def PopsNothing (t : Taking σ V) : Prop :=
  t.choice.guard.move = .pop ∧ t.choice.guard.hasActions = true ∧
    ∃ saved s₁, (sim.setOut again t.choice).on t.before = (.ok saved, s₁) ∧
      ((sim.performAll again (t.choice.bindings t.args) t.choice.guard.actions).on
        s₁).2.context.stack = []

/-- The choices that a dispatch takes, one inside the other. -/
inductive Takes : Value → List V → Simulation σ → List (Taking σ V) → Prop
  /-- No choice is found, or there is no state to look for one in. -/
  | nothing {name : Value} {args : List V} {s : Simulation σ} :
    (∀ p x s₁, sim.At p s → (sim.pick again p name args).on (s.underway name) ≠ (.ok x, s₁)) →
    Takes name args s []
  /-- A choice is taken, and no transition follows. -/
  | last {name : Value} {args : List V} {s s₁ : Simulation σ} {p : Place} {x : Choice} :
    sim.At p s → (sim.pick again p name args).on (s.underway name) = (.ok x, s₁) →
    (∀ args', ((sim.takeUpTo again args x).on s₁).1 ≠ .ok (some args')) →
    Takes name args s [⟨x, args, s₁⟩]
  /-- A choice is taken, and a further transition is dispatched. -/
  | further {name : Value} {args args' : List V} {s s₁ s₂ : Simulation σ} {p : Place} {x : Choice}
    {ts : List (Taking σ V)} :
    sim.At p s → (sim.pick again p name args).on (s.underway name) = (.ok x, s₁) →
    (sim.takeUpTo again args x).on s₁ = (.ok (some args'), s₂) →
    Takes x.guard.popTransition args' s₂ ts → Takes name args s (⟨x, args, s₁⟩ :: ts)

end

variable {sim : Simulator σ V} {again : Dispatch σ V} {s s' : Simulation σ}

/-! ## The current state -/

section Aloof

variable (h : sim.host.Aloof)

include h

/-- What an aloof host does leaves the current state as it is. -/
theorem steady_current (P : Option String → Prop) :
    sim.Steady (fun c => P c.current) (fun _ => True) where
  aloof := h
  raises _ _ _ _ _ := trivial
  faults _ _ := trivial
  listeners := by
    intro c c' hsame hc
    rwa [hsame.current_eq]
  emptyStack _ hc := hc
  current _ _ _ _ := .inr trivial

theorem performAll_current (again : Dispatch σ V) (bindings : Bindings V) (as : List Action) :
    ((sim.performAll again bindings as).on s).2.context.current = s.context.current :=
  (performAll_keeps (steady_current h (· = s.context.current)) again bindings as).after rfl

/-- Setting out clears the current state if there are actions to come, and leaves it
    as it is otherwise. -/
theorem setOut_triple {x : Choice} (hfits : x.guard.planMismatch? = none) {here : String} :
    Run.Triple (fun s => s.context.current = some here) (sim.setOut again x)
      (fun saved s => saved = (if x.plan.savesState then some here else none) ∧
        s.context.current = if x.guard.hasActions then none else some here)
      fun _ s => s.context.current = some here := by
  have hleave : Run.Triple (fun s => s.context.current = some here) (sim.leave again)
      (fun _ s => s.context.current = some here) fun _ s => s.context.current = some here :=
    (leave_keeps (steady_current h (· = some here)) again).weaken (fun _ hs => hs) (fun _ _ hs => hs)
      fun _ _ hs => hs.1
  have hclear : Run.Triple (fun s => s.context.current = some here) (do
      if x.plan.clearsState then Run.changeContext Context.clear
      return if x.plan.savesState then some here else none : Run σ (Option String))
      (fun saved s => saved = (if x.plan.savesState then some here else none) ∧
        s.context.current = if x.guard.hasActions then none else some here)
      fun _ s => s.context.current = some here := by
    have hclears : x.plan.clearsState = x.guard.hasActions := rfl
    intro s hs
    rw [hclears]
    cases x.guard.hasActions with
    | true => exact ⟨rfl, rfl⟩
    | false => exact ⟨rfl, hs⟩
  intro s hs
  rw [setOut_on hfits hs]
  exact Run.Triple.ite (fun _ => .bind hleave fun _ => hclear) (fun _ => hclear)
    { s with log := _ } hs

/-- A state that is arrived at is the current one, also if a listener raises a
    fault. -/
theorem attempt_arrive_current {operation : Context String → Attempt String} {next : String}
    {stack trace : List String}
    (hop : operation s.context = s.context.arrive (some next) stack trace) :
    ((Run.attempt sim.host operation).on s).2.context.current = some next := by
  rw [Run.on_attempt_arrive sim.host hop]
  split
  · rfl
  · exact (notifyAll_keeps (steady_current h (· = some next)) _ _).after rfl

/-- A pop ends in transition if it started there and no state is suspended. -/
theorem pop_current_eq_none_iff :
    ((Run.attempt sim.host Context.pop).on s).2.context.current = none ↔
      s.context.current = none ∧ s.context.stack = [] := by
  cases hstack : s.context.stack with
  | nil =>
    rw [Run.on_attempt, Context.pop, hstack]
    simp [Context.failed]
  | cons top rest =>
    have hpop : s.context.pop = s.context.arrive (some top) rest
        (s.context.traced ("POP TO STATE    : " ++ Context.nameOf (some top))) := by
      rw [Context.pop, hstack]
    simp [attempt_arrive_current h hpop]

/-- After a state is set there is one, wherever the machine was. -/
theorem set_triple {P : Simulation σ → Prop} (next : String) :
    Run.Triple P (Run.attempt sim.host fun c => c.set (some next))
      (fun _ s => s.context.current.isSome = true)
      fun _ s => s.context.current.isSome = true ∧ True := by
  refine .of_after fun s _ => ?_
  obtain ⟨trace, hset⟩ := s.context.set_some next
  have hcurrent : ((Run.attempt sim.host fun c => c.set (some next)).on s).2.context.current =
      some next := attempt_arrive_current h hset
  rw [hcurrent]
  rfl

/-- A push does not lose the current state. -/
theorem push_keeps (next : String) :
    Run.Keeps (fun c => c.current.isSome = true) (fun _ => True)
      (Run.attempt sim.host fun c => c.push (some next)) := by
  refine attempt_keeps (steady_current h (·.isSome = true)) fun c hc => ?_
  rw [Context.push]
  cases hcurrent : c.current with
  | none =>
    rw [hcurrent] at hc
    cases hc
  | some state => rcases c.isFull with e | _ | _ <;> simp [Context.failed, Context.arrive, hcurrent]

/-- Settling along a route that does not pop ends in a state. -/
theorem settle_triple (again : Dispatch σ V) {r : Route} (hr : r ≠ .pop) (here : String) (acted : Bool) :
    Run.Triple (fun s => acted = false → s.context.current.isSome = true)
      (sim.settle again here acted r) (fun _ s => s.context.current.isSome = true)
      fun _ s => s.context.current.isSome = true ∧ True := by
  have henter := enter_keeps (steady_current h (·.isSome = true)) again
  cases r with
  | set q => exact .bind (set_triple h _) fun _ => henter
  | stay =>
    refine .ite (fun _ => set_triple h _) fun hacted => .pure fun s hs => hs ?_
    exact Bool.eq_false_iff.2 hacted
  | push q r =>
    exact .bind (set_triple h _) fun _ => .bind henter fun _ => .bind (push_keeps h _) fun _ => henter
  | pushHere r =>
    have hpush := (push_keeps h r.scopedName).bind fun _ => henter
    refine .ite (fun _ => .bind (set_triple h _) fun _ => hpush) fun hacted => ?_
    exact hpush.weaken (fun _ hs => hs (Bool.eq_false_iff.2 hacted)) (fun _ _ hs => hs)
      fun _ _ hs => hs
  | pop => exact absurd rfl hr

/-! ## Choices -/

omit h in
/-- The next state is committed whatever the actions come to. -/
theorem actAndCommit_after (hcatch : sim.noCatch = false) (x : Choice) (bindings : Bindings V)
    (saved : Option String) :
    ((sim.actAndCommit again x.plan x.guard.actions bindings saved).on s).2 =
      ((sim.commit again x.plan saved).on
        ((sim.performAll again bindings x.guard.actions).on s).2).2 := by
  have hplan : x.plan.hasActions = x.guard.hasActions := rfl
  rw [actAndCommit, hplan, hcatch]
  cases hacts : x.guard.hasActions with
  | true =>
    rw [Bool.not_false, Bool.and_self, if_pos rfl, Run.on_ensure]
    split <;> simp [*]
  | false =>
    have hnil : x.guard.actions = [] := by simpa [Guard.hasActions] using hacts
    rw [hnil]
    rfl

/-- The state in which a choice that has set out leaves the machine. -/
theorem takeUpTo_current (hcatch : sim.noCatch = false) {p : Place} {x : Choice} {r : Route}
    (hr : sim.Ready p x r s) {args : List V} {saved : Option String} {s₁ : Simulation σ}
    (hsetOut : (sim.setOut again x).on s = (.ok saved, s₁)) :
    ((sim.takeUpTo again args x).on s).2.context.current =
      ((sim.settle again p.scopedName x.guard.hasActions r).on
        ((sim.performAll again (x.bindings args) x.guard.actions).on s₁).2).2.context.current := by
  obtain ⟨hsaved, -⟩ := (setOut_triple h hr.fits).result hr.current hsetOut
  rw [← hr.commit_eq again hsaved, ← actAndCommit_after hcatch, takeUpTo_eq_setOut,
    Run.on_bind_ok hsetOut]
  rcases hact : (sim.actAndCommit again x.plan x.guard.actions (x.bindings args) saved).on s₁
    with ⟨f | _, s₂⟩
  · rw [Run.on_bind_error hact]
  · rw [Run.on_bind_ok hact]
    exact (offer_stays h _ _ _).current_eq

/-- Taking a choice ends in transition if and only if it pops nothing. -/
theorem takeUpTo_stranded_iff (hcatch : sim.noCatch = false) {p : Place} {x : Choice} {r : Route}
    (hr : sim.Ready p x r s) (args : List V) :
    ((sim.takeUpTo again args x).on s).2.context.current = none ↔
      sim.PopsNothing again ⟨x, args, s⟩ := by
  rcases hsetOut : (sim.setOut again x).on s with ⟨f | saved, s₁⟩
  · -- a fault on exit leaves the machine in its state
    have hcurrent := (setOut_triple h hr.fits).fault hr.current hsetOut
    have hno : ¬sim.PopsNothing again ⟨x, args, s⟩ := by
      rintro ⟨-, -, saved, s₁, hok, -⟩
      rw [hsetOut] at hok
      cases hok
    rw [takeUpTo_eq_setOut, Run.on_bind_error hsetOut, hcurrent]
    simp [hno]
  · obtain ⟨-, hcurrent⟩ := (setOut_triple h hr.fits).result hr.current hsetOut
    have hcurrent₂ :=
      (performAll_current h again (x.bindings args) x.guard.actions).trans hcurrent
    rw [takeUpTo_current h hcatch hr hsetOut]
    by_cases hpop : r = .pop
    · subst hpop
      have hmove : x.guard.move = .pop := hr.leads
      rw [settle, pop_current_eq_none_iff h, hcurrent₂]
      constructor
      · rintro ⟨hacts, hstack⟩
        exact ⟨hmove, by simpa using hacts, saved, s₁, hsetOut, hstack⟩
      · rintro ⟨-, hacts, saved', s₁', hok, hstack⟩
        rw [hsetOut] at hok
        cases hok
        have hacts : x.guard.hasActions = true := hacts
        exact ⟨by rw [hacts]; rfl, hstack⟩
    · have hsome := (settle_triple h again hpop p.scopedName x.guard.hasActions).after
        (fun hacts => by rw [hcurrent₂, hacts]; rfl)
      constructor
      · intro hnone
        rw [hnone] at hsome
        cases hsome
      · rintro ⟨hmove, -⟩
        exact absurd (hr.leads.eq_pop hmove) hpop

/-- A choice that is taken without a fault ends in a state. -/
theorem takeUpTo_current_ne_none (hcatch : sim.noCatch = false) {p : Place} {x : Choice} {r : Route}
    (hr : sim.Ready p x r s) {args : List V} {further : Option (List V)}
    (hok : (sim.takeUpTo again args x).on s = (.ok further, s')) : s'.context.current ≠ none := by
  have hiff : _ ↔ sim.PopsNothing again ⟨x, args, s⟩ := takeUpTo_stranded_iff h hcatch hr args
  rw [hok] at hiff
  rw [Ne, hiff]
  -- the pop would have raised a fault
  rintro ⟨hmove, -, saved, s₁, hsetOut, hstack⟩
  obtain rfl := hr.leads.eq_pop hmove
  obtain ⟨hsaved, -⟩ := (setOut_triple h hr.fits).result hr.current hsetOut
  rw [takeUpTo_eq_setOut, Run.on_bind_ok hsetOut] at hok
  obtain ⟨_, s₃, hact, -⟩ := Run.on_bind_eq_ok.1 hok
  obtain ⟨s₂, hperform, hcommit⟩ := actAndCommit_eq_ok.1 hact
  rw [hr.commit_eq again hsaved] at hcommit
  obtain ⟨change, hresult⟩ := Run.result_of_on_attempt hcommit
  obtain ⟨top, rest, trace, hpop, -⟩ := Context.pop_eq_arrive hresult
  rw [hperform, hpop] at hstack
  cases hstack

/-! ## Dispatches -/

omit h in
/-- Concluding a dispatch leaves the current state as it is. -/
theorem concluded_current (name : Value) (x : Choice) (o : Except Fault Unit × Simulation σ) :
    (concluded name x o).2.context.current = o.2.context.current := by
  rcases o with ⟨f | _, s⟩
  · rfl
  · cases hstep : x.candidate.step <;> simp [concluded, reportStep, hstep] <;> rfl

omit h in
/-- So does issuing a transition, once it is dispatched. -/
theorem issued_current (o : Except Fault Unit × Simulation σ) :
    (issued o).2.context.current = o.2.context.current := by
  rcases o with ⟨f | _, s⟩ <;> rfl

omit h in
/-- A simulation is in one state only. -/
theorem At.unique {p p' : Place} (hp : sim.At p s) (hp' : sim.At p' s) : p = p' := by
  obtain ⟨name, hcurrent, hname⟩ := hp
  obtain ⟨name', hcurrent', hname'⟩ := hp'
  rw [hcurrent] at hcurrent'
  cases hcurrent'
  exact Option.some.inj (hname.symm.trans hname')

omit h in
/-- Whatever a dispatch comes to, there are choices that it takes. -/
theorem Dispatches.exists_takes {name : Value} {args : List V} {xs : List Choice}
    {o : Except Fault Unit × Simulation σ} (hd : sim.Dispatches again name args s xs o) :
    ∃ ts, sim.Takes again name args s ts := by
  induction hd with
  | lost hs => exact ⟨[], .nothing fun p x s₁ hp => absurd hp (hs p)⟩
  | refused hp hpick =>
    refine ⟨[], .nothing fun p' x s₁ hp' hok => ?_⟩
    rw [hp'.unique hp, hpick] at hok
    cases hok
  | failed hp hpick htake => exact ⟨_, .last hp hpick fun args' => by rw [htake]; nofun⟩
  | ended hp hpick htake => exact ⟨_, .last hp hpick fun args' => by rw [htake]; nofun⟩
  | further hp hpick htake _ ih =>
    obtain ⟨ts, hts⟩ := ih
    exact ⟨_, .further hp hpick htake hts⟩

/-- A dispatch that finds no choice leaves the current state as it is. -/
theorem dispatchBy_current_of_none {name : Value} {args : List V}
    (hnone : ∀ p x s₁, sim.At p s →
      (sim.pick again p name args).on (s.underway name) ≠ (.ok x, s₁)) (again' : Dispatch σ V) :
    ((sim.dispatchBy again' name args).on s).2.context.current = s.context.current := by
  have hsteady := steady_current h (· = s.context.current)
  by_cases hat : ∃ p, sim.At p s
  · obtain ⟨p, hp⟩ := hat
    rcases hpick : (sim.pick again p name args).on (s.underway name) with ⟨f | x, s₁⟩
    · rw [dispatchBy_refused h again again' hp hpick]
      exact ((pick_keeps hsteady again).fault (by exact rfl) hpick).1
    · exact absurd hpick (hnone p x s₁ hp)
  · obtain ⟨f, hlost⟩ := exists_dispatchBy_lost fun p hp => hat ⟨p, hp⟩
    rw [hlost]

/-- A dispatch that starts in a state ends in transition if and only if the last choice
    it takes pops nothing. -/
theorem Takes.stranded_iff (hcatch : sim.noCatch = false) (hwf : sim.machine.WellFormed)
    (hvalid : sim.machine.Valid) {name : Value} {args : List V} {ts : List (Taking σ V)}
    (ht : sim.Takes again name args s ts) (hs : s.context.current ≠ none) (limit : Nat)
    (hlimit : s.context.depth < limit) :
    ((sim.dispatch limit name args).on s).2.context.current = none ↔
      ∃ t, ts.getLast? = some t ∧ sim.PopsNothing again t := by
  have hready : ∀ {p : Place} {name : Value} {args : List V} {x : Choice} {s s₁ : Simulation σ},
      sim.At p s → (sim.pick again p name args).on (s.underway name) = (.ok x, s₁) →
        ∃ r, sim.Ready p x r s₁ := by
    intro p name args x s s₁ hp hpick
    have hplace := (Machine.stateNamed?_eq_some hp.stateNamed?_eq).1
    exact ((pick_eq_ok_iff hwf hplace).1 hpick).exists_ready hwf hvalid h hp
  induction ht generalizing limit with
  | nothing hnone =>
    obtain ⟨limit, rfl⟩ := Nat.exists_eq_add_one_of_ne_zero (Nat.ne_zero_of_lt hlimit)
    rw [dispatch, dispatchBy_current_of_none h hnone]
    simp [hs]
  | @last name args s s₁ p x hp hpick hlast =>
    obtain ⟨limit, rfl⟩ := Nat.exists_eq_add_one_of_ne_zero (Nat.ne_zero_of_lt hlimit)
    obtain ⟨r, hr⟩ := hready hp hpick
    have hiff : _ ↔ sim.PopsNothing again ⟨x, args, s₁⟩ := takeUpTo_stranded_iff h hcatch hr args
    rcases htake : (sim.takeUpTo again args x).on s₁ with ⟨result, s₂⟩
    rw [dispatch, dispatchBy_taken h again _ hp hpick htake, concluded_current]
    rw [htake] at hiff hlast
    rcases result with f | _ | args'
    · simpa using hiff
    · simpa using hiff
    · exact absurd rfl (hlast args')
  | @further name args args' s s₁ s₂ p x ts hp hpick htake hts ih =>
    obtain ⟨limit, rfl⟩ := Nat.exists_eq_add_one_of_ne_zero (Nat.ne_zero_of_lt hlimit)
    obtain ⟨r, hr⟩ := hready hp hpick
    have hiff : _ ↔ sim.PopsNothing again ⟨x, args, s₁⟩ := takeUpTo_stranded_iff h hcatch hr args
    have hs₂ := takeUpTo_current_ne_none h hcatch hr htake
    have hdepth := depth_lt_of_further h again hpick htake
    rw [htake] at hiff
    rw [dispatch, dispatchBy_taken h again _ hp hpick htake, concluded_current]
    dsimp only
    refine (ih hs₂ limit (by omega)).trans ?_
    -- the choice itself popped a state, so it is not the one that popped nothing
    cases ts with
    | nil => simpa using fun hpops => hs₂ (hiff.2 hpops)
    | cons t ts => simp

end Aloof

/-! ## In transition -/

/-- A machine in transition refuses whatever is issued, and stays as it is. -/
theorem issue_stranded (hs : s.context.current = none) (name : Value) (args : List V) :
    (sim.issue name args).on s =
      (.error (.context (.inTransition s.context.name.text s.context.transition.text)),
        s.unlogged) := by
  have hunlogged : s.unlogged.context.current = none := hs
  exact issue_on (dispatchBy_in_transition (sim.dispatch _) hunlogged)

/-- The simulations that issuing transitions leads to, with changes from outside in
    between. -/
inductive Continues (sim : Simulator σ V) (outside : Simulation σ → Simulation σ → Prop)
    (s : Simulation σ) : Simulation σ → Prop
  | refl : Continues sim outside s s
  | issue {s' : Simulation σ} (name : Value) (args : List V) :
    Continues sim outside s s' → Continues sim outside s ((sim.issue name args).on s').2
  | outside {s' s'' : Simulation σ} :
    Continues sim outside s s' → outside s' s'' → Continues sim outside s s''

/-- A machine in transition stays there, whatever is issued. -/
theorem Continues.stranded (h : sim.Continues (fun s s' => s.context.Alike s'.context) s s')
    (hs : s.context.current = none) : s.context.Alike s'.context := by
  induction h with
  | refl => exact .refl _
  | issue name args _ ih =>
    rw [issue_stranded (ih.current_eq.trans hs)]
    exact ih
  | outside _ hsame ih => exact ih.trans hsame

/-- For a machine that was loaded and found valid, with a host that is aloof and a
    simulator that commits the next state in any case, issuing a transition in a state
    ends in transition if and only if the last guard that is taken pops, has actions
    and finds no suspended state. In transition, every machine refuses whatever is
    issued, and stays as it is. -/
theorem stranded_iff_pops_nothing (sim : Simulator σ V) {v n : Value}
    (hload : (Load.machine v n).outcome.1 = .ok sim.machine) {target : Option Target}
    {source : Option Value} {w : Validation} (hcheck : sim.machine.validate target source = .ok w)
    (hvalid : w.isValid = true) :
    (sim.noCatch = false → sim.host.Aloof → ∀ again name args s, s.context.current ≠ none →
      (∃ ts, sim.Takes again name args s.unlogged ts) ∧
      ∀ ts, sim.Takes again name args s.unlogged ts →
        (((sim.issue name args).on s).2.context.current = none ↔
          ∃ t, ts.getLast? = some t ∧ sim.PopsNothing again t)) ∧
    ∀ s s', s.context.current = none →
      sim.Continues (fun s s' => s.context.Alike s'.context) s s' → ∀ name args,
        ∃ f s'', (sim.issue name args).on s' = (.error f, s'') ∧
          f.kind = "StateUndefinedException" ∧ s.context.Alike s''.context := by
  have hwf := Load.wellFormed_of_outcome hload
  have hm := Machine.valid_of_validate hcheck hvalid
  refine ⟨fun hcatch h again name args s hs => ⟨?_, fun ts hts => ?_⟩, fun s s' hs hrun name args => ?_⟩
  · obtain ⟨xs, o, hd⟩ := exists_dispatches h again name args s.unlogged
    exact hd.exists_takes
  · have hlimit : s.unlogged.context.depth < limit s.context := by
      change s.context.depth < nestingLimit + s.context.depth + 1
      omega
    rw [issue_on rfl, issued_current]
    exact hts.stranded_iff h hcatch hwf hm hs _ hlimit
  · have hsame := hrun.stranded hs
    exact ⟨_, _, issue_stranded (hsame.current_eq.trans hs) name args, rfl, hsame⟩

/-- The clerk who leaves the desk with nowhere to go back to has popped nothing, and
    cannot work any more. -/
theorem left_desk_refuses_work :
    (∃ v, (Load.machine v .null).outcome.1 = .ok plainDesk) ∧
      (∃ w, plainDesk.validate none none = .ok w ∧ w.isValid = true) ∧
      (plainClerk 0).noCatch = false ∧ diary.Aloof ∧
      ∃ s s', s.context.current = some "Desk::Free" ∧
        (((plainClerk 0).issue (.str "leave") []).on s).2 = s' ∧ s'.context.current = none ∧
        (∃ ts t, (plainClerk 0).Takes (fun _ _ => pure ()) (.str "leave") [] s.unlogged ts ∧
          ts.getLast? = some t ∧ (plainClerk 0).PopsNothing (fun _ _ => pure ()) t) ∧
        ∃ f s'', ((plainClerk 0).issue (.str "work") []).on s' = (.error f, s'') ∧
          f.kind = "StateUndefinedException" ∧ s'.context.Alike s''.context := by
  obtain ⟨w, hcheck, hvalid⟩ := plainDesk_valid
  obtain ⟨hfirst, hlater⟩ := stranded_iff_pops_nothing (plainClerk 0) plainDesk_loads hcheck hvalid
  have hfree : (watchedDesk (plainClerk 0)).context.current = some "Desk::Free" := by decide +kernel
  have hleft : (((plainClerk 0).issue (.str "leave") []).on
      (watchedDesk (plainClerk 0))).2.context.current = none := by decide +kernel
  obtain ⟨⟨ts, hts⟩, hiff⟩ := hfirst rfl diary_aloof (fun _ _ => pure ()) (.str "leave") []
    (watchedDesk (plainClerk 0)) (by rw [hfree]; nofun)
  obtain ⟨t, hlast, hpops⟩ := (hiff ts hts).1 hleft
  exact ⟨⟨_, plainDesk_loads⟩, ⟨w, hcheck, hvalid⟩, rfl, diary_aloof, _, _, hfree, rfl, hleft,
    ⟨ts, t, hts, hlast, hpops⟩, hlater _ _ hleft .refl (.str "work") []⟩

/-- The desk of a clerk who leaves it as soon as it is taken, and rests before. -/
def hastyDesk : Machine :=
  deskMachine (clerkCall "tidy" []) (clerkCall "issue" ["'leave'"]) (clerkCall "issue" ["'rest'"])

/-- The hasty desk, free. -/
def hastyFree : Place :=
  ⟨deskMap (clerkCall "tidy" []) (clerkCall "issue" ["'leave'"]) (clerkCall "issue" ["'rest'"]),
    deskFree (clerkCall "tidy" [])⟩

/-- To work at the hasty desk. -/
def hastyWork : Choice :=
  ⟨⟨none, hastyFree, deskTransition "work" .set "Busy" "" [clerkCall "greet" []]⟩,
    deskGuard .set "Busy" "" [clerkCall "greet" []]⟩

/-- The hasty desk as it is simulated. -/
def hastyClerk : Simulator (List String) String :=
  deskWith meddler hastyDesk 0

theorem hastyDesk_loads :
    (Load.machine (desk (callEntry "tidy" []) (callEntry "issue" ["'leave'"])
      (callEntry "issue" ["'rest'"])) .null).outcome.1 = .ok hastyDesk := by rfl

/-- If actions issue transitions, the state can be lost although the guard of the
    transition that was issued sets a state, and the last one that was begun, by which
    the clerk rests, stays. -/
theorem hasty_desk_loses_state :
    (∃ v, (Load.machine v .null).outcome.1 = .ok hastyDesk) ∧
      (∃ w, hastyDesk.validate none none = .ok w ∧ w.isValid = true) ∧
      hastyClerk.noCatch = false ∧
      ∃ s, hastyClerk.Reachable s ∧ s.context.current = some "Desk::Free" ∧
        (∃ t, hastyClerk.Takes (hastyClerk.dispatch nestingLimit) (.str "work") [] s.unlogged [t] ∧
          t.choice = hastyWork ∧ hastyWork.guard.move = .set) ∧
        (hastyClerk.issue (.str "work") []).on s =
          issued ((hastyClerk.dispatchBy (hastyClerk.dispatch nestingLimit) (.str "work") []).on
            s.unlogged) ∧
        ((hastyClerk.issue (.str "work") []).on s).2.host =
          ["tidy", "greet", "ear: Desk::Free to Desk::Busy", "note", "note"] ∧
        ((hastyClerk.issue (.str "work") []).on s).2.context.current = none := by
  have hwf := Load.wellFormed_of_outcome hastyDesk_loads
  have hplace : hastyFree ∈ hastyClerk.machine.places := List.mem_cons_self
  have hat : hastyClerk.At hastyFree (watchedDesk hastyClerk).unlogged :=
    ⟨"Desk::Free", by decide +kernel, rfl⟩
  obtain ⟨x, hselects⟩ : ∃ x, hastyClerk.Selects (hastyClerk.dispatch nestingLimit) hastyFree
      (.str "work") [] (watchedDesk hastyClerk).unlogged (.ok x) _ :=
    exists_selects_ok hwf hplace (by decide +kernel)
  obtain rfl : x = hastyWork := List.mem_singleton.1 hselects.mem_choices
  have hpick := (pick_eq_ok_iff hwf hplace).2 hselects
  have hfault : ((hastyClerk.takeUpTo (hastyClerk.dispatch nestingLimit) [] hastyWork).on
      ((hastyClerk.pick (hastyClerk.dispatch nestingLimit) hastyFree (.str "work") []).on
        ((watchedDesk hastyClerk).unlogged.underway (.str "work"))).2).1.isOk = false := by
    decide +kernel
  have hdepth : (watchedDesk hastyClerk).context.depth = 0 := by decide +kernel
  refine ⟨⟨_, hastyDesk_loads⟩, Machine.exists_validation (by decide +kernel), rfl,
    watchedDesk hastyClerk, watchedDesk_reachable _, by decide +kernel,
    ⟨_, .last hat hpick fun args' hok => ?_, rfl, rfl⟩, issue_on ?_, by decide +kernel,
    by decide +kernel⟩
  · rw [hok] at hfault
    cases hfault
  · rw [limit, hdepth, Nat.add_zero, dispatch]

end Simulator
end StateMachine
