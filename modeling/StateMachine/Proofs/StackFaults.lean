import StateMachine.Proofs.Events

/-!
# Failed operations on the stack

A push fails if the stack is full, and a pop if it is empty. Such a failure does
not undo what the machine did on its way to the stack:

* a push goes to the end state of its guard first, tells the listeners and
  enters it;
* a guard with actions leaves the state before they are carried out, and a pop
  has nowhere to go back to.

So the stack is left as it was, but the state need not be, and listeners may
have been told of a change (`failed_stack_operation`). Only a push that stays,
or whose end state is the current one, and a pop without actions end where they
began.
-/

namespace StateMachine

variable {σ V : Type}

namespace Route

open Event

/-- What is done to the stack along a route, if anything. -/
def stackOperation? : Route → Option (Context String → Attempt String)
  | .push _ r | .pushHere r => some fun c => c.push (some r.scopedName)
  | .pop => some Context.pop
  | .set _ | .stay => none

/-- The events of arriving from the state `here` that come before the stack is
    operated on. -/
def approach (here : String) : Route → List (Event V)
  | .push q _ => moves here q.scopedName ++ acts [] (q.map.entryOf q.state)
  | .set _ | .stay | .pushHere _ | .pop => []

/-- The state the machine is in by then. -/
def interrupted (here : String) (acted : Bool) : Route → Option String
  | .push q _ => some q.scopedName
  | .pushHere _ => some here
  | .set _ | .stay | .pop => if acted then none else some here

/-- An operation on the stack that fails leaves the context as it was. -/
theorem context_of_stackOperation? {r : Route} {operation : Context String → Attempt String}
    (h : r.stackOperation? = some operation) {c : Context String} {e : ContextError}
    (he : (operation c).result = .error e) : (operation c).context = c := by
  have hpush : ∀ next : String, (c.push (some next)).result = .error e →
      (c.push (some next)).context = c := by
    intro next he
    rw [Context.push] at he ⊢
    cases hcurrent : c.current with
    | none => rfl
    | some state =>
      rw [hcurrent] at he
      rcases hfull : c.isFull with e' | _ | _
      · rfl
      · rw [hfull] at he
        simp [Context.arrive] at he
      · rfl
  have hpop : c.pop.result = .error e → c.pop.context = c := by
    intro he
    rw [Context.pop] at he ⊢
    cases hstack : c.stack with
    | nil => rfl
    | cons top rest =>
      rw [hstack] at he
      cases he
  cases r with
  | push q r | pushHere r =>
    cases h
    exact hpush _ he
  | pop =>
    cases h
    exact hpop he
  | set q | stay => cases h

/-- A listener is told of a change before the stack is operated on only if another
    state is gone to. -/
theorem told_mem_approach {here : String} {r : Route} {change : Change String}
    (h : (.told change : Event V) ∈ r.approach here) (acted : Bool) :
    r.interrupted here acted ≠ some here := by
  cases r with
  | push q r =>
    have hmoves : (.told change : Event V) ∈ (moves here q.scopedName : List (Event V)) := by
      simpa [approach, acts] using h
    intro hsame
    rw [moves, if_pos (Option.some.inj hsame).symm] at hmoves
    cases hmoves
  | set q | stay | pushHere r | pop => cases h

end Route

namespace Simulator

variable {sim : Simulator σ V} {again : Dispatch σ V} {s s' : Simulation σ}

/-- What is done to arrive along a route before the stack is operated on. -/
def approach (sim : Simulator σ V) (again : Dispatch σ V) (here : String) (acted : Bool) :
    Route → Run σ Unit
  | .push q _ => do
    Run.attempt sim.host fun c => c.set (some q.scopedName)
    sim.enter again
  | .pushHere _ => if acted then Run.attempt sim.host fun c => c.set (some here) else pure ()
  | .set _ | .stay | .pop => pure ()

/-- Takes a choice in the state `here`, along a route, up to the operation on the
    stack. -/
def upToStack (sim : Simulator σ V) (again : Dispatch σ V) (args : List V) (x : Choice)
    (here : String) (r : Route) : Run σ Unit := do
  let _ ← sim.setOut again x
  sim.performAll again (x.bindings args) x.guard.actions
  sim.approach again here x.guard.hasActions r

/-- Settling along a route that gets to the stack goes through its approach. -/
theorem settle_eq_approach (sim : Simulator σ V) (again : Dispatch σ V) (here : String)
    (acted : Bool) {r : Route} {operation : Context String → Attempt String}
    (hop : r.stackOperation? = some operation) :
    ∃ rest : Run σ Unit, sim.settle again here acted r = (do
      sim.approach again here acted r
      Run.attempt sim.host operation
      rest) := by
  cases r with
  | set q | stay => cases hop
  | push q r =>
    cases hop
    exact ⟨sim.enter again, by simp [settle, approach]⟩
  | pushHere r =>
    cases hop
    exact ⟨sim.enter again, by cases acted <;> simp [settle, approach]⟩
  | pop =>
    cases hop
    exact ⟨pure (), by simp [settle, approach]⟩

/-- Settling ends in a fault if the operation on the stack fails. -/
theorem settle_fails {here : String} {acted : Bool} {r : Route}
    {operation : Context String → Attempt String} {e : ContextError}
    (happroach : (sim.approach again here acted r).on s = (.ok (), s'))
    (hop : r.stackOperation? = some operation) (he : (operation s'.context).result = .error e) :
    (sim.settle again here acted r).on s =
      (.error (.context e), { s' with trace := s'.trace ++ (operation s'.context).trace }) := by
  have hattempt : (Run.attempt sim.host operation).on s' =
      (.error (.context e), { s' with trace := s'.trace ++ (operation s'.context).trace }) := by
    rw [Run.on_attempt, he, Route.context_of_stackOperation? hop he]
  obtain ⟨rest, hsettle⟩ := settle_eq_approach sim again here acted hop
  rw [hsettle, Run.on_bind_ok happroach, Run.on_bind_error hattempt]

/-- Acting and committing end in the fault of the commit. -/
theorem actAndCommit_fails {plan : Plan} {actions : List Action} {bindings : Bindings V}
    {saved : Option String} {s₁ : Simulation σ} {f : Fault}
    (hperform : (sim.performAll again bindings actions).on s = (.ok (), s₁))
    (hcommit : (sim.commit again plan saved).on s₁ = (.error f, s')) :
    (sim.actAndCommit again plan actions bindings saved).on s = (.error f, s') := by
  rw [actAndCommit]
  split
  · rw [Run.on_ensure, hperform]
    dsimp only
    rw [hcommit]
  · rw [Run.on_bind_ok hperform, hcommit]

section Aloof

variable (h : sim.host.Aloof)

include h

/-- Up to the stack, a machine that has set out passes through the events that come
    before. -/
theorem approach_passes {g : Guard} {map : StateMap} {r : Route} (hr : g.Leads sim.machine map r)
    {here : String} {acted : Bool} {stack : List String}
    (hs : s.context.Departed here acted stack)
    (happroach : ∀ e ∈ (r.approach here : List (Event V)), e.emptiesStack = false)
    (hok : (sim.approach again here acted r).on s = (.ok (), s')) :
    sim.Passes again s (r.approach here) s' ∧ s'.context.current = r.interrupted here acted ∧
      s'.context.stack = stack := by
  cases r with
  | push q r =>
    have hentry := Event.forall_mem_acts.1 (List.forall_mem_append.1 happroach).2
    have hset := enter_after_passes h hr.2.2.1.2 (fun _ => set_passes h again hs.leaving) hentry hok
    rwa [hs.stack] at hset
  | pushHere r => exact restore_passes h again hs hok
  | set q | stay | pop =>
    cases hok
    exact ⟨.refl _, hs.current, hs.stack⟩

/-- Taking a choice ends in the fault of the operation on the stack, in the state
    that the machine had got to. -/
theorem takeUpTo_fails {args : List V} {x : Choice} {p : Place} {r : Route}
    {operation : Context String → Attempt String} {e : ContextError} (hr : sim.Ready p x r s)
    (hreach : (sim.upToStack again args x p.scopedName r).on s = (.ok (), s'))
    (hop : r.stackOperation? = some operation) (he : (operation s'.context).result = .error e)
    (hevents : ∀ ev ∈ r.departure p x.guard (x.bindings args) ++ r.approach p.scopedName,
      ev.emptiesStack = false) :
    (sim.takeUpTo again args x).on s =
        (.error (.context e), { s' with trace := s'.trace ++ (operation s'.context).trace }) ∧
      sim.Passes again s (r.departure p x.guard (x.bindings args) ++ r.approach p.scopedName) s' ∧
      s'.context.current = r.interrupted p.scopedName x.guard.hasActions ∧
      s'.context.stack = s.context.stack := by
  obtain ⟨saved, s₁, hsetOut, hreach⟩ := Run.on_bind_eq_ok.1 hreach
  obtain ⟨_, s₂, hperform, happroach⟩ := Run.on_bind_eq_ok.1 hreach
  obtain ⟨hdeparture, hbefore⟩ := List.forall_mem_append.1 hevents
  obtain ⟨hdeparts, hsaved, hdeparted⟩ := depart_passes h hr hdeparture hsetOut hperform
  obtain ⟨hpasses, hcurrent, hstack⟩ := approach_passes h hr.leads hdeparted hbefore happroach
  have hcommit := settle_fails happroach hop he
  rw [← hr.commit_eq again hsaved] at hcommit
  refine ⟨?_, hdeparts.append hpasses, hcurrent, hstack⟩
  rw [takeUpTo_eq_setOut, Run.on_bind_ok hsetOut]
  exact Run.on_bind_error (actAndCommit_fails hperform hcommit)

end Aloof

/-- Issuing a transition whose guard raises nothing until the operation on the stack
    fails, with an aloof host, raises the fault of the operation. The stack is left as
    it was. But the machine is in the state it had got to, and the listeners have been
    told of the change; it is where it began, with nobody told, only if that is the
    same state. -/
theorem failed_stack_operation (sim : Simulator σ V) {v n : Value}
    (hload : (Load.machine v n).outcome.1 = .ok sim.machine) {target : Option Target}
    {source : Option Value} {w : Validation} (hcheck : sim.machine.validate target source = .ok w)
    (hvalid : w.isValid = true) (haloof : sim.host.Aloof) (again : Dispatch σ V) {p : Place}
    {s s₁ s₂ : Simulation σ} (hp : sim.At p s) {name : Value} {args : List V} {x : Choice}
    (hselects : sim.Selects again p name args s.unlogged (.ok x) s₁) {r : Route}
    (hr : x.guard.Leads sim.machine p.map r)
    (hreach : (sim.upToStack again args x p.scopedName r).on s₁ = (.ok (), s₂))
    {operation : Context String → Attempt String} (hop : r.stackOperation? = some operation)
    {e : ContextError} (he : (operation s₂.context).result = .error e)
    (hevents : ∀ ev ∈ r.departure p x.guard (x.bindings args) ++ r.approach p.scopedName,
      ev.emptiesStack = false) :
    ∃ s', (sim.issue name args).on s = (.error (.context e), s') ∧
      sim.Passes again s₁ (r.departure p x.guard (x.bindings args) ++ r.approach p.scopedName) s' ∧
      s'.context.stack = s.context.stack ∧
      s'.context.current = r.interrupted p.scopedName x.guard.hasActions ∧
      (s'.context.current = s.context.current ↔
        r.interrupted p.scopedName x.guard.hasActions = some p.scopedName) ∧
      (s'.context.current = s.context.current → ∀ change, .told change ∉
        r.departure p x.guard (x.bindings args) ++ r.approach p.scopedName) := by
  have hwf := Load.wellFormed_of_outcome hload
  have hm := Machine.valid_of_validate hcheck hvalid
  obtain ⟨_, hready⟩ := hselects.exists_ready hwf hm haloof hp
  obtain ⟨htake, hpasses, hcurrent, hstack⟩ :=
    takeUpTo_fails haloof { hready with leads := hr } hreach hop he hevents
  have hissue := issue_taken hwf haloof hp hselects htake
  have hstack₁ : s₁.context.stack = s.context.stack := (hselects.alike haloof.observes).stack_eq
  rw [hp.current_eq]
  refine ⟨_, hissue, hpasses.quietly (.quiet rfl rfl rfl), hstack.trans hstack₁, hcurrent,
    by rw [← hcurrent]; rfl, fun hsame change htold => ?_⟩
  rcases List.mem_append.1 htold with htold | htold
  · simp [Route.departure, Event.acts] at htold
  · exact Route.told_mem_approach htold _ (hcurrent.symm.trans hsame)

/-- A desk with room for one suspended state, which is taken. -/
def fullDesk : Simulation (List String) :=
  (((plainClerk 1).issue (.str "call") []).on (watchedDesk (plainClerk 1))).2

/-- The same desk when a call has been selected. -/
def calledDesk : Simulation (List String) :=
  (((plainClerk 1).pick (fun _ _ => pure ()) plainFree (.str "call") []).on
    (fullDesk.unlogged.underway (.str "call"))).2

/-- The same desk when the call is to suspend it. -/
def blockedDesk : Simulation (List String) :=
  (((plainClerk 1).upToStack (fun _ _ => pure ()) [] (plainChoice "call" .push "Busy" "Free" [])
    "Desk::Free" (.push plainBusy plainFree)).on calledDesk).2

/-- At a desk with no room, a call fails when the clerk is at work already. -/
theorem full_desk_gets_busy :
    (∃ v, (Load.machine v .null).outcome.1 = .ok plainDesk) ∧
      (∃ w, plainDesk.validate none none = .ok w ∧ w.isValid = true) ∧ diary.Aloof ∧
      (plainClerk 1).At plainFree fullDesk ∧
      (plainClerk 1).Selects (fun _ _ => pure ()) plainFree (.str "call") [] fullDesk.unlogged
        (.ok (plainChoice "call" .push "Busy" "Free" [])) calledDesk ∧
      (deskGuard .push "Busy" "Free" []).Leads plainDesk plainMap (.push plainBusy plainFree) ∧
      ((plainClerk 1).upToStack (fun _ _ => pure ()) [] (plainChoice "call" .push "Busy" "Free" [])
        "Desk::Free" (.push plainBusy plainFree)).on calledDesk = (.ok (), blockedDesk) ∧
      ∃ e s', (blockedDesk.context.push (some "Desk::Free")).result = .error e ∧
        ((plainClerk 1).issue (.str "call") []).on fullDesk = (.error (.context e), s') ∧
        s'.context.stack = fullDesk.context.stack ∧ s'.context.current = some "Desk::Busy" := by
  obtain ⟨w, hcheck, hvalid⟩ := plainDesk_valid
  have hat : (plainClerk 1).At plainFree fullDesk := ⟨"Desk::Free", by decide +kernel, rfl⟩
  obtain ⟨x, hselects⟩ : ∃ x, (plainClerk 1).Selects (fun _ _ => pure ()) plainFree (.str "call") []
      fullDesk.unlogged (.ok x) calledDesk :=
    exists_selects_ok (Load.wellFormed_of_outcome plainDesk_loads) plainFree_mem (by decide +kernel)
  obtain rfl : x = plainChoice "call" .push "Busy" "Free" [] :=
    List.mem_singleton.1 hselects.mem_choices
  have hr : (deskGuard .push "Busy" "Free" []).Leads plainDesk plainMap
      (.push plainBusy plainFree) :=
    ⟨rfl, by decide, ⟨rfl, rfl⟩, ⟨rfl, rfl⟩⟩
  obtain ⟨_, hreach⟩ : ∃ u, ((plainClerk 1).upToStack (fun _ _ => pure ()) []
      (plainChoice "call" .push "Busy" "Free" []) "Desk::Free"
      (.push plainBusy plainFree)).on calledDesk = (.ok u, blockedDesk) :=
    Run.exists_ok (by decide +kernel)
  have hfull : (blockedDesk.context.push (some "Desk::Free")).result.isOk = false := by
    decide +kernel
  rcases he : (blockedDesk.context.push (some "Desk::Free")).result with e | change
  · obtain ⟨s', hissue, -, hstack, hcurrent, -⟩ := failed_stack_operation (plainClerk 1)
      plainDesk_loads hcheck hvalid diary_aloof _ hat hselects hr hreach rfl he (by decide)
    exact ⟨⟨_, plainDesk_loads⟩, ⟨w, hcheck, hvalid⟩, diary_aloof, hat, hselects, hr, hreach, e, s',
      rfl, hissue, hstack, hcurrent⟩
  · rw [he] at hfull
    cases hfull

/-- A transition that fails is not undone: a call at a desk with no room leaves the
    clerk at work, of which the listener was told; and to leave a desk to which there
    is nowhere to go back loses the state. -/
theorem failed_transitions_move_desk :
    (∃ v, (Load.machine v .null).outcome.1 = .ok plainDesk) ∧
      (∃ w, plainDesk.validate none none = .ok w ∧ w.isValid = true) ∧
      (∃ s, (plainClerk 1).Reachable s ∧ s.context.current = some "Desk::Free" ∧
        complaint? (((plainClerk 1).issue (.str "call") []).on s).1 =
          some ("StateStackOverflowException", "ClerkContext: state stack of size 1 is full.") ∧
        (((plainClerk 1).issue (.str "call") []).on s).2.context.current = some "Desk::Busy" ∧
        (((plainClerk 1).issue (.str "call") []).on s).2.host =
          s.host ++ ["tidy", "ear: Desk::Free to Desk::Busy", "sign"]) ∧
      ∃ s, (plainClerk 0).Reachable s ∧ s.context.current = some "Desk::Free" ∧
        complaint? (((plainClerk 0).issue (.str "leave") []).on s).1 =
          some ("EmptyStackException", "ClerkContext: popping on an empty state stack.") ∧
        (((plainClerk 0).issue (.str "leave") []).on s).2.context.current = none := by
  refine ⟨⟨_, plainDesk_loads⟩, plainDesk_valid, ⟨fullDesk, ?_, by decide +kernel, by decide +kernel,
    by decide +kernel, by decide +kernel⟩, watchedDesk (plainClerk 0), watchedDesk_reachable _,
    by decide +kernel, by decide +kernel, by decide +kernel⟩
  exact .issue (.str "call") [] (watchedDesk_reachable (plainClerk 1))

end Simulator
end StateMachine
