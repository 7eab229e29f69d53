import StateMachine.Proofs.Dispatching

/-!
# What the steps of a simulator keep

With an aloof host, what is true of the context changes only where the
simulator changes it. A property of contexts is *steady*, together with a
property of faults, if it does not depend on the listeners and survives the
emptying of the stack, and if the current state can be looked up, or else its
fault is one of those allowed (`Simulator.Steady`). Evaluating expressions,
carrying out actions, entering and leaving states keep every steady property
(`evaluate_keeps` and those after it). So does taking a guard, if committing
its next state does (`takeAlone_triple`), and a dispatch, if taking a guard
does (`handle_keeps`, `dispatchBy_keeps`).
-/

namespace StateMachine

variable {σ V α β : Type}

/-- What carrying out actions and entering states keeps. -/
structure Simulator.Steady (sim : Simulator σ V) (C : Context String → Prop) (E : Fault → Prop) :
    Prop where
  aloof : sim.host.Aloof
  raises : sim.host.Raises E
  /-- Every fault but that of a missing state is allowed. -/
  faults : ∀ f, (∀ name, f ≠ .noState name) → E f
  listeners : Context.IgnoresListeners C
  emptyStack : ∀ c, C c → C c.emptyStack
  /-- The current state is found, or its fault is allowed. -/
  current : ∀ c name, C c → c.current = some name →
    (∃ p, sim.machine.stateNamed? name = some p) ∨ E (.noState name)

namespace Simulator

/-- Takes a guard, but for the transition that follows a pop. -/
def takeAlone (sim : Simulator σ V) (again : Dispatch σ V) (plan : Plan) (actions : List Action)
    (bindings : Bindings V) : Run σ Unit := do
  let saved ← if plan.savesState then some <$> Run.current else pure none
  if plan.exitsCurrent then sim.leave again
  if plan.clearsState then Run.changeContext Context.clear
  sim.actAndCommit again plan actions bindings saved

theorem take_eq_takeAlone (sim : Simulator σ V) (again : Dispatch σ V) (plan : Plan)
    (actions : List Action) (bindings : Bindings V) :
    sim.take again plan actions bindings = (do
      sim.takeAlone again plan actions bindings
      sim.goOn again plan bindings) := by
  rw [take, takeAlone]
  split <;> split <;> split <;> simp

variable {sim : Simulator σ V} {C : Context String → Prop} {E : Fault → Prop}
  (h : sim.Steady C E) (again : Dispatch σ V)

include h

/-! ## Expressions -/

/-- What the host does keeps the property. -/
theorem does_keeps {x : Run σ α} (hx : sim.host.Does x) : Run.Keeps C E x :=
  (h.aloof.stays hx).keeps h.listeners (h.raises hx)

theorem evaluate_keeps (e : String) (bindings : Bindings V) :
    Run.Keeps C E (sim.evaluate again e bindings) := by
  refine .bind .get fun s => ?_
  cases Screen.objection? e (sim.knownNames bindings s.host) with
  | some objection => exact .throw (h.faults _ (by simp))
  | none =>
    refine .tryCatch (does_keeps h (.evaluate ..)) fun f => .throw (h.faults _ ?_)
    simp [Fault.inExpression]

theorem evaluateAll_keeps (bindings : Bindings V) (es : List String) :
    Run.Keeps C E (sim.evaluateAll again bindings es) := by
  induction es with
  | nil => exact .pure []
  | cons e es ih =>
    exact .bind (evaluate_keeps h again e bindings) fun v => .bind ih fun vs => .pure _

theorem argumentList_keeps (text : Value) (bindings : Bindings V) :
    Run.Keeps C E (sim.argumentList again text bindings) := by
  cases text with
  | str t =>
    rw [argumentList]
    refine .ite (fun _ => .pure []) fun _ => ?_
    exact .bind (evaluate_keeps h again _ bindings) fun v => does_keeps h (.spread v)
  | _ => exact .throw (h.faults _ (by simp))

theorem holds_keeps (bindings : Bindings V) (g : Guard) :
    Run.Keeps C E (sim.holds again bindings g) := by
  rw [holds]
  refine .ite (fun _ => ?_) fun _ => .pure true
  exact .bind (evaluate_keeps h again _ bindings) fun v => .pure _

/-! ## Actions -/

theorem perform_keeps (bindings : Bindings V) (a : Action) :
    Run.Keeps C E (sim.perform again bindings a) := by
  refine .bind (.report _) fun _ => .ite (fun _ => .changeContext h.emptyStack) fun _ => ?_
  refine .bind (evaluateAll_keeps h again bindings _) fun values => .ite (fun _ => ?_) fun _ => ?_
  · cases values with
    | nil => exact .throw (h.faults _ (by simp))
    | cons v vs => exact does_keeps h (.assign ..)
  · refine .bind (does_keeps h (.member ..)) fun f => ?_
    cases f with
    | some f => exact does_keeps h (.call ..)
    | none =>
      exact .ite (fun _ => .throw (h.faults _ (by simp))) fun _ => .throw (h.faults _ (by simp))

theorem performAll_keeps (bindings : Bindings V) (as : List Action) :
    Run.Keeps C E (sim.performAll again bindings as) := by
  induction as with
  | nil => exact .pure ()
  | cons a as ih => exact .bind (perform_keeps h again bindings a) fun _ => ih

theorem performBlock_keeps (headline : String) (actions : List Action) :
    Run.Keeps C E (sim.performBlock again headline actions) :=
  .ite (fun _ => .pure ()) fun _ =>
    .bind (.report _) fun _ => performAll_keeps h again [] actions

/-! ## States -/

/-- The current state, if there is one, is found. -/
theorem current_triple :
    Run.Triple (fun s => C s.context) (Run.current : Run σ String)
      (fun name s => C s.context ∧ s.context.current = some name)
      (fun f s => C s.context ∧ E f) := by
  intro s hs
  rw [Run.on_current]
  cases hcurrent : s.context.current with
  | none => exact ⟨hs, h.faults _ (by simp)⟩
  | some name => exact ⟨hs, hcurrent⟩

theorem current_keeps : Run.Keeps C E (Run.current : Run σ String) :=
  (current_triple h).weaken (fun _ hs => hs) (fun _ _ hs => hs.1) fun _ _ hs => hs

/-- What is done with the current state keeps the property if it does for every
    state. -/
theorem current_place_keeps {k : String → Place → Run σ α}
    (hk : ∀ name p, sim.machine.stateNamed? name = some p → Run.Keeps C E (k name p)) :
    Run.Keeps C E (do
      let name ← Run.current
      let p ← sim.place name
      k name p) := by
  refine Run.Triple.bind (current_triple h) fun name s hs => ?_
  cases hp : sim.machine.stateNamed? name with
  | some p =>
    have hplace : sim.place name = (pure p : Run σ Place) := by rw [place, hp]
    rw [hplace, pure_bind]
    exact hk name p hp s hs.1
  | none =>
    -- a state that is not found is one whose fault is allowed
    have hplace : sim.place name = (throw (.noState name) : Run σ Place) := by rw [place, hp]
    have hE : E (.noState name) := by
      rcases h.current _ _ hs.1 hs.2 with ⟨p, hp'⟩ | hE
      · rw [hp] at hp'
        cases hp'
      · exact hE
    rw [hplace]
    exact ⟨hs.1, hE⟩

theorem enter_keeps : Run.Keeps C E (sim.enter again) :=
  current_place_keeps h fun _ _ _ => performBlock_keeps h again _ _

theorem leave_keeps : Run.Keeps C E (sim.leave again) :=
  current_place_keeps h fun _ _ _ => performBlock_keeps h again _ _

theorem notifyAll_keeps (change : Change String) (ids : List String) :
    Run.Keeps C E (Run.notifyAll sim.host change ids) := by
  induction ids with
  | nil => exact .pure ()
  | cons id ids ih => exact .bind (does_keeps h (.notify ..)) fun _ => ih

/-- An attempt on the context keeps what the attempt itself keeps. -/
theorem attempt_keeps {operation : Context String → Attempt String}
    (hop : ∀ c, C c → C (operation c).context) :
    Run.Keeps C E (Run.attempt sim.host operation) := by
  intro s hs
  rw [Run.on_attempt]
  have hs' := hop s.context hs
  rcases (operation s.context).result with e | _ | change
  · exact ⟨hs', h.faults _ (by simp)⟩
  · exact hs'
  · exact notifyAll_keeps h change _ _ hs'

/-! ## Guards -/

/-- What taking a guard comes to, from what committing its next state comes to. The
    state that is saved, if any, satisfies `R`. -/
theorem takeAlone_triple {plan : Plan} {actions : List Action} {bindings : Bindings V}
    {R : Option String → Prop} {Q : Unit → Simulation σ → Prop}
    (hclear : ∀ c, C c → C c.clear)
    (hsaved : ∀ c name, C c → c.current = some name → R (some name))
    (hnone : plan.savesState = false → R none)
    (hact : ∀ saved, R saved → Run.Triple (fun s => C s.context)
      (sim.actAndCommit again plan actions bindings saved) Q fun f s => C s.context ∧ E f) :
    Run.Triple (fun s => C s.context) (sim.takeAlone again plan actions bindings) Q
      fun f s => C s.context ∧ E f := by
  have hrest : ∀ {x : Run σ Unit},
      Run.Triple (fun s => C s.context) x Q (fun f s => C s.context ∧ E f) →
      Run.Triple (fun s => C s.context) (do
        if plan.exitsCurrent then sim.leave again
        if plan.clearsState then Run.changeContext Context.clear
        x) Q fun f s => C s.context ∧ E f := by
    intro x hx
    have hcleared : Run.Triple (fun s => C s.context) (do
        if plan.clearsState then Run.changeContext Context.clear
        x) Q fun f s => C s.context ∧ E f :=
      .ite (fun _ => .bind (Run.Keeps.changeContext hclear) fun _ => hx) fun _ => hx
    exact .ite (fun _ => .bind (leave_keeps h again) fun _ => hcleared) fun _ => hcleared
  rw [takeAlone]
  refine .ite (fun _ => ?_) fun hsaves => ?_
  · rw [map_eq_pure_bind, bind_assoc]
    refine Run.Triple.bind (current_triple h) fun name s hs => ?_
    exact hrest (hact _ (hsaved _ name hs.1 hs.2)) s hs.1
  · exact hrest (hact none (hnone (Bool.eq_false_iff.2 hsaves)))

/-! ## Dispatches -/

theorem fit_keeps (m : Option Mismatch) : Run.Keeps C E (Run.fit m : Run σ Unit) :=
  .fit fun _ => h.faults _ (by simp)

theorem tests_keeps (args : List V) (c : Candidate) (g : Guard) :
    Run.Keeps C E (sim.tests again args c g) :=
  .bind (holds_keeps h again _ _) fun _ =>
    .ite (fun _ => .pure true) fun _ => .bind (.report _) fun _ => .pure false

theorem asks_keeps (args : List V) (x : Choice) : Run.Keeps C E (sim.asks again args x) :=
  .bind (fit_keeps h _) fun _ => .bind (fit_keeps h _) fun _ =>
    tests_keeps h again args x.candidate x.guard

/-- Handling a transition keeps the property if taking any of its choices does. -/
theorem handle_keeps {p : Place} {name : Value} {args : List V}
    (hguards : ∀ c ∈ p.candidates name args.length, c.transition.guards ≠ [])
    (hfollow : ∀ x ∈ p.choices name args.length,
      Run.Keeps C E (sim.follow again name args x)) :
    Run.Keeps C E (sim.handle again p name args) := by
  rw [handle_eq sim again p name args hguards]
  refine .findM?_bind (fun x _ => asks_keeps h again args x) hfollow ?_
  exact .bind (.report _) fun _ => .throw (h.faults _ (by simp))

/-- A dispatch keeps the property if handling the transition in any state does. -/
theorem dispatchBy_keeps {name : Value} {args : List V}
    (hname : ∀ c name, C c → C (c.setTransition name))
    (hhandle : ∀ state p, sim.machine.stateNamed? state = some p →
      Run.Keeps C E (sim.handle again p name args)) :
    Run.Keeps C E (sim.dispatchBy again name args) := by
  refine current_place_keeps h fun state p hp => ?_
  refine .bind (.changeContext fun c hc => hname c _ hc) fun _ => .ensure (hhandle state p hp) ?_
  exact .changeContext fun c hc => hname c _ hc

end Simulator
end StateMachine
