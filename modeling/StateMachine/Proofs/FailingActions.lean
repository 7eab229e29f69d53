import StateMachine.Proofs.StackFaults
import StateMachine.Proofs.Stranded

/-!
# Failing actions

Where an action of a guard raises a fault, the next state is committed all the same, as
if none had. This compares two simulations of one machine, with hosts that are aloof.

* The operations on a context do not look at its listeners (`Context.Respects`).
* A step is related to the same step of the other simulation if it does the same from
  contexts that are alike (`Simulator.Together`). The relation is closed under the
  constructions steps are made of, so settling along a route is in it.
* What the actions come to (`Simulator.Acts`), and what committing the next state comes to
  (`Simulator.Settles`), leaves the contexts alike: a fault of an action changes nothing
  that settling depends on, and settling has the same fault of the stack in both.

With what taking a choice comes to (`takeUpTo_of_catch`, `takeUpTo_of_noCatch`,
`takeUpTo_of_through`) this is put together in `failing_action_commits_the_same`. The state
of a host is nothing that is compared. So an action on entry that issues a transition may
see the difference (`failing_action_makes_difference`).
-/

namespace StateMachine

variable {σ σ' V α β : Type}

/-! ## Contexts that differ in their listeners -/

namespace Context

variable {c c' : Context String}

theorem Alike.symm (h : c.Alike c') : c'.Alike c := by
  rw [Alike] at h ⊢
  rw [h]

theorem Alike.emptyStack (h : c.Alike c') : c.emptyStack.Alike c'.emptyStack := by
  rw [Alike] at h ⊢
  rw [h]
  rfl

theorem Alike.setTransition (h : c.Alike c') (name : Value) :
    (c.setTransition name).Alike (c'.setTransition name) := by
  rw [Alike] at h ⊢
  rw [h]
  rfl

/-- The operation does not depend on the listeners, and leaves them as they are. -/
def Respects (operation : Context String → Attempt String) : Prop :=
  ∀ c ids, operation { c with listeners := ids } =
    { operation c with context := { (operation c).context with listeners := ids } }

theorem respects_set (next : String) : Respects fun c => c.set (some next) := by
  intro c ids
  simp only [set, Option.isNone_some, Bool.and_false, Bool.false_eq_true, if_false]
  rfl

theorem respects_push (next : String) : Respects fun c => c.push (some next) := by
  rintro ⟨name, current, previous, transition, stack, stackSize, debug, listeners⟩ ids
  rcases current with - | here
  · rfl
  · let c : Context String :=
      ⟨name, some here, previous, transition, stack, stackSize, debug, listeners⟩
    have hfull : isFull { c with listeners := ids } = c.isFull := rfl
    simp only [push, c] at hfull ⊢
    rw [hfull]
    rcases isFull (S := String) _ with e | _ | _
    · rfl
    · simp only [Option.isNone_some, Bool.and_false, Bool.false_eq_true, if_false]
      rfl
    · rfl

theorem respects_pop : Respects Context.pop := by
  rintro ⟨name, current, previous, transition, stack, stackSize, debug, listeners⟩ ids
  rcases stack with - | ⟨top, rest⟩ <;> rfl

namespace Respects

variable {operation : Context String → Attempt String} (h : Respects operation)
include h

theorem listeners_eq (c : Context String) :
    (operation c).context.listeners = c.listeners := by
  have hself := h c c.listeners
  rw [show ({ c with listeners := c.listeners } : Context String) = c from rfl] at hself
  rw [hself]

theorem alike (hc : c.Alike c') : (operation c).context.Alike (operation c').context := by
  rw [Alike] at hc ⊢
  rw [hc, h]

theorem result_eq (hc : c.Alike c') : (operation c').result = (operation c).result := by
  rw [Alike] at hc
  rw [hc, h]

end Respects

end Context

theorem Route.respects_of_stackOperation? {r : Route}
    {operation : Context String → Attempt String} (h : r.stackOperation? = some operation) :
    Context.Respects operation := by
  cases r with
  | push q r | pushHere r =>
    cases h
    exact Context.respects_push _
  | pop =>
    cases h
    exact Context.respects_pop
  | set q | stay => cases h

/-! ## Two runs -/

namespace Simulator

/-- The steps do the same in two simulations: where the contexts are alike and both steps give
    a result, it is the same, the contexts are alike again, and the simulations pass through
    the same events. -/
def Together (sim : Simulator σ V) (again : Dispatch σ V) (sim' : Simulator σ' V)
    (again' : Dispatch σ' V) (x : Run σ α) (x' : Run σ' α) : Prop :=
  ∀ ⦃s s' a a' t t'⦄, s.context.Alike s'.context → x.on s = (.ok a, t) →
    x'.on s' = (.ok a', t') → a = a' ∧ t.context.Alike t'.context ∧
      ∃ es, sim.Passes again s es t ∧ sim'.Passes again' s' es t'

variable {sim : Simulator σ V} {again : Dispatch σ V} {sim' : Simulator σ' V}
  {again' : Dispatch σ' V}

namespace Together

theorem pure (a : α) : Together sim again sim' again' (Pure.pure a) (Pure.pure a) := by
  rintro s s' _ _ _ _ hs ⟨⟩ ⟨⟩
  exact ⟨rfl, hs, [], .refl _, .refl _⟩

theorem bind {x : Run σ α} {x' : Run σ' α} {k : α → Run σ β} {k' : α → Run σ' β}
    (hx : Together sim again sim' again' x x')
    (hk : ∀ a, Together sim again sim' again' (k a) (k' a)) :
    Together sim again sim' again' (x >>= k) (x' >>= k') := by
  intro s s' b b' t t' hs hrun hrun'
  obtain ⟨a, s₁, hxs, hks⟩ := Run.on_bind_eq_ok.1 hrun
  obtain ⟨a', s₁', hxs', hks'⟩ := Run.on_bind_eq_ok.1 hrun'
  obtain ⟨rfl, hs₁, es, hpasses, hpasses'⟩ := hx hs hxs hxs'
  obtain ⟨hb, ht, es', hlater, hlater'⟩ := hk a hs₁ hks hks'
  exact ⟨hb, ht, es ++ es', hpasses.append hlater, hpasses'.append hlater'⟩

theorem ite {c : Prop} [Decidable c] {x y : Run σ α} {x' y' : Run σ' α}
    (hx : Together sim again sim' again' x x') (hy : Together sim again sim' again' y y') :
    Together sim again sim' again' (if c then x else y) (if c then x' else y') := by
  split
  · exact hx
  · exact hy

theorem report (line : String) :
    Together sim again sim' again' (Run.report line) (Run.report line) := by
  rintro s s' _ _ _ _ hs ⟨⟩ ⟨⟩
  exact ⟨rfl, hs, [], .quiet rfl rfl rfl, .quiet rfl rfl rfl⟩

theorem current : Together sim again sim' again' Run.current Run.current := by
  intro s s' a a' t t' hs hrun hrun'
  rw [Run.on_current] at hrun hrun'
  rw [hs.current_eq] at hrun'
  cases hcurrent : s.context.current with
  | none =>
    rw [hcurrent] at hrun
    cases hrun
  | some here =>
    rw [hcurrent] at hrun hrun'
    cases hrun
    cases hrun'
    exact ⟨rfl, hs, [], .refl _, .refl _⟩

theorem place (hmachine : sim'.machine = sim.machine) (name : String) :
    Together sim again sim' again' (sim.place name) (sim'.place name) := by
  rw [Simulator.place, Simulator.place, hmachine]
  cases sim.machine.stateNamed? name with
  | none =>
    intro s s' a a' t t' _ hrun
    cases hrun
  | some p => exact pure p

section Aloof

variable (h : sim.host.Aloof) (h' : sim'.host.Aloof)
include h h'

/-- An action is carried out in both simulations. -/
theorem perform (bindings : Bindings V) (a : Action) :
    Together sim again sim' again' (sim.perform again bindings a)
      (sim'.perform again' bindings a) := by
  intro s s' _ _ t t' hs hrun hrun'
  refine ⟨rfl, ?_, [.acted bindings a], .acted hrun, .acted hrun'⟩
  by_cases ha : a.emptiesStack = true
  · -- the stack is emptied in both
    rw [Simulator.perform, if_pos ha] at hrun hrun'
    cases hrun
    cases hrun'
    exact hs.emptyStack
  · have ha : a.emptiesStack = false := Bool.eq_false_iff.2 ha
    exact ((perform_stays h bindings ha).alike hrun).symm.trans
      (hs.trans ((perform_stays h' bindings ha).alike hrun'))

theorem performAll (bindings : Bindings V) (as : List Action) :
    Together sim again sim' again' (sim.performAll again bindings as)
      (sim'.performAll again' bindings as) := by
  induction as with
  | nil => exact pure ()
  | cons a as ih => exact .bind (perform h h' bindings a) fun _ => ih

theorem performBlock (headline : String) (as : List Action) :
    Together sim again sim' again' (sim.performBlock again headline as)
      (sim'.performBlock again' headline as) :=
  .ite (.pure ()) (.bind (.report headline) fun _ => performAll h h' [] as)

/-- The context is operated on in both simulations. -/
theorem attempt {operation : Context String → Attempt String}
    (hop : Context.Respects operation) :
    Together sim again sim' again' (Run.attempt sim.host operation)
      (Run.attempt sim'.host operation) := by
  intro s s' _ _ t t' hs hrun hrun'
  rw [Run.on_attempt] at hrun hrun'
  rw [hop.result_eq hs] at hrun'
  have halike := hop.alike hs
  have hquiet : sim.Passes again s [] { s with
      context := (operation s.context).context
      trace := s.trace ++ (operation s.context).trace } :=
    .quiet rfl rfl (hop.listeners_eq s.context)
  have hquiet' : sim'.Passes again' s' [] { s' with
      context := (operation s'.context).context
      trace := s'.trace ++ (operation s'.context).trace } :=
    .quiet rfl rfl (hop.listeners_eq s'.context)
  rcases hresult : (operation s.context).result with e | _ | change <;> rw [hresult] at hrun hrun'
  · cases hrun
  · cases hrun
    cases hrun'
    exact ⟨rfl, halike, [], hquiet, hquiet'⟩
  · -- the listeners are told when the context has changed
    have hstays := (notifyAll_stays h change _).alike hrun
    have hstays' := (notifyAll_stays h' change _).alike hrun'
    exact ⟨rfl, hstays.symm.trans (halike.trans hstays'), [.told change],
      hquiet.append (.told hrun), hquiet'.append (.told hrun')⟩

variable (hmachine : sim'.machine = sim.machine)
include hmachine

theorem enter : Together sim again sim' again' (sim.enter again) (sim'.enter again') :=
  .bind .current fun name => .bind (.place hmachine name) fun _ => performBlock h h' _ _

theorem leave : Together sim again sim' again' (sim.leave again) (sim'.leave again') :=
  .bind .current fun name => .bind (.place hmachine name) fun _ => performBlock h h' _ _

theorem approach (here : String) (acted : Bool) (r : Route) :
    Together sim again sim' again' (sim.approach again here acted r)
      (sim'.approach again' here acted r) := by
  cases r with
  | push q r =>
    exact .bind (attempt h h' (Context.respects_set _)) fun _ => enter h h' hmachine
  | pushHere r => exact .ite (attempt h h' (Context.respects_set _)) (.pure ())
  | set q | stay | pop => exact .pure ()

/-- The next state is put in place and entered in both simulations. -/
theorem settle (here : String) (acted : Bool) (r : Route) :
    Together sim again sim' again' (sim.settle again here acted r)
      (sim'.settle again' here acted r) := by
  have hset : ∀ next : String, Together sim again sim' again'
      (Run.attempt sim.host fun c => c.set (some next))
      (Run.attempt sim'.host fun c => c.set (some next)) :=
    fun next => attempt h h' (Context.respects_set next)
  have hpush : ∀ next : String, Together sim again sim' again'
      (Run.attempt sim.host fun c => c.push (some next))
      (Run.attempt sim'.host fun c => c.push (some next)) :=
    fun next => attempt h h' (Context.respects_push next)
  have henter : Together sim again sim' again' (sim.enter again) (sim'.enter again') :=
    enter h h' hmachine
  cases r with
  | set q => exact .bind (hset _) fun _ => henter
  | stay => exact .ite (hset _) (.pure ())
  | push q r =>
    exact .bind (hset _) fun _ => .bind henter fun _ => .bind (hpush _) fun _ => henter
  | pushHere r =>
    have hrest := Together.bind (hpush r.scopedName) fun _ => henter
    exact .ite (.bind (hset _) fun _ => hrest) hrest
  | pop => exact attempt h h' Context.respects_pop

end Aloof

end Together

/-! ## Acting -/

/-- A choice is taken up to the commit of the next state: the current state is left, and the
    actions are carried out, or one after others raises a fault. -/
inductive Acts (sim : Simulator σ V) (again : Dispatch σ V) (args : List V) (x : Choice)
    (s : Simulation σ) : Option Fault → Simulation σ → Prop
  | through {saved : Option String} {s₁ s' : Simulation σ} :
    (sim.setOut again x).on s = (.ok saved, s₁) →
    (sim.performAll again (x.bindings args) x.guard.actions).on s₁ = (.ok (), s') →
    Acts sim again args x s none s'
  | fails {saved : Option String} {s₁ s₂ s' : Simulation σ} {before after : List Action}
    {a : Action} {f : Fault} :
    (sim.setOut again x).on s = (.ok saved, s₁) →
    x.guard.actions = before ++ a :: after →
    (sim.performAll again (x.bindings args) before).on s₁ = (.ok (), s₂) →
    (sim.perform again (x.bindings args) a).on s₂ = (.error f, s') →
    Acts sim again args x s (some f) s'

theorem performAll_append (bindings : Bindings V) (as bs : List Action) :
    sim.performAll again bindings (as ++ bs) = (do
      sim.performAll again bindings as
      sim.performAll again bindings bs) := by
  induction as with
  | nil => simp [performAll]
  | cons a as ih => simp [performAll, ih]

section Acts

variable {s s' : Simulation σ} {p : Place} {x : Choice} {r : Route} {args : List V}
  {o : Option Fault}

theorem performAll_eq_error {bindings : Bindings V} {as : List Action} {f : Fault}
    (h : (sim.performAll again bindings as).on s = (.error f, s')) :
    ∃ before a after s₁, as = before ++ a :: after ∧
      (sim.performAll again bindings before).on s = (.ok (), s₁) ∧
      (sim.perform again bindings a).on s₁ = (.error f, s') := by
  induction as generalizing s with
  | nil => cases h
  | cons a as ih =>
    rcases ha : (sim.perform again bindings a).on s with ⟨f' | _, s₁⟩
    · rw [performAll, Run.on_bind_error ha] at h
      cases h
      exact ⟨[], a, as, s, rfl, rfl, ha⟩
    · rw [performAll, Run.on_bind_ok ha] at h
      obtain ⟨before, b, after, s₂, rfl, hbefore, hb⟩ := ih h
      exact ⟨a :: before, b, after, s₂, rfl, by rw [performAll, Run.on_bind_ok ha, hbefore], hb⟩

/-- What the actions come to. -/
theorem acts_iff : sim.Acts again args x s o s' ↔
    ∃ saved s₁, (sim.setOut again x).on s = (.ok saved, s₁) ∧
      (sim.performAll again (x.bindings args) x.guard.actions).on s₁ =
        (match o with | none => .ok () | some f => .error f, s') := by
  constructor
  · rintro (⟨hsetOut, hperform⟩ | ⟨hsetOut, hsplit, hbefore, hfails⟩)
    · exact ⟨_, _, hsetOut, hperform⟩
    · refine ⟨_, _, hsetOut, ?_⟩
      rw [hsplit, performAll_append, Run.on_bind_ok hbefore, performAll, Run.on_bind_error hfails]
  · rintro ⟨saved, s₁, hsetOut, hperform⟩
    cases o with
    | none => exact .through hsetOut hperform
    | some f =>
      obtain ⟨before, a, after, s₂, hsplit, hbefore, hfails⟩ := performAll_eq_error hperform
      exact .fails hsetOut hsplit hbefore hfails

/-- Setting out leaves the current state, unless the route stays, and clears it if there are
    actions to come. -/
theorem setOut_eq_ok (hr : sim.Ready p x r s) {saved : Option String}
    (hok : (sim.setOut again x).on s = (.ok saved, s')) :
    ∃ line s₁, (if (!r.stays) = true then sim.leave again else pure ()).on
        { s with log := s.log ++ [line] } = (.ok (), s₁) ∧
      saved = (if x.plan.savesState then some p.scopedName else none) ∧
      s' = if x.guard.hasActions then { s₁ with context := s₁.context.clear } else s₁ := by
  have hexits : x.plan.exitsCurrent = !r.stays := by
    rw [← hr.leads.isLoopback_eq]
    rfl
  have hclears : x.plan.clearsState = x.guard.hasActions := rfl
  rw [setOut_on hr.fits hr.current, hexits, hclears] at hok
  obtain ⟨s₁, hleave, hok⟩ := Run.on_ite_bind_eq_ok.1 hok
  refine ⟨_, s₁, hleave, ?_⟩
  cases hacts : x.guard.hasActions <;> rw [hacts] at hok <;> cases hok <;> exact ⟨rfl, rfl⟩

theorem Acts.hasActions_of_fails {f : Fault} (h : sim.Acts again args x s (some f) s') :
    x.guard.hasActions = true := by
  cases h with
  | fails _ hsplit _ _ => simp [Guard.hasActions, hsplit]

/-- Setting out passes through the actions on exit. -/
theorem Ready.setOut_passes (hr : sim.Ready p x r s) {saved : Option String}
    (hok : (sim.setOut again x).on s = (.ok saved, s')) :
    sim.Passes again s (Event.acts [] (r.exits p)) s' := by
  obtain ⟨line, s₁, hleave, -, rfl⟩ := setOut_eq_ok hr hok
  have hquiet : sim.Passes again s [] { s with log := s.log ++ [line] } := .quiet rfl rfl rfl
  have hpasses : sim.Passes again s (Event.acts [] (r.exits p)) s₁ := by
    refine .later ?_ hquiet
    rw [Route.exits]
    cases hstays : r.stays with
    | true =>
      rw [hstays] at hleave
      cases hleave
      exact .refl _
    | false =>
      rw [hstays] at hleave
      have hleave : (sim.leave again).on { s with log := s.log ++ [line] } = (.ok (), s₁) := hleave
      rw [leave_on hr.named (by exact hr.current)] at hleave
      exact performBlock_passes hleave
  refine hpasses.quietly ?_
  split
  · exact .quiet rfl rfl rfl
  · exact .refl _

/-- Up to the action that raises a fault, the simulation passes through the actions on exit and
    the actions before that one. -/
theorem Acts.passes_of_fails (hr : sim.Ready p x r s) {f : Fault}
    (hacts : sim.Acts again args x s (some f) s') :
    ∃ before a after s₁, x.guard.actions = before ++ a :: after ∧
      sim.Passes again s (Event.acts [] (r.exits p) ++ Event.acts (x.bindings args) before) s₁ ∧
      (sim.perform again (x.bindings args) a).on s₁ = (.error f, s') := by
  cases hacts with
  | fails hsetOut hsplit hbefore hfails =>
    exact ⟨_, _, _, _, hsplit, (hr.setOut_passes hsetOut).append (performAll_passes hbefore),
      hfails⟩

theorem Acts.passes_of_through (hr : sim.Ready p x r s)
    (hacts : sim.Acts again args x s none s') :
    sim.Passes again s (r.departure p x.guard (x.bindings args)) s' := by
  cases hacts with
  | through hsetOut hperform =>
    exact (hr.setOut_passes hsetOut).append (performAll_passes hperform)

/-- By then the machine is in transition. The stack is as it was, unless an action on exit has
    emptied it. -/
theorem Acts.context_of_fails (h : sim.host.Aloof) (hr : sim.Ready p x r s)
    (hkeeps : ∀ a ∈ x.guard.actions, a.emptiesStack = false) {f : Fault}
    (hacts : sim.Acts again args x s (some f) s') :
    s'.context.current = none ∧ s'.context.previous = some p.scopedName ∧
      ((∀ a ∈ r.exits p, a.emptiesStack = false) → s'.context.stack = s.context.stack) := by
  obtain ⟨saved, s₁, hsetOut, hperform⟩ := acts_iff.1 hacts
  have hstays := (performAll_stays h _ hkeeps).alike hperform
  obtain ⟨line, s₂, hleave, -, rfl⟩ := setOut_eq_ok hr hsetOut
  rw [hacts.hasActions_of_fails, if_pos rfl] at hstays
  refine ⟨hstays.current_eq, hstays.previous_eq.trans ?_, fun hexits => hstays.stack_eq.trans ?_⟩
  · -- an action on exit does not change the current state, even if it empties the stack
    have hkeep : Run.Keeps (fun c => c.current = some p.scopedName) (fun _ => True)
        (if (!r.stays) = true then sim.leave again else pure ()) :=
      .ite (fun _ => leave_keeps (steady_current h (· = some p.scopedName)) again) fun _ => .pure _
    exact hkeep.result (by exact hr.current) hleave
  · exact (exit_passes h r hr.named (by exact hr.current) hexits hleave).2.stack_eq

variable (h : sim.host.Aloof) (h' : sim'.host.Aloof) (hmachine : sim'.machine = sim.machine)
  {t t' : Simulation σ'} {o' : Option Fault}
include h h' hmachine

/-- Whether or not an action raises a fault, the contexts are alike when the next state is to
    be committed. -/
theorem Acts.alike (hr : sim.Ready p x r s) (hr' : sim'.Ready p x r t)
    (hkeeps : ∀ a ∈ x.guard.actions, a.emptiesStack = false) (hs : s.context.Alike t.context)
    (hacts : sim.Acts again args x s o s') (hacts' : sim'.Acts again' args x t o' t') :
    s'.context.Alike t'.context := by
  obtain ⟨saved, s₁, hsetOut, hperform⟩ := acts_iff.1 hacts
  obtain ⟨saved', t₁, hsetOut', hperform'⟩ := acts_iff.1 hacts'
  obtain ⟨line, s₂, hleave, -, rfl⟩ := setOut_eq_ok hr hsetOut
  obtain ⟨line', t₂, hleave', -, rfl⟩ := setOut_eq_ok hr' hsetOut'
  have hleft : s₂.context.Alike t₂.context := by
    have htogether : Together sim again sim' again'
        (if (!r.stays) = true then sim.leave again else pure ())
        (if (!r.stays) = true then sim'.leave again' else pure ()) :=
      .ite (.leave h h' hmachine) (.pure ())
    exact (htogether (by exact hs) hleave hleave').2.1
  -- actions that do not empty the stack change nothing, so it is enough to compare what is left
  refine ((performAll_stays h _ hkeeps).alike hperform).symm.trans
    (.trans ?_ ((performAll_stays h' _ hkeeps).alike hperform'))
  cases x.guard.hasActions with
  | true => exact hleft.clear
  | false => exact hleft

end Acts

/-! ## Committing -/

/-- The next state is put in place and entered, and no listener and no action on entry raises a
    fault. It may be that the operation on the stack fails. -/
inductive Settles (sim : Simulator σ V) (again : Dispatch σ V) (here : String) (acted : Bool)
    (r : Route) (s : Simulation σ) : Option ContextError → Simulation σ → Prop
  | done {s' : Simulation σ} : (sim.settle again here acted r).on s = (.ok (), s') →
    Settles sim again here acted r s none s'
  | fails {s₁ : Simulation σ} {operation : Context String → Attempt String} {e : ContextError} :
    (sim.approach again here acted r).on s = (.ok (), s₁) → r.stackOperation? = some operation →
    (operation s₁.context).result = .error e →
    Settles sim again here acted r s (some e)
      { s₁ with trace := s₁.trace ++ (operation s₁.context).trace }

section Settles

variable {here : String} {acted : Bool} {r : Route} {s s' : Simulation σ} {e : Option ContextError}

theorem Settles.settle_on (h : sim.Settles again here acted r s e s') :
    (sim.settle again here acted r).on s =
      (match e with | none => .ok () | some e => .error (.context e), s') := by
  cases h with
  | done hsettle => exact hsettle
  | fails happroach hop he => exact settle_fails happroach hop he

variable (h : sim.host.Aloof) (h' : sim'.host.Aloof) (hmachine : sim'.machine = sim.machine)
  {t t' : Simulation σ'} {e' : Option ContextError}
include h h' hmachine

/-- A stack that can be operated on in one simulation can be in the other. -/
theorem not_fails_of_done (hs : s.context.Alike t.context)
    (hdone : (sim.settle again here acted r).on s = (.ok (), s'))
    {operation : Context String → Attempt String} (hop : r.stackOperation? = some operation)
    {t₁ : Simulation σ'} (happroach' : (sim'.approach again' here acted r).on t = (.ok (), t₁))
    {e : ContextError} : (operation t₁.context).result ≠ .error e := by
  obtain ⟨rest, hsettle⟩ := settle_eq_approach sim again here acted hop
  rw [hsettle] at hdone
  obtain ⟨_, s₁, happroach, hdone⟩ := Run.on_bind_eq_ok.1 hdone
  obtain ⟨_, s₂, hattempt, -⟩ := Run.on_bind_eq_ok.1 hdone
  obtain ⟨change, hresult⟩ := Run.result_of_on_attempt hattempt
  -- the contexts are alike when the stack is operated on, and so is what that comes to
  have hs₁ := (Together.approach h h' hmachine here acted r hs happroach happroach').2.1
  rw [(Route.respects_of_stackOperation? hop).result_eq hs₁, hresult]
  nofun

/-- From contexts that are alike, two simulations commit the same state. -/
theorem Settles.alike (hs : s.context.Alike t.context)
    (hsettles : sim.Settles again here acted r s e s')
    (hsettles' : sim'.Settles again' here acted r t e' t') :
    e' = e ∧ s'.context.Alike t'.context ∧
      ∃ es, sim.Passes again s es s' ∧ sim'.Passes again' t es t' := by
  have hmachine' : sim.machine = sim'.machine := hmachine.symm
  cases hsettles with
  | done hdone =>
    cases hsettles' with
    | done hdone' =>
      obtain ⟨-, halike, hevents⟩ := Together.settle h h' hmachine here acted r hs hdone hdone'
      exact ⟨rfl, halike, hevents⟩
    | fails happroach' hop he' =>
      exact absurd he' (not_fails_of_done h h' hmachine hs hdone hop happroach')
  | fails happroach hop he =>
    cases hsettles' with
    | done hdone' => exact absurd he (not_fails_of_done h' h hmachine' hs.symm hdone' hop happroach)
    | fails happroach' hop' he' =>
      obtain rfl := Option.some.inj (hop.symm.trans hop')
      obtain ⟨-, halike, es, hpasses, hpasses'⟩ :=
        Together.approach h h' hmachine here acted r hs happroach happroach'
      -- the operation fails for the same reason in both
      rw [(Route.respects_of_stackOperation? hop).result_eq halike, he] at he'
      obtain rfl := Except.error.inj he'
      exact ⟨rfl, halike, es, hpasses.quietly (.quiet rfl rfl rfl),
        hpasses'.quietly (.quiet rfl rfl rfl)⟩

end Settles

/-! ## Taking a choice -/

section Taken

variable {s s₁ s' : Simulation σ} {p : Place} {x : Choice} {r : Route} {args : List V}

/-- The next state is committed although an action raised a fault. The fault of the stack counts
    before that of the action. -/
theorem Acts.takeUpTo_of_catch (h : sim.host.Aloof) (hcatch : sim.noCatch = false)
    (hr : sim.Ready p x r s) {f : Fault} (hacts : sim.Acts again args x s (some f) s₁)
    {e : Option ContextError}
    (hsettles : sim.Settles again p.scopedName x.guard.hasActions r s₁ e s') :
    (sim.takeUpTo again args x).on s = (.error ((e.map Fault.context).getD f), s') := by
  obtain ⟨saved, s₂, hsetOut, hperform⟩ := acts_iff.1 hacts
  obtain ⟨hsaved, -⟩ := (setOut_triple h hr.fits).result hr.current hsetOut
  have hsettle := hsettles.settle_on
  have hplan : x.plan.hasActions = true := hacts.hasActions_of_fails
  have hact : (sim.actAndCommit again x.plan x.guard.actions (x.bindings args) saved).on s₂ =
      (.error ((e.map Fault.context).getD f), s') := by
    -- the commit comes after the actions in any case, and a fault of its own replaces theirs
    rw [actAndCommit, hplan, hcatch, if_pos (by rfl), Run.on_ensure, hperform,
      hr.commit_eq again hsaved, hsettle]
    cases e <;> rfl
  rw [takeUpTo_eq_setOut, Run.on_bind_ok hsetOut, Run.on_bind_error hact]

/-- The next state is not committed if the simulator is told not to. -/
theorem Acts.takeUpTo_of_noCatch (hcatch : sim.noCatch = true) {f : Fault}
    (hacts : sim.Acts again args x s (some f) s') :
    (sim.takeUpTo again args x).on s = (.error f, s') := by
  obtain ⟨saved, s₂, hsetOut, hperform⟩ := acts_iff.1 hacts
  have hact : (sim.actAndCommit again x.plan x.guard.actions (x.bindings args) saved).on s₂ =
      (.error f, s') := by
    rw [actAndCommit, hcatch, Bool.not_true, Bool.and_false, if_neg Bool.false_ne_true,
      Run.on_bind_error hperform]
  rw [takeUpTo_eq_setOut, Run.on_bind_ok hsetOut, Run.on_bind_error hact]

/-- Where no action raises a fault, the transition that follows a pop is offered next, unless the
    operation on the stack failed. -/
theorem Acts.takeUpTo_of_through (h : sim.host.Aloof) (hr : sim.Ready p x r s)
    (hacts : sim.Acts again args x s none s₁) {e : Option ContextError}
    (hsettles : sim.Settles again p.scopedName x.guard.hasActions r s₁ e s') :
    (sim.takeUpTo again args x).on s =
      e.elim ((sim.offer again x.plan (x.bindings args)).on s') fun e =>
        (.error (.context e), s') := by
  obtain ⟨saved, s₂, hsetOut, hperform⟩ := acts_iff.1 hacts
  obtain ⟨hsaved, -⟩ := (setOut_triple h hr.fits).result hr.current hsetOut
  have hcommit := hsettles.settle_on
  rw [← hr.commit_eq again hsaved] at hcommit
  rw [takeUpTo_eq_setOut, Run.on_bind_ok hsetOut]
  cases e with
  | none => exact Run.on_bind_ok (actAndCommit_eq_ok.2 ⟨s₁, hperform, hcommit⟩)
  | some e => exact Run.on_bind_error (actAndCommit_fails hperform hcommit)

end Taken

/-! ## Failing actions -/

/-- A guard with actions is selected in a valid machine, with an aloof host, and one of the
    actions raises a fault. Up to there the simulation passes through the actions on exit and the
    actions before that one.

    The next state is committed all the same, unless the simulator is told not to. If that raises
    nothing but a fault of the stack, the fault is raised, or that of the action, and no further
    transition is issued. Any simulation of the machine that starts alike, and in which no action
    raises a fault, commits the same state with the same events, and has the same states suspended,
    when it gets to the transition to be issued next.

    If the simulator is told not to commit, the machine stays in transition, with the state it was
    in as the previous one and nobody told, and the same states are suspended if no action on exit
    emptied the stack. -/
theorem failing_action_commits_the_same (sim : Simulator σ V) {v n : Value}
    (hload : (Load.machine v n).outcome.1 = .ok sim.machine) {target : Option Target}
    {source : Option Value} {w : Validation} (hcheck : sim.machine.validate target source = .ok w)
    (hvalid : w.isValid = true) (haloof : sim.host.Aloof) (again : Dispatch σ V) {p : Place}
    {s s₁ s₂ : Simulation σ} (hp : sim.At p s) {name : Value} {args : List V} {x : Choice}
    (hselects : sim.Selects again p name args s.unlogged (.ok x) s₁) {r : Route}
    (hr : x.guard.Leads sim.machine p.map r)
    (hkeeps : ∀ a ∈ x.guard.actions, a.emptiesStack = false) {f : Fault}
    (hfails : sim.Acts again args x s₁ (some f) s₂) :
    (∃ before a after s₃, x.guard.actions = before ++ a :: after ∧
      sim.Passes again s₁ (Event.acts [] (r.exits p) ++ Event.acts (x.bindings args) before) s₃ ∧
      (sim.perform again (x.bindings args) a).on s₃ = (.error f, s₂)) ∧
    (sim.noCatch = false → ∀ (e : Option ContextError) (t : Simulation σ),
      sim.Settles again p.scopedName x.guard.hasActions r s₂ e t →
        (sim.issue name args).on s = (.error ((e.map Fault.context).getD f), t.idle) ∧
        ∀ (sim' : Simulator σ' V) (again' : Dispatch σ' V) (s' s₁' s₂' t' : Simulation σ')
          (e' : Option ContextError), sim'.machine = sim.machine → sim'.host.Aloof →
          s.context.Alike s'.context →
          sim'.Selects again' p name args s'.unlogged (.ok x) s₁' →
          sim'.Acts again' args x s₁' none s₂' →
          sim'.Settles again' p.scopedName x.guard.hasActions r s₂' e' t' →
            sim'.Passes again' s₁' (r.departure p x.guard (x.bindings args)) s₂' ∧
            (∃ es, sim.Passes again s₂ es t ∧ sim'.Passes again' s₂' es t') ∧
            t.context.current = t'.context.current ∧ t.context.previous = t'.context.previous ∧
            t.context.stack = t'.context.stack ∧ e = e' ∧
            (sim'.takeUpTo again' args x).on s₁' =
              e'.elim ((sim'.offer again' x.plan (x.bindings args)).on t') fun e =>
                (.error (.context e), t')) ∧
    (sim.noCatch = true →
      (sim.issue name args).on s = (.error f, s₂.idle) ∧ s₂.context.current = none ∧
      s₂.context.previous = some p.scopedName ∧
      ((∀ a ∈ r.exits p, a.emptiesStack = false) → s₂.context.stack = s.context.stack)) := by
  have hwf := Load.wellFormed_of_outcome hload
  have hm := Machine.valid_of_validate hcheck hvalid
  obtain ⟨_, hready⟩ := hselects.exists_ready hwf hm haloof hp
  replace hready : sim.Ready p x r s₁ := { hready with leads := hr }
  have hselected := hselects.alike haloof.observes
  refine ⟨hfails.passes_of_fails hready, fun hcatch e t hsettles => ?_, fun hcatch => ?_⟩
  · have htake := hfails.takeUpTo_of_catch haloof hcatch hready hsettles
    refine ⟨issue_taken hwf haloof hp hselects htake, ?_⟩
    intro sim' again' s' s₁' s₂' t' e' hmachine haloof' hs hselects' hacts' hsettles'
    have hp' : sim'.At p s' := by
      obtain ⟨here, hcurrent, hnamed⟩ := hp
      exact ⟨here, hs.current_eq.trans hcurrent, by rw [hmachine]; exact hnamed⟩
    have hwf' : sim'.machine.WellFormed := by rw [hmachine]; exact hwf
    have hm' : sim'.machine.Valid := by rw [hmachine]; exact hm
    obtain ⟨_, hready'⟩ := hselects'.exists_ready hwf' hm' haloof' hp'
    replace hready' : sim'.Ready p x r s₁' := { hready' with leads := by rw [hmachine]; exact hr }
    have hstart : s₁.context.Alike s₁'.context :=
      hselected.symm.trans ((hs.setTransition name).trans (hselects'.alike haloof'.observes))
    have hacted := Acts.alike haloof haloof' hmachine hready hready' hkeeps hstart hfails hacts'
    obtain ⟨rfl, halike, hevents⟩ :=
      Settles.alike haloof haloof' hmachine hacted hsettles hsettles'
    exact ⟨hacts'.passes_of_through hready', hevents, halike.current_eq.symm,
      halike.previous_eq.symm, halike.stack_eq.symm, rfl,
      hacts'.takeUpTo_of_through haloof' hready' hsettles'⟩
  · obtain ⟨hcurrent, hprevious, hstack⟩ := hfails.context_of_fails haloof hready hkeeps
    exact ⟨issue_taken hwf haloof hp hselects (hfails.takeUpTo_of_noCatch hcatch), hcurrent,
      hprevious, fun hexits => (hstack hexits).trans hselected.stack_eq⟩

/-- A host that does not greet. -/
def sullen : Host (List String) String :=
  { diary with
    member := fun _ name => pure (if name.text == "greet" then none else some name.text) }

theorem sullen_aloof : sullen.Aloof where
  evaluate_issue _ _ _ _ := rfl
  call_issue _ _ _ _ := rfl
  stays := by
    rintro α x (_ | _ | _ | _ | _ | _) s <;> rfl

/-- The plain desk as it is simulated with that host. -/
def sullenClerk : Simulator (List String) String :=
  deskWith sullen plainDesk 0

/-- The choice to work at the plain desk. -/
def workChoice : Choice :=
  plainChoice "work" .set "Busy" "" [clerkCall "greet" []]

section Working

variable (sim : Simulator (List String) String)

/-- The desk when the clerk has chosen to work. -/
def chosenDesk : Simulation (List String) :=
  ((sim.pick (fun _ _ => pure ()) plainFree (.str "work") []).on
    ((watchedDesk (plainClerk 0)).unlogged.underway (.str "work"))).2

/-- The same desk when it has been left. -/
def leftDesk : Simulation (List String) :=
  ((sim.setOut (fun _ _ => pure ()) workChoice).on (chosenDesk sim)).2

/-- The same desk when the clerk has greeted, or failed to. -/
def greetedDesk : Simulation (List String) :=
  ((sim.performAll (fun _ _ => pure ()) [] workChoice.guard.actions).on (leftDesk sim)).2

/-- The same desk when the clerk is at work. -/
def workingDesk : Simulation (List String) :=
  ((sim.settle (fun _ _ => pure ()) "Desk::Free" true (.set plainBusy)).on (greetedDesk sim)).2

theorem selects_workChoice (hsim : sim.machine = plainDesk)
    (hpick : ((sim.pick (fun _ _ => pure ()) plainFree (.str "work") []).on
      ((watchedDesk (plainClerk 0)).unlogged.underway (.str "work"))).1.isOk = true) :
    sim.Selects (fun _ _ => pure ()) plainFree (.str "work") []
      (watchedDesk (plainClerk 0)).unlogged (.ok workChoice) (chosenDesk sim) := by
  have hwf : sim.machine.WellFormed := by
    rw [hsim]
    exact Load.wellFormed_of_outcome plainDesk_loads
  obtain ⟨x, hx⟩ := exists_selects_ok hwf (by rw [hsim]; exact plainFree_mem) hpick
  obtain rfl : x = workChoice := List.mem_singleton.1 hx.mem_choices
  exact hx

theorem settles_workingDesk (hok : ((sim.settle (fun _ _ => pure ()) "Desk::Free" true
      (.set plainBusy)).on (greetedDesk sim)).1.isOk = true) :
    sim.Settles (fun _ _ => pure ()) "Desk::Free" true (.set plainBusy) (greetedDesk sim) none
      (workingDesk sim) := by
  obtain ⟨⟨⟩, hsettle⟩ := Run.exists_ok hok
  exact .done hsettle

end Working

/-- Without a greeting the clerk gets to work as with one, but a fault is raised. -/
theorem sullen_clerk_gets_to_work :
    (∃ v, (Load.machine v .null).outcome.1 = .ok plainDesk) ∧
      (∃ w, plainDesk.validate none none = .ok w ∧ w.isValid = true) ∧
      sullen.Aloof ∧ diary.Aloof ∧ sullenClerk.At plainFree (watchedDesk (plainClerk 0)) ∧
      workChoice.guard.Leads plainDesk plainMap (.set plainBusy) ∧
      (∀ a ∈ workChoice.guard.actions, a.emptiesStack = false) ∧
      ∃ f, sullenClerk.Selects (fun _ _ => pure ()) plainFree (.str "work") []
          (watchedDesk (plainClerk 0)).unlogged (.ok workChoice) (chosenDesk sullenClerk) ∧
        sullenClerk.Acts (fun _ _ => pure ()) [] workChoice (chosenDesk sullenClerk) (some f)
          (greetedDesk sullenClerk) ∧
        sullenClerk.Settles (fun _ _ => pure ()) "Desk::Free" true (.set plainBusy)
          (greetedDesk sullenClerk) none (workingDesk sullenClerk) ∧
        complaint? (.error f : Except Fault Unit) =
          some ("FSMError", "Owner Clerk has no action 'greet'.") ∧
        (sullenClerk.issue (.str "work") []).on (watchedDesk (plainClerk 0)) =
          (.error f, (workingDesk sullenClerk).idle) ∧
        (workingDesk sullenClerk).context.current = (workingDesk (plainClerk 0)).context.current ∧
        (workingDesk (plainClerk 0)).context.current = some "Desk::Busy" := by
  obtain ⟨w, hcheck, hvalid⟩ := plainDesk_valid
  have hat : sullenClerk.At plainFree (watchedDesk (plainClerk 0)) :=
    ⟨"Desk::Free", by decide +kernel, rfl⟩
  have hr : workChoice.guard.Leads plainDesk plainMap (.set plainBusy) :=
    ⟨rfl, by decide, rfl, rfl⟩
  have hsullen := selects_workChoice sullenClerk rfl (by decide +kernel)
  have hplain := selects_workChoice (plainClerk 0) rfl (by decide +kernel)
  -- the action raises a fault with one host, and not with the other
  obtain ⟨saved, hleft⟩ : ∃ saved, (sullenClerk.setOut (fun _ _ => pure ()) workChoice).on
      (chosenDesk sullenClerk) = (.ok saved, leftDesk sullenClerk) :=
    Run.exists_ok (by decide +kernel)
  obtain ⟨f, hgreets⟩ : ∃ f, (sullenClerk.performAll (fun _ _ => pure ()) []
      workChoice.guard.actions).on (leftDesk sullenClerk) = (.error f, greetedDesk sullenClerk) :=
    Run.exists_error (by decide +kernel)
  obtain ⟨saved', hleft'⟩ : ∃ saved, ((plainClerk 0).setOut (fun _ _ => pure ()) workChoice).on
      (chosenDesk (plainClerk 0)) = (.ok saved, leftDesk (plainClerk 0)) :=
    Run.exists_ok (by decide +kernel)
  obtain ⟨⟨⟩, hgreets'⟩ : ∃ u, ((plainClerk 0).performAll (fun _ _ => pure ()) []
      workChoice.guard.actions).on (leftDesk (plainClerk 0)) =
        (.ok u, greetedDesk (plainClerk 0)) :=
    Run.exists_ok (by decide +kernel)
  have hacts : sullenClerk.Acts (fun _ _ => pure ()) [] workChoice (chosenDesk sullenClerk) (some f)
      (greetedDesk sullenClerk) := acts_iff.2 ⟨_, _, hleft, hgreets⟩
  have hacts' : (plainClerk 0).Acts (fun _ _ => pure ()) [] workChoice (chosenDesk (plainClerk 0))
      none (greetedDesk (plainClerk 0)) := acts_iff.2 ⟨_, _, hleft', hgreets'⟩
  have hsettles := settles_workingDesk sullenClerk (by decide +kernel)
  have hcomplaint : complaint? ((sullenClerk.performAll (fun _ _ => pure ()) []
      workChoice.guard.actions).on (leftDesk sullenClerk)).1 =
        some ("FSMError", "Owner Clerk has no action 'greet'.") := by decide +kernel
  rw [hgreets] at hcomplaint
  obtain ⟨-, hcommits, -⟩ := @failing_action_commits_the_same (List String) (List String) _
    sullenClerk _ _ plainDesk_loads _ _ _ hcheck hvalid sullen_aloof _ _ _ _ _ hat _ _ _ hsullen
    _ hr (by decide) _ hacts
  obtain ⟨hissue, hsame⟩ := hcommits rfl _ _ hsettles
  obtain ⟨-, -, hcurrent, -⟩ := hsame (plainClerk 0) _ _ _ _ _ _ rfl diary_aloof (.refl _) hplain
    hacts' (settles_workingDesk _ (by decide +kernel))
  exact ⟨⟨_, plainDesk_loads⟩, ⟨w, hcheck, hvalid⟩, sullen_aloof, diary_aloof, hat, hr, by decide,
    f, hsullen, hacts, hsettles, hcomplaint, hissue, hcurrent, by decide +kernel⟩

/-- The description of a desk whose clerk makes up their mind on the way to work. -/
def mindful : Value :=
  .object [("class", .str "Clerk"), ("start", .str "Desk::Free"), ("maps", .list [.object [
    ("name", .str "Desk"),
    ("states", .list [
      .object [("name", .str "Free"), ("transitions", .list [
        .object [("name", .str "work"), ("end_state", .str "Busy"),
          ("actions", .list [callEntry "greet" [], .object [("name", .str "next"),
            ("arguments", .list [.str "'leave'"]), ("property", .bool true)]])]])],
      .object [("name", .str "Busy"), ("entry", .list [callEntry "issue" ["ctxt.next"]]),
        ("transitions", .list [
          .object [("name", .str "rest"), ("end_state", .str "nil")],
          .object [("name", .str "leave"), ("end_state", .str "Gone")]])],
      .object [("name", .str "Gone")]])]])]

/-- The map of that desk. -/
def mindfulMap : StateMap where
  name := .str "Desk"
  states := [
    doorState "Free" [deskTransition "work" .set "Busy" "" [clerkCall "greet" [],
      ⟨.str "next", ["'leave'"], true, false, false, .int 0⟩]],
    ⟨"Busy", some [clerkCall "issue" ["ctxt.next"]], none,
      [deskTransition "rest" .set "nil" "" [], deskTransition "leave" .set "Gone" "" []], .int 0⟩,
    doorState "Gone" []]
  default? := none
  line := .int 0

/-- That desk. -/
def mindfulDesk : Machine :=
  { plainDesk with maps := [mindfulMap] }

/-- The desk as it is simulated with a host that remembers what is assigned, and issues
    transitions where it is asked to. -/
def mindfulClerk (greets : Bool) : Simulator (List String) String :=
  deskWith { meddler with
    evaluate := fun issue e bindings => do
      if e == "ctxt.next" then
        return if (← get).host.contains "leave" then "leave" else "rest"
      diary.evaluate issue e bindings
    assign := fun _ _ v => Run.changeHost (· ++ [v])
    member := fun static name =>
      if name.text == "greet" && !greets then pure none else diary.member static name }
    mindfulDesk 0

/-- The desk of a clerk who forgets everything on leaving it. -/
def forgetfulDesk : Machine :=
  deskMachine ⟨.str "emptyStateStack", [], false, false, true, .int 0⟩ (clerkCall "sign" [])
    (clerkCall "file" [])

/-- That desk, as it is simulated by a simulator that is told not to commit, with the host that
    does not greet. -/
def forgetfulClerk : Simulator (List String) String :=
  { deskWith sullen forgetfulDesk 0 with noCatch := true }

/-- A failing action may make a difference. If the action on entry issues a transition, it may
    depend on what the actions before did: without the greeting the clerk stays at work, with it
    there is another change. And if the simulator is told not to commit, the states suspended may
    be forgotten: by the action on exit. -/
theorem failing_action_makes_difference :
    ((∃ v, (Load.machine v .null).outcome.1 = .ok mindfulDesk) ∧
      (∃ w, mindfulDesk.validate none none = .ok w ∧ w.isValid = true) ∧
      (mindfulClerk false).noCatch = false ∧
      (∀ p ∈ mindfulDesk.places, ∀ t ∈ p.state.transitions, ∀ g ∈ t.guards, ∀ a ∈ g.actions,
        a.emptiesStack = false) ∧
      ∃ s, (mindfulClerk false).Reachable s ∧ s.context.current = some "Desk::Free" ∧
        s.host = [] ∧
        complaint? (((mindfulClerk false).issue (.str "work") []).on s).1 =
          some ("FSMError", "Owner Clerk has no action 'greet'.") ∧
        (((mindfulClerk false).issue (.str "work") []).on s).2.context.current =
          some "Desk::Busy" ∧
        (((mindfulClerk false).issue (.str "work") []).on s).2.host =
          ["ear: Desk::Free to Desk::Busy"] ∧
        (((mindfulClerk true).issue (.str "work") []).on s).1.isOk = true ∧
        (((mindfulClerk true).issue (.str "work") []).on s).2.context.current =
          some "Desk::Gone" ∧
        (((mindfulClerk true).issue (.str "work") []).on s).2.host =
          ["greet", "leave", "ear: Desk::Free to Desk::Busy", "ear: Desk::Busy to Desk::Gone"]) ∧
    ((∃ v, (Load.machine v .null).outcome.1 = .ok forgetfulDesk) ∧
      (∃ w, forgetfulDesk.validate none none = .ok w ∧ w.isValid = true) ∧
      forgetfulClerk.noCatch = true ∧
      ∃ s, forgetfulClerk.Reachable s ∧ s.context.current = some "Desk::Free" ∧
        s.context.stack = ["Desk::Busy"] ∧
        complaint? ((forgetfulClerk.issue (.str "work") []).on s).1 =
          some ("FSMError", "Owner Clerk has no action 'greet'.") ∧
        ((forgetfulClerk.issue (.str "work") []).on s).2.context.stack = []) := by
  refine ⟨⟨⟨mindful, rfl⟩, Machine.exists_validation (by decide +kernel), rfl, by decide +kernel,
      watchedDesk (mindfulClerk false), watchedDesk_reachable _, by decide +kernel,
      by decide +kernel,
      by decide +kernel, by decide +kernel, by decide +kernel, by decide +kernel, by decide +kernel,
      by decide +kernel⟩,
    ⟨desk (callEntry "emptyStateStack" []) (callEntry "sign" []) (callEntry "file" []), rfl⟩,
    Machine.exists_validation (by decide +kernel), rfl,
    ((forgetfulClerk.issue (.str "call") []).on (watchedDesk forgetfulClerk)).2,
    .issue (.str "call") [] (watchedDesk_reachable _), by decide +kernel, by decide +kernel,
    by decide +kernel, by decide +kernel⟩

end Simulator
end StateMachine
