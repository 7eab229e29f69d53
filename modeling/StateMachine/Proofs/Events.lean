import StateMachine.Proofs.Routes
import StateMachine.Proofs.Safety

/-!
# Events

What the world around a machine gets to know of a step: which actions are
carried out, and of which changes the listeners are told, in which order. These
are the *events* of the step. Between events a machine changes its context and
its log only (`Simulator.Passes`).

Along a route, the events are those of the departure (the actions on exit from
the state that is left, and the actions of the guard) and those of the arrival
(the changes, and the actions on entry to the states arrived at).

* Each stage of taking a choice that raises nothing passes through the events of
  its part of the route (`setOut_passes`, `settle_passes`).
* So a step that raises nothing, with an aloof host, passes through the events
  of the route of the guard that is selected, and ends in the state and with the
  suspended states that the route leads to (`issue_passes_route`).
-/

namespace StateMachine

variable {σ V : Type}

/-- What the world around a machine gets to know. -/
inductive Event (V : Type)
  /-- An action is carried out, with values of parameters. -/
  | acted (bindings : Bindings V) (a : Action)
  /-- The listeners are told of a change. -/
  | told (change : Change String)

namespace Event

/-- Does the event empty the stack of suspended states? -/
def emptiesStack : Event V → Bool
  | .acted _ a => a.emptiesStack
  | .told _ => false

/-- Actions carried out one by one. -/
def acts (bindings : Bindings V) (as : List Action) : List (Event V) :=
  as.map (.acted bindings)

/-- The listeners are told if a state is left for another. -/
def moves (here there : String) : List (Event V) :=
  if here = there then [] else [.told ⟨some here, some there⟩]

theorem forall_mem_acts {bindings : Bindings V} {as : List Action} :
    (∀ e ∈ acts bindings as, e.emptiesStack = false) ↔ ∀ a ∈ as, a.emptiesStack = false := by
  simp [acts, emptiesStack]

end Event

/-- The simulation passes from one state of affairs to another, and nothing is
    raised meanwhile. -/
inductive Simulator.Passes (sim : Simulator σ V) (again : Dispatch σ V) :
    Simulation σ → List (Event V) → Simulation σ → Prop
  /-- Nothing happens to the host, nor to the listeners. -/
  | quiet {s s' : Simulation σ} : s'.host = s.host → s'.listeners = s.listeners →
    s'.context.listeners = s.context.listeners → Passes sim again s [] s'
  | acted {s s' : Simulation σ} {bindings : Bindings V} {a : Action} :
    (sim.perform again bindings a).on s = (.ok (), s') →
      Passes sim again s [.acted bindings a] s'
  | told {s s' : Simulation σ} {change : Change String} :
    (Run.notifyAll sim.host change s.context.listeners).on s = (.ok (), s') →
      Passes sim again s [.told change] s'
  | append {s s₁ s' : Simulation σ} {es es' : List (Event V)} : Passes sim again s es s₁ →
    Passes sim again s₁ es' s' → Passes sim again s (es ++ es') s'

namespace Route

open Event

/-- The actions on exit from the state `p`, unless it is not left. -/
def exits (p : Place) (r : Route) : List Action :=
  if r.stays then [] else p.map.exitOf p.state

/-- The events of leaving the state `p` by a guard. -/
def departure (p : Place) (g : Guard) (bindings : Bindings V) (r : Route) : List (Event V) :=
  acts [] (r.exits p) ++ acts bindings g.actions

/-- The events of arriving from the state `here`, with these states suspended. A state
    that was suspended is not entered again. -/
def arrival (here : String) (stack : List String) : Route → List (Event V)
  | .set q => moves here q.scopedName ++ acts [] (q.map.entryOf q.state)
  | .stay => []
  | .push q r => (moves here q.scopedName ++ acts [] (q.map.entryOf q.state))
    ++ (moves q.scopedName r.scopedName ++ acts [] (r.map.entryOf r.state))
  | .pushHere r => moves here r.scopedName ++ acts [] (r.map.entryOf r.state)
  | .pop => (stack.take 1).flatMap (moves here)

/-- The events of a route. -/
def events (p : Place) (g : Guard) (bindings : Bindings V) (stack : List String) (r : Route) :
    List (Event V) :=
  r.departure p g bindings ++ r.arrival p.scopedName stack

/-- The state arrived at. -/
def current (here : String) (stack : List String) : Route → Option String
  | .set q => some q.scopedName
  | .stay => some here
  | .push _ r | .pushHere r => some r.scopedName
  | .pop => stack.head?

/-- The states that are suspended afterwards. -/
def stack (here : String) (stack : List String) : Route → List String
  | .set _ | .stay => stack
  | .push q _ => q.scopedName :: stack
  | .pushHere _ => here :: stack
  | .pop => stack.tail

end Route

/-! ## Contexts -/

namespace Context

variable {c c' : Context String}

theorem Alike.leaving_eq (h : c.Alike c') : c'.leaving = c.leaving := by
  rw [leaving, leaving, h.current_eq, h.previous_eq]

theorem Alike.clear (h : c.Alike c') : c.clear.Alike c'.clear := by
  rw [Alike] at h ⊢
  rw [h]
  rfl

/-- A state that is set is arrived at. -/
theorem set_some (c : Context String) (next : String) :
    ∃ trace, c.set (some next) = c.arrive (some next) c.stack trace := by
  rw [set, Option.isNone_some, Bool.and_false]
  exact ⟨_, rfl⟩

/-- A push that succeeds suspends the current state. -/
theorem push_eq_arrive {next : String} {change : Option (Change String)}
    (h : (c.push (some next)).result = .ok change) :
    ∃ here trace, c.current = some here ∧
      c.push (some next) = c.arrive (some next) (here :: c.stack) trace := by
  rw [push] at h ⊢
  cases hcurrent : c.current with
  | none =>
    rw [hcurrent] at h
    cases h
  | some here =>
    rw [hcurrent] at h
    rcases hfull : c.isFull with e | _ | _ <;> rw [hfull] at h
    · cases h
    · exact ⟨here, c.traced ("PUSH TO STATE   : " ++ nameOf (some next)), rfl, by simp⟩
    · cases h

/-- A pop that succeeds goes back to a suspended state. -/
theorem pop_eq_arrive {change : Option (Change String)} (h : c.pop.result = .ok change) :
    ∃ top rest trace, c.stack = top :: rest ∧ c.pop = c.arrive (some top) rest trace := by
  rw [pop] at h ⊢
  cases hstack : c.stack with
  | nil =>
    rw [hstack] at h
    cases h
  | cons top rest => exact ⟨top, rest, _, rfl, rfl⟩

/-- The machine has set out from the state `here`. It is in transition if there were
    actions. -/
structure Departed (here : String) (acted : Bool) (stack : List String) (c : Context String) :
    Prop where
  leaving : c.leaving = some here
  current : c.current = if acted then none else some here
  stack : c.stack = stack

end Context

namespace Simulator

variable {sim : Simulator σ V} {again : Dispatch σ V} {s s' : Simulation σ}

/-! ## Actions -/

/-- Nothing passes without events. -/
theorem Passes.refl (s : Simulation σ) : sim.Passes again s [] s :=
  .quiet rfl rfl rfl

theorem Passes.quietly {s₁ : Simulation σ} {es : List (Event V)} (h : sim.Passes again s es s₁)
    (hquiet : sim.Passes again s₁ [] s') : sim.Passes again s es s' := by
  have := h.append hquiet
  rwa [List.append_nil] at this

theorem Passes.later {s₁ : Simulation σ} {es : List (Event V)} (h : sim.Passes again s₁ es s')
    (hquiet : sim.Passes again s [] s₁) : sim.Passes again s es s' :=
  hquiet.append h

theorem performAll_passes {bindings : Bindings V} {as : List Action}
    (h : (sim.performAll again bindings as).on s = (.ok (), s')) :
    sim.Passes again s (Event.acts bindings as) s' := by
  induction as generalizing s with
  | nil =>
    cases h
    exact .refl _
  | cons a as ih =>
    obtain ⟨_, s₁, ha, has⟩ := Run.on_bind_eq_ok.1 h
    exact .append (.acted ha) (ih has)

theorem performBlock_passes {headline : String} {as : List Action}
    (h : (sim.performBlock again headline as).on s = (.ok (), s')) :
    sim.Passes again s (Event.acts [] as) s' := by
  rw [performBlock] at h
  split at h
  · next hempty =>
    cases h
    rw [List.isEmpty_iff.1 hempty]
    exact .refl _
  · obtain ⟨_, s₁, hreport, has⟩ := Run.on_bind_eq_ok.1 h
    have hquiet : sim.Passes again s [] s₁ := by
      cases hreport
      exact .quiet rfl rfl rfl
    exact hquiet.append (performAll_passes has)

section Stays

variable (h : sim.host.Aloof)

include h

theorem evaluateAll_stays (bindings : Bindings V) (es : List String) :
    (sim.evaluateAll again bindings es).Stays := by
  induction es with
  | nil => exact .pure []
  | cons e es ih =>
    exact .bind (evaluate_stays again h.observes e bindings) fun v => .bind ih fun vs => .pure _

/-- An action leaves the context alone, unless it empties the stack. -/
theorem perform_stays (bindings : Bindings V) {a : Action} (ha : a.emptiesStack = false) :
    (sim.perform again bindings a).Stays := by
  rw [perform, ha]
  refine .bind (.report _) fun _ => .bind (evaluateAll_stays h bindings _) fun values => ?_
  cases a.property with
  | true =>
    cases values with
    | nil => exact .throw _
    | cons v vs => exact h.stays (.assign ..)
  | false =>
    refine .bind (h.stays (.member ..)) fun f => ?_
    cases f with
    | some f => exact h.stays (.call ..)
    | none => cases a.static <;> exact .throw _

theorem performAll_stays (bindings : Bindings V) {as : List Action}
    (has : ∀ a ∈ as, a.emptiesStack = false) : (sim.performAll again bindings as).Stays := by
  induction as with
  | nil => exact .pure ()
  | cons a as ih =>
    obtain ⟨ha, has⟩ := List.forall_mem_cons.1 has
    exact .bind (perform_stays h bindings ha) fun _ => ih has

theorem performBlock_stays (headline : String) {as : List Action}
    (has : ∀ a ∈ as, a.emptiesStack = false) : (sim.performBlock again headline as).Stays := by
  rw [performBlock]
  split
  · exact .pure ()
  · exact .bind (.report _) fun _ => performAll_stays h [] has

theorem notifyAll_stays (change : Change String) (ids : List String) :
    (Run.notifyAll sim.host change ids).Stays := by
  induction ids with
  | nil => exact .pure ()
  | cons id ids ih => exact .bind (h.stays (.notify ..)) fun _ => ih

end Stays

/-! ## States -/

/-- Entering the current state. -/
theorem enter_on {q : Place} (hq : sim.machine.stateNamed? q.scopedName = some q)
    (hcurrent : s.context.current = some q.scopedName) :
    (sim.enter again).on s =
      (sim.performBlock again ("Entry of state: " ++ q.scopedName) (q.map.entryOf q.state)).on s := by
  have hplace : sim.place q.scopedName = (pure q : Run σ Place) := by rw [place, hq]
  rw [enter, Run.on_bind_ok (Run.on_current_of_some hcurrent), hplace, pure_bind]

/-- Leaving the current state. -/
theorem leave_on {p : Place} (hp : sim.machine.stateNamed? p.scopedName = some p)
    (hcurrent : s.context.current = some p.scopedName) :
    (sim.leave again).on s =
      (sim.performBlock again ("Exit of state: " ++ p.scopedName) (p.map.exitOf p.state)).on s := by
  have hplace : sim.place p.scopedName = (pure p : Run σ Place) := by rw [place, hp]
  rw [leave, Run.on_bind_ok (Run.on_current_of_some hcurrent), hplace, pure_bind]

section Aloof

variable (h : sim.host.Aloof)

include h

/-- Entering a state passes through its actions on entry. -/
theorem enter_passes {q : Place} (hq : sim.machine.stateNamed? q.scopedName = some q)
    (hcurrent : s.context.current = some q.scopedName)
    (hentry : ∀ a ∈ q.map.entryOf q.state, a.emptiesStack = false)
    (hok : (sim.enter again).on s = (.ok (), s')) :
    sim.Passes again s (Event.acts [] (q.map.entryOf q.state)) s' ∧
      s.context.Alike s'.context := by
  rw [enter_on hq hcurrent] at hok
  exact ⟨performBlock_passes hok, (performBlock_stays h _ hentry).alike hok⟩

/-- An attempt that arrives at a state passes through the change. -/
theorem attempt_passes (again : Dispatch σ V) {operation : Context String → Attempt String}
    {here next : String} {stack : List String} {trace : List String}
    (hop : operation s.context = s.context.arrive (some next) stack trace)
    (hhere : s.context.leaving = some here)
    (hok : (Run.attempt sim.host operation).on s = (.ok (), s')) :
    sim.Passes again s (Event.moves here next) s' ∧ s'.context.current = some next ∧
      s'.context.stack = stack := by
  -- the context changes first, and the listeners are told then
  let s₁ : Simulation σ := { s with
    context := (s.context.arrive (some next) stack trace).context
    trace := s.trace ++ trace }
  have hquiet : sim.Passes again s [] s₁ := .quiet rfl rfl rfl
  rw [Run.on_attempt_arrive sim.host hop, hhere] at hok
  by_cases hsame : here = next
  · rw [if_pos (by simpa using hsame)] at hok
    have hs₁ : s₁ = s' := (Prod.mk.inj hok).2
    rw [Event.moves, if_pos hsame, ← hs₁]
    exact ⟨hquiet, rfl, rfl⟩
  · rw [if_neg (by simpa using hsame)] at hok
    have htold : sim.Passes again s₁ [.told ⟨some here, some next⟩] s' := .told hok
    have hstays := (notifyAll_stays h _ _).alike hok
    rw [Event.moves, if_neg hsame]
    exact ⟨hquiet.append htold, hstays.current_eq, hstays.stack_eq⟩

/-- A state that is set. -/
theorem set_passes (again : Dispatch σ V) {here next : String}
    (hhere : s.context.leaving = some here)
    (hok : (Run.attempt sim.host fun c => c.set (some next)).on s = (.ok (), s')) :
    sim.Passes again s (Event.moves here next) s' ∧ s'.context.current = some next ∧
      s'.context.stack = s.context.stack := by
  obtain ⟨trace, hset⟩ := s.context.set_some next
  exact attempt_passes h again hset hhere hok

/-- A state that is pushed. -/
theorem push_passes (again : Dispatch σ V) {here next : String}
    (hhere : s.context.current = some here)
    (hok : (Run.attempt sim.host fun c => c.push (some next)).on s = (.ok (), s')) :
    sim.Passes again s (Event.moves here next) s' ∧ s'.context.current = some next ∧
      s'.context.stack = here :: s.context.stack := by
  obtain ⟨change, hresult⟩ := Run.result_of_on_attempt hok
  obtain ⟨here', trace, hcurrent, hpush⟩ := Context.push_eq_arrive hresult
  obtain rfl : here' = here := Option.some.inj (hcurrent.symm.trans hhere)
  exact attempt_passes h again hpush (by rw [Context.leaving, hhere]; rfl) hok

/-- A state that is popped. -/
theorem pop_passes (again : Dispatch σ V) {here : String} (hhere : s.context.leaving = some here)
    (hok : (Run.attempt sim.host Context.pop).on s = (.ok (), s')) :
    ∃ top rest, s.context.stack = top :: rest ∧ sim.Passes again s (Event.moves here top) s' ∧
      s'.context.current = some top ∧ s'.context.stack = rest := by
  obtain ⟨change, hresult⟩ := Run.result_of_on_attempt hok
  obtain ⟨top, rest, trace, hstack, hpop⟩ := Context.pop_eq_arrive hresult
  exact ⟨top, rest, hstack, attempt_passes h again hpop hhere hok⟩

/-! ## Routes -/

/-- Leaving the state passes through the actions on exit, unless the route stays. -/
theorem exit_passes {p : Place} (r : Route) (hp : sim.machine.stateNamed? p.scopedName = some p)
    (hcurrent : s.context.current = some p.scopedName)
    (hexit : ∀ a ∈ r.exits p, a.emptiesStack = false)
    (hok : (if (!r.stays) = true then sim.leave again else pure () : Run σ Unit).on s =
      (.ok (), s')) :
    sim.Passes again s (Event.acts [] (r.exits p)) s' ∧ s.context.Alike s'.context := by
  rw [Route.exits] at hexit ⊢
  cases hstays : r.stays with
  | true =>
    rw [hstays] at hok
    cases hok
    exact ⟨.refl _, .refl _⟩
  | false =>
    rw [hstays] at hok hexit
    have hok : (sim.leave again).on s = (.ok (), s') := hok
    rw [leave_on hp hcurrent] at hok
    exact ⟨performBlock_passes hok, (performBlock_stays h _ hexit).alike hok⟩

/-- Setting out passes through the actions on exit; the state is cleared if there are
    actions to come. -/
theorem setOut_passes {x : Choice} {p : Place} {r : Route} (hr : sim.Ready p x r s)
    (hexit : ∀ a ∈ r.exits p, a.emptiesStack = false) {saved : Option String}
    (hok : (sim.setOut again x).on s = (.ok saved, s')) :
    sim.Passes again s (Event.acts [] (r.exits p)) s' ∧
      saved = (if x.plan.savesState then some p.scopedName else none) ∧
      (if x.guard.hasActions then s.context.clear else s.context).Alike s'.context := by
  have hexits : x.plan.exitsCurrent = !r.stays := by
    rw [← hr.leads.isLoopback_eq]
    rfl
  have hclears : x.plan.clearsState = x.guard.hasActions := rfl
  rw [setOut_on hr.fits hr.current, hexits, hclears] at hok
  obtain ⟨s₁, hleave, hok⟩ := Run.on_ite_bind_eq_ok.1 hok
  obtain ⟨hpasses, halike⟩ := exit_passes h r hr.named (by exact hr.current) hexit hleave
  have halike : s.context.Alike s₁.context := halike
  -- the choice is reported before the state is left
  have hpasses : sim.Passes again s (Event.acts [] (r.exits p)) s₁ :=
    hpasses.later (.quiet rfl rfl rfl)
  cases hacts : x.guard.hasActions with
  | true =>
    rw [hacts] at hok
    cases hok
    exact ⟨hpasses.quietly (.quiet rfl rfl rfl), rfl, halike.clear⟩
  | false =>
    rw [hacts] at hok
    cases hok
    exact ⟨hpasses, rfl, halike⟩

/-- The current state, put back if there were actions. -/
theorem restore_passes (again : Dispatch σ V) {here : String} {acted : Bool} {stack : List String}
    (hs : s.context.Departed here acted stack)
    (hok : (if acted then Run.attempt sim.host fun c => c.set (some here)
      else pure () : Run σ Unit).on s = (.ok (), s')) :
    sim.Passes again s [] s' ∧ s'.context.current = some here ∧ s'.context.stack = stack := by
  cases acted with
  | true =>
    have hset := set_passes h again hs.leaving hok
    rwa [Event.moves, if_pos rfl, hs.stack] at hset
  | false =>
    cases hok
    exact ⟨.refl _, hs.current, hs.stack⟩

/-- A state that is arrived at and entered. -/
theorem enter_after_passes {x : Run σ Unit} {here : String} {q : Place} {stack : List String}
    (hq : sim.machine.stateNamed? q.scopedName = some q)
    (hx : ∀ s₁, x.on s = (.ok (), s₁) → sim.Passes again s (Event.moves here q.scopedName) s₁ ∧
      s₁.context.current = some q.scopedName ∧ s₁.context.stack = stack)
    (hentry : ∀ a ∈ q.map.entryOf q.state, a.emptiesStack = false)
    (hok : (do
      x
      sim.enter again).on s = (.ok (), s')) :
    sim.Passes again s
        (Event.moves here q.scopedName ++ Event.acts [] (q.map.entryOf q.state)) s' ∧
      s'.context.current = some q.scopedName ∧ s'.context.stack = stack := by
  obtain ⟨_, s₁, hok, henter⟩ := Run.on_bind_eq_ok.1 hok
  obtain ⟨hmoves, hcurrent, hstack⟩ := hx s₁ hok
  obtain ⟨hacts, halike⟩ := enter_passes h hq hcurrent hentry henter
  exact ⟨hmoves.append hacts, halike.current_eq.trans hcurrent, halike.stack_eq.trans hstack⟩

/-- Settling passes through the changes and the actions on entry, and arrives where
    the route leads. -/
theorem settle_passes {g : Guard} {map : StateMap} {r : Route} (hr : g.Leads sim.machine map r)
    {here : String} {acted : Bool} {stack : List String}
    (hs : s.context.Departed here acted stack)
    (harrival : ∀ e ∈ (r.arrival here stack : List (Event V)), e.emptiesStack = false)
    (hok : (sim.settle again here acted r).on s = (.ok (), s')) :
    sim.Passes again s (r.arrival here stack) s' ∧ s'.context.current = r.current here stack ∧
      s'.context.stack = r.stack here stack := by
  cases r with
  | set q =>
    have hentry := Event.forall_mem_acts.1 (List.forall_mem_append.1 harrival).2
    have hset := enter_after_passes h hr.2.2.2 (fun _ => set_passes h again hs.leaving) hentry hok
    rwa [hs.stack] at hset
  | stay => exact restore_passes h again hs hok
  | push q r =>
    obtain ⟨-, -, ⟨-, hq⟩, -, hr⟩ := hr
    obtain ⟨harrivalq, harrivalr⟩ := List.forall_mem_append.1 harrival
    have hentryq := Event.forall_mem_acts.1 (List.forall_mem_append.1 harrivalq).2
    have hentryr := Event.forall_mem_acts.1 (List.forall_mem_append.1 harrivalr).2
    rw [settle, ← bind_assoc, ← bind_assoc, bind_assoc] at hok
    obtain ⟨_, s₁, hset, hpush⟩ := Run.on_bind_eq_ok.1 hok
    obtain ⟨hpasses, hcurrent₁, hstack₁⟩ :=
      enter_after_passes h hq (fun _ => set_passes h again hs.leaving) hentryq hset
    obtain ⟨hpasses', hcurrent', hstack'⟩ :=
      enter_after_passes h hr (fun _ => push_passes h again hcurrent₁) hentryr hpush
    rw [hstack₁, hs.stack] at hstack'
    exact ⟨hpasses.append hpasses', hcurrent', hstack'⟩
  | pushHere r =>
    obtain ⟨-, -, -, hr⟩ := hr
    obtain ⟨s₁, hset, hpush⟩ := Run.on_ite_bind_eq_ok.1 hok
    have hentry := Event.forall_mem_acts.1 (List.forall_mem_append.1 harrival).2
    obtain ⟨hpasses, hcurrent₁, hstack₁⟩ := restore_passes h again hs hset
    obtain ⟨hpasses', hcurrent', hstack'⟩ :=
      enter_after_passes h hr (fun _ => push_passes h again hcurrent₁) hentry hpush
    rw [hstack₁] at hstack'
    exact ⟨hpasses.append hpasses', hcurrent', hstack'⟩
  | pop =>
    obtain ⟨top, rest, hstack, hpasses, hcurrent', hstack'⟩ := pop_passes h again hs.leaving hok
    rw [← hs.stack, hstack]
    exact ⟨by simpa [Route.arrival] using hpasses, hcurrent', hstack'⟩

omit h in
/-- Acting and committing give a result if both do. -/
theorem actAndCommit_eq_ok {plan : Plan} {actions : List Action} {bindings : Bindings V}
    {saved : Option String} :
    (sim.actAndCommit again plan actions bindings saved).on s = (.ok (), s') ↔
      ∃ s₁, (sim.performAll again bindings actions).on s = (.ok (), s₁) ∧
        (sim.commit again plan saved).on s₁ = (.ok (), s') := by
  rw [actAndCommit]
  split
  · exact Run.on_ensure_eq_ok
  · rw [Run.on_bind_eq_ok]
    constructor
    · rintro ⟨_, hboth⟩
      exact hboth
    · exact fun hboth => ⟨(), hboth⟩

/-- Setting out and acting pass through the events of departure. -/
theorem depart_passes {x : Choice} {p : Place} {r : Route} (hr : sim.Ready p x r s)
    {bindings : Bindings V}
    (hdeparture : ∀ e ∈ r.departure p x.guard bindings, e.emptiesStack = false)
    {saved : Option String} {s₁ : Simulation σ}
    (hsetOut : (sim.setOut again x).on s = (.ok saved, s₁))
    (hperform : (sim.performAll again bindings x.guard.actions).on s₁ = (.ok (), s')) :
    sim.Passes again s (r.departure p x.guard bindings) s' ∧
      saved = (if x.plan.savesState then some p.scopedName else none) ∧
      s'.context.Departed p.scopedName x.guard.hasActions s.context.stack := by
  obtain ⟨hexit, hactions⟩ := List.forall_mem_append.1 hdeparture
  have hexit := Event.forall_mem_acts.1 hexit
  have hactions := Event.forall_mem_acts.1 hactions
  obtain ⟨hexits, hsaved, halike⟩ := setOut_passes h hr hexit hsetOut
  have halike := halike.trans ((performAll_stays h _ hactions).alike hperform)
  refine ⟨hexits.append (performAll_passes hperform), hsaved, ?_, ?_, ?_⟩
  -- with actions the state was cleared, and is the one before
  · rw [halike.leaving_eq]
    cases x.guard.hasActions <;> simp [Context.leaving, Context.clear, hr.current]
  · rw [halike.current_eq]
    cases x.guard.hasActions <;> simp [Context.clear, hr.current]
  · rw [halike.stack_eq]
    cases x.guard.hasActions <;> rfl

/-- Taking a choice passes through the events of its route, arrives where the route
    leads and offers a further transition there. -/
theorem takeUpTo_passes {x : Choice} {args : List V} {p : Place} {r : Route} (hr : sim.Ready p x r s)
    (hevents : ∀ e ∈ r.events p x.guard (x.bindings args) s.context.stack, e.emptiesStack = false)
    {further : Option (List V)} (hok : (sim.takeUpTo again args x).on s = (.ok further, s')) :
    ∃ s₁, sim.Passes again s (r.events p x.guard (x.bindings args) s.context.stack) s₁ ∧
      s₁.context.current = r.current p.scopedName s.context.stack ∧
      s₁.context.stack = r.stack p.scopedName s.context.stack ∧
      (sim.offer again x.plan (x.bindings args)).on s₁ = (.ok further, s') := by
  obtain ⟨hdeparture, harrival⟩ := List.forall_mem_append.1 hevents
  rw [takeUpTo_eq_setOut] at hok
  obtain ⟨saved, s₁, hsetOut, hok⟩ := Run.on_bind_eq_ok.1 hok
  obtain ⟨_, s₃, hact, hoffer⟩ := Run.on_bind_eq_ok.1 hok
  obtain ⟨s₂, hperform, hcommit⟩ := actAndCommit_eq_ok.1 hact
  obtain ⟨hdeparts, hsaved, hdeparted⟩ := depart_passes h hr hdeparture hsetOut hperform
  rw [hr.commit_eq again hsaved] at hcommit
  obtain ⟨harrives, hcurrent', hstack'⟩ := settle_passes h hr.leads hdeparted harrival hcommit
  exact ⟨s₃, hdeparts.append harrives, hcurrent', hstack', hoffer⟩

/-- An offer that is made leaves the machine where it is. -/
theorem offer_stays (plan : Plan) (bindings : Bindings V) :
    (sim.offer again plan bindings).Stays := by
  rw [offer]
  split
  · exact .bind (argumentList_stays again h _ _) fun _ => .bind (.report _) fun _ => .pure _
  · exact .pure none

omit h in
/-- A further transition is offered if the guard names one. -/
theorem offer_cases {plan : Plan} {bindings : Bindings V} {further : Option (List V)}
    (hok : (sim.offer again plan bindings).on s = (.ok further, s')) :
    (plan.popTransition.isSet = false ∧ further = none ∧ s' = s) ∨
      (plan.popTransition.isSet = true ∧ ∃ args', further = some args') := by
  rw [offer] at hok
  cases hset : plan.popTransition.isSet with
  | false =>
    rw [hset] at hok
    cases hok
    exact .inl ⟨rfl, rfl, rfl⟩
  | true =>
    rw [hset] at hok
    obtain ⟨args', _, -, hok⟩ := Run.on_bind_eq_ok.1 hok
    cases hok
    exact .inr ⟨rfl, args', rfl⟩

end Aloof

/-! ## A desk -/

/-- The description of a call of the owner. -/
def callEntry (name : String) (arguments : List String) : Value :=
  .object [("name", .str name), ("arguments", .list (arguments.map .str))]

/-- The description of a desk with a clerk, who does something on leaving the free
    desk, on taking the seat and on leaving it. -/
def desk (farewell welcome parting : Value) : Value :=
  .object [("class", .str "Clerk"), ("start", .str "Desk::Free"), ("maps", .list [.object [
    ("name", .str "Desk"),
    ("states", .list [
      .object [("name", .str "Free"), ("exit", .list [farewell]), ("transitions", .list [
        .object [("name", .str "work"), ("end_state", .str "Busy"),
          ("actions", .list [callEntry "greet" []])],
        .object [("name", .str "call"), ("type", .str "push"), ("end_state", .str "Busy"),
          ("push_state", .str "Free")],
        .object [("name", .str "ask"), ("type", .str "push"), ("end_state", .str "nil"),
          ("push_state", .str "Asked")],
        .object [("name", .str "leave"), ("type", .str "pop"), ("end_state", .str "nil"),
          ("actions", .list [callEntry "note" []])]])],
      .object [("name", .str "Busy"), ("entry", .list [welcome]),
        ("exit", .list [parting]), ("transitions", .list [
        .object [("name", .str "leave"), ("type", .str "pop"), ("end_state", .str "nil"),
          ("actions", .list [callEntry "note" []])],
        .object [("name", .str "rest"), ("end_state", .str "nil"),
          ("actions", .list [callEntry "note" []])]])],
      .object [("name", .str "Asked"), ("transitions", .list [
        .object [("name", .str "answer"), ("type", .str "pop"), ("end_state", .str "work")]])]])]])]

/-- A call of the clerk. -/
def clerkCall (name : String) (arguments : List String) : Action :=
  ⟨.str name, arguments, false, false, false, .int 0⟩

/-- A guard of the desk. -/
def deskGuard (move : Move) (endState pushState : String) (actions : List Action) : Guard :=
  { doorGuard "" move endState pushState with actions := actions }

/-- A transition of the desk. -/
def deskTransition (name : String) (move : Move) (endState pushState : String)
    (actions : List Action) : Transition :=
  doorTransition name (deskGuard move endState pushState actions)

/-- The desk that is free. -/
def deskFree (farewell : Action) : State :=
  ⟨"Free", none, some [farewell], [
    deskTransition "work" .set "Busy" "" [clerkCall "greet" []],
    deskTransition "call" .push "Busy" "Free" [],
    deskTransition "ask" .push "nil" "Asked" [],
    deskTransition "leave" .pop "nil" "" [clerkCall "note" []]], .int 0⟩

/-- The desk at which the clerk works. -/
def deskBusy (welcome parting : Action) : State :=
  ⟨"Busy", some [welcome], some [parting], [
    deskTransition "leave" .pop "nil" "" [clerkCall "note" []],
    deskTransition "rest" .set "nil" "" [clerkCall "note" []]], .int 0⟩

/-- The map of the desk. -/
def deskMap (farewell welcome parting : Action) : StateMap where
  name := .str "Desk"
  states := [deskFree farewell, deskBusy welcome parting,
    doorState "Asked" [deskTransition "answer" .pop "work" "" []]]
  default? := none
  line := .int 0

/-- The desk. -/
def deskMachine (farewell welcome parting : Action) : Machine :=
  { doorMachine "" with
    name := .str "Clerk"
    context := .str "Clerk"
    start := .str "Desk::Free"
    maps := [deskMap farewell welcome parting] }

/-- The desk of a clerk who does not meddle with it. -/
def plainDesk : Machine :=
  deskMachine (clerkCall "tidy" []) (clerkCall "sign" []) (clerkCall "file" [])

theorem plainDesk_loads :
    (Load.machine (desk (callEntry "tidy" []) (callEntry "sign" []) (callEntry "file" []))
      .null).outcome.1 = .ok plainDesk := by rfl

theorem plainDesk_valid : ∃ w, plainDesk.validate none none = .ok w ∧ w.isValid = true :=
  Machine.exists_validation (by decide +kernel)

/-- A host that writes down what it is asked to do and told. -/
def diary : Host (List String) String where
  ownerName := "Clerk"
  names _ := []
  evaluate _ e _ := pure (String.ofList (e.toList.filter (· != '\'')))
  isTrue v := v == "True"
  spread _ := pure []
  assign _ _ _ := pure ()
  member _ name := pure (some name.text)
  call _ f _ := Run.changeHost (· ++ [f])
  notify id change := Run.changeHost (· ++
    [id ++ ": " ++ Context.nameOf change.previous ++ " to " ++ Context.nameOf change.next])

theorem diary_aloof : diary.Aloof where
  evaluate_issue _ _ _ _ := rfl
  call_issue _ _ _ _ := rfl
  stays := by
    rintro α x (_ | _ | _ | _ | _ | _) s <;> rfl

/-- The same host, but it issues a transition where it is asked to. -/
def meddler : Host (List String) String :=
  { diary with
    call := fun issue f args =>
      if f == "issue" then do
        let _ ← issue (.str (args.headD "")) []
      else diary.call issue f args }

/-- A desk as it is simulated with a host. -/
def deskWith {τ : Type} (host : Host (List τ) String) (m : Machine) (size : Int) :
    Simulator (List τ) String where
  machine := m
  host := host
  stackSize := .int size

/-- A desk after it was started, with a listener. -/
def watchedDesk {τ : Type} (sim : Simulator (List τ) String) : Simulation (List τ) :=
  ((Run.addListener "ear").on (sim.start []).2).2

/-- A listener that is added changes nothing but the listeners. -/
theorem addListener_alike {τ : Type} (id : String) (s : Simulation τ) :
    s.context.Alike ((Run.addListener id).on s).2.context := by
  change s.context.Alike (s.context.addListener id)
  rw [Context.addListener]
  split <;> rfl

theorem watchedDesk_reachable {τ : Type} (sim : Simulator (List τ) String) :
    sim.Reachable (watchedDesk sim) :=
  .outside (.start []) (addListener_alike _ _)

/-- The map of the plain desk. -/
def plainMap : StateMap :=
  deskMap (clerkCall "tidy" []) (clerkCall "sign" []) (clerkCall "file" [])

/-- The plain desk, free. -/
def plainFree : Place :=
  ⟨plainMap, deskFree (clerkCall "tidy" [])⟩

/-- The plain desk, at work. -/
def plainBusy : Place :=
  ⟨plainMap, deskBusy (clerkCall "sign" []) (clerkCall "file" [])⟩

/-- A choice at the plain desk, free. -/
def plainChoice (name : String) (move : Move) (endState pushState : String)
    (actions : List Action) : Choice :=
  ⟨⟨none, plainFree, deskTransition name move endState pushState actions⟩,
    deskGuard move endState pushState actions⟩

/-- The plain desk as it is simulated, with its diary. -/
def plainClerk (size : Int) : Simulator (List String) String :=
  deskWith diary plainDesk size

theorem plainFree_mem : plainFree ∈ plainDesk.places :=
  List.mem_cons_self

/-! ## Steps -/

/-- Issuing a transition, with an aloof host, passes through the events of the route
    of the guard that is selected, if nothing is raised and no action empties the
    stack, and arrives where the route leads. A further transition is then dispatched
    there, if the guard pops and names one. -/
theorem issue_passes_route (sim : Simulator σ V) {v n : Value}
    (hload : (Load.machine v n).outcome.1 = .ok sim.machine) {target : Option Target}
    {source : Option Value} {w : Validation} (hcheck : sim.machine.validate target source = .ok w)
    (hvalid : w.isValid = true) (haloof : sim.host.Aloof) (again : Dispatch σ V) {p : Place}
    {s s₁ s' : Simulation σ} (hp : sim.At p s) {name : Value} {args : List V} {x : Choice}
    (hselects : sim.Selects again p name args s.unlogged (.ok x) s₁)
    {result : String × List String} (hok : (sim.issue name args).on s = (.ok result, s')) :
    ∃ r, x.guard.Leads sim.machine p.map r ∧
      ((∀ e ∈ r.events p x.guard (x.bindings args) s.context.stack, e.emptiesStack = false) →
        ∃ s₂, sim.Passes again s₁ (r.events p x.guard (x.bindings args) s.context.stack) s₂ ∧
          s₂.context.current = r.current p.scopedName s.context.stack ∧
          s₂.context.stack = r.stack p.scopedName s.context.stack ∧
          ((x.guard.popTransition.isSet = false ∧
              (sim.issue name args).on s = issued (concluded name x (.ok (), s₂))) ∨
            (x.guard.popTransition.isSet = true ∧ ∃ args' s₃ xs o,
              (sim.offer again x.plan (x.bindings args)).on s₂ = (.ok (some args'), s₃) ∧
              s₂.context.Alike s₃.context ∧
              sim.Dispatches again x.guard.popTransition args' s₃ xs o ∧
              (sim.issue name args).on s = issued (concluded name x o)))) := by
  have hwf := Load.wellFormed_of_outcome hload
  have hm := Machine.valid_of_validate hcheck hvalid
  obtain ⟨r, hr⟩ := hselects.exists_ready hwf hm haloof hp
  refine ⟨r, hr.leads, fun hevents => ?_⟩
  have hstack : s₁.context.stack = s.context.stack := (hselects.alike haloof.observes).stack_eq
  rcases htake : (sim.takeUpTo again args x).on s₁ with ⟨f | further, s₃⟩
  · rw [issue_taken hwf haloof hp hselects htake] at hok
    cases hok
  · obtain ⟨s₂, hpasses, hcurrent₂, hstack₂, hoffer⟩ := takeUpTo_passes haloof hr
      (by rwa [hstack]) htake
    rw [hstack] at hpasses hcurrent₂ hstack₂
    refine ⟨s₂, hpasses, hcurrent₂, hstack₂, ?_⟩
    have hissue := issue_taken hwf haloof hp hselects htake
    rcases offer_cases hoffer with ⟨hunset, rfl, rfl⟩ | ⟨hset, args', rfl⟩
    · exact .inl ⟨hunset, hissue⟩
    · -- one state less is suspended, so the further transition does not reach the limit
      have hplace := (Machine.stateNamed?_eq_some hr.named).1
      have hpick := (pick_eq_ok_iff hwf hplace).2 hselects
      have hdepth := depth_lt_of_further haloof again hpick htake
      obtain ⟨xs, o, hd⟩ := exists_dispatches haloof again x.guard.popTransition args' s₃
      have ho := (hd.bounded haloof again).2 (nestingLimit + s.context.depth)
        (Nat.lt_add_left _ hdepth)
      dsimp only at hissue
      rw [ho] at hissue
      exact .inr ⟨hset, args', s₃, xs, o, hoffer, (offer_stays haloof _ _).alike hoffer, hd, hissue⟩

/-- To work, the clerk tidies up and greets, and signs when the listener has been
    told. -/
theorem worked_desk_passes :
    (∃ v, (Load.machine v .null).outcome.1 = .ok plainDesk) ∧
      (∃ w, plainDesk.validate none none = .ok w ∧ w.isValid = true) ∧ diary.Aloof ∧
      ∃ s s₁ s₂ x, (plainClerk 0).At plainFree s ∧
        (plainClerk 0).Selects (fun _ _ => pure ()) plainFree (.str "work") [] s.unlogged (.ok x) s₁ ∧
        (plainClerk 0).Passes (fun _ _ => pure ()) s₁
          [.acted [] (clerkCall "tidy" []), .acted [] (clerkCall "greet" []),
            .told ⟨some "Desk::Free", some "Desk::Busy"⟩, .acted [] (clerkCall "sign" [])] s₂ ∧
        s₂.context.current = some "Desk::Busy" ∧ s₂.context.stack = s.context.stack ∧
        (((plainClerk 0).issue (.str "work") []).on s).2.host =
          ["tidy", "greet", "ear: Desk::Free to Desk::Busy", "sign"] := by
  obtain ⟨w, hcheck, hvalid⟩ := plainDesk_valid
  have hat : (plainClerk 0).At plainFree (watchedDesk (plainClerk 0)) :=
    ⟨"Desk::Free", by decide +kernel, rfl⟩
  obtain ⟨result, hok⟩ : ∃ result, ((plainClerk 0).issue (.str "work") []).on
      (watchedDesk (plainClerk 0)) = (.ok result, _) := Run.exists_ok (by decide +kernel)
  obtain ⟨x, hselects⟩ : ∃ x, (plainClerk 0).Selects (fun _ _ => pure ()) plainFree (.str "work") []
      (watchedDesk (plainClerk 0)).unlogged (.ok x) _ :=
    exists_selects_ok (Load.wellFormed_of_outcome plainDesk_loads) plainFree_mem (by decide +kernel)
  obtain rfl : x = plainChoice "work" .set "Busy" "" [clerkCall "greet" []] :=
    List.mem_singleton.1 hselects.mem_choices
  obtain ⟨r, hr, hpasses⟩ := issue_passes_route (plainClerk 0) plainDesk_loads hcheck hvalid
    diary_aloof _ hat hselects hok
  cases r with
  | set q =>
    obtain ⟨-, -, hname, hq⟩ := hr
    have hname : q.scopedName = "Desk::Busy" := (Value.str.inj hname).symm
    rw [hname] at hq
    obtain rfl : plainBusy = q := Option.some.inj hq
    obtain ⟨s₂, hpasses, hcurrent, hstack, -⟩ := hpasses (by decide)
    exact ⟨⟨_, plainDesk_loads⟩, ⟨w, hcheck, hvalid⟩, diary_aloof, _, _, s₂, _, hat, hselects,
      hpasses, hcurrent, hstack, by decide +kernel⟩
  | stay => exact absurd hr.2 (by decide)
  | push q r => exact absurd hr.1 (by decide)
  | pushHere r => exact absurd hr.1 (by decide)
  | pop => cases (hr : Move.set = .pop)

/-- The desk of a clerk who asks on leaving it. -/
def askingDesk : Machine :=
  deskMachine (clerkCall "issue" ["'ask'"]) (clerkCall "sign" []) (clerkCall "file" [])

/-- If an action on exit issues a transition, the route of the guard starts elsewhere:
    the state is suspended, and the listener is told of another change. -/
theorem asking_desk_stays_suspended :
    (Load.machine (desk (callEntry "issue" ["'ask'"]) (callEntry "sign" []) (callEntry "file" []))
        .null).outcome.1 = .ok askingDesk ∧
      (∃ w, askingDesk.validate none none = .ok w ∧ w.isValid = true) ∧
      ∃ s, (deskWith meddler askingDesk 0).Reachable s ∧
        s.context.current = some "Desk::Free" ∧ s.context.stack = [] ∧ s.host = [] ∧
        (((deskWith meddler askingDesk 0).issue (.str "work") []).on s).1.isOk = true ∧
        (((deskWith meddler askingDesk 0).issue (.str "work") []).on s).2.context.current =
          some "Desk::Busy" ∧
        (((deskWith meddler askingDesk 0).issue (.str "work") []).on s).2.context.stack =
          ["Desk::Free"] ∧
        (((deskWith meddler askingDesk 0).issue (.str "work") []).on s).2.host =
          ["ear: Desk::Free to Desk::Asked", "greet", "ear: Desk::Asked to Desk::Busy", "sign"] := by
  exact ⟨rfl, Machine.exists_validation (by decide +kernel),
    watchedDesk (deskWith meddler askingDesk 0), watchedDesk_reachable _, by decide +kernel,
    by decide +kernel, by decide +kernel, by decide +kernel, by decide +kernel, by decide +kernel,
    by decide +kernel⟩

end Simulator
end StateMachine
