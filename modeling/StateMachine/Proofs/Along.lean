import StateMachine.Proofs.Run

/-!
# Steps along a relation

What a step does to a simulation is often told by a relation between the
simulation before and the one after it. The step goes *along* the relation if it
always leads to a related simulation, whatever it comes to (`Run.Along`).

A simulator *admits* a relation (`Simulator.Admits`) if the relation is
reflexive and transitive, does not mind what the machine does with its context
but for the listeners, and is gone along by everything the host does. The host
may issue transitions on the way: it goes along if these do. Then every
transition that is issued goes along the relation, whatever is issued inside it
(`issue_along`).
-/

namespace StateMachine

variable {σ V α β : Type}

/-- The step leads from every simulation to a related one. -/
def Run.Along (R : Simulation σ → Simulation σ → Prop) (x : Run σ α) : Prop :=
  ∀ s, R s (x.on s).2

theorem Run.Along.ite {R : Simulation σ → Simulation σ → Prop} {c : Prop} [Decidable c]
    {x y : Run σ α} (hx : x.Along R) (hy : y.Along R) : (if c then x else y).Along R := by
  split
  · exact hx
  · exact hy

/-- A relation that everything the simulator does goes along. -/
structure Simulator.Admits (sim : Simulator σ V) (R : Simulation σ → Simulation σ → Prop) :
    Prop where
  refl : ∀ s, R s s
  trans : ∀ {s s' s''}, R s s' → R s' s'' → R s s''
  /-- The machine changes its context, the log and the trace. -/
  machine : ∀ {s s' : Simulation σ}, s'.listeners = s.listeners →
    s'.context.listeners = s.context.listeners → s'.host = s.host → R s s'
  evaluate : ∀ issue, (∀ name args, (issue name args).Along R) →
    ∀ e b, (sim.host.evaluate issue e b).Along R
  call : ∀ issue, (∀ name args, (issue name args).Along R) →
    ∀ f args, (sim.host.call issue f args).Along R
  spread : ∀ v, (sim.host.spread v).Along R
  assign : ∀ static name v, (sim.host.assign static name v).Along R
  member : ∀ static name, (sim.host.member static name).Along R
  notify : ∀ id change, (sim.host.notify id change).Along R

namespace Simulator.Admits

variable {sim : Simulator σ V} {R : Simulation σ → Simulation σ → Prop} (h : sim.Admits R)

include h

/-! ## Rules -/

theorem pure (a : α) : (Pure.pure a : Run σ α).Along R :=
  h.refl

theorem throw (f : Fault) : (MonadExcept.throw f : Run σ α).Along R :=
  h.refl

theorem bind {x : Run σ α} {k : α → Run σ β} (hx : x.Along R) (hk : ∀ a, (k a).Along R) :
    (x >>= k).Along R := by
  intro s
  have hs := hx s
  rcases he : x.on s with ⟨f | a, s'⟩ <;> rw [he] at hs
  · rw [Run.on_bind_error he]
    exact hs
  · rw [Run.on_bind_ok he]
    exact h.trans hs (hk a s')

theorem tryCatch {x : Run σ α} {k : Fault → Run σ α} (hx : x.Along R) (hk : ∀ f, (k f).Along R) :
    (MonadExcept.tryCatch x k : Run σ α).Along R := by
  intro s
  have hs := hx s
  rw [Run.on_tryCatch]
  rcases he : x.on s with ⟨f | a, s'⟩ <;> rw [he] at hs
  · exact h.trans hs (hk f s')
  · exact hs

theorem ensure {x : Run σ α} {y : Run σ Unit} (hx : x.Along R) (hy : y.Along R) :
    (Run.ensure x y).Along R := by
  intro s
  have hs := h.trans (hx s) (hy _)
  rw [Run.on_ensure]
  rcases he : y.on (x.on s).2 with ⟨f | ⟨⟩, s'⟩ <;> rw [he] at hs <;> exact hs

/-- A step that changes neither the listeners nor the host. -/
theorem quiet {x : Run σ α} (hx : ∀ s, (x.on s).2.listeners = s.listeners ∧
    (x.on s).2.context.listeners = s.context.listeners ∧ (x.on s).2.host = s.host) : x.Along R :=
  fun s => h.machine (hx s).1 (hx s).2.1 (hx s).2.2

theorem report (line : String) : (Run.report line : Run σ Unit).Along R :=
  h.quiet fun _ => ⟨rfl, rfl, rfl⟩

theorem fit (m : Option Mismatch) : (Run.fit m : Run σ Unit).Along R := by
  cases m with
  | none => exact h.pure ()
  | some m => exact h.throw _

theorem current : (Run.current : Run σ String).Along R := by
  refine h.quiet fun s => ?_
  rw [Run.on_current]
  cases s.context.current <;> exact ⟨rfl, rfl, rfl⟩

theorem place (name : String) : (sim.place name).Along R := by
  rw [Simulator.place]
  cases sim.machine.stateNamed? name with
  | none => exact h.throw _
  | some p => exact h.pure p

theorem target (name : Value) : (sim.target name).Along R := by
  cases name with
  | str scopedName => exact h.bind (h.place scopedName) fun _ => h.pure _
  | _ => exact h.throw _

/-! ## Changes of state -/

theorem notifyAll (change : Change String) (ids : List String) :
    (Run.notifyAll sim.host change ids).Along R := by
  induction ids with
  | nil => exact h.pure ()
  | cons id ids ih => exact h.bind (h.notify id change) fun _ => ih

/-- An attempt that does not concern the listeners, and their being told. -/
theorem attempt {operation : Context String → Attempt String}
    (hop : ∀ c, (operation c).context.listeners = c.listeners) :
    (Run.attempt sim.host operation).Along R := by
  intro s
  have hs : R s { s with
      context := (operation s.context).context
      trace := s.trace ++ (operation s.context).trace } :=
    h.machine rfl (hop s.context) rfl
  rw [Run.on_attempt]
  split
  · exact hs
  · exact hs
  · exact h.trans hs (h.notifyAll _ _ _)

theorem set (next : String) : (Run.attempt sim.host fun c => c.set (some next)).Along R := by
  refine h.attempt fun c => ?_
  rw [Context.set]
  split <;> rfl

theorem push (next : String) : (Run.attempt sim.host fun c => c.push (some next)).Along R := by
  refine h.attempt fun c => ?_
  rw [Context.push]
  repeat' split
  all_goals rfl

theorem pop : (Run.attempt sim.host Context.pop).Along R := by
  refine h.attempt fun c => ?_
  rw [Context.pop]
  split <;> rfl

/-! ## Expressions and actions -/

section Inside

variable {again : Dispatch σ V} (hagain : ∀ name args, (again name args).Along R)

include hagain

theorem issueBy (name : Value) (args : List V) : (Simulator.issueBy again name args).Along R := by
  have hlog : (Run.clearLog : Run σ Unit).Along R := h.quiet fun _ => ⟨rfl, rfl, rfl⟩
  have hget : (get : Run σ (Simulation σ)).Along R := h.refl
  refine h.bind hlog fun _ => h.bind (hagain name args) fun _ => ?_
  exact h.bind (h.bind hget fun _ => h.pure _) fun _ =>
    h.bind (h.bind hget fun _ => h.bind hlog fun _ => h.pure _) fun _ => h.pure _

theorem issueInside (name : Value) (args : List V) :
    (Simulator.issueInside again name args).Along R :=
  h.bind (h.issueBy hagain name args) fun _ => h.pure _

theorem evaluate_step (e : String) (bindings : Bindings V) :
    (sim.evaluate again e bindings).Along R := by
  have hget : (get : Run σ (Simulation σ)).Along R := h.refl
  refine h.bind hget fun s => ?_
  cases Screen.objection? e (sim.knownNames bindings s.host) with
  | some objection => exact h.throw _
  | none => exact h.tryCatch (h.evaluate _ (h.issueInside hagain) e bindings) fun f => h.throw _

theorem evaluateAll (bindings : Bindings V) (es : List String) :
    (sim.evaluateAll again bindings es).Along R := by
  induction es with
  | nil => exact h.pure []
  | cons e es ih =>
    exact h.bind (h.evaluate_step hagain e bindings) fun _ => h.bind ih fun _ => h.pure _

theorem argumentList (text : Value) (bindings : Bindings V) :
    (sim.argumentList again text bindings).Along R := by
  cases text with
  | str t =>
    exact .ite (h.pure []) (h.bind (h.evaluate_step hagain _ bindings) fun v => h.spread v)
  | _ => exact h.throw _

theorem holds (bindings : Bindings V) (g : Guard) : (sim.holds again bindings g).Along R :=
  .ite (h.bind (h.evaluate_step hagain _ bindings) fun _ => h.pure _) (h.pure true)

theorem perform (bindings : Bindings V) (a : Action) : (sim.perform again bindings a).Along R := by
  have hempty : (Run.changeContext Context.emptyStack : Run σ Unit).Along R :=
    h.quiet fun _ => ⟨rfl, rfl, rfl⟩
  refine h.bind (h.report _) fun _ => .ite hempty ?_
  refine h.bind (h.evaluateAll hagain bindings _) fun values => .ite ?_ ?_
  · cases values with
    | nil => exact h.throw _
    | cons v vs => exact h.assign _ _ _
  · refine h.bind (h.member _ _) fun f => ?_
    cases f with
    | some f => exact h.call _ (h.issueInside hagain) f values
    | none => exact .ite (h.throw _) (h.throw _)

theorem performAll (bindings : Bindings V) (as : List Action) :
    (sim.performAll again bindings as).Along R := by
  induction as with
  | nil => exact h.pure ()
  | cons a as ih => exact h.bind (h.perform hagain bindings a) fun _ => ih

theorem performBlock (headline : String) (actions : List Action) :
    (sim.performBlock again headline actions).Along R :=
  .ite (h.pure ()) (h.bind (h.report _) fun _ => h.performAll hagain [] actions)

theorem enter : (sim.enter again).Along R :=
  h.bind h.current fun name => h.bind (h.place name) fun _ => h.performBlock hagain _ _

theorem leave : (sim.leave again).Along R :=
  h.bind h.current fun name => h.bind (h.place name) fun _ => h.performBlock hagain _ _

/-! ## Guards -/

omit hagain in
theorem setDestination (plan : Plan) (saved : Option String) :
    (sim.setDestination plan saved).Along R := by
  refine h.bind ?_ fun name => h.set name
  cases saved with
  | some name => exact h.pure name
  | none => exact h.target _

theorem commit (plan : Plan) (saved : Option String) : (sim.commit again plan saved).Along R := by
  have hnew : (if plan.entersNew then sim.enter again else Pure.pure () : Run σ Unit).Along R :=
    .ite (h.enter hagain) (h.pure ())
  have hpush : (do
      let name ← sim.target plan.pushState
      Run.attempt sim.host fun c => c.push (some name)
      if plan.entersNew then sim.enter again : Run σ Unit).Along R :=
    h.bind (h.target _) fun name => h.bind (h.push name) fun _ => hnew
  have hrest : (do
      if plan.entersBeforePush then sim.enter again
      let name ← sim.target plan.pushState
      Run.attempt sim.host fun c => c.push (some name)
      if plan.entersNew then sim.enter again : Run σ Unit).Along R :=
    .ite (h.bind (h.enter hagain) fun _ => hpush) hpush
  have hset := h.setDestination plan saved
  rw [Simulator.commit]
  refine .ite (h.bind hset fun _ => hnew) (.ite ?_ (.ite (h.bind h.pop fun _ => hnew) hnew))
  exact .ite (h.bind hset fun _ => hrest) hrest

theorem take (plan : Plan) (actions : List Action) (bindings : Bindings V) :
    (sim.take again plan actions bindings).Along R := by
  have hperform := h.performAll hagain bindings actions
  have hclear : (Run.changeContext Context.clear : Run σ Unit).Along R :=
    h.quiet fun _ => ⟨rfl, rfl, rfl⟩
  have hgoOn : (sim.goOn again plan bindings).Along R :=
    .ite (h.bind (h.argumentList hagain _ bindings) fun args =>
      h.bind (h.report _) fun _ => hagain _ args) (h.pure ())
  have hact : ∀ saved : Option String, (do
      sim.actAndCommit again plan actions bindings saved
      sim.goOn again plan bindings : Run σ Unit).Along R := fun saved =>
    h.bind (.ite (h.ensure hperform (h.commit hagain plan saved))
      (h.bind hperform fun _ => h.commit hagain plan saved)) fun _ => hgoOn
  have hleft : ∀ saved : Option String, (do
      if plan.clearsState then Run.changeContext Context.clear
      sim.actAndCommit again plan actions bindings saved
      sim.goOn again plan bindings : Run σ Unit).Along R := fun saved =>
    .ite (h.bind hclear fun _ => hact saved) (hact saved)
  have hrest : ∀ saved : Option String, (do
      if plan.exitsCurrent then sim.leave again
      if plan.clearsState then Run.changeContext Context.clear
      sim.actAndCommit again plan actions bindings saved
      sim.goOn again plan bindings : Run σ Unit).Along R := fun saved =>
    .ite (h.bind (h.leave hagain) fun _ => hleft saved) (hleft saved)
  have hcurrent : (some <$> Run.current : Run σ (Option String)).Along R := by
    rw [map_eq_pure_bind]
    exact h.bind h.current fun _ => h.pure _
  exact .ite (h.bind hcurrent hrest) (h.bind (h.pure none) hrest)

/-! ## Transitions -/

theorem tryGuards (p : Placed) (bindings : Bindings V) (gs : List Guard) :
    (sim.tryGuards again p bindings gs).Along R := by
  induction gs with
  | nil => exact h.pure false
  | cons g gs ih =>
    refine h.bind (h.holds hagain bindings g) fun b => .ite ?_ ?_
    · exact h.bind h.current fun _ => h.bind (h.report _) fun _ => h.bind (h.fit _) fun _ =>
        h.bind (h.take hagain _ _ _) fun _ => h.pure true
    · exact h.bind (h.report _) fun _ => ih

theorem tryTransition (p : Placed) (args : List V) : (sim.tryTransition again p args).Along R :=
  h.bind (h.fit _) fun _ => h.bind (h.fit _) fun _ => h.tryGuards hagain p _ _

theorem tryLinks (state : String) (name : Value) (args : List V) (links : List DefaultLink) :
    (sim.tryLinks again state name args links).Along R := by
  induction links with
  | nil => exact h.throw _
  | cons link links ih =>
    rw [Simulator.tryLinks]
    split
    · exact h.bind (h.report _) fun _ => h.throw _
    · refine .ite ih (h.bind (h.tryTransition hagain _ _) fun b => ?_)
      exact .ite (h.report _) ih

theorem handle (p : Place) (name : Value) (args : List V) :
    (sim.handle again p name args).Along R := by
  rw [Simulator.handle]
  have hrest : ∀ handled : Bool, (if handled then Pure.pure () else
      sim.tryLinks again p.scopedName name args
        (p.defaultChain name (.arity args.length) false) : Run σ Unit).Along R := fun handled =>
    .ite (h.pure ()) (h.tryLinks hagain _ _ _ _)
  split
  · exact h.bind (h.tryTransition hagain _ _) hrest
  · exact h.bind (h.pure false) hrest

theorem dispatchBy (name : Value) (args : List V) : (sim.dispatchBy again name args).Along R := by
  have hname : ∀ name, (Run.changeContext fun c => c.setTransition name : Run σ Unit).Along R :=
    fun _ => h.quiet fun _ => ⟨rfl, rfl, rfl⟩
  exact h.bind h.current fun state => h.bind (h.place state) fun p => h.bind (hname _) fun _ =>
    h.ensure (h.handle hagain p name args) (hname _)

end Inside

/-! ## Requests -/

theorem dispatch (limit : Nat) (name : Value) (args : List V) :
    (sim.dispatch limit name args).Along R := by
  -- transitions issued inside are dispatched with a lower limit
  induction limit generalizing name args with
  | zero => exact h.throw _
  | succ limit ih => exact h.dispatchBy ih name args

theorem dispatchHere (name : Value) (args : List V) : (sim.dispatchHere name args).Along R := by
  have hget : (get : Run σ (Simulation σ)).Along R := h.refl
  exact h.bind hget fun _ => h.dispatch _ name args

/-- Every transition that is issued goes along the relation. -/
theorem issue_along (name : Value) (args : List V) : (sim.issue name args).Along R :=
  h.issueBy h.dispatchHere name args

theorem enterHere_along : sim.enterHere.Along R :=
  h.enter h.dispatchHere

end Simulator.Admits
end StateMachine
