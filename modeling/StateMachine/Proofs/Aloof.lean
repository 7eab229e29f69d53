import StateMachine.Proofs.Run

/-!
# Aloof hosts

A host *observes* if its expressions only look at the machine: evaluating one
issues no transitions and does not change the context, except for the
listeners. It is *aloof* if this is so of everything it does. Whatever its
expressions and actions give or raise, they then act on the machine only by
what they give or raise.

* A step of a simulator with an aloof host, other than issuing a transition
  after a pop, does not depend on the way further transitions are dispatched
  (`evaluate_again` and those after it).
* Evaluating expressions leaves the context as it is (`evaluate_stays`).
-/

namespace StateMachine

variable {σ V α β : Type}

/-- Two contexts that differ in their listeners at most. -/
def Context.Alike (c c' : Context String) : Prop :=
  c' = { c with listeners := c'.listeners }

namespace Context.Alike

variable {c c' c'' : Context String}

theorem refl (c : Context String) : c.Alike c := rfl

theorem trans (h : c.Alike c') (h' : c'.Alike c'') : c.Alike c'' := by
  rw [Alike] at h h' ⊢
  rw [h', h]

theorem current_eq (h : c.Alike c') : c'.current = c.current := by rw [h]

theorem previous_eq (h : c.Alike c') : c'.previous = c.previous := by rw [h]

theorem stack_eq (h : c.Alike c') : c'.stack = c.stack := by rw [h]

end Context.Alike

/-- What is true of a context whatever its listeners are. -/
def Context.IgnoresListeners (C : Context String → Prop) : Prop :=
  ∀ c c', c.Alike c' → C c → C c'

/-! ## Steps that stay -/

/-- The step leaves the context as it is, except for the listeners. -/
def Run.Stays (x : Run σ α) : Prop :=
  ∀ s : Simulation σ, s.context.Alike (x.on s).2.context

namespace Run.Stays

variable {x : Run σ α}

theorem pure (a : α) : Stays (Pure.pure a : Run σ α) :=
  fun s => .refl s.context

theorem throw (f : Fault) : Stays (MonadExcept.throw f : Run σ α) :=
  fun s => .refl s.context

theorem bind {k : α → Run σ β} (hx : Stays x) (hk : ∀ a, Stays (k a)) : Stays (x >>= k) := by
  intro s
  have h := hx s
  rcases he : x.on s with ⟨f | a, s'⟩ <;> rw [he] at h
  · rw [on_bind_error he]
    exact h
  · rw [on_bind_ok he]
    exact h.trans (hk a s')

theorem tryCatch {k : Fault → Run σ α} (hx : Stays x) (hk : ∀ f, Stays (k f)) :
    Stays (MonadExcept.tryCatch x k : Run σ α) := by
  intro s
  have h := hx s
  rw [on_tryCatch]
  rcases he : x.on s with ⟨f | a, s'⟩ <;> rw [he] at h
  · exact h.trans (hk f s')
  · exact h

theorem report (line : String) : Stays (Run.report line : Run σ Unit) :=
  fun s => .refl s.context

theorem fit (m : Option Mismatch) : Stays (Run.fit m : Run σ Unit) := by
  cases m with
  | none => exact pure ()
  | some m => exact throw _

theorem alike {s s' : Simulation σ} {r : Except Fault α} (hx : Stays x) (h : x.on s = (r, s')) :
    s.context.Alike s'.context := by
  have := hx s
  rwa [h] at this

/-- A step that stays keeps what is true whatever the listeners are. -/
theorem keeps {C : Context String → Prop} {E : Fault → Prop} (hx : Stays x)
    (hC : Context.IgnoresListeners C) (hE : ∀ s f s', x.on s = (.error f, s') → E f) :
    Keeps C E x := by
  intro s hs
  have h := hC _ _ (hx s) hs
  rcases he : x.on s with ⟨f | a, s'⟩ <;> rw [he] at h
  · exact ⟨h, hE s f s' he⟩
  · exact h

end Run.Stays

/-! ## Hosts -/

/-- The steps that are operations of a host. -/
inductive Host.Does (h : Host σ V) : {α : Type} → Run σ α → Prop
  | evaluate (issue : Issue σ V) (e : String) (b : Bindings V) : h.Does (h.evaluate issue e b)
  | spread (v : V) : h.Does (h.spread v)
  | assign (static : Bool) (name : Value) (v : V) : h.Does (h.assign static name v)
  | member (static : Bool) (name : Value) : h.Does (h.member static name)
  | call (issue : Issue σ V) (f : V) (args : List V) : h.Does (h.call issue f args)
  | notify (id : String) (change : Change String) : h.Does (h.notify id change)

/-- A host whose expressions only look at the machine. -/
structure Host.Observes (h : Host σ V) : Prop where
  /-- Expressions are evaluated without issuing transitions. -/
  evaluate_issue : ∀ i j e b, h.evaluate i e b = h.evaluate j e b
  /-- No expression changes the context, except for the listeners. -/
  evaluate_stays : ∀ i e b, (h.evaluate i e b).Stays

/-- A host that lets the machine alone. -/
structure Host.Aloof (h : Host σ V) : Prop where
  /-- Expressions are evaluated without issuing transitions. -/
  evaluate_issue : ∀ i j e b, h.evaluate i e b = h.evaluate j e b
  /-- Actions are carried out without issuing transitions. -/
  call_issue : ∀ i j f args, h.call i f args = h.call j f args
  /-- No operation changes the context, except for the listeners. -/
  stays : ∀ {α : Type} {x : Run σ α}, h.Does x → x.Stays

theorem Host.Aloof.observes {h : Host σ V} (ha : h.Aloof) : h.Observes where
  evaluate_issue := ha.evaluate_issue
  evaluate_stays i e b := ha.stays (.evaluate i e b)

/-- The host raises only faults for which `E` holds. -/
def Host.Raises (h : Host σ V) (E : Fault → Prop) : Prop :=
  ∀ {α : Type} {x : Run σ α}, h.Does x → ∀ s f s', x.on s = (.error f, s') → E f

namespace Simulator

variable {sim : Simulator σ V} (again again' : Dispatch σ V)

/-! ## Expressions -/

section Observes

variable (h : sim.host.Observes)

include h

theorem evaluate_again : sim.evaluate again = sim.evaluate again' := by
  funext e bindings
  simp only [evaluate, h.evaluate_issue (issueInside again) (issueInside again')]

theorem evaluateAll_again (bindings : Bindings V) (es : List String) :
    sim.evaluateAll again bindings es = sim.evaluateAll again' bindings es := by
  induction es with
  | nil => rfl
  | cons e es ih => simp only [evaluateAll, ih, evaluate_again again again' h]

theorem argumentList_again : sim.argumentList again = sim.argumentList again' := by
  funext text bindings
  cases text <;> simp only [argumentList, evaluate_again again again' h]

theorem holds_again : sim.holds again = sim.holds again' := by
  funext bindings g
  simp only [holds, evaluate_again again again' h]

theorem evaluate_stays (e : String) (bindings : Bindings V) :
    (sim.evaluate again e bindings).Stays := by
  refine .bind (fun s => .refl s.context) fun s => ?_
  cases Screen.objection? e (sim.knownNames bindings s.host) with
  | some objection => exact .throw _
  | none => exact .tryCatch (h.evaluate_stays _ _ _) fun f => .throw _

theorem holds_stays (bindings : Bindings V) (g : Guard) : (sim.holds again bindings g).Stays := by
  rw [holds]
  split
  · exact .bind (evaluate_stays again h _ bindings) fun _ => .pure _
  · exact .pure true

end Observes

/-! ## Actions and states -/

section Aloof

variable (h : sim.host.Aloof)

include h

theorem argumentList_stays (text : Value) (bindings : Bindings V) :
    (sim.argumentList again text bindings).Stays := by
  cases text with
  | str t =>
    rw [argumentList]
    split
    · exact .pure []
    · exact .bind (evaluate_stays again h.observes _ bindings) fun v => h.stays (.spread v)
  | _ => exact .throw _

theorem perform_again : sim.perform again = sim.perform again' := by
  funext bindings a
  simp only [perform, evaluateAll_again again again' h.observes,
    h.call_issue (issueInside again) (issueInside again')]

theorem performAll_again (bindings : Bindings V) (as : List Action) :
    sim.performAll again bindings as = sim.performAll again' bindings as := by
  induction as with
  | nil => rfl
  | cons a as ih => simp only [performAll, ih, perform_again again again' h]

theorem performBlock_again : sim.performBlock again = sim.performBlock again' := by
  funext headline actions
  simp only [performBlock, performAll_again again again' h]

theorem enter_again : sim.enter again = sim.enter again' := by
  simp only [enter, performBlock_again again again' h]

theorem leave_again : sim.leave again = sim.leave again' := by
  simp only [leave, performBlock_again again again' h]

theorem commit_again : sim.commit again = sim.commit again' := by
  funext plan saved
  simp only [commit, enter_again again again' h]

theorem actAndCommit_again : sim.actAndCommit again = sim.actAndCommit again' := by
  funext plan actions bindings saved
  simp only [actAndCommit, performAll_again again again' h, commit_again again again' h]

end Aloof
end Simulator
end StateMachine
