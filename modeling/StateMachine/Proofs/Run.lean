import StateMachine.Simulate.Simulator

/-!
# Reasoning about runs

A step of a simulation is run from a simulation (`Run.on`): it comes to a
result or a fault, and leaves a simulation. This gives two ways to reason
about steps.

* *By equations*: what each operation of `Run` comes to (`on_bind` and those
  beside it).
* *By triples*: `Triple P x Q E` says that from every simulation satisfying `P`
  the step `x` either gives a result, in a simulation for which `Q` holds, or
  raises a fault, in a simulation for which `E` holds. A step *keeps* an
  invariant if it holds after a result and after a fault as well (`Keeps`).
-/

namespace StateMachine.Run

variable {σ V α β : Type}

/-- What a step comes to from a simulation, and the simulation it leaves. -/
def on (x : Run σ α) (s : Simulation σ) : Except Fault α × Simulation σ :=
  x.run.run s

/-! ## Equations -/

section Equations

variable {s s' : Simulation σ}

@[simp] theorem on_pure (a : α) : (pure a : Run σ α).on s = (.ok a, s) := rfl

@[simp] theorem on_throw (f : Fault) : (throw f : Run σ α).on s = (.error f, s) := rfl

@[simp] theorem on_get : (get : Run σ (Simulation σ)).on s = (.ok s, s) := rfl

/-- A step followed by another goes on with its result, if it has one. -/
theorem on_bind (x : Run σ α) (k : α → Run σ β) :
    (x >>= k).on s =
      match x.on s with
      | (.ok a, s') => (k a).on s'
      | (.error f, s') => (.error f, s') := by
  change (match x.on s with | (r, s') => (ExceptT.bindCont k r : StateM _ _) s') = _
  rcases x.on s with ⟨_ | _, _⟩ <;> rfl

theorem on_bind_ok {x : Run σ α} {k : α → Run σ β} {a : α} (h : x.on s = (.ok a, s')) :
    (x >>= k).on s = (k a).on s' := by
  rw [on_bind, h]

theorem on_bind_error {x : Run σ α} {k : α → Run σ β} {f : Fault} (h : x.on s = (.error f, s')) :
    (x >>= k).on s = (.error f, s') := by
  rw [on_bind, h]

/-- Steps one after the other give a result if each of them does. -/
theorem on_bind_eq_ok {x : Run σ α} {k : α → Run σ β} {b : β} :
    (x >>= k).on s = (.ok b, s') ↔ ∃ a s₁, x.on s = (.ok a, s₁) ∧ (k a).on s₁ = (.ok b, s') := by
  rw [on_bind]
  constructor
  · intro h
    rcases hx : x.on s with ⟨f | a, s₁⟩ <;> rw [hx] at h
    · cases h
    · exact ⟨a, s₁, rfl, h⟩
  · rintro ⟨a, s₁, hx, hk⟩
    rw [hx]
    exact hk

/-- The same for a step that is taken on a condition. -/
theorem on_ite_bind_eq_ok {c : Prop} [Decidable c] {x : Run σ Unit} {y : Run σ β} {b : β} :
    (if c then x >>= fun _ => y else y).on s = (.ok b, s') ↔
      ∃ s₁, (if c then x else pure ()).on s = (.ok (), s₁) ∧ y.on s₁ = (.ok b, s') := by
  split
  · rw [on_bind_eq_ok]
    constructor
    · rintro ⟨_, hboth⟩
      exact hboth
    · exact fun hboth => ⟨(), hboth⟩
  · constructor
    · exact fun hy => ⟨s, rfl, hy⟩
    · rintro ⟨_, hpure, hy⟩
      cases hpure
      exact hy

/-- A step that is seen to give a result. -/
theorem exists_ok {x : Run σ α} (h : (x.on s).1.isOk = true) :
    ∃ a, x.on s = (.ok a, (x.on s).2) := by
  rcases hx : x.on s with ⟨f | a, s'⟩
  · rw [hx] at h
    cases h
  · exact ⟨a, rfl⟩

/-- A step that is seen to raise a fault. -/
theorem exists_error {x : Run σ α} (h : (x.on s).1.isOk = false) :
    ∃ f, x.on s = (.error f, (x.on s).2) := by
  rcases hx : x.on s with ⟨f | a, s'⟩
  · exact ⟨f, rfl⟩
  · rw [hx] at h
    cases h

/-- A step guarded by another: its result counts unless the other raises a
    fault. -/
theorem on_ensure (x : Run σ α) (y : Run σ Unit) :
    (ensure x y).on s =
      match y.on (x.on s).2 with
      | (.ok (), s') => ((x.on s).1, s')
      | (.error f, s') => (.error f, s') := by
  have hx : StateT.run x.run s = x.on s := rfl
  have hy : StateT.run y.run (x.on s).2 = y.on (x.on s).2 := rfl
  rw [on, ensure, ExceptT.run_mk, StateT.run_bind, hx]
  change StateT.run (y.run >>= _) (x.on s).2 = _
  rw [StateT.run_bind, hy]
  rcases y.on (x.on s).2 with ⟨_ | _, _⟩ <;> rfl

/-- A guarded step gives a result if both steps do. -/
theorem on_ensure_eq_ok {x : Run σ α} {y : Run σ Unit} {a : α} :
    (ensure x y).on s = (.ok a, s') ↔ ∃ s₁, x.on s = (.ok a, s₁) ∧ y.on s₁ = (.ok (), s') := by
  rw [on_ensure]
  constructor
  · intro h
    rcases hy : y.on (x.on s).2 with ⟨f | ⟨⟩, s₂⟩ <;> rw [hy] at h
    · cases h
    · obtain ⟨hx, rfl⟩ := Prod.mk.inj h
      exact ⟨(x.on s).2, Prod.ext hx rfl, hy⟩
  · rintro ⟨s₁, hx, hy⟩
    rw [hx]
    dsimp only
    rw [hy]

theorem on_tryCatch (x : Run σ α) (k : Fault → Run σ α) :
    (tryCatch x k : Run σ α).on s =
      match x.on s with
      | (.ok a, s') => (.ok a, s')
      | (.error f, s') => (k f).on s' := by
  change Run.on (ExceptT.tryCatch x k) s = _
  rw [on, ExceptT.tryCatch, ExceptT.run_mk, StateT.run_bind]
  have hx : StateT.run x s = x.on s := rfl
  rw [hx]
  rcases x.on s with ⟨_ | _, _⟩ <;> rfl

@[simp] theorem on_report (line : String) :
    (report line).on s = (.ok (), { s with log := s.log ++ [line] }) := rfl

@[simp] theorem on_clearLog : (clearLog).on s = (.ok (), { s with log := [] }) := rfl

@[simp] theorem on_changeContext (f : Context String → Context String) :
    (changeContext f).on s = (.ok (), { s with context := f s.context }) := rfl

/-- The current state is known unless the context is in transition. -/
theorem on_current :
    (current).on s =
      match s.context.current with
      | some name => (.ok name, s)
      | none =>
        (.error (.context (.inTransition s.context.name.text s.context.transition.text)), s) := by
  change (lift (s.context.state.mapError .context) : Run σ String).on s = _
  unfold Context.state
  cases s.context.current <;> rfl

theorem on_current_of_some {name : String} (h : s.context.current = some name) :
    (current).on s = (.ok name, s) := by
  rw [on_current, h]

@[simp] theorem fit_none : (fit none : Run σ Unit) = pure () := rfl

@[simp] theorem fit_some (m : Mismatch) : (fit (some m) : Run σ Unit) = throw (.mismatch m) := rfl

/-- An attempt on the context takes effect; a change is then told to the
    listeners. -/
theorem on_attempt (host : Host σ V) (operation : Context String → Attempt String) :
    (attempt host operation).on s =
      match (operation s.context).result with
      | .error e => (.error (.context e), { s with
          context := (operation s.context).context
          trace := s.trace ++ (operation s.context).trace })
      | .ok none => (.ok (), { s with
          context := (operation s.context).context
          trace := s.trace ++ (operation s.context).trace })
      | .ok (some change) =>
        (notifyAll host change (operation s.context).context.listeners).on { s with
          context := (operation s.context).context
          trace := s.trace ++ (operation s.context).trace } := by
  unfold attempt
  rw [on_bind_ok on_get]
  change ((match (operation s.context).result with
    | .error e => throw (.context e)
    | .ok none => pure ()
    | .ok (some change) => notifyAll host change (operation s.context).context.listeners :
      Run σ Unit)).on _ = _
  rcases (operation s.context).result with e | _ | change <;> rfl

/-- An attempt that raises nothing succeeded. -/
theorem result_of_on_attempt {host : Host σ V} {operation : Context String → Attempt String}
    (h : (attempt host operation).on s = (.ok (), s')) :
    ∃ change, (operation s.context).result = .ok change := by
  rw [on_attempt] at h
  rcases hresult : (operation s.context).result with e | change
  · rw [hresult] at h
    cases h
  · exact ⟨change, rfl⟩

/-- An attempt that arrives at a state takes effect; the listeners are told unless
    the state was left for itself. -/
theorem on_attempt_arrive (host : Host σ V) {operation : Context String → Attempt String}
    {next : Option String} {stack trace : List String}
    (hop : operation s.context = s.context.arrive next stack trace) :
    (attempt host operation).on s =
      (if s.context.leaving == next then pure ()
        else notifyAll host ⟨s.context.leaving, next⟩ s.context.listeners : Run σ Unit).on { s with
          context := (s.context.arrive next stack trace).context
          trace := s.trace ++ trace } := by
  rw [on_attempt, hop]
  dsimp only [Context.arrive]
  cases s.context.leaving == next <;> rfl

end Equations

/-! ## Triples -/

/-- From every simulation satisfying `P` the step gives a result as `Q` says, or
    raises a fault as `E` says. -/
def Triple (P : Simulation σ → Prop) (x : Run σ α) (Q : α → Simulation σ → Prop)
    (E : Fault → Simulation σ → Prop) : Prop :=
  ∀ s, P s →
    match x.on s with
    | (.ok a, s') => Q a s'
    | (.error f, s') => E f s'

namespace Triple

variable {P P' : Simulation σ → Prop} {x : Run σ α} {Q Q' : α → Simulation σ → Prop}
  {E E' : Fault → Simulation σ → Prop}

theorem result (h : Triple P x Q E) {s s' : Simulation σ} {a : α} (hs : P s)
    (hx : x.on s = (.ok a, s')) : Q a s' := by
  have := h s hs
  rwa [hx] at this

theorem fault (h : Triple P x Q E) {s s' : Simulation σ} {f : Fault} (hs : P s)
    (hx : x.on s = (.error f, s')) : E f s' := by
  have := h s hs
  rwa [hx] at this

/-- What is promised of results and faults alike. -/
theorem after {R : Simulation σ → Prop} {F : Fault → Prop}
    (h : Triple P x (fun _ => R) fun f s => R s ∧ F f) {s : Simulation σ} (hs : P s) :
    R (x.on s).2 := by
  rcases hx : x.on s with ⟨f | a, s'⟩
  · exact (h.fault hs hx).1
  · exact h.result hs hx

/-- What a step comes to may be promised of results and faults alike. -/
theorem of_after {R : Simulation σ → Prop} (h : ∀ s, P s → R (x.on s).2) :
    Triple P x (fun _ => R) fun _ s => R s ∧ True := by
  intro s hs
  have hR := h s hs
  rcases hx : x.on s with ⟨f | a, s'⟩ <;> rw [hx] at hR
  · exact ⟨hR, trivial⟩
  · exact hR

/-- A triple may ask for more and promise less. -/
theorem weaken (h : Triple P x Q E) (hP : ∀ s, P' s → P s) (hQ : ∀ a s, Q a s → Q' a s)
    (hE : ∀ f s, E f s → E' f s) : Triple P' x Q' E' := by
  intro s hs
  have := h s (hP s hs)
  rcases hx : x.on s with ⟨f | a, s'⟩ <;> rw [hx] at this
  · exact hE f s' this
  · exact hQ a s' this

/-- A triple may ask for more. -/
theorem pre (h : Triple P x Q E) (hP : ∀ s, P' s → P s) : Triple P' x Q E :=
  fun s hs => h s (hP s hs)

/-- Every step comes to something. -/
theorem any : Triple P x (fun _ _ => True) (fun _ _ => True) := by
  intro s _
  split <;> trivial

/-- Nothing may be promised of faults. -/
theorem forget (h : Triple P x Q E) : Triple P x Q fun _ _ => True :=
  h.weaken (fun _ hs => hs) (fun _ _ hs => hs) fun _ _ _ => trivial

/-- What is true of no simulation in particular stays true. -/
theorem frame {p : Prop} (h : Triple P x Q E) :
    Triple (fun s => P s ∧ p) x (fun a s => Q a s ∧ p) E := by
  intro s hs
  rcases hx : x.on s with ⟨f | a, s'⟩
  · exact h.fault hs.1 hx
  · exact ⟨h.result hs.1 hx, hs.2⟩

theorem pure {a : α} (h : ∀ s, P s → Q a s) : Triple P (Pure.pure a) Q E :=
  h

theorem throw {f : Fault} (h : ∀ s, P s → E f s) : Triple P (MonadExcept.throw f : Run σ α) Q E :=
  h

/-- The rule of steps one after the other. -/
theorem bind {R : α → Simulation σ → Prop} {k : α → Run σ β} {Q : β → Simulation σ → Prop}
    (hx : Triple P x R E) (hk : ∀ a, Triple (R a) (k a) Q E) : Triple P (x >>= k) Q E := by
  intro s hs
  rcases h : x.on s with ⟨f | a, s'⟩
  · rw [on_bind_error h]
    exact hx.fault hs h
  · rw [on_bind_ok h]
    exact hk a s' (hx.result hs h)

theorem ite {c : Prop} [Decidable c] {y : Run σ α} (hx : c → Triple P x Q E)
    (hy : ¬c → Triple P y Q E) : Triple P (if c then x else y) Q E := by
  split
  · exact hx ‹_›
  · exact hy ‹_›

/-- The rule of a step with another that is run whatever it came to. -/
theorem ensure {y : Run σ Unit} {R : α → Simulation σ → Prop} {F : Fault → Simulation σ → Prop}
    (hx : Triple P x R F) (hok : ∀ a, Triple (R a) y (fun _ => Q a) E)
    (herror : ∀ f, Triple (F f) y (fun _ => E f) E) : Triple P (ensure x y) Q E := by
  intro s hs
  rw [on_ensure]
  -- `y` runs from where `x` ended, and its own fault counts first
  rcases h : x.on s with ⟨f | a, s'⟩
  · have := herror f s' (hx.fault hs h)
    rcases hy : y.on s' with ⟨g | ⟨⟩, s''⟩ <;> rw [hy] at this <;> exact this
  · have := hok a s' (hx.result hs h)
    rcases hy : y.on s' with ⟨g | ⟨⟩, s''⟩ <;> rw [hy] at this <;> exact this

end Triple

/-- The step keeps what is true of the context, and raises only faults for which
    `E` holds. -/
def Keeps (C : Context String → Prop) (E : Fault → Prop) (x : Run σ α) : Prop :=
  Triple (fun s => C s.context) x (fun _ s => C s.context) (fun f s => C s.context ∧ E f)

namespace Keeps

variable {C : Context String → Prop} {E : Fault → Prop} {x : Run σ α}

theorem pure (a : α) : Keeps C E (Pure.pure a : Run σ α) :=
  Triple.pure fun _ h => h

theorem throw {f : Fault} (h : E f) : Keeps C E (MonadExcept.throw f : Run σ α) :=
  Triple.throw fun _ hs => ⟨hs, h⟩

theorem bind {k : α → Run σ β} (hx : Keeps C E x) (hk : ∀ a, Keeps C E (k a)) :
    Keeps C E (x >>= k) :=
  Triple.bind hx hk

theorem ensure {y : Run σ Unit} (hx : Keeps C E x) (hy : Keeps C E y) :
    Keeps C E (Run.ensure x y) :=
  Triple.ensure hx (fun _ => hy) fun _ => hy.frame

theorem ite {c : Prop} [Decidable c] {y : Run σ α} (hx : c → Keeps C E x)
    (hy : ¬c → Keeps C E y) : Keeps C E (if c then x else y) :=
  Triple.ite hx hy

theorem get : Keeps C E (MonadState.get : Run σ (Simulation σ)) :=
  fun _ hs => hs

/-- A fault that is caught does not matter. -/
theorem tryCatch {F : Fault → Prop} {k : Fault → Run σ α} (hx : Keeps C F x)
    (hk : ∀ f, Keeps C E (k f)) : Keeps C E (MonadExcept.tryCatch x k : Run σ α) := by
  intro s hs
  rw [on_tryCatch]
  rcases h : x.on s with ⟨f | a, s'⟩
  · exact hk f s' (hx.fault hs h).1
  · exact hx.result hs h

theorem report (line : String) : Keeps C E (Run.report line : Run σ Unit) :=
  fun _ hs => hs

theorem changeContext {g : Context String → Context String} (h : ∀ c, C c → C (g c)) :
    Keeps C E (Run.changeContext g : Run σ Unit) :=
  fun s hs => h s.context hs

/-- The rule of a search, and of what is done about its outcome. -/
theorem findM?_bind {ask : α → Run σ Bool} {xs : List α} {k : Option α → Run σ β}
    (hask : ∀ x ∈ xs, Keeps C E (ask x)) (hsome : ∀ x ∈ xs, Keeps C E (k (some x)))
    (hnone : Keeps C E (k none)) : Keeps C E (xs.findM? ask >>= k) := by
  induction xs with
  | nil => simpa using hnone
  | cons x xs ih =>
    obtain ⟨hax, haxs⟩ := List.forall_mem_cons.1 hask
    obtain ⟨hx, hxs⟩ := List.forall_mem_cons.1 hsome
    rw [List.findM?, bind_assoc]
    refine bind hax fun b => ?_
    cases b with
    | false => exact ih haxs hxs
    | true =>
      rw [pure_bind]
      exact hx

theorem findSomeM? {f : α → Run σ (Option β)} {xs : List α} (hf : ∀ x, Keeps C E (f x)) :
    Keeps C E (xs.findSomeM? f) := by
  induction xs with
  | nil => exact pure none
  | cons x xs ih =>
    refine bind (hf x) fun r => ?_
    cases r with
    | none => exact ih
    | some y => exact pure (some y)

theorem fit {m : Option Mismatch} (h : ∀ m, E (.mismatch m)) :
    Keeps C E (Run.fit m : Run σ Unit) := by
  cases m with
  | none => exact pure ()
  | some m => exact throw (h m)

end Keeps
end StateMachine.Run
