import StateMachine.Proofs.Stranded

/-!
# What a listener hears

The changes that a listener is told of form a *chain*: the first begins in the
state in which the listener was added, each begins where the one before ended,
and none ends where it begins (`Change.Chain`). The chain ends in the current
state or, in transition, in the one before. So the listener always knows where
the machine is (`Listener.HearsChain`).

This is true whatever the guards do and the actions raise, and also if
expressions and actions issue transitions themselves (`Run.Issuing`). They may
handle the faults of these, but not as if nothing had happened when the state is
lost (`Run.Recovers`). The listeners must neither raise faults nor act on the
machine (`Host.Tells`).

* The invariant is that the listener has heard a chain of changes which ends
  where the machine is, or where it was before (`Listener.Follows`).
* A step *tracks* the machine if it keeps the invariant, ends in a state if it
  starts in one and raises nothing, and stays in transition if it starts there
  (`Listener.Tracks`). Everything but taking a guard does.
* Taking a guard leaves the state, if it has actions, only after the actions on
  exit, and so keeps the invariant too (`dispatch_tracks`).

None of the conditions on the host can be left out: the listener is misled by
another one that issues a transition (`prompt_aide_misleads`), by an action that
makes light of a fault (`reckless_clerk_misleads`), and by leaving early
(`parting_listener_is_left_behind`).
-/

namespace StateMachine

variable {σ V α β : Type}

/-- The state that is cleared is the one before. -/
theorem Context.leaving_clear {c : Context String} (h : c.current ≠ none) :
    c.clear.leaving = c.leaving := by
  obtain ⟨state, hstate⟩ := Option.ne_none_iff_exists'.1 h
  rw [leaving, leaving, clear, hstate]
  rfl

/-- Changes one after the other, from the state `start` on. -/
inductive Change.Chain (start : String) : List (Change String) → String → Prop
  | nil : Chain start [] start
  | snoc {changes : List (Change String)} {here there : String} : Chain start changes here →
    here ≠ there → Chain start (changes ++ [⟨some here, some there⟩]) there

/-- What a listener can tell of a change: the state before and the next one. -/
def Change.ends (change : Change String) : Option String × Option String :=
  (change.previous, change.next)

/-- Do changes with these ends form a chain between the two states? -/
def Change.isChain (start last : String) : List (Option String × Option String) → Bool
  | [] => start == last
  | (some here, some there) :: rest => here == start && here != there && isChain there last rest
  | _ :: _ => false

theorem Change.isChain_concat {start here there : String}
    {ends : List (Option String × Option String)} (h : isChain start here ends = true)
    (hne : here ≠ there) : isChain start there (ends ++ [(some here, some there)]) = true := by
  induction ends generalizing start with
  | nil =>
    obtain rfl : start = here := by simpa [isChain] using h
    simp [isChain, hne]
  | cons e ends ih =>
    obtain ⟨_ | p, _ | n⟩ := e
    · cases h
    · cases h
    · cases h
    · simp only [isChain, Bool.and_eq_true] at h
      simp only [List.cons_append, isChain, Bool.and_eq_true]
      exact ⟨h.1, ih h.2⟩

theorem Change.Chain.isChain {start last : String} {changes : List (Change String)}
    (h : Chain start changes last) : Change.isChain start last (changes.map Change.ends) = true := by
  induction h with
  | nil => exact beq_self_eq_true _
  | snoc _ hne ih =>
    rw [List.map_append]
    exact isChain_concat ih hne

/-- A listener, with the changes of which the host remembers that it was told. -/
structure Listener (σ : Type) where
  id : String
  heard : σ → List (Change String)

namespace Listener

variable (l : Listener σ)

/-- What happens does not concern the listener: the machine is where it was, and
    nothing is heard. -/
structure Misses (s s' : Simulation σ) : Prop where
  current : s'.context.current = s.context.current
  previous : s'.context.previous = s.context.previous
  registered : s'.context.listeners.count l.id = s.context.listeners.count l.id
  heard : l.heard s'.host = l.heard s.host

/-- Since it was added in the state `start`, and had heard of the changes `before`, the
    listener has heard a chain of changes. It ends where the machine is or, in
    transition, where it was. -/
structure Follows (before : List (Change String)) (start : String) (s : Simulation σ) : Prop where
  registered : s.context.listeners.count l.id = 1
  heard : ∃ changes here, l.heard s.host = before ++ changes ∧ Change.Chain start changes here ∧
    s.context.leaving = some here

/-- From the state `start` on, the listener has heard a chain of changes since `s`. It ends
    in the current state or, in transition, in the one before. -/
def HearsChain (start : String) (s s' : Simulation σ) : Prop :=
  ∃ changes last, l.heard s'.host = l.heard s.host ++ changes ∧ Change.Chain start changes last ∧
    (s'.context.current = some last ∨
      s'.context.current = none ∧ s'.context.previous = some last)

variable {l} {before : List (Change String)} {start : String} {s s' : Simulation σ}

/-- All that a listener has heard is a chain, if it had heard nothing at the start. -/
theorem HearsChain.isChain (h : l.HearsChain start s s') (hs : l.heard s.host = []) {state : String}
    (hcurrent : s'.context.current = some state) :
    Change.isChain start state ((l.heard s'.host).map Change.ends) = true := by
  obtain ⟨changes, last, hchanges, hchain, hlast⟩ := h
  rw [hcurrent] at hlast
  rcases hlast with hlast | ⟨hnone, -⟩
  · rw [hchanges, hs, Option.some.inj hlast]
    exact hchain.isChain
  · cases hnone

theorem Follows.of_misses (h : l.Follows before start s) (hmisses : l.Misses s s') :
    l.Follows before start s' := by
  obtain ⟨hregistered, changes, here, hheard, hchain, hhere⟩ := h
  refine ⟨hmisses.registered.trans hregistered, changes, here, hmisses.heard.trans hheard, hchain, ?_⟩
  rw [← hhere, Context.leaving, Context.leaving, hmisses.current, hmisses.previous]

/-- The machine is in a state. -/
def Settled (l : Listener σ) (before : List (Change String)) (start : String) (s : Simulation σ) :
    Prop :=
  l.Follows before start s ∧ s.context.current ≠ none

/-- The machine is in transition. -/
def Moving (l : Listener σ) (before : List (Change String)) (start : String) (s : Simulation σ) :
    Prop :=
  l.Follows before start s ∧ s.context.current = none

/-- From every simulation satisfying `P` the step ends in a state, or raises a fault;
    the listener follows. -/
abbrev Settles (l : Listener σ) (before : List (Change String)) (start : String)
    (P : Simulation σ → Prop) (x : Run σ α) : Prop :=
  Run.Triple P x (fun _ => l.Settled before start) fun _ => l.Follows before start

/-- The step keeps to what the listener knows. -/
structure Tracks (l : Listener σ) (before : List (Change String)) (start : String) (x : Run σ α) :
    Prop where
  settled : l.Settles before start (l.Settled before start) x
  moving : Run.Triple (l.Moving before start) x (fun _ => l.Moving before start)
    fun _ => l.Moving before start

end Listener

/-! ## Hosts -/

namespace Run

/-- The step does not concern the listener. -/
def Quiet (l : Listener σ) (x : Run σ α) : Prop :=
  ∀ s, l.Misses s (x.on s).2

/-- A fault of the step is handled only if the machine is in a state then, or was in
    transition all along. -/
def Recovers (x : Run σ α) (k : Fault → Run σ α) : Prop :=
  ∀ s f s₁ a s₂, s.context.current ≠ none → x.on s = (.error f, s₁) →
    (k f).on s₁ = (.ok a, s₂) → s₂.context.current ≠ none

/-- A step made up of steps that do not concern the listener and of transitions that
    are issued. -/
inductive Issuing (l : Listener σ) (issue : Issue σ V) : {α : Type} → Run σ α → Prop
  | quiet {α : Type} {x : Run σ α} : x.Quiet l → Issuing l issue x
  | issue (name : Value) (args : List V) : Issuing l issue (issue name args)
  | bind {α β : Type} {x : Run σ α} {k : α → Run σ β} : Issuing l issue x →
    (∀ a, Issuing l issue (k a)) → Issuing l issue (x >>= k)
  | handle {α : Type} {x : Run σ α} {k : Fault → Run σ α} : Issuing l issue x →
    (∀ f, Issuing l issue (k f)) → x.Recovers k → Issuing l issue (tryCatch x k)

end Run

/-- The listener hears the changes it is told of, and nothing else. Expressions and
    actions may issue transitions; listeners do not, and raise no faults. -/
structure Host.Tells (h : Host σ V) (l : Listener σ) : Prop where
  evaluate : ∀ issue e b, Run.Issuing l issue (h.evaluate issue e b)
  call : ∀ issue f args, Run.Issuing l issue (h.call issue f args)
  spread : ∀ v, (h.spread v).Quiet l
  assign : ∀ static name v, (h.assign static name v).Quiet l
  member : ∀ static name, (h.member static name).Quiet l
  notify : ∀ id change s, ∃ s', (h.notify id change).on s = (.ok (), s') ∧
    s'.context.current = s.context.current ∧ s'.context.previous = s.context.previous ∧
    s'.context.listeners.count l.id = s.context.listeners.count l.id ∧
    l.heard s'.host = l.heard s.host ++ if id = l.id then [change] else []

/-- A step that does not concern the listener keeps the invariant. -/
theorem Run.Quiet.follows {l : Listener σ} {x : Run σ α} (hx : x.Quiet l)
    {before : List (Change String)} {start : String} :
    Run.Triple (l.Follows before start) x (fun _ => l.Follows before start)
      fun _ => l.Follows before start := by
  intro s hs
  have hs' := hs.of_misses (hx s)
  rcases he : x.on s with ⟨f | a, s'⟩ <;> rw [he] at hs' <;> exact hs'

/-! ## Steps that track -/

namespace Listener.Tracks

variable {l : Listener σ} {before : List (Change String)} {start : String} {x : Run σ α}

theorem quiet (hx : x.Quiet l) : l.Tracks before start x where
  settled := by
    intro s hs
    have hmisses := hx s
    rcases he : x.on s with ⟨f | a, s'⟩ <;> rw [he] at hmisses
    · exact hs.1.of_misses hmisses
    · exact ⟨hs.1.of_misses hmisses, hmisses.current ▸ hs.2⟩
  moving := by
    intro s hs
    have hmisses := hx s
    have hs' : l.Moving before start (x.on s).2 :=
      ⟨hs.1.of_misses hmisses, hmisses.current.trans hs.2⟩
    rcases he : x.on s with ⟨f | a, s'⟩ <;> rw [he] at hs' <;> exact hs'

theorem pure (a : α) : l.Tracks before start (Pure.pure a : Run σ α) :=
  quiet fun _ => ⟨rfl, rfl, rfl, rfl⟩

theorem throw (f : Fault) : l.Tracks before start (MonadExcept.throw f : Run σ α) :=
  quiet fun _ => ⟨rfl, rfl, rfl, rfl⟩

theorem bind {k : α → Run σ β} (hx : l.Tracks before start x)
    (hk : ∀ a, l.Tracks before start (k a)) : l.Tracks before start (x >>= k) where
  settled := .bind hx.settled fun a => (hk a).settled
  moving := .bind hx.moving fun a => (hk a).moving

theorem ite {c : Prop} [Decidable c] {y : Run σ α} (hx : c → l.Tracks before start x)
    (hy : ¬c → l.Tracks before start y) : l.Tracks before start (if c then x else y) := by
  split
  · exact hx ‹_›
  · exact hy ‹_›

/-- A fault may be handled, if the state is not lost. -/
theorem handle {k : Fault → Run σ α} (hx : l.Tracks before start x)
    (hk : ∀ f, l.Tracks before start (k f)) (hrecovers : x.Recovers k) :
    l.Tracks before start (tryCatch x k : Run σ α) where
  settled := by
    intro s hs
    rw [Run.on_tryCatch]
    rcases he : x.on s with ⟨f | a, s₁⟩
    · have hs₁ := hx.settled.fault hs he
      by_cases hcurrent : s₁.context.current = none
      · -- the fault has left the machine in transition, and so it is not recovered from
        have hs₂ := (hk f).moving s₁ ⟨hs₁, hcurrent⟩
        dsimp only
        rcases hf : (k f).on s₁ with ⟨f' | a, s₂⟩ <;> rw [hf] at hs₂
        · exact hs₂.1
        · exact absurd hs₂.2 (hrecovers s f s₁ a s₂ hs.2 he hf)
      · exact (hk f).settled s₁ ⟨hs₁, hcurrent⟩
    · exact hx.settled.result hs he
  moving := by
    intro s hs
    rw [Run.on_tryCatch]
    rcases he : x.on s with ⟨f | a, s₁⟩
    · exact (hk f).moving s₁ (hx.moving.fault hs he)
    · exact hx.moving.result hs he

theorem report (line : String) : l.Tracks before start (Run.report line : Run σ Unit) :=
  quiet fun _ => ⟨rfl, rfl, rfl, rfl⟩

theorem get : l.Tracks before start (MonadState.get : Run σ (Simulation σ)) :=
  quiet fun _ => ⟨rfl, rfl, rfl, rfl⟩

theorem fit (m : Option Mismatch) : l.Tracks before start (Run.fit m : Run σ Unit) := by
  cases m with
  | none => exact pure ()
  | some m => exact throw _

/-- The current state is looked up. -/
theorem current : l.Tracks before start (Run.current : Run σ String) := by
  refine quiet fun s => ?_
  rw [Run.on_current]
  cases s.context.current <;> exact ⟨rfl, rfl, rfl, rfl⟩

theorem findM? {ask : α → Run σ Bool} {xs : List α} (hask : ∀ x, l.Tracks before start (ask x)) :
    l.Tracks before start (xs.findM? ask) := by
  induction xs with
  | nil => exact pure none
  | cons x xs ih =>
    refine bind (hask x) fun b => ?_
    cases b with
    | true => exact pure (some x)
    | false => exact ih

theorem findSomeM? {f : α → Run σ (Option β)} {xs : List α}
    (hf : ∀ x, l.Tracks before start (f x)) : l.Tracks before start (xs.findSomeM? f) := by
  induction xs with
  | nil => exact pure none
  | cons x xs ih =>
    refine bind (hf x) fun r => ?_
    cases r with
    | none => exact ih
    | some y => exact pure (some y)

/-- Whatever the step comes to, the listener follows. -/
theorem after (hx : l.Tracks before start x) {s : Simulation σ} (hs : l.Follows before start s) :
    l.Follows before start (x.on s).2 := by
  by_cases hcurrent : s.context.current = none
  · have hmoving : l.Moving before start s := ⟨hs, hcurrent⟩
    rcases he : x.on s with ⟨f | a, s'⟩
    · exact (hx.moving.fault hmoving he).1
    · exact (hx.moving.result hmoving he).1
  · have hsettled : l.Settled before start s := ⟨hs, hcurrent⟩
    rcases he : x.on s with ⟨f | a, s'⟩
    · exact hx.settled.fault hsettled he
    · exact (hx.settled.result hsettled he).1

/-- What a host does that issues transitions. -/
theorem of_issuing {issue : Issue σ V} (hissue : ∀ name args, l.Tracks before start (issue name args))
    (hx : Run.Issuing l issue x) : l.Tracks before start x := by
  induction hx with
  | quiet hx => exact quiet hx
  | issue name args => exact hissue name args
  | bind _ _ ihx ihk => exact bind ihx ihk
  | handle _ _ hrecovers ihx ihk => exact handle ihx ihk hrecovers

end Listener.Tracks

namespace Simulator

variable {sim : Simulator σ V} {l : Listener σ} (h : sim.host.Tells l)
  {before : List (Change String)} {start : String} {again : Dispatch σ V}

/-! ## Changes of state -/

section Commits

include h

/-- Listeners that are told of a change leave the machine where it is. -/
theorem notifyAll_tells (change : Change String) (ids : List String) (s : Simulation σ) :
    ∃ s', (Run.notifyAll sim.host change ids).on s = (.ok (), s') ∧
      s'.context.current = s.context.current ∧ s'.context.previous = s.context.previous ∧
      s'.context.listeners.count l.id = s.context.listeners.count l.id ∧
      l.heard s'.host = l.heard s.host ++ List.replicate (ids.count l.id) change := by
  induction ids generalizing s with
  | nil => exact ⟨s, rfl, rfl, rfl, rfl, by simp⟩
  | cons id ids ih =>
    obtain ⟨s₁, hid, hcurrent, hprevious, hcount, hheard⟩ := h.notify id change s
    obtain ⟨s₂, hids, hcurrent', hprevious', hcount', hheard'⟩ := ih s₁
    refine ⟨s₂, ?_, hcurrent'.trans hcurrent, hprevious'.trans hprevious, hcount'.trans hcount, ?_⟩
    · rw [Run.notifyAll, Run.on_bind_ok hid, hids]
    · rw [hheard', hheard, List.count_cons]
      by_cases hsame : id = l.id <;> simp [hsame, List.replicate_succ]

/-- A state that is arrived at is one that the listener knows. -/
theorem attempt_arrive_settled {operation : Context String → Attempt String} {s : Simulation σ}
    {next : String} {stack trace : List String}
    (hop : operation s.context = s.context.arrive (some next) stack trace)
    (hs : l.Follows before start s) :
    ∃ s', (Run.attempt sim.host operation).on s = (.ok (), s') ∧ l.Settled before start s' := by
  obtain ⟨hregistered, changes, here, hheard, hchain, hhere⟩ := hs
  rw [Run.on_attempt_arrive sim.host hop, hhere]
  by_cases hsame : here = next
  · -- the state was left for itself, and nobody is told
    subst hsame
    rw [if_pos (by simp)]
    exact ⟨_, rfl, ⟨hregistered, changes, here, hheard, hchain, rfl⟩, by simp [Context.arrive]⟩
  · rw [if_neg (by simpa using hsame)]
    obtain ⟨s', hnotify, hcurrent, -, hcount, hheard'⟩ := notifyAll_tells h ⟨some here, some next⟩
      s.context.listeners { s with
        context := (s.context.arrive (some next) stack trace).context
        trace := s.trace ++ trace }
    have hcurrent : s'.context.current = some next := hcurrent
    refine ⟨s', hnotify, ⟨hcount.trans hregistered, changes ++ [⟨some here, some next⟩], next, ?_,
      hchain.snoc hsame, ?_⟩, by rw [hcurrent]; exact Option.some_ne_none _⟩
    · have hheard : l.heard s.host = before ++ changes := hheard
      rw [hheard', hregistered, List.replicate_one]
      simp [hheard]
    · rw [Context.leaving, hcurrent]
      rfl

/-- An attempt that fails leaves the machine where it is, and one that does not ends in
    a state. -/
theorem attempt_settles {operation : Context String → Attempt String}
    (hop : ∀ c : Context String, (∃ e trace, operation c = c.failed e trace) ∨
      ∃ next stack trace, operation c = c.arrive (some next) stack trace) :
    l.Settles before start (l.Follows before start) (Run.attempt sim.host operation) := by
  intro s hs
  rcases hop s.context with ⟨e, trace, hfailed⟩ | ⟨next, stack, trace, harrive⟩
  · rw [Run.on_attempt, hfailed]
    exact hs.of_misses ⟨rfl, rfl, rfl, rfl⟩
  · obtain ⟨s', hattempt, hs'⟩ := attempt_arrive_settled h harrive hs
    rw [hattempt]
    exact hs'

theorem set_settles (next : String) :
    l.Settles before start (l.Follows before start)
      (Run.attempt sim.host fun c => c.set (some next)) :=
  attempt_settles h fun c =>
    have ⟨trace, hset⟩ := c.set_some next
    .inr ⟨next, c.stack, trace, hset⟩

theorem push_settles (next : String) :
    l.Settles before start (l.Follows before start)
      (Run.attempt sim.host fun c => c.push (some next)) := by
  refine attempt_settles h fun c => ?_
  rw [Context.push]
  cases c.current with
  | none => exact .inl ⟨_, _, rfl⟩
  | some here =>
    rcases c.isFull with e | _ | _
    · exact .inl ⟨_, _, rfl⟩
    · exact .inr ⟨next, _, _, by simp; rfl⟩
    · exact .inl ⟨_, _, rfl⟩

theorem pop_settles :
    l.Settles before start (l.Follows before start) (Run.attempt sim.host Context.pop) := by
  refine attempt_settles h fun c => ?_
  rw [Context.pop]
  cases c.stack with
  | nil => exact .inl ⟨_, _, rfl⟩
  | cons top rest => exact .inr ⟨top, rest, _, rfl⟩

end Commits

/-! ## Expressions and actions -/

section Steps

variable (hagain : ∀ name args, l.Tracks before start (again name args))

include hagain in
theorem issueBy_tracks (name : Value) (args : List V) :
    l.Tracks before start (issueBy again name args) := by
  have hlog : l.Tracks before start (Run.clearLog : Run σ Unit) :=
    .quiet fun _ => ⟨rfl, rfl, rfl, rfl⟩
  refine .bind hlog fun _ => .bind (hagain name args) fun _ => ?_
  exact .bind (.bind .get fun _ => .pure _) fun _ =>
    .bind (.bind .get fun _ => .bind hlog fun _ => .pure _) fun _ => .pure _

include hagain in
theorem issueInside_tracks (name : Value) (args : List V) :
    l.Tracks before start (issueInside again name args) :=
  .bind (issueBy_tracks hagain name args) fun _ => .pure _

include h hagain

theorem evaluate_tracks (e : String) (bindings : Bindings V) :
    l.Tracks before start (sim.evaluate again e bindings) := by
  refine .bind .get fun s => ?_
  cases Screen.objection? e (sim.knownNames bindings s.host) with
  | some objection => exact .throw _
  | none =>
    refine .handle (.of_issuing (issueInside_tracks hagain) (h.evaluate _ _ _))
      (fun _ => .throw _) fun s f s₁ a s₂ _ _ hthrow => ?_
    cases hthrow

theorem evaluateAll_tracks (bindings : Bindings V) (es : List String) :
    l.Tracks before start (sim.evaluateAll again bindings es) := by
  induction es with
  | nil => exact .pure []
  | cons e es ih =>
    exact .bind (evaluate_tracks h hagain e bindings) fun v => .bind ih fun vs => .pure _

theorem argumentList_tracks (text : Value) (bindings : Bindings V) :
    l.Tracks before start (sim.argumentList again text bindings) := by
  cases text with
  | str t =>
    rw [argumentList]
    refine .ite (fun _ => .pure []) fun _ => ?_
    exact .bind (evaluate_tracks h hagain _ bindings) fun v => .quiet (h.spread v)
  | _ => exact .throw _

theorem holds_tracks (bindings : Bindings V) (g : Guard) :
    l.Tracks before start (sim.holds again bindings g) := by
  rw [holds]
  refine .ite (fun _ => ?_) fun _ => .pure true
  exact .bind (evaluate_tracks h hagain _ bindings) fun v => .pure _

theorem perform_tracks (bindings : Bindings V) (a : Action) :
    l.Tracks before start (sim.perform again bindings a) := by
  refine .bind (.report _) fun _ => .ite (fun _ => .quiet fun _ => ⟨rfl, rfl, rfl, rfl⟩) fun _ => ?_
  refine .bind (evaluateAll_tracks h hagain bindings _) fun values => .ite (fun _ => ?_) fun _ => ?_
  · cases values with
    | nil => exact .throw _
    | cons v vs => exact .quiet (h.assign _ _ _)
  · refine .bind (.quiet (h.member _ _)) fun f => ?_
    cases f with
    | some f => exact .of_issuing (issueInside_tracks hagain) (h.call _ _ _)
    | none => exact .ite (fun _ => .throw _) fun _ => .throw _

theorem performAll_tracks (bindings : Bindings V) (as : List Action) :
    l.Tracks before start (sim.performAll again bindings as) := by
  induction as with
  | nil => exact .pure ()
  | cons a as ih => exact .bind (perform_tracks h hagain bindings a) fun _ => ih

omit h hagain in
theorem place_quiet (name : String) : (sim.place name : Run σ Place).Quiet l := by
  intro s
  rw [place]
  cases sim.machine.stateNamed? name <;> exact ⟨rfl, rfl, rfl, rfl⟩

theorem performBlock_tracks (headline : String) (actions : List Action) :
    l.Tracks before start (sim.performBlock again headline actions) :=
  .ite (fun _ => .pure ()) fun _ =>
    .bind (.report _) fun _ => performAll_tracks h hagain [] actions

theorem enter_tracks : l.Tracks before start (sim.enter again) :=
  .bind .current fun _ => .bind (.quiet (place_quiet _)) fun _ => performBlock_tracks h hagain _ _

theorem leave_tracks : l.Tracks before start (sim.leave again) :=
  .bind .current fun _ => .bind (.quiet (place_quiet _)) fun _ => performBlock_tracks h hagain _ _

/-! ## Guards -/

omit h hagain in
theorem target_quiet (name : Value) : (sim.target name : Run σ String).Quiet l := by
  intro s
  cases name with
  | str scopedName =>
    rw [target, place]
    cases sim.machine.stateNamed? scopedName <;> exact ⟨rfl, rfl, rfl, rfl⟩
  | _ => exact ⟨rfl, rfl, rfl, rfl⟩

omit hagain in
/-- Setting the destination ends in a state. -/
theorem setDestination_settles (plan : Plan) (saved : Option String) :
    l.Settles before start (l.Follows before start) (sim.setDestination plan saved) := by
  cases saved with
  | some name => exact set_settles h name
  | none => exact .bind (target_quiet _).follows fun name => set_settles h name

/-- Committing the next state of a guard ends in a state. Only a guard with actions
    has left the state before. -/
theorem commit_settles (g : Guard) (mapName : String) (saved : Option String) :
    l.Settles before start
      (fun s => l.Follows before start s ∧ (g.hasActions = false → s.context.current ≠ none))
      (sim.commit again (g.plan mapName) saved) := by
  have henter := (enter_tracks h hagain).settled
  have hnew : l.Settles before start (l.Settled before start)
      (if (g.plan mapName).entersNew then sim.enter again else pure () : Run σ Unit) :=
    .ite (fun _ => henter) fun _ => (Listener.Tracks.pure ()).settled
  have hpush : l.Settles before start (l.Settled before start) (do
      let name ← sim.target (g.plan mapName).pushState
      Run.attempt sim.host fun c => c.push (some name)
      if (g.plan mapName).entersNew then sim.enter again) :=
    .bind (Listener.Tracks.quiet (target_quiet _)).settled fun name =>
      .bind ((push_settles h name).pre fun _ hs => hs.1) fun _ => hnew
  have hrest : l.Settles before start (l.Settled before start) (do
      if (g.plan mapName).entersBeforePush then sim.enter again
      let name ← sim.target (g.plan mapName).pushState
      Run.attempt sim.host fun c => c.push (some name)
      if (g.plan mapName).entersNew then sim.enter again) :=
    .ite (fun _ => .bind henter fun _ => hpush) fun _ => hpush
  have hset := (setDestination_settles h (g.plan mapName) saved).pre fun (s : Simulation σ)
    (hs : l.Follows before start s ∧ (g.hasActions = false → s.context.current ≠ none)) => hs.1
  rw [commit]
  refine .ite (fun _ => .bind hset fun _ => hnew) fun hsets => .ite (fun hpushes => ?_)
    fun hpushes => .ite (fun _ => ?_) fun hpops => ?_
  · refine .ite (fun _ => .bind hset fun _ => hrest) fun hsets => hrest.pre fun s hs => ?_
    exact ⟨hs.1, hs.2 (by simp_all [Guard.plan])⟩
  · exact .bind ((pop_settles h).pre fun _ hs => hs.1) fun _ => hnew
  · refine hnew.pre fun s hs => ⟨hs.1, hs.2 ?_⟩
    cases hmove : g.move <;> simp_all [Guard.plan]

/-- Acting and committing end in a state. -/
theorem actAndCommit_settles (x : Choice) (bindings : Bindings V) (saved : Option String) :
    l.Settles before start
      (if x.guard.hasActions then l.Moving before start else l.Settled before start)
      (sim.actAndCommit again x.plan x.guard.actions bindings saved) := by
  have hperform := performAll_tracks h hagain bindings x.guard.actions
  have hcommit := commit_settles h hagain x.guard x.candidate.placed.place.map.name.text saved
  have hplan : x.plan.hasActions = x.guard.hasActions := rfl
  rw [actAndCommit, hplan]
  cases hacts : x.guard.hasActions with
  | true =>
    -- in transition the actions change nothing the listener knows
    have hcommit : l.Settles before start (l.Moving before start) (sim.commit again x.plan saved) :=
      hcommit.pre fun s hs => ⟨hs.1, fun hacts' => by rw [hacts] at hacts'; cases hacts'⟩
    refine .ite (fun _ => .ensure hperform.moving (fun _ => hcommit) fun f => ?_) fun _ => ?_
    · exact hcommit.weaken (fun _ hs => hs) (fun _ _ hs => hs.1) fun _ _ hs => hs
    · exact .bind (hperform.moving.weaken (fun _ hs => hs) (fun _ _ hs => hs) fun _ _ hs => hs.1)
        fun _ => hcommit
  | false =>
    exact .bind hperform.settled fun _ => hcommit.pre fun s hs => ⟨hs.1, fun _ => hs.2⟩

/-- Setting out leaves the state if there are actions to come. -/
theorem setOut_triple_follows (x : Choice) :
    Run.Triple (l.Settled before start) (sim.setOut again x)
      (fun _ => if x.guard.hasActions then l.Moving before start else l.Settled before start)
      fun _ => l.Follows before start := by
  have hclear : ∀ saved : Option String, Run.Triple (l.Settled before start) (do
      if x.plan.clearsState then Run.changeContext Context.clear
      return saved : Run σ (Option String))
      (fun _ => if x.guard.hasActions then l.Moving before start else l.Settled before start)
      fun _ => l.Follows before start := by
    intro saved s hs
    have hclears : x.plan.clearsState = x.guard.hasActions := rfl
    rw [hclears]
    cases x.guard.hasActions with
    | false => exact hs
    | true =>
      -- the state that is left is kept as the one before
      obtain ⟨⟨hregistered, changes, here, hheard, hchain, hhere⟩, hcurrent⟩ := hs
      exact ⟨⟨hregistered, changes, here, hheard, hchain,
        (Context.leaving_clear hcurrent).trans hhere⟩, rfl⟩
  have hleave : ∀ saved : Option String, Run.Triple (l.Settled before start) (do
      if x.plan.exitsCurrent then sim.leave again
      if x.plan.clearsState then Run.changeContext Context.clear
      return saved : Run σ (Option String))
      (fun _ => if x.guard.hasActions then l.Moving before start else l.Settled before start)
      fun _ => l.Follows before start :=
    fun saved => .ite (fun _ => .bind (leave_tracks h hagain).settled fun _ => hclear saved)
      fun _ => hclear saved
  have hsaved : l.Tracks before start (some <$> Run.current : Run σ (Option String)) := by
    rw [map_eq_pure_bind]
    exact .bind .current fun _ => .pure _
  exact .bind Listener.Tracks.current.settled fun state =>
    .bind (Listener.Tracks.report _).settled fun _ => .bind (Listener.Tracks.fit _).settled fun _ =>
    .ite (fun _ => .bind hsaved.settled hleave) fun _ => .bind (Listener.Tracks.pure none).settled hleave

/-- Taking a choice ends in a state. -/
theorem takeUpTo_settles (args : List V) (x : Choice) :
    l.Settles before start (l.Settled before start) (sim.takeUpTo again args x) := by
  have hoffer : l.Tracks before start (sim.offer again x.plan (x.bindings args)) :=
    .ite (fun _ => .bind (argumentList_tracks h hagain _ _) fun _ => .bind (.report _) fun _ =>
      .pure _) fun _ => .pure _
  rw [takeUpTo_eq_setOut]
  exact .bind (setOut_triple_follows h hagain x) fun saved =>
    .bind (actAndCommit_settles h hagain x _ saved) fun _ => hoffer.settled

/-! ## Dispatches -/

theorem pick_tracks (p : Place) (name : Value) (args : List V) :
    l.Tracks before start (sim.pick again p name args) := by
  have htests : ∀ c g, l.Tracks before start (sim.tests again args c g) := fun c g =>
    .bind (holds_tracks h hagain _ _) fun _ =>
      .ite (fun _ => .pure true) fun _ => .bind (.report _) fun _ => .pure false
  have hchoose : ∀ c, l.Tracks before start (sim.choose again args c) := fun c =>
    .bind (.fit _) fun _ => .bind (.fit _) fun _ => .bind (.findM? (htests c)) fun _ => .pure _
  refine .bind (.findSomeM? hchoose) fun r => ?_
  cases r with
  | none => exact .bind (.report _) fun _ => .throw _
  | some x => exact .pure x

/-- Handling a transition ends in a state. -/
theorem handle_settles (p : Place) (name : Value) (args : List V) :
    l.Settles before start (l.Settled before start) (sim.handle again p name args) := by
  have hreport : ∀ step, l.Tracks before start (reportStep name step : Run σ Unit) := by
    intro step
    cases step with
    | none => exact .pure ()
    | some step => exact .report _
  rw [handle_eq_pick]
  refine .bind (pick_tracks h hagain p name args).settled fun x => ?_
  rw [follow_eq_takeUpTo]
  refine .bind (takeUpTo_settles h hagain args x) fun further => ?_
  cases further with
  | none => exact (hreport _).settled
  | some args' => exact .bind (hagain _ args').settled fun _ => (hreport _).settled

/-- A dispatch tracks the machine if those inside it do. -/
theorem dispatchBy_tracks (name : Value) (args : List V) :
    l.Tracks before start (sim.dispatchBy again name args) where
  settled := by
    have hname : ∀ name, (Run.changeContext fun c => c.setTransition name : Run σ Unit).Quiet l :=
      fun _ _ => ⟨rfl, rfl, rfl, rfl⟩
    refine .bind Listener.Tracks.current.settled fun state =>
      .bind (Listener.Tracks.quiet (place_quiet _)).settled fun p =>
      .bind (Listener.Tracks.quiet (hname _)).settled fun _ =>
      .ensure (handle_settles h hagain p name args) (fun _ => ?_) fun _ => (hname _).follows
    exact (Listener.Tracks.quiet (hname _)).settled
  moving := by
    intro s hs
    rw [dispatchBy_in_transition again hs.2]
    exact hs

end Steps

include h in
/-- Every dispatch tracks the machine. -/
theorem dispatch_tracks (limit : Nat) (name : Value) (args : List V) :
    l.Tracks before start (sim.dispatch limit name args) := by
  -- transitions issued inside are dispatched with a lower limit
  induction limit generalizing name args with
  | zero => exact .throw _
  | succ limit ih => exact dispatchBy_tracks h ih name args

include h in
theorem issue_tracks (name : Value) (args : List V) :
    l.Tracks before start (sim.issue name args) :=
  issueBy_tracks (fun name args => .bind .get fun _ => dispatch_tracks h _ name args) name args

/-! ## Runs -/

/-- A listener that is registered in the state `start`, with others none of which
    raises a fault or acts on the machine, hears a chain of changes from `start` on,
    whatever is issued. The chain ends in the current state or, in transition, in the
    one before. -/
theorem listener_hears_chain (sim : Simulator σ V) {l : Listener σ} (h : sim.host.Tells l)
    {s s' : Simulation σ} {start : String} (hstart : s.context.current = some start)
    (hregistered : s.context.listeners.count l.id = 1) (hrun : sim.Continues l.Misses s s') :
    l.HearsChain start s s' := by
  have hfollows : l.Follows (l.heard s.host) start s' := by
    induction hrun with
    | refl =>
      refine ⟨hregistered, [], start, by simp, .nil, ?_⟩
      rw [Context.leaving, hstart]
      rfl
    | issue name args _ ih => exact (issue_tracks h name args).after ih
    | outside _ hmisses ih => exact ih.of_misses hmisses
  obtain ⟨-, changes, last, hheard, hchain, hlast⟩ := hfollows
  refine ⟨changes, last, hheard, hchain, ?_⟩
  rw [Context.leaving] at hlast
  cases hcurrent : s'.context.current with
  | some state =>
    rw [hcurrent] at hlast
    exact .inl hlast
  | none =>
    rw [hcurrent] at hlast
    exact .inr ⟨rfl, hlast⟩

/-- The listener of the desk. -/
def deskListener : Listener (List (Change String)) where
  id := "ear"
  heard changes := changes

/-- A host that remembers what the listener is told, and issues a transition where it
    is asked to. -/
def attentive : Host (List (Change String)) String where
  ownerName := "Clerk"
  names _ := []
  evaluate _ e _ := pure (String.ofList (e.toList.filter (· != '\'')))
  isTrue v := v == "True"
  spread _ := pure []
  assign _ _ _ := pure ()
  member _ name := pure (some name.text)
  call issue f args :=
    if f == "issue" then do
      let _ ← issue (.str (args.headD "")) []
    else pure ()
  notify id change := if id = deskListener.id then Run.changeHost (· ++ [change]) else pure ()

theorem attentive_tells : attentive.Tells deskListener where
  evaluate _ _ _ := .quiet fun _ => ⟨rfl, rfl, rfl, rfl⟩
  call issue f args := by
    dsimp only [attentive]
    split
    · exact .bind (.issue _ _) fun _ => .quiet fun _ => ⟨rfl, rfl, rfl, rfl⟩
    · exact .quiet fun _ => ⟨rfl, rfl, rfl, rfl⟩
  spread _ _ := ⟨rfl, rfl, rfl, rfl⟩
  assign _ _ _ _ := ⟨rfl, rfl, rfl, rfl⟩
  member _ _ _ := ⟨rfl, rfl, rfl, rfl⟩
  notify id change s := by
    dsimp only [attentive]
    by_cases hear : id = deskListener.id
    · rw [if_pos hear, if_pos hear]
      exact ⟨_, rfl, rfl, rfl, rfl, rfl⟩
    · rw [if_neg hear, if_neg hear, List.append_nil]
      exact ⟨_, rfl, rfl, rfl, rfl, rfl⟩

/-- At the desk of a clerk who asks on leaving it, the listener hears of asking and of
    working. -/
theorem asking_desk_is_followed :
    attentive.Tells deskListener ∧
      ∃ s s', s.context.current = some "Desk::Free" ∧
        s.context.listeners.count deskListener.id = 1 ∧
        (deskWith attentive askingDesk 0).Continues deskListener.Misses s s' ∧
        (deskListener.heard s'.host).map Change.ends =
          [(some "Desk::Free", some "Desk::Asked"), (some "Desk::Asked", some "Desk::Busy")] ∧
        deskListener.HearsChain "Desk::Free" s s' := by
  obtain ⟨s, hs, hfree, hcount⟩ : ∃ s, s = watchedDesk (deskWith attentive askingDesk 0) ∧
      s.context.current = some "Desk::Free" ∧ s.context.listeners.count deskListener.id = 1 :=
    ⟨_, rfl, by decide +kernel, by decide +kernel⟩
  have hrun : (deskWith attentive askingDesk 0).Continues deskListener.Misses s _ :=
    .issue (.str "work") [] .refl
  refine ⟨attentive_tells, s, _, hfree, hcount, hrun, ?_,
    listener_hears_chain (deskWith attentive askingDesk 0) attentive_tells hfree hcount hrun⟩
  subst hs
  decide +kernel

/-! ## Hosts that mislead -/

/-- The listener of a desk is misled by a transition that is issued when the desk is free, although
    the machine is valid and nothing is raised, by listeners in particular: it hears of changes
    with these ends, but the machine gets to this state. -/
structure Misleads (m : Machine) (host : Host (List (Change String)) String)
    (s : Simulation (List (Change String))) (name : String)
    (ends : List (Option String × Option String)) (state : String) : Prop where
  loads : ∃ v, (Load.machine v .null).outcome.1 = .ok m
  valid : ∃ w, m.validate none none = .ok w ∧ w.isValid = true
  notify_isOk : ∀ id change s, ((host.notify id change).on s).1.isOk = true
  reachable : (deskWith host m 0).Reachable s
  free : s.context.current = some "Desk::Free"
  registered : s.context.listeners.count deskListener.id = 1
  issue : ∃ result s', ((deskWith host m 0).issue (.str name) []).on s = (.ok result, s') ∧
    (deskListener.heard s'.host).map Change.ends = ends ∧ s'.context.current = some state ∧
    ¬deskListener.HearsChain "Desk::Free" s s'

/-- What was heard is no chain, if it is not found to be one. -/
theorem exists_not_hearsChain {m : Machine} {host : Host (List (Change String)) String}
    {s : Simulation (List (Change String))} {name state : String}
    {ends : List (Option String × Option String)}
    (hok : (((deskWith host m 0).issue (.str name) []).on s).1.isOk = true)
    (hnew : s.host.isEmpty = true)
    (hheard : (((deskWith host m 0).issue (.str name) []).on s).2.host.map Change.ends = ends)
    (hcurrent : (((deskWith host m 0).issue (.str name) []).on s).2.context.current = some state)
    (hends : Change.isChain "Desk::Free" state ends = false) :
    ∃ result s', ((deskWith host m 0).issue (.str name) []).on s = (.ok result, s') ∧
      (deskListener.heard s'.host).map Change.ends = ends ∧ s'.context.current = some state ∧
      ¬deskListener.HearsChain "Desk::Free" s s' := by
  obtain ⟨result, hissue⟩ := Run.exists_ok hok
  refine ⟨result, _, hissue, hheard, hcurrent, fun hchain => ?_⟩
  have hchain := hchain.isChain (List.isEmpty_iff.1 hnew) hcurrent
  rw [show (deskListener.heard _).map Change.ends = ends from hheard, hends] at hchain
  cases hchain

theorem attentive_notify_isOk (id : String) (change : Change String)
    (s : Simulation (List (Change String))) : ((attentive.notify id change).on s).1.isOk = true := by
  obtain ⟨s', hs', -⟩ := attentive_tells.notify id change s
  rw [hs']
  rfl

/-- A host for a desk with an aide, who listens too and answers at once when the clerk is asked.
    Whatever comes of that, the aide raises nothing. To what the answer leads to the aide has
    nothing more to say. -/
def prompt : Host (List (Change String)) String :=
  { attentive with
    notify := fun id change =>
      if id = "aide" ∧ change.next = some "Desk::Asked" then
        tryCatch (do let _ ← (deskWith attentive plainDesk 0).issue (.str "answer") [])
          fun _ => pure ()
      else attentive.notify id change }

theorem prompt_notify_isOk (id : String) (change : Change String)
    (s : Simulation (List (Change String))) : ((prompt.notify id change).on s).1.isOk = true := by
  dsimp only [prompt]
  split
  · rw [Run.on_tryCatch]
    split <;> rfl
  · exact attentive_notify_isOk id change s

/-- The desk after it was started, watched by the aide and then by the listener. -/
def aidedDesk : Simulation (List (Change String)) :=
  ((Run.addListener "ear").on ((Run.addListener "aide").on
    ((deskWith prompt plainDesk 0).start []).2).2).2

/-- If a listener issues a transition, those who are told after it are misled: the clerk, who is
    asked, answers and works, but the last that the other listener hears of is being asked. -/
theorem prompt_aide_misleads :
    Misleads plainDesk prompt aidedDesk "ask"
      [(some "Desk::Asked", some "Desk::Free"), (some "Desk::Free", some "Desk::Busy"),
        (some "Desk::Free", some "Desk::Asked")] "Desk::Busy" where
  loads := ⟨_, plainDesk_loads⟩
  valid := plainDesk_valid
  notify_isOk := prompt_notify_isOk
  reachable := .outside (.outside (.start []) (addListener_alike _ _)) (addListener_alike _ _)
  free := by decide +kernel
  registered := by decide +kernel
  issue := exists_not_hearsChain (by decide +kernel) (by decide +kernel) (by decide +kernel)
    (by decide +kernel) (by decide +kernel)

/-- The desk of a clerk who would rather leave it than work. -/
def leavingDesk : Machine :=
  deskMachine (clerkCall "issue" ["'leave'"]) (clerkCall "sign" []) (clerkCall "file" [])

/-- A host for this desk: the clerk, once off to work, issues what there is to issue, and makes
    light of it if that fails. -/
def reckless : Host (List (Change String)) String :=
  { attentive with
    call := fun issue f args => do
      let s ← get
      if f == "issue" && s.context.transition == .str "work" then
        tryCatch (do let _ ← issue (.str (args.headD "")) []) fun _ => pure ()
      else pure () }

/-- If an action makes light of a fault, the state that was lost with it is forgotten: the clerk,
    who cannot leave with nowhere to go, works in the end, but the listener hears of coming
    from nowhere. -/
theorem reckless_clerk_misleads :
    Misleads leavingDesk reckless (watchedDesk (deskWith reckless leavingDesk 0)) "work"
      [(none, some "Desk::Busy")] "Desk::Busy" where
  loads := ⟨desk (callEntry "issue" ["'leave'"]) (callEntry "sign" []) (callEntry "file" []), rfl⟩
  valid := Machine.exists_validation (by decide +kernel)
  notify_isOk := attentive_notify_isOk
  reachable := watchedDesk_reachable _
  free := by decide +kernel
  registered := by decide +kernel
  issue := exists_not_hearsChain (by decide +kernel) (by decide +kernel) (by decide +kernel)
    (by decide +kernel) (by decide +kernel)

/-- A host for a desk whose listener leaves as soon as it has heard of something. -/
def parting : Host (List (Change String)) String :=
  { attentive with
    notify := fun id change => do
      attentive.notify id change
      Run.removeListener id }

theorem parting_notify_isOk (id : String) (change : Change String)
    (s : Simulation (List (Change String))) : ((parting.notify id change).on s).1.isOk = true := by
  obtain ⟨s', hs', -⟩ := attentive_tells.notify id change s
  dsimp only [parting]
  rw [Run.on_bind_ok hs']
  rfl

/-- A listener that leaves does not hear where the machine goes without it: the clerk, who is
    called, takes the seat and is free again, but the listener is gone by then. -/
theorem parting_listener_is_left_behind :
    Misleads plainDesk parting (watchedDesk (deskWith parting plainDesk 0)) "call"
      [(some "Desk::Free", some "Desk::Busy")] "Desk::Free" where
  loads := ⟨_, plainDesk_loads⟩
  valid := plainDesk_valid
  notify_isOk := parting_notify_isOk
  reachable := watchedDesk_reachable _
  free := by decide +kernel
  registered := by decide +kernel
  issue := exists_not_hearsChain (by decide +kernel) (by decide +kernel) (by decide +kernel)
    (by decide +kernel) (by decide +kernel)

end Simulator
end StateMachine
