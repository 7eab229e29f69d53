import StateMachine.Proofs.Keys
import StateMachine.Run.Session

/-!
# The discipline of the stack

What becomes of the suspended states of a context that is worked by hand,
whatever commands it is given and however they end.

* A state that is suspended is one that the context was in: the one it began in,
  or one that it was given (`Knows.after`).
* No more states are suspended than the stack has room for (`depth_after_le`).
* A command that fails leaves the states and the stack as they were, and nobody
  is told of a change (`Calm.perform_fails`). Only a listener that fails could spoil
  this, so none of them does (`Session.Calm`).
* The states at the bottom of the stack stay as they are while the depth does not
  fall below their number (`bottom_after`). So a pop goes back to the state that
  was left by the push it belongs to (`Calm.pop_after_push`).

A command does to the states of a context one of six things (`Context.Step`), and
all of this is derived from them.
-/

namespace StateMachine

/-! ## Sizes -/

namespace Value

/-- A value that equals an integer is a number, and compares as the integer does. -/
theorem exists_number_of_beq_int {v : Value} {i : Int} (h : (v == .int i) = true) :
    ∃ a, v.number? = some a ∧ ∀ j, (a.lt (.int j) = true ↔ i < j) ∧ (a.same (.int j) = true ↔ i = j) := by
  obtain ⟨a, ha, hsame⟩ : ∃ a, v.number? = some a ∧ a.same (.int i) = true := by
    change v.same (.int i) = true at h
    cases v with
    | bool b => exact ⟨_, rfl, by rwa [same] at h⟩
    | int j => exact ⟨_, rfl, by rwa [same] at h⟩
    | float x => exact ⟨_, rfl, by rwa [same] at h⟩
    | _ => simp [same] at h
  refine ⟨a, ha, fun j => ?_⟩
  rcases a with k | (⟨negative, m, e⟩ | _ | _)
  · obtain rfl : k = i := by simpa [Number.same] using hsame
    simp [Number.lt, Number.same]
  · have hpq : (Binary64.fraction negative m e).1 = i * (Binary64.fraction negative m e).2 := by
      simpa [Number.same, Binary64.isInt] using hsame
    have hq : (0 : Int) < (Binary64.fraction negative m e).2 :=
      Int.natCast_pos.2 (Nat.pos_of_ne_zero (fraction_den_ne_zero negative m e))
    simp [Number.lt, intAbove, Number.same, Binary64.isInt, hpq, Int.mul_lt_mul_right hq,
      Int.mul_eq_mul_right_iff (Int.ne_of_gt hq)]
  · simp [Number.same, Binary64.isInt] at hsame
  · simp [Number.same, Binary64.isInt] at hsame

end Value

namespace Context

variable {S : Type}

/-- Where the size of the stack is a positive number and the stack is not full, less
    states are suspended than the number says. -/
theorem depth_lt_of_isFull {c : Context S} {n : Nat} (hn : 0 < n)
    (hsize : (c.stackSize == .int n) = true) (hroom : c.isFull = .ok false) : c.depth < n := by
  obtain ⟨a, ha, hcompare⟩ := Value.exists_number_of_beq_int hsize
  have hset : c.stackSize.isSet = true := by
    have hzero : a.same (.int 0) = false := by
      rw [Bool.eq_false_iff, ne_eq, (hcompare 0).2]
      omega
    rw [Value.isSet_of_number ha, hzero]
    rfl
  -- the size is compared with the depth as the number that it is
  have hlt : c.stackSize.lt? (.int c.stack.length) = some (a.lt (.int c.stack.length)) := by
    rcases hv : c.stackSize with _ | _ | _ | _ | _ | _ | _ <;> rw [hv] at ha <;> cases ha <;> rfl
  have hsame : (c.stackSize == .int c.stack.length) = a.same (.int c.stack.length) := by
    change c.stackSize.same _ = _
    rcases hv : c.stackSize with _ | _ | _ | _ | _ | _ | _ <;> rw [hv] at ha <;> cases ha <;>
      rw [Value.same] <;> rfl
  rw [isFull, hset, hlt, hsame] at hroom
  have hboth : a.lt (.int c.stack.length) = false ∧ a.same (.int c.stack.length) = false := by
    simpa using hroom
  rw [Bool.eq_false_iff, ne_eq, (hcompare _).1, Bool.eq_false_iff, ne_eq, (hcompare _).2] at hboth
  rw [depth]
  omega

/-! ## One operation -/

/-- What an operation that is given a state may do to the states of a context. -/
inductive Step (given : Option S) (c c' : Context S) : Prop
  /-- All is left as it was. -/
  | stay (current : c'.current = c.current) (stack : c'.stack = c.stack)
  /-- The context is in transition. -/
  | clear (current : c'.current = none) (stack : c'.stack = c.stack)
  /-- The context is in the state given. -/
  | set (current : c'.current = given) (stack : c'.stack = c.stack)
  /-- The context is in the state given, and there was room to suspend the one
      before. -/
  | push (p : S) (left : c.current = some p) (room : c.isFull = .ok false)
    (current : c'.current = given) (stack : c'.stack = p :: c.stack)
  /-- The context is in the state suspended last. -/
  | pop (p : S) (current : c'.current = some p) (stack : c.stack = p :: c'.stack)
  /-- No state is suspended any more. -/
  | empty (current : c'.current = c.current) (stack : c'.stack = [])

/-- An attempt at an operation that is given a state. -/
structure Tries (c : Context S) (given : Option S) (a : Attempt S) : Prop where
  step : c.Step given a.context
  stackSize : a.context.stackSize = c.stackSize
  failed : ∀ e, a.result = .error e → a.context = c

theorem tries_failed (c : Context S) (given : Option S) (e : ContextError) (trace : List String) :
    c.Tries given (c.failed e trace) :=
  ⟨.stay rfl rfl, rfl, fun _ _ => rfl⟩

variable [BEq S]

theorem tries_arrive {c : Context S} {given next : Option S} {stack : List S} {trace : List String}
    (h : c.Step given (c.arrive next stack trace).context) :
    c.Tries given (c.arrive next stack trace) :=
  ⟨h, rfl, nofun⟩

variable [Named S]

theorem tries_set (c : Context S) (next : Option S) : c.Tries next (c.set next) := by
  rw [Context.set]
  split
  · exact tries_failed ..
  · exact tries_arrive (.set rfl rfl)

theorem tries_push (c : Context S) (next : Option S) : c.Tries next (c.push next) := by
  rw [Context.push]
  split
  · split <;> exact tries_failed ..
  · next p hp =>
    split
    · exact tries_failed ..
    · exact tries_failed ..
    · next hroom =>
      split
      · exact tries_failed ..
      · exact tries_arrive (.push p hp hroom rfl rfl)

theorem tries_pop (c : Context S) : c.Tries none c.pop := by
  rw [Context.pop]
  split
  · exact tries_failed ..
  · next p rest hstack => exact tries_arrive (.pop p rfl hstack)

/-- The `k` states that were suspended first. -/
def bottom (c : Context S) (k : Nat) : List S :=
  c.stack.drop (c.depth - k)

/-- Two contexts that differ in their listeners at most. -/
def Heard (c c' : Context S) : Prop :=
  c' = { c with listeners := c'.listeners }

omit [BEq S] [Named S] in
theorem Step.of_heard {given : Option S} {c c' c'' : Context S} (h : c.Step given c')
    (h' : c'.Heard c'') : c.Step given c'' := by
  have hcurrent : c''.current = c'.current := by rw [h']
  have hstack : c''.stack = c'.stack := by rw [h']
  cases h with
  | stay hc hs => exact .stay (hcurrent.trans hc) (hstack.trans hs)
  | clear hc hs => exact .clear (hcurrent.trans hc) (hstack.trans hs)
  | set hc hs => exact .set (hcurrent.trans hc) (hstack.trans hs)
  | push p hp hroom hc hs => exact .push p hp hroom (hcurrent.trans hc) (hstack.trans hs)
  | pop p hc hs => exact .pop p (hcurrent.trans hc) (hs.trans (by rw [hstack]))
  | empty hc hs => exact .empty (hcurrent.trans hc) (hstack.trans hs)

omit [BEq S] [Named S] in
/-- What becomes of the stack: it stays, one state is suspended for which there is room,
    the last one is taken away, or all are. -/
theorem Step.stack_cases {given : Option S} {c c' : Context S} (h : c.Step given c') :
    c'.stack = c.stack ∨
    (∃ p, c.current = some p ∧ c.isFull = .ok false ∧ c'.stack = p :: c.stack) ∨
    (∃ p, c.stack = p :: c'.stack) ∨ c'.stack = [] := by
  cases h with
  | stay _ hs | clear _ hs | set _ hs => exact .inl hs
  | push p hp hroom _ hs => exact .inr (.inl ⟨p, hp, hroom, hs⟩)
  | pop p _ hs => exact .inr (.inr (.inl ⟨p, hs⟩))
  | empty _ hs => exact .inr (.inr (.inr hs))

end Context

/-- The state a command gives to the context. -/
def Command.given : Command → Option Station
  | .set p | .push p => p
  | _ => none

/-- Is the command about no listener that fails? -/
def Command.isCalm : Command → Bool
  | .listen _ .fail | .unlisten _ .fail => false
  | _ => true

namespace Session

/-- None of the listeners fails. -/
def Calm (s : Session) : Prop :=
  ∀ id, s.reaction id ≠ .fail

/-! ## Listeners -/

theorem settle_context (s : Session) (id : String) (r : Reaction) :
    (s.settle id r).context = s.context := by
  rw [settle]
  split <;> rfl

theorem Calm.settle {s : Session} (h : s.Calm) (id : String) {r : Reaction} (hr : r ≠ .fail) :
    (s.settle id r).Calm := by
  intro id'
  have hid' := h id'
  rw [Session.settle]
  split
  · exact hid'
  · rw [reaction] at hid' ⊢
    rw [List.lookup_append]
    cases hlookup : s.reactions.lookup id' with
    | some r' => rwa [hlookup] at hid'
    | none =>
      by_cases hid : id' = id
      · simp [hid, hr]
      · simp [List.lookup_cons, beq_false_of_ne hid]

theorem tell_context (s : Session) (id : String) (change : Change Station) :
    s.context.Heard (s.tell id change).2.context := by
  rw [tell]
  dsimp only
  split
  · rfl
  · rfl
  · rfl
  · dsimp only
    rw [settle_context, Context.addListener]
    split <;> rfl

/-- A listener that does not fail is told, and does not make others fail. -/
theorem Calm.tell {s : Session} (h : s.Calm) (id : String) (change : Change Station) :
    (s.tell id change).1 = .ok () ∧ (s.tell id change).2.Calm := by
  rw [Session.tell]
  dsimp only
  split
  · exact ⟨rfl, h⟩
  · next hfail => exact absurd hfail (h id)
  · exact ⟨rfl, h⟩
  · have hsettled := Calm.settle (s := { s with told := s.told ++ [s.context.told id change] }) h
      (id ++ "+") (r := .quiet) nofun
    exact ⟨rfl, hsettled⟩

theorem tellAll_context (change : Change Station) (ids : List String) (s : Session) :
    s.context.Heard (tellAll change ids s).2.context := by
  induction ids generalizing s with
  | nil => rfl
  | cons id ids ih =>
    have htell := s.tell_context id change
    rw [tellAll]
    rcases hs : s.tell id change with ⟨f | _, s'⟩ <;> rw [hs] at htell
    · exact htell
    · have hrest := ih s'
      rw [Context.Heard] at htell hrest ⊢
      rw [hrest, htell]

theorem Calm.tellAll {s : Session} (h : s.Calm) (change : Change Station) (ids : List String) :
    (tellAll change ids s).1 = .ok () ∧ (tellAll change ids s).2.Calm := by
  induction ids generalizing s with
  | nil => exact ⟨rfl, h⟩
  | cons id ids ih =>
    obtain ⟨hok, hcalm⟩ := h.tell id change
    rw [Session.tellAll]
    rcases hs : s.tell id change with ⟨f | _, s'⟩ <;> rw [hs] at hok hcalm
    · cases hok
    · exact ih hcalm

/-! ## Commands -/

theorem foldl_write (s : Session) (trace : List String) :
    (trace.foldl write s).context = s.context ∧ (trace.foldl write s).told = s.told ∧
      (trace.foldl write s).reactions = s.reactions := by
  induction trace generalizing s with
  | nil => exact ⟨rfl, rfl, rfl⟩
  | cons line trace ih =>
    obtain ⟨hcontext, htold, hreactions⟩ := ih (s.write line)
    rw [List.foldl_cons, hcontext, htold, hreactions, write]
    cases s.stream <;> exact ⟨rfl, rfl, rfl⟩

/-- What is written does not make a listener fail. -/
theorem Calm.foldl_write {s : Session} (h : s.Calm) (c : Context Station) (trace : List String) :
    (trace.foldl write { s with context := c }).Calm := by
  obtain ⟨-, -, hreactions⟩ := Session.foldl_write { s with context := c } trace
  intro id
  rw [reaction, hreactions]
  exact h id

/-- Taking over an attempt leaves the context that it gives, except for the
    listeners. -/
theorem attempt_context (s : Session) (a : Attempt Station) :
    a.context.Heard (s.attempt a).2.context := by
  obtain ⟨hcontext, -⟩ := foldl_write { s with context := a.context } a.trace
  rw [attempt]
  split
  · rw [Context.Heard, hcontext]
  · rw [Context.Heard, hcontext]
  · next change _ =>
    have htell := tellAll_context change a.context.listeners
      (a.trace.foldl write { s with context := a.context })
    rwa [hcontext] at htell

/-- Where no listener fails, it is the attempt that does. -/
theorem Calm.attempt_error {s s' : Session} (h : s.Calm) {a : Attempt Station} {f : SessionFault}
    (hf : s.attempt a = (.error f, s')) :
    (∃ e, a.result = .error e) ∧ s'.context = a.context ∧ s'.told = s.told := by
  obtain ⟨hcontext, htold, -⟩ := Session.foldl_write { s with context := a.context } a.trace
  rw [attempt] at hf
  split at hf
  · next e he =>
    cases hf
    exact ⟨⟨e, he⟩, hcontext, htold⟩
  · cases hf
  · next change _ =>
    obtain ⟨hok, -⟩ := (h.foldl_write a.context a.trace).tellAll change a.context.listeners
    rw [hf] at hok
    cases hok

theorem Calm.attempt {s : Session} (h : s.Calm) (a : Attempt Station) : (s.attempt a).2.Calm := by
  have hcalm := h.foldl_write a.context a.trace
  rw [Session.attempt]
  split
  · exact hcalm
  · exact hcalm
  · exact (hcalm.tellAll _ _).2

theorem ask_snd {α : Type} (s : Session) (r : Except ContextError α) (answer : α → Value) :
    (s.ask r answer).2 = s := by
  cases r <;> rfl

/-- What a command does to the states of the context. -/
theorem perform_step (s : Session) (c : Command) :
    s.context.Step c.given (s.perform c).2.context ∧
      (s.perform c).2.context.stackSize = s.context.stackSize := by
  have htries : ∀ {given : Option Station} {a : Attempt Station}, s.context.Tries given a →
      s.context.Step given (s.attempt a).2.context ∧
        (s.attempt a).2.context.stackSize = s.context.stackSize := by
    intro given a ha
    have hheard := s.attempt_context a
    refine ⟨ha.step.of_heard hheard, ?_⟩
    rw [hheard]
    exact ha.stackSize
  cases c with
  | set p => exact htries (s.context.tries_set p)
  | push p => exact htries (s.context.tries_push p)
  | pop => exact htries s.context.tries_pop
  | clear => exact ⟨.clear rfl rfl, rfl⟩
  | emptyStack => exact ⟨.empty rfl rfl, rfl⟩
  | state | previousState =>
    rw [perform, ask_snd]
    exact ⟨.stay rfl rfl, rfl⟩
  | enter =>
    rw [perform]
    split <;> exact ⟨.stay rfl rfl, rfl⟩
  | listen id r =>
    dsimp only [perform, listen]
    rw [settle_context, Context.addListener]
    split <;> exact ⟨.stay rfl rfl, rfl⟩
  | unlisten id r =>
    dsimp only [perform, unlisten]
    rw [settle_context]
    exact ⟨.stay rfl rfl, rfl⟩
  | _ => exact ⟨.stay rfl rfl, rfl⟩

/-- A command that fails leaves the states and the stack as they were, and nobody is
    told of a change, if no listener fails. -/
theorem Calm.perform_fails {s s' : Session} (h : s.Calm) {c : Command} {f : SessionFault}
    (hf : s.perform c = (.error f, s')) : s'.context = s.context ∧ s'.told = s.told := by
  have htries : ∀ {given : Option Station} {a : Attempt Station}, s.context.Tries given a →
      silent (s.attempt a) = (.error f, s') → s'.context = s.context ∧ s'.told = s.told := by
    intro given a ha hf
    rcases hs : s.attempt a with ⟨f' | ⟨⟩, s₁⟩ <;> rw [hs] at hf <;> cases hf
    obtain ⟨⟨e, he⟩, hcontext, htold⟩ := h.attempt_error hs
    exact ⟨hcontext.trans (ha.failed e he), htold⟩
  cases c with
  | set p => exact htries (s.context.tries_set p) hf
  | push p => exact htries (s.context.tries_push p) hf
  | pop => exact htries s.context.tries_pop hf
  | state | previousState =>
    obtain rfl : s = s' := (s.ask_snd _ _).symm.trans (congrArg Prod.snd hf)
    exact ⟨rfl, rfl⟩
  | enter =>
    rw [perform] at hf
    split at hf <;> cases hf
    exact ⟨rfl, rfl⟩
  | describe p =>
    cases congrArg Prod.snd hf
    exact ⟨rfl, rfl⟩
  | _ => cases hf

theorem Calm.perform {s : Session} (h : s.Calm) {c : Command} (hc : c.isCalm = true) :
    (s.perform c).2.Calm := by
  cases c with
  | set p | push p | pop => exact h.attempt _
  | state | previousState =>
    rw [Session.perform, ask_snd]
    exact h
  | enter =>
    rw [Session.perform]
    split <;> exact h
  | listen id r | unlisten id r =>
    refine h.settle id fun hr => ?_
    subst hr
    cases hc
  | _ => exact h

/-! ## Runs -/

/-- The session after commands, whatever they came to. -/
def after (s : Session) (commands : List Command) : Session :=
  commands.foldl (fun s c => (s.perform c).2) s

@[simp] theorem after_nil (s : Session) : s.after [] = s := rfl

@[simp] theorem after_cons (s : Session) (c : Command) (cs : List Command) :
    s.after (c :: cs) = (s.perform c).2.after cs := rfl

theorem Calm.after {s : Session} (h : s.Calm) {commands : List Command}
    (hcommands : ∀ c ∈ commands, c.isCalm = true) : (s.after commands).Calm := by
  induction commands generalizing s with
  | nil => exact h
  | cons c cs ih =>
    obtain ⟨hc, hcs⟩ := List.forall_mem_cons.1 hcommands
    exact ih (h.perform hc) hcs

/-- The context is in one of the states `known`, if it is in one, and has suspended
    such states only. -/
structure Knows (s : Session) (known : List Station) : Prop where
  current : ∀ p, s.context.current = some p → p ∈ known
  stack : ∀ p ∈ s.context.stack, p ∈ known

/-- The states of the context are known if those it is given are. -/
theorem Knows.perform {s : Session} {known : List Station} (h : s.Knows known) {c : Command}
    (hc : ∀ p, c.given = some p → p ∈ known) : (s.perform c).2.Knows known := by
  obtain ⟨hcurrent, hstack⟩ := h
  cases (s.perform_step c).1 with
  | stay hc' hs' => exact ⟨hc' ▸ hcurrent, hs' ▸ hstack⟩
  | clear hc' hs' => exact ⟨by simp [hc'], hs' ▸ hstack⟩
  | set hc' hs' => exact ⟨hc' ▸ hc, hs' ▸ hstack⟩
  | push p hp _ hc' hs' =>
    refine ⟨hc' ▸ hc, ?_⟩
    rw [hs']
    exact List.forall_mem_cons.2 ⟨hcurrent p hp, hstack⟩
  | pop p hc' hs' =>
    rw [hs', List.forall_mem_cons] at hstack
    refine ⟨fun q hq => ?_, hstack.2⟩
    rw [hc'] at hq
    exact Option.some.inj hq ▸ hstack.1
  | empty hc' hs' => exact ⟨hc' ▸ hcurrent, by simp [hs']⟩

theorem Knows.after {s : Session} {known : List Station} (h : s.Knows known)
    {commands : List Command} (hknown : ∀ c ∈ commands, ∀ p, c.given = some p → p ∈ known) :
    (s.after commands).Knows known := by
  induction commands generalizing s with
  | nil => exact h
  | cons c cs ih =>
    obtain ⟨hc, hcs⟩ := List.forall_mem_cons.1 hknown
    exact ih (h.perform hc) hcs

/-- A stack with room for `n` states never holds more. -/
theorem depth_after_le {s : Session} {n : Nat} (hn : 0 < n)
    (hsize : (s.context.stackSize == .int n) = true) (h : s.context.depth ≤ n)
    (commands : List Command) : (s.after commands).context.depth ≤ n := by
  induction commands generalizing s with
  | nil => exact h
  | cons c cs ih =>
    obtain ⟨hstep, hsame⟩ := s.perform_step c
    refine ih (hsame.symm ▸ hsize) ?_
    rw [Context.depth] at h ⊢
    rcases hstep.stack_cases with hs' | ⟨p, -, hroom, hs'⟩ | ⟨p, hs'⟩ | hs'
    · exact hs' ▸ h
    · rw [hs']
      exact Context.depth_lt_of_isFull hn hsize hroom
    · rw [hs'] at h
      exact Nat.le_of_succ_le h
    · simp [hs']

/-- One command leaves the bottom of the stack as it is, if the depth does not fall
    below it. -/
theorem bottom_perform {s : Session} {k : Nat} (h : k ≤ s.context.depth) {c : Command}
    (h' : k ≤ (s.perform c).2.context.depth) :
    (s.perform c).2.context.bottom k = s.context.bottom k := by
  rw [Context.depth] at h h'
  rw [Context.bottom, Context.bottom, Context.depth, Context.depth]
  rcases (s.perform_step c).1.stack_cases with hs' | ⟨p, -, -, hs'⟩ | ⟨p, hs'⟩ | hs'
  · rw [hs']
  · rw [hs', List.length_cons, Nat.succ_sub h, List.drop_succ_cons]
  · rw [hs', List.length_cons, Nat.succ_sub h', List.drop_succ_cons]
  · -- nothing is left above or at the bottom, so there is no bottom
    obtain rfl : k = 0 := by simpa [hs'] using h'
    simp

/-- The bottom of the stack stays as it is while the depth does not fall below it. -/
theorem bottom_after {s : Session} {k : Nat} {commands : List Command}
    (h : ∀ part, part <+: commands → k ≤ (s.after part).context.depth) :
    (s.after commands).context.bottom k = s.context.bottom k := by
  induction commands generalizing s with
  | nil => rfl
  | cons c cs ih =>
    have hrest : ∀ part, part <+: cs → k ≤ ((s.perform c).2.after part).context.depth := by
      intro part hpart
      exact h (c :: part) (List.cons_prefix_cons.2 ⟨rfl, hpart⟩)
    have hhere : k ≤ s.context.depth := h [] List.nil_prefix
    have hthere : k ≤ (s.perform c).2.context.depth := hrest [] List.nil_prefix
    rw [after_cons, ih hrest, bottom_perform hhere hthere]

/-- A pop goes back to the state suspended last. -/
theorem Calm.perform_pop {s : Session} (h : s.Calm) {p : Station} {rest : List Station}
    (hstack : s.context.stack = p :: rest) :
    ∃ s', s.perform .pop = (.ok .null, s') ∧ s'.context.current = some p ∧
      s'.context.stack = rest := by
  have hpop : s.context.pop = s.context.arrive (some p) rest
      (s.context.traced ("POP TO STATE    : " ++ Context.nameOf (some p))) := by
    rw [Context.pop, hstack]
  have hheard := s.attempt_context s.context.pop
  rcases hs : s.attempt s.context.pop with ⟨f | ⟨⟩, s'⟩ <;> rw [hs] at hheard
  · obtain ⟨⟨e, he⟩, -⟩ := h.attempt_error hs
    rw [hpop] at he
    cases he
  · refine ⟨s', by rw [Session.perform, hs]; rfl, ?_, ?_⟩ <;> rw [hheard, hpop] <;> rfl

/-- In transition there is no state to be suspended. -/
theorem perform_push_in_transition {s : Session} (h : s.context.current = none)
    (q : Option Station) : ∃ f, s.perform (.push q) = (.error f, s) := by
  rw [perform, Context.push, h]
  cases q with
  | none => exact ⟨_, rfl⟩
  | some p => exact ⟨_, rfl⟩

/-- A push that is followed by commands which keep the depth above the one it started
    from, and then by the pop back to that depth, is undone by it. -/
theorem Calm.pop_after_push {s s₁ : Session} (h : s.Calm) {q : Option Station}
    (hpush : (s.perform (.push q)).2 = s₁) {commands : List Command}
    (hcommands : ∀ c ∈ commands, c.isCalm = true)
    (habove : ∀ part, part <+: commands → s.context.depth < (s₁.after part).context.depth)
    (hback : (s₁.after commands).context.depth = s.context.depth + 1) :
    ∃ p s₂, s.context.current = some p ∧ (s₁.after commands).perform .pop = (.ok .null, s₂) ∧
      s₂.context.current = some p ∧ s₂.context.stack = s.context.stack := by
  obtain ⟨p, hp, hstack⟩ :
      ∃ p, s.context.current = some p ∧ s₁.context.stack = p :: s.context.stack := by
    have hdeeper : s.context.stack.length < s₁.context.stack.length := habove [] List.nil_prefix
    subst hpush
    -- of all that a push may come to, only a state that is suspended makes the stack deeper
    rcases (s.perform_step (.push q)).1.stack_cases with hs' | ⟨p, hp, -, hs'⟩ | ⟨p, hs'⟩ | hs'
    · simp [hs'] at hdeeper
    · exact ⟨p, hp, hs'⟩
    · simp [hs', Nat.not_lt_of_le (Nat.le_succ _)] at hdeeper
    · simp [hs'] at hdeeper
  -- what the push left, and all below it, is at the bottom while the commands run
  have hstack' : (s₁.after commands).context.stack = p :: s.context.stack := by
    have hbottom := bottom_after habove
    have hdepth : s₁.context.depth = s.context.depth + 1 := by simp [Context.depth, hstack]
    simpa [Context.bottom, hback, hdepth, hstack] using hbottom
  have hcalm : (s₁.after commands).Calm := (hpush ▸ h.perform rfl).after hcommands
  obtain ⟨s₂, hpop, hcurrent, hrest⟩ := hcalm.perform_pop hstack'
  exact ⟨p, s₂, hp, hpop, hcurrent, hrest⟩

/-- A context that begins in a state, or in none, with a size of its stack. -/
def opened (name : Value) (start : Option Station) (size : Value) : Session where
  context := { name := name, current := start, stackSize := size }

theorem opened_calm (name : Value) (start : Option Station) (size : Value) :
    (opened name start size).Calm := by
  intro id hfail
  cases (hfail : Reaction.quiet = .fail)

/-- The suspended states of a context, after whatever commands, where no listener
    fails. Each of them is one the context began in or was given, and the state that
    is none is not suspended; no more are suspended than the stack has room for; a
    command that fails changes nothing, and tells nobody; the states at the bottom of
    the stack stay while the depth does not fall below their number, so they do not if
    the stack is emptied; and a pop goes back to the state that its push left. -/
theorem stack_discipline (name size : Value) (start : Option Station) (commands : List Command)
    (hcalm : ∀ c ∈ commands, c.isCalm = true) :
    let s := (opened name start size).after commands
    (∀ p ∈ s.context.stack, p ∈ start.toList ++ commands.filterMap Command.given) ∧
    (s.context.current = none → ∀ q, ∃ f, s.perform (.push q) = (.error f, s)) ∧
    (∀ n : Nat, 0 < n → (size == .int n) = true → s.context.depth ≤ n) ∧
    (∀ c f s', s.perform c = (.error f, s') →
      s'.context.current = s.context.current ∧ s'.context.previous = s.context.previous ∧
        s'.context.stack = s.context.stack ∧ s'.told = s.told) ∧
    (∀ k further, (∀ part, part <+: further → k ≤ (s.after part).context.depth) →
      (s.after further).context.bottom k = s.context.bottom k) ∧
    ∀ q s₁ further, s.perform (.push q) = (.ok .null, s₁) →
      (∀ c ∈ further, c.isCalm = true) →
      (∀ part, part <+: further → s.context.depth < (s₁.after part).context.depth) →
      (s₁.after further).context.depth = s.context.depth + 1 →
      ∃ p s₂, s.context.current = some p ∧ (s₁.after further).perform .pop = (.ok .null, s₂) ∧
        s₂.context.current = some p ∧ s₂.context.stack = s.context.stack := by
  intro s
  have hs : s.Calm := (opened_calm name start size).after hcalm
  refine ⟨?_, perform_push_in_transition, fun n hn hsize => ?_, fun c f s' hf => ?_,
    fun k further h => bottom_after h, fun q s₁ further hpush => hs.pop_after_push (congrArg Prod.snd hpush)⟩
  · refine (Knows.after ⟨fun p hp => ?_, by simp [opened]⟩ fun c hc p hp => ?_).stack
    · exact List.mem_append_left _ (Option.mem_toList.2 hp)
    · exact List.mem_append_right _ (List.mem_filterMap.2 ⟨c, hc, hp⟩)
  · exact depth_after_le (s := opened name start size) hn hsize (Nat.zero_le n) commands
  · obtain ⟨hcontext, htold⟩ := hs.perform_fails hf
    rw [hcontext, htold]
    exact ⟨rfl, rfl, rfl, rfl⟩

/-- A room that is open. -/
def openRoom : Station := ⟨0, .str "Open", .int 0, false⟩

/-- A room that is shut. -/
def shutRoom : Station := ⟨1, .str "Shut", .int 1, false⟩

/-- An open room with a stack for one state, and a listener. -/
def room : Session :=
  (opened (.str "Room") (some openRoom) (.int 1)).after [.listen "ear" .quiet]

/-- What happens in the room while it is shut: there is no room to suspend that, and it
    is left and shut again. -/
def meanwhile : List Command :=
  [.push (some openRoom), .clear, .set (some shutRoom)]

/-- A room that was open is open again when it is no more shut. -/
theorem shut_room_opens_again :
    (∀ c ∈ [Command.listen "ear" .quiet], c.isCalm = true) ∧ (∀ c ∈ meanwhile, c.isCalm = true) ∧
      ∃ s₁ s₂, room.perform (.push (some shutRoom)) = (.ok .null, s₁) ∧
        (∀ part, part <+: meanwhile → room.context.depth < (s₁.after part).context.depth) ∧
        (s₁.after meanwhile).context.depth = room.context.depth + 1 ∧ s₁.context.depth ≤ 1 ∧
        (s₁.perform (.push (some openRoom))).1.isOk = false ∧
        (s₁.after meanwhile).perform .pop = (.ok .null, s₂) ∧
        s₂.context.current = some openRoom ∧ s₂.context.stack = room.context.stack := by
  obtain ⟨s₁, hs₁⟩ : ∃ s₁, s₁ = (room.perform (.push (some shutRoom))).2 := ⟨_, rfl⟩
  have hpush : room.perform (.push (some shutRoom)) = (.ok .null, s₁) := by rw [hs₁]; rfl
  have habove : ∀ part, part <+: meanwhile →
      room.context.depth < (s₁.after part).context.depth := by
    intro part hpart
    rw [List.prefix_iff_eq_take.1 hpart, hs₁]
    rcases part.length with _ | _ | _ | n
    · decide +kernel
    · decide +kernel
    · decide +kernel
    · rw [List.take_of_length_le (Nat.le_add_left 3 n)]
      decide +kernel
  have hdeep : (s₁.after meanwhile).context.depth = room.context.depth + 1 := by
    rw [hs₁]
    decide +kernel
  obtain ⟨-, -, -, -, -, hback⟩ := stack_discipline (.str "Room") (.int 1) (some openRoom)
    [.listen "ear" .quiet] (by decide)
  obtain ⟨p, s₂, hp, hpop, hcurrent, hstack⟩ :=
    hback (some shutRoom) s₁ meanwhile hpush (by decide) habove hdeep
  obtain rfl : openRoom = p := Option.some.inj hp
  refine ⟨by decide, by decide, s₁, s₂, hpush, habove, hdeep, ?_, ?_, hpop, hcurrent, hstack⟩ <;>
    rw [hs₁] <;> decide +kernel

end Session
end StateMachine
