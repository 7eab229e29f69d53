import StateMachine.Proofs.Aloof
import StateMachine.Proofs.Candidates

/-!
# Selecting a guard

Which guard a dispatch takes.

* A search asks one item after the other and stops at the first that is
  answered with yes (`Run.findM?_on`).
* A dispatch is a search through the candidates for a guard that holds, followed
  by taking the one that was found, or by a refusal (`handle_eq_choose`). If all
  candidates have guards, it is a search through the choices (`handle_eq`).
-/

namespace StateMachine

/-! ## Searching -/

namespace Run

variable {σ α : Type}

/-- The questions are asked one after the other, and each is answered with no. -/
def Denies (ask : α → Run σ Bool) : List α → Simulation σ → Simulation σ → Prop
  | [], s, s' => s' = s
  | x :: xs, s, s' => ∃ s₁, (ask x).on s = (.ok false, s₁) ∧ Denies ask xs s₁ s'

/-- What a search for the first of `xs` that is answered with yes comes to. -/
inductive Search (ask : α → Run σ Bool) (xs : List α) (s : Simulation σ) :
    Except Fault (Option α) × Simulation σ → Prop
  /-- Those before it are answered with no, those after it are not asked. -/
  | found (before after : List α) {x : α} {s₁ s₂ : Simulation σ} :
    xs = before ++ x :: after → Denies ask before s s₁ → (ask x).on s₁ = (.ok true, s₂) →
      Search ask xs s (.ok (some x), s₂)
  /-- All are answered with no. -/
  | none {s₁ : Simulation σ} : Denies ask xs s s₁ → Search ask xs s (.ok none, s₁)
  /-- Those before it are answered with no, and it ends in a fault. -/
  | fault (before after : List α) {x : α} {s₁ s₂ : Simulation σ} {f : Fault} :
    xs = before ++ x :: after → Denies ask before s s₁ → (ask x).on s₁ = (.error f, s₂) →
      Search ask xs s (.error f, s₂)

/-- A search preceded by a question that is answered with no. -/
theorem Search.cons {ask : α → Run σ Bool} {x : α} {xs : List α} {s s₁ : Simulation σ}
    {o : Except Fault (Option α) × Simulation σ} (hx : (ask x).on s = (.ok false, s₁))
    (h : Search ask xs s₁ o) : Search ask (x :: xs) s o := by
  cases h with
  | found before after hxs hb hy =>
    exact .found (x :: before) after (by rw [hxs, List.cons_append]) ⟨s₁, hx, hb⟩ hy
  | none hb => exact .none ⟨s₁, hx, hb⟩
  | fault before after hxs hb hy =>
    exact .fault (x :: before) after (by rw [hxs, List.cons_append]) ⟨s₁, hx, hb⟩ hy

theorem findM?_on (ask : α → Run σ Bool) (xs : List α) (s : Simulation σ) :
    Search ask xs s ((xs.findM? ask : Run σ (Option α)).on s) := by
  induction xs generalizing s with
  | nil => exact .none rfl
  | cons x xs ih =>
    rw [List.findM?]
    rcases hx : (ask x).on s with ⟨f | _ | _, s₁⟩
    · rw [on_bind_error hx]
      exact .fault [] xs rfl rfl hx
    · rw [on_bind_ok hx]
      exact .cons hx (ih s₁)
    · rw [on_bind_ok hx]
      exact .found [] xs rfl rfl hx

/-- What is asked in vain does not matter to a search. -/
theorem Denies.findM?_append {ask : α → Run σ Bool} {xs : List α} {s s₁ : Simulation σ}
    (h : Denies ask xs s s₁) (ys : List α) :
    ((xs ++ ys).findM? ask : Run σ (Option α)).on s = (ys.findM? ask : Run σ (Option α)).on s₁ := by
  induction xs generalizing s with
  | nil => rw [show s₁ = s from h, List.nil_append]
  | cons x xs ih =>
    obtain ⟨s', hx, h⟩ := h
    rw [List.cons_append, List.findM?, on_bind_ok hx]
    exact ih h

/-- A search comes to one thing only. -/
theorem Search.eq {ask : α → Run σ Bool} {xs : List α} {s : Simulation σ}
    {o : Except Fault (Option α) × Simulation σ} (h : Search ask xs s o) :
    (xs.findM? ask : Run σ (Option α)).on s = o := by
  cases h with
  | found before after hxs hb hx => rw [hxs, hb.findM?_append, List.findM?, on_bind_ok hx, on_pure]
  | none hb =>
    have := hb.findM?_append []
    rwa [List.append_nil] at this
  | fault before after hxs hb hx => rw [hxs, hb.findM?_append, List.findM?, on_bind_error hx]

end Run

section

variable {M : Type → Type} [Monad M] [LawfulMonad M] {α β : Type}

/-- A search through two lists goes on to the second if it finds nothing in the
    first. -/
theorem findM?_append (ask : α → M Bool) (xs ys : List α) :
    (xs ++ ys).findM? ask = (do
      match ← xs.findM? ask with
      | some x => pure (some x)
      | none => ys.findM? ask) := by
  induction xs with
  | nil => simp
  | cons x xs ih =>
    simp only [List.cons_append, List.findM?, bind_assoc, ih]
    congr 1
    funext b
    cases b <;> simp

/-- The same, with what is done about the outcome. -/
theorem findM?_append_bind (ask : α → M Bool) (xs ys : List α) (k : Option α → M β) :
    ((xs ++ ys).findM? ask >>= k) = xs.findM? ask >>= fun
      | some x => k (some x)
      | none => ys.findM? ask >>= k := by
  rw [findM?_append, bind_assoc]
  congr 1
  funext r
  cases r <;> simp

/-- A search finds only what is there. -/
theorem findM?_bind_congr {ask ask' : α → M Bool} {xs : List α} {k k' : Option α → M β}
    (hask : ∀ x ∈ xs, ask x = ask' x) (hsome : ∀ x ∈ xs, k (some x) = k' (some x))
    (hnone : k none = k' none) : xs.findM? ask >>= k = xs.findM? ask' >>= k' := by
  induction xs with
  | nil => simpa using hnone
  | cons x xs ih =>
    obtain ⟨hx, hxs⟩ := List.forall_mem_cons.1 hsome
    obtain ⟨hax, haxs⟩ := List.forall_mem_cons.1 hask
    simp only [List.findM?, bind_assoc, hax]
    refine bind_congr fun b => ?_
    cases b with
    | false => exact ih haxs hxs
    | true => simpa using hx

theorem findM?_map (f : α → β) (ask : β → M Bool) (xs : List α) :
    (xs.map f).findM? ask = Option.map f <$> xs.findM? fun x => ask (f x) := by
  induction xs with
  | nil => simp
  | cons x xs ih =>
    simp only [List.map_cons, List.findM?, map_bind, ih]
    congr 1
    funext b
    cases b <;> simp

end

namespace Simulator

variable {σ V : Type} (sim : Simulator σ V) (again : Dispatch σ V)

/-! ## Dispatching by search -/

/-- Asks whether a guard of a candidate holds; the log says so if it does not. -/
def tests (args : List V) (c : Candidate) (g : Guard) : Run σ Bool := do
  let b ← sim.holds again (bind c.transition (c.arguments args)) g
  if b then return true
  else
    Run.report ("Guard [" ++ g.condition.text ++ "] of '" ++ c.transition.name.text ++ "' is false.")
    return false

/-- Looks for the first guard of a candidate that holds. -/
def choose (args : List V) (c : Candidate) : Run σ (Option Choice) := do
  Run.fit (bindMismatch? c.transition (c.arguments args))
  Run.fit c.transition.orderMismatch?
  let g ← c.transition.ordered.findM? (sim.tests again args c)
  return g.map (Choice.mk c)

/-- Asks whether a choice holds, after the checks of its candidate. -/
def asks (args : List V) (x : Choice) : Run σ Bool := do
  Run.fit (bindMismatch? x.candidate.transition (x.candidate.arguments args))
  Run.fit x.candidate.transition.orderMismatch?
  sim.tests again args x.candidate x.guard

/-- Takes the guard of a choice. -/
def takeChoice (args : List V) (x : Choice) : Run σ Unit := do
  let state ← Run.current
  Run.report (takenLine x.candidate.transition x.guard state)
  Run.fit x.guard.planMismatch?
  sim.take again (x.guard.plan x.candidate.placed.place.map.name.text) x.guard.actions
    (bind x.candidate.transition (x.candidate.arguments args))

/-- What the log says of a choice of the default chain that was taken. -/
def reportStep (name : Value) (step : Option DefaultStep) : Run σ Unit :=
  match step with
  | none => pure ()
  | some step =>
    Run.report ("Default chain step '" ++ step.letter ++ "' handled '" ++ name.text ++ "'.")

/-- Takes the guard of a choice and reports it. -/
def follow (name : Value) (args : List V) (x : Choice) : Run σ Unit := do
  sim.takeChoice again args x
  reportStep name x.candidate.step

/-- Refuses a transition. -/
def refuse {α : Type} (p : Place) (name : Value) : Run σ α := do
  Run.report ("No default handles '" ++ name.text ++ "' in state " ++ p.scopedName ++ ".")
  throw (.refused p.scopedName name.text)

/-- Trying guards is a search among them. -/
theorem tryGuards_eq (c : Candidate) (args : List V) (gs : List Guard) :
    sim.tryGuards again c.placed (bind c.transition (c.arguments args)) gs = (do
      match ← gs.findM? (sim.tests again args c) with
      | some g => do
        sim.takeChoice again args ⟨c, g⟩
        return true
      | none => return false) := by
  induction gs with
  | nil => simp [tryGuards]
  | cons g gs ih =>
    rw [tryGuards, List.findM?, tests]
    simp only [bind_assoc]
    -- a guard that does not hold is reported, and the others are searched
    congr 1
    funext b
    cases b
    · simp only [Bool.false_eq_true, if_false, bind_assoc, pure_bind, ih]
      rfl
    · simp only [if_true, pure_bind, takeChoice, bind_assoc]
      rfl

/-- Trying a candidate is a search among its guards. -/
theorem tryTransition_eq (c : Candidate) (args : List V) :
    sim.tryTransition again c.placed (c.arguments args) = (do
      match ← sim.choose again args c with
      | some x => do
        sim.takeChoice again args x
        return true
      | none => return false) := by
  have hguards := tryGuards_eq sim again c args c.transition.ordered
  rw [Candidate.transition] at hguards
  simp only [tryTransition, choose, Candidate.transition, hguards, bind_assoc, pure_bind]
  refine bind_congr fun _ => bind_congr fun _ => bind_congr fun g => ?_
  cases g <;> rfl

/-- Trying links is a search among the candidates they are made of, and a refusal
    if nothing is found. -/
theorem tryLinks_eq (p : Place) (name : Value) (args : List V) (cs : List Candidate)
    (hstep : ∀ c ∈ cs, c.step ≠ none)
    (harity : ∀ c ∈ cs, c.transition.arity = (c.arguments args).length) :
    sim.tryLinks again p.scopedName name args
        (cs.filterMap Candidate.link? ++ [⟨.systemDefault, none⟩]) = (do
      match ← cs.findSomeM? (sim.choose again args) with
      | some x => sim.follow again name args x
      | none => refuse p name) := by
  induction cs with
  | nil => simp [tryLinks, refuse]
  | cons c cs ih =>
    obtain ⟨hc, hstep⟩ := List.forall_mem_cons.1 hstep
    obtain ⟨hca, harity⟩ := List.forall_mem_cons.1 harity
    obtain ⟨step, hs⟩ := Option.ne_none_iff_exists'.1 hc
    have hargs : linkArguments step args = c.arguments args := by
      rw [Candidate.arguments, hs]
    have hlink : Candidate.link? c = some ⟨step, some c.placed⟩ := by
      rw [Candidate.link?, hs]
      rfl
    -- the number of arguments fits, so the link is not passed over
    have ha : (c.placed.transition.arity != (c.arguments args).length) = false := by
      simpa [Candidate.transition] using hca
    simp only [List.filterMap_cons, hlink, List.cons_append, tryLinks, hargs, ha,
      Bool.false_eq_true, if_false, tryTransition_eq, List.findSomeM?, choose, bind_assoc, pure_bind]
    refine bind_congr fun _ => bind_congr fun _ => bind_congr fun g => ?_
    cases g with
    | none => simp [ih hstep harity]
    | some g => simp [follow, reportStep, hs]

/-- Dispatching in a state is a search among its candidates, and a refusal if
    nothing is found. -/
theorem handle_eq_choose (p : Place) (name : Value) (args : List V) :
    sim.handle again p name args = (do
      match ← (p.candidates name args.length).findSomeM? (sim.choose again args) with
      | some x => sim.follow again name args x
      | none => refuse p name) := by
  have hfallbacks : sim.tryLinks again p.scopedName name args
      (p.defaultChain name (.arity args.length) false) = (do
      match ← (p.fallbacks name args.length).findSomeM? (sim.choose again args) with
      | some x => sim.follow again name args x
      | none => refuse p name) := by
    rw [Place.defaultChain_eq]
    exact tryLinks_eq sim again p name args _ (fun c hc => p.step_of_mem_fallbacks hc)
      fun c hc => p.arity_of_mem_fallbacks hc
  rw [handle, Place.candidates, Candidate.find]
  cases ht : p.state.ofArity? name args.length with
  | none => simp [ht, hfallbacks]
  | some t =>
    have htry := tryTransition_eq sim again ⟨none, ⟨p, t⟩⟩ args
    simp only [Candidate.arguments] at htry
    simp only [Option.bind_some, ht, Option.map_some, Option.toList_some, List.singleton_append,
      htry, List.findSomeM?, choose, bind_assoc, pure_bind]
    refine bind_congr fun _ => bind_congr fun _ => bind_congr fun g => ?_
    cases g with
    | none => simp [hfallbacks]
    | some g => simp [follow, reportStep]

/-- A candidate that has guards is searched by asking for its choices. -/
theorem choose_eq {c : Candidate} (args : List V) (hc : c.transition.guards ≠ []) :
    sim.choose again args c = c.choices.findM? (sim.asks again args) := by
  -- the checks of the candidate are made when its first guard is asked for, so
  -- there has to be one
  obtain ⟨g, gs, hordered⟩ := List.exists_cons_of_ne_nil (Transition.ordered_ne_nil hc)
  rw [choose, Candidate.choices_eq, findM?_map]
  cases hbind : bindMismatch? c.transition (c.arguments args) with
  | some m => simp [hordered, asks, hbind]
  | none =>
    cases horder : c.transition.orderMismatch? with
    | some m => simp [hordered, asks, hbind, horder]
    | none => simp [asks, hbind, horder]

/-- If all candidates have guards, they are searched by asking for their choices. -/
theorem findSomeM?_choose (args : List V) {cs : List Candidate}
    (hguards : ∀ c ∈ cs, c.transition.guards ≠ []) :
    cs.findSomeM? (sim.choose again args) =
      ((cs.flatMap Candidate.choices).findM? (sim.asks again args) : Run σ (Option Choice)) := by
  induction cs with
  | nil => rfl
  | cons c cs ih =>
    obtain ⟨hc, hcs⟩ := List.forall_mem_cons.1 hguards
    rw [List.findSomeM?, List.flatMap_cons, findM?_append, choose_eq sim again args hc, ih hcs]
    rfl

/-- If all candidates have guards, dispatching is a search among the choices. -/
theorem handle_eq (p : Place) (name : Value) (args : List V)
    (hguards : ∀ c ∈ p.candidates name args.length, c.transition.guards ≠ []) :
    sim.handle again p name args = (do
      match ← (p.choices name args.length).findM? (sim.asks again args) with
      | some x => sim.follow again name args x
      | none => refuse p name) := by
  rw [handle_eq_choose, findSomeM?_choose sim again args hguards]
  rfl

end Simulator
end StateMachine
