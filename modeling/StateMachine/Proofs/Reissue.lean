import StateMachine.Proofs.Steps

/-!
# Transitions issued after a pop

A guard that pops may issue a further transition, whose guard may pop and issue
a further one, and so on. The guards of a machine may well name each other in a
circle. But each of them takes a state off the stack, and with an aloof host
nothing else happens to the stack meanwhile, unless it is emptied.

* What a dispatch comes to, with the choices that are taken on the way, one
  inside the other, is described without any limit (`Simulator.Dispatches`).
* A choice that issues a further transition leaves fewer states on the stack
  (`takeUpTo_drops`).
* So every dispatch comes to something, takes at most one choice more than there
  are suspended states, and does not reach the limit of the simulator
  (`reissues_end`).
-/

namespace StateMachine.Simulator

variable {σ V : Type}

section

variable (sim : Simulator σ V) (again : Dispatch σ V)

/-! ## Up to the further transition -/

/-- Looks for the choice to be taken, or refuses the transition. -/
def pick (p : Place) (name : Value) (args : List V) : Run σ Choice := do
  match ← (p.candidates name args.length).findSomeM? (sim.choose again args) with
  | some x => return x
  | none => refuse p name

/-- The arguments of the transition that follows a pop, if there is one. -/
def offer (plan : Plan) (bindings : Bindings V) : Run σ (Option (List V)) :=
  if plan.popTransition.isSet then do
    let args ← sim.argumentList again plan.popArguments bindings
    Run.report ("Re-issuing '" ++ plan.popTransition.text ++ "' after pop.")
    return some args
  else return none

/-- Takes a choice up to the transition that follows a pop; gives its arguments, if
    there is one. -/
def takeUpTo (args : List V) (x : Choice) : Run σ (Option (List V)) := do
  let state ← Run.current
  Run.report (takenLine x.candidate.transition x.guard state)
  Run.fit x.guard.planMismatch?
  sim.takeAlone again (x.guard.plan x.candidate.placed.place.map.name.text) x.guard.actions
    (bind x.candidate.transition (x.candidate.arguments args))
  sim.offer again (x.guard.plan x.candidate.placed.place.map.name.text)
    (bind x.candidate.transition (x.candidate.arguments args))

theorem handle_eq_pick (p : Place) (name : Value) (args : List V) :
    sim.handle again p name args = sim.pick again p name args >>= sim.follow again name args := by
  rw [handle_eq_choose, pick, bind_assoc]
  refine bind_congr fun x => ?_
  cases x <;> simp [refuse]

/-- Following a choice is taking it up to the further transition, and then issuing
    that. -/
theorem follow_eq_takeUpTo (name : Value) (args : List V) (x : Choice) :
    sim.follow again name args x = (do
      match ← sim.takeUpTo again args x with
      | some args' => do
        again x.guard.popTransition args'
        reportStep name x.candidate.step
      | none => reportStep name x.candidate.step) := by
  have hgoOn : ∀ (plan : Plan) (bindings : Bindings V), sim.goOn again plan bindings = (do
      match ← sim.offer again plan bindings with
      | some args' => again plan.popTransition args'
      | none => pure ()) := by
    intro plan bindings
    rw [goOn, offer]
    split <;> simp
  simp only [follow, takeChoice, take_eq_takeAlone, hgoOn, takeUpTo, bind_assoc]
  refine bind_congr fun _ => bind_congr fun _ => bind_congr fun _ => bind_congr fun _ =>
    bind_congr fun r => ?_
  cases r with
  | none => exact pure_bind _ _
  | some args' => rfl

end

/-! ## The depth of the stack -/

theorem depth_ignoresListeners (P : Nat → Prop) :
    Context.IgnoresListeners fun c => P c.depth := by
  intro c c' hcc' hc
  rwa [Context.depth, hcc'.stack_eq]

/-- Only a guard that pops issues a further transition. -/
theorem move_of_popTransition {g : Guard} (hset : g.popTransition.isSet = true) :
    g.move = .pop := by
  rw [Guard.popTransition] at hset
  split at hset
  · next hpop =>
    simp only [Bool.and_eq_true] at hpop
    exact beq_iff_eq.1 hpop.1.1
  · cases hset

section Depth

variable {sim : Simulator σ V} (h : sim.host.Aloof) (again : Dispatch σ V)

include h

/-- What an aloof host does leaves the stack as it is, or empty. -/
theorem steady_depth {P : Nat → Prop} (hP : P 0) :
    sim.Steady (fun c => P c.depth) (fun _ => True) where
  aloof := h
  raises _ _ _ _ _ := trivial
  faults _ _ := trivial
  listeners := depth_ignoresListeners P
  emptyStack _ _ := hP
  current _ _ _ _ := .inr trivial

/-- A pop that succeeds takes a state off the stack. -/
theorem pop_drops (d : Nat) :
    Run.Triple (fun s => s.context.depth ≤ d) (Run.attempt sim.host Context.pop)
      (fun _ s => s.context.depth < d) fun _ s => s.context.depth ≤ d ∧ True := by
  intro s hs
  rw [Run.on_attempt, Context.pop]
  cases hstack : s.context.stack with
  | nil => exact ⟨hs, trivial⟩
  | cons name rest =>
    -- the state is off the stack before the listeners are told
    have hrest : rest.length < d := by rwa [Context.depth, hstack] at hs
    have hnotify : ∀ change ids, Run.Triple (fun s => s.context.depth < d)
        (Run.notifyAll sim.host change ids) (fun _ s => s.context.depth < d)
        fun _ s => s.context.depth ≤ d ∧ True := by
      intro change ids
      have hkeeps := notifyAll_keeps (steady_depth h (P := (· < d)) (Nat.zero_lt_of_lt hrest))
      exact (hkeeps change ids).weaken (fun _ hs => hs) (fun _ _ hs => hs)
        fun _ _ hs => ⟨Nat.le_of_lt hs.1, trivial⟩
    dsimp only [Context.arrive]
    by_cases hsame : (s.context.leaving == some name) = true
    · rw [if_pos hsame]
      exact hrest
    · rw [if_neg hsame]
      exact hnotify _ _ _ hrest

/-- A guard that pops takes a state off the stack, if it succeeds. -/
theorem takeAlone_drops {g : Guard} (hmove : g.move = .pop) (mapName : String)
    (bindings : Bindings V) (d : Nat) :
    Run.Triple (fun s => s.context.depth ≤ d)
      (sim.takeAlone again (g.plan mapName) g.actions bindings) (fun _ s => s.context.depth < d)
      (fun _ s => s.context.depth ≤ d ∧ True) := by
  have hsteady := steady_depth h (P := (· ≤ d)) (Nat.zero_le d)
  refine takeAlone_triple hsteady again (R := fun _ => True) (fun _ hc => hc)
    (fun _ _ _ _ => trivial) (fun _ => trivial) fun saved _ => ?_
  have hcommit : sim.commit again (g.plan mapName) saved = Run.attempt sim.host Context.pop := by
    simp [commit, Guard.plan, hmove]
  have hperform := performAll_keeps hsteady again bindings g.actions
  rw [actAndCommit, hcommit]
  -- the actions may empty the stack, and the pop fails then
  refine .ite (fun _ => .ensure hperform (fun _ => pop_drops h d) fun f => ?_)
    fun _ => .bind hperform fun _ => pop_drops h d
  exact (pop_drops h d).weaken (fun _ hs => hs.1) (fun _ _ hs => ⟨Nat.le_of_lt hs, trivial⟩)
    fun _ _ hs => hs

/-- A choice that issues a further transition takes a state off the stack. -/
theorem takeUpTo_drops (args : List V) (x : Choice) (d : Nat) :
    Run.Triple (fun s => s.context.depth ≤ d) (sim.takeUpTo again args x)
      (fun r s => ∀ args', r = some args' → s.context.depth < d) fun _ _ => True := by
  have hsteady := steady_depth h (P := (· ≤ d)) (Nat.zero_le d)
  have hreport : ∀ line, Run.Keeps (fun c => c.depth ≤ d) (fun _ => True)
      (Run.report line : Run σ Unit) := fun line => .report line
  refine .bind (current_keeps hsteady).forget fun state => .bind (hreport _).forget fun _ =>
    .bind (fit_keeps hsteady _).forget fun _ => ?_
  by_cases hset : x.guard.popTransition.isSet = true
  · refine .bind (takeAlone_drops h again (move_of_popTransition hset) _ _ d).forget fun _ => ?_
    refine .ite (fun _ => ?_) fun hunset => absurd hset hunset
    have hargs := fun text bindings => (argumentList_stays again h text bindings).keeps
      (E := fun _ => True) (depth_ignoresListeners (· < d)) fun _ _ _ _ => trivial
    exact .bind (hargs _ _).forget fun args' s hs _ _ => hs
  · refine .bind .any fun _ => .ite (fun hset' => absurd hset' hset) fun _ => ?_
    exact .pure fun _ _ args' hargs' => by cases hargs'

end Depth

/-! ## Dispatches one inside the other -/

/-- What a dispatch comes to from what taking its choice came to: the choice is
    reported, and no transition is under way any more. -/
def concluded (name : Value) (x : Choice) :
    Except Fault Unit × Simulation σ → Except Fault Unit × Simulation σ
  | (.ok (), s) => (.ok (), ((reportStep name x.candidate.step).on s).2.idle)
  | (.error f, s) => (.error f, s.idle)

/-- What a dispatch comes to, with the choices that are taken one inside the other.
    With a host that is aloof, it does not matter how that would issue
    transitions. -/
inductive Dispatches (sim : Simulator σ V) (again : Dispatch σ V) :
    Value → List V → Simulation σ → List Choice → Except Fault Unit × Simulation σ → Prop
  /-- There is no state to dispatch in. -/
  | lost {name : Value} {args : List V} {s : Simulation σ} : (∀ p, ¬sim.At p s) →
    Dispatches sim again name args s [] ((sim.dispatchBy again name args).on s)
  /-- No choice is found. -/
  | refused {name : Value} {args : List V} {s s₁ : Simulation σ} {p : Place} {f : Fault} :
    sim.At p s → (sim.pick again p name args).on (s.underway name) = (.error f, s₁) →
    Dispatches sim again name args s [] (.error f, s₁.idle)
  /-- Taking the choice ends in a fault. -/
  | failed {name : Value} {args : List V} {s s₁ s₂ : Simulation σ} {p : Place} {x : Choice}
    {f : Fault} :
    sim.At p s → (sim.pick again p name args).on (s.underway name) = (.ok x, s₁) →
    (sim.takeUpTo again args x).on s₁ = (.error f, s₂) →
    Dispatches sim again name args s [x] (concluded name x (.error f, s₂))
  /-- The choice is taken, and no transition follows. -/
  | ended {name : Value} {args : List V} {s s₁ s₂ : Simulation σ} {p : Place} {x : Choice} :
    sim.At p s → (sim.pick again p name args).on (s.underway name) = (.ok x, s₁) →
    (sim.takeUpTo again args x).on s₁ = (.ok none, s₂) →
    Dispatches sim again name args s [x] (concluded name x (.ok (), s₂))
  /-- The choice is taken, and a further transition is dispatched. -/
  | further {name : Value} {args args' : List V} {s s₁ s₂ : Simulation σ} {p : Place} {x : Choice}
    {xs : List Choice} {o : Except Fault Unit × Simulation σ} :
    sim.At p s → (sim.pick again p name args).on (s.underway name) = (.ok x, s₁) →
    (sim.takeUpTo again args x).on s₁ = (.ok (some args'), s₂) →
    Dispatches sim again x.guard.popTransition args' s₂ xs o →
    Dispatches sim again name args s (x :: xs) (concluded name x o)

/-- A dispatch in transition ends in a fault before a choice is looked for. -/
theorem dispatchBy_in_transition {sim : Simulator σ V} (again : Dispatch σ V) {name : Value}
    {args : List V} {s : Simulation σ} (hcurrent : s.context.current = none) :
    (sim.dispatchBy again name args).on s =
      (.error (.context (.inTransition s.context.name.text s.context.transition.text)), s) := by
  have hfault := Run.on_current (s := s)
  rw [hcurrent] at hfault
  rw [dispatchBy, Run.on_bind_error hfault]

/-- Without a state, a dispatch ends in a fault before a choice is looked for. -/
theorem exists_dispatchBy_lost {sim : Simulator σ V} {s : Simulation σ} (hs : ∀ p, ¬sim.At p s) :
    ∃ f, ∀ again name args, (sim.dispatchBy again name args).on s = (.error f, s) := by
  cases hcurrent : s.context.current with
  | none => exact ⟨_, fun again _ _ => dispatchBy_in_transition again hcurrent⟩
  | some state =>
    have hplace : (sim.place state : Run σ Place).on s = (.error (.noState state), s) := by
      cases hp : sim.machine.stateNamed? state with
      | none => rw [place, hp, Run.on_throw]
      | some p => exact absurd ⟨state, hcurrent, hp⟩ (hs p)
    refine ⟨.noState state, fun again name args => ?_⟩
    rw [dispatchBy, Run.on_bind_ok (Run.on_current_of_some hcurrent), Run.on_bind_error hplace]

/-- Looking for a choice keeps every steady property. -/
theorem pick_keeps {sim : Simulator σ V} {C : Context String → Prop} {E : Fault → Prop}
    (h : sim.Steady C E) (again : Dispatch σ V) {p : Place} {name : Value} {args : List V} :
    Run.Keeps C E (sim.pick again p name args) := by
  refine .bind (.findSomeM? fun c => ?_) fun r => ?_
  · refine .bind (fit_keeps h _) fun _ => .bind (fit_keeps h _) fun _ => ?_
    exact .findM?_bind (fun g _ => tests_keeps h again args c g) (fun g _ => .pure _) (.pure _)
  · cases r with
    | none => exact .bind (.report _) fun _ => .throw (h.faults _ (by simp))
    | some x => exact .pure x

section Aloof

variable {sim : Simulator σ V} (h : sim.host.Aloof) (again : Dispatch σ V) {name : Value}
  {args : List V} {s s₁ s₂ : Simulation σ} {p : Place} {x : Choice}

include h

theorem pick_again (again' : Dispatch σ V) :
    sim.pick again p name args = sim.pick again' p name args := by
  have hchoose : sim.choose again args = sim.choose again' args := by
    funext c
    simp only [choose, tests_again again h.observes again']
  rw [pick, pick, hchoose]

theorem takeUpTo_again (again' : Dispatch σ V) :
    sim.takeUpTo again args x = sim.takeUpTo again' args x := by
  simp only [takeUpTo, takeAlone, offer, leave_again again again' h,
    actAndCommit_again again again' h, argumentList_again again again' h.observes]

/-- A dispatch that goes on to a further transition leaves fewer states on the
    stack. -/
theorem depth_lt_of_further {args' : List V}
    (hpick : (sim.pick again p name args).on (s.underway name) = (.ok x, s₁))
    (htake : (sim.takeUpTo again args x).on s₁ = (.ok (some args'), s₂)) :
    s₂.context.depth < s.context.depth := by
  have hs : (s.underway name).context.depth ≤ s.context.depth := Nat.le_refl _
  have hsteady := steady_depth h (P := (· ≤ s.context.depth)) (Nat.zero_le _)
  have hs₁ := (pick_keeps hsteady again).result hs hpick
  exact (takeUpTo_drops h again args x s.context.depth).result hs₁ htake args' rfl

/-- A dispatch that finds no choice. -/
theorem dispatchBy_refused {f : Fault} (again' : Dispatch σ V) (hp : sim.At p s)
    (hpick : (sim.pick again p name args).on (s.underway name) = (.error f, s₁)) :
    (sim.dispatchBy again' name args).on s = (.error f, s₁.idle) := by
  rw [pick_again h again again'] at hpick
  rw [dispatchBy_on again' hp, handle_eq_pick, Run.on_bind_error hpick]

/-- A dispatch that takes a choice. -/
theorem dispatchBy_taken (again' : Dispatch σ V) (hp : sim.At p s)
    (hpick : (sim.pick again p name args).on (s.underway name) = (.ok x, s₁))
    {r : Except Fault (Option (List V))} (htake : (sim.takeUpTo again args x).on s₁ = (r, s₂)) :
    (sim.dispatchBy again' name args).on s =
      concluded name x (match r with
        | .error f => (.error f, s₂)
        | .ok none => (.ok (), s₂)
        | .ok (some args') => (again' x.guard.popTransition args').on s₂) := by
  have hreport : ∀ s₃ : Simulation σ, (reportStep name x.candidate.step).on s₃ =
      (.ok (), ((reportStep name x.candidate.step).on s₃).2) := by
    intro s₃
    cases x.candidate.step <;> rfl
  rw [pick_again h again again'] at hpick
  rw [takeUpTo_again h again again'] at htake
  rw [dispatchBy_on again' hp, handle_eq_pick, Run.on_bind_ok hpick, follow_eq_takeUpTo]
  rcases r with f | _ | args'
  · rw [Run.on_bind_error htake]
    rfl
  · rw [Run.on_bind_ok htake]
    dsimp only
    rw [hreport]
    rfl
  · rw [Run.on_bind_ok htake]
    dsimp only
    rcases hagain : (again' x.guard.popTransition args').on s₂ with ⟨f | _, s₃⟩
    · rw [Run.on_bind_error hagain]
      rfl
    · rw [Run.on_bind_ok hagain, hreport]
      rfl

/-- A dispatch takes at most one choice more than there are suspended states, and
    any limit beyond their number allows it. -/
theorem Dispatches.bounded {xs : List Choice} {o : Except Fault Unit × Simulation σ}
    (hd : sim.Dispatches again name args s xs o) :
    xs.length ≤ s.context.depth + 1 ∧
      ∀ limit, s.context.depth < limit → (sim.dispatch limit name args).on s = o := by
  induction hd with
  | lost hs =>
    refine ⟨Nat.zero_le _, fun limit hlimit => ?_⟩
    obtain ⟨limit, rfl⟩ := Nat.exists_eq_add_one_of_ne_zero (Nat.ne_zero_of_lt hlimit)
    obtain ⟨f, hlost⟩ := exists_dispatchBy_lost hs
    exact (hlost _ _ _).trans (hlost again _ _).symm
  | refused hp hpick =>
    refine ⟨Nat.zero_le _, fun limit hlimit => ?_⟩
    obtain ⟨limit, rfl⟩ := Nat.exists_eq_add_one_of_ne_zero (Nat.ne_zero_of_lt hlimit)
    exact dispatchBy_refused h again _ hp hpick
  | failed hp hpick htake | ended hp hpick htake =>
    refine ⟨Nat.le_add_left _ _, fun limit hlimit => ?_⟩
    obtain ⟨limit, rfl⟩ := Nat.exists_eq_add_one_of_ne_zero (Nat.ne_zero_of_lt hlimit)
    exact dispatchBy_taken h again _ hp hpick htake
  | further hp hpick htake _ ih =>
    -- one state less on the stack pays for the choice and for the limit
    obtain ⟨hlength, hdispatch⟩ := ih
    have hdepth := depth_lt_of_further h again hpick htake
    refine ⟨by rw [List.length_cons]; omega, fun limit hlimit => ?_⟩
    obtain ⟨limit, rfl⟩ := Nat.exists_eq_add_one_of_ne_zero (Nat.ne_zero_of_lt hlimit)
    have htaken := dispatchBy_taken h again (sim.dispatch limit) hp hpick htake
    dsimp only at htaken
    rwa [hdispatch limit (by omega)] at htaken

/-- Every dispatch comes to something. -/
theorem exists_dispatches (name : Value) (args : List V) (s : Simulation σ) :
    ∃ xs o, sim.Dispatches again name args s xs o := by
  -- each further transition finds fewer suspended states
  induction hdepth : s.context.depth using Nat.strongRecOn generalizing name args s with
  | ind d ih =>
    by_cases hat : ∃ p, sim.At p s
    · obtain ⟨p, hp⟩ := hat
      rcases hpick : (sim.pick again p name args).on (s.underway name) with ⟨f | x, s₁⟩
      · exact ⟨_, _, .refused hp hpick⟩
      · rcases htake : (sim.takeUpTo again args x).on s₁ with ⟨f | _ | args', s₂⟩
        · exact ⟨_, _, .failed hp hpick htake⟩
        · exact ⟨_, _, .ended hp hpick htake⟩
        · have hlt := depth_lt_of_further h again hpick htake
          obtain ⟨xs, o, hd⟩ := ih _ (hdepth ▸ hlt) x.guard.popTransition args' s₂ rfl
          exact ⟨_, _, .further hp hpick htake hd⟩
    · exact ⟨_, _, .lost fun p hp => hat ⟨p, hp⟩⟩

end Aloof

/-- With an aloof host, issuing a transition comes to an end, from whatever
    simulation, however the guards that pop name further transitions. At most one
    guard more is taken than there are suspended states, and any limit beyond their
    number gives the same. -/
theorem reissues_end (sim : Simulator σ V) (h : sim.host.Aloof) (again : Dispatch σ V)
    (name : Value) (args : List V) (s : Simulation σ) :
    (∃ xs o, sim.Dispatches again name args s.unlogged xs o) ∧
    ∀ xs o, sim.Dispatches again name args s.unlogged xs o →
      xs.length ≤ s.context.depth + 1 ∧
      (∀ limit, s.context.depth < limit → (sim.dispatch limit name args).on s.unlogged = o) ∧
      (sim.issue name args).on s = issued o := by
  refine ⟨exists_dispatches h again name args _, fun xs o hd => ?_⟩
  obtain ⟨hlength, hdispatch⟩ := hd.bounded h again
  refine ⟨hlength, hdispatch, issue_on (hdispatch _ ?_)⟩
  change s.context.depth < nestingLimit + s.context.depth + 1
  omega

/-- The door after it was asked. -/
def askedDoor : Simulation Unit :=
  (((doorWith stillHost "False").issue (.str "ask") []).on (shutDoor stillHost "False")).2

/-- An answer goes back to the door that is shut, and pushes it. -/
theorem answered_door_opens :
    stillHost.Aloof ∧ askedDoor.context.depth = 1 ∧
      (∃ xs o, (doorWith stillHost "False").Dispatches (fun _ _ => pure ()) (.str "answer") []
          askedDoor.unlogged xs o ∧ xs.length ≤ 2 ∧
        ((doorWith stillHost "False").issue (.str "answer") []).on askedDoor = issued o) ∧
      (((doorWith stillHost "False").issue (.str "answer") []).on askedDoor).2.context.current =
        some "Hall::Open" := by
  obtain ⟨⟨xs, o, hd⟩, hbound⟩ := reissues_end (doorWith stillHost "False") stillHost_aloof
    (fun _ _ => pure ()) (.str "answer") [] askedDoor
  have hdepth : askedDoor.context.depth = 1 := by decide +kernel
  obtain ⟨hlength, -, hissue⟩ := hbound xs o hd
  rw [hdepth] at hlength
  exact ⟨stillHost_aloof, hdepth, ⟨xs, o, hd, hlength, hissue⟩, by decide +kernel⟩

end StateMachine.Simulator
