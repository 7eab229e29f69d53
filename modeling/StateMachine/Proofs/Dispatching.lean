import StateMachine.Proofs.Selection
import StateMachine.Proofs.Validated

/-!
# Dispatching

What issuing a transition comes to in a state of a loaded machine. Either a
choice is *selected* and taken, or the dispatch ends in a fault: the transition
is refused, because no choice holds, or asking whether a choice holds raised
the fault (`Simulator.Selects`).

* Every dispatch selects the first choice that holds, and asks no choice after
  it.
* A dispatch that selects none raises its fault out of `issue`. If the host's
  expressions only observe, it leaves the machine where it was, and no listener
  is told of anything (`dispatch_selects_first_choice`).
-/

namespace StateMachine

variable {σ V : Type}

namespace Simulation

/-- The simulation with a transition of a name under way. -/
def underway (s : Simulation σ) (name : Value) : Simulation σ :=
  { s with context := s.context.setTransition name }

/-- The simulation with no transition under way. -/
def idle (s : Simulation σ) : Simulation σ :=
  s.underway .null

/-- The simulation with an empty log. -/
def unlogged (s : Simulation σ) : Simulation σ :=
  { s with log := [] }

/-- The machine is where it was, and no transition is under way. -/
structure Unmoved (s s' : Simulation σ) : Prop where
  current : s'.context.current = s.context.current
  previous : s'.context.previous = s.context.previous
  stack : s'.context.stack = s.context.stack
  transition : s'.context.transition = .null

/-- What changes the listeners at most moves nothing. -/
theorem Unmoved.of_alike {s s' : Simulation σ} {name : Value}
    (h : (s.underway name).context.Alike s'.context) : s.Unmoved s'.idle where
  current := h.current_eq
  previous := h.previous_eq
  stack := h.stack_eq
  transition := rfl

end Simulation

/-- A state found by its scoped name is a real state of the machine with this
    scoped name. -/
theorem Machine.stateNamed?_eq_some {m : Machine} {name : String} {p : Place}
    (h : m.stateNamed? name = some p) : p ∈ m.places ∧ p.scopedName = name :=
  ⟨List.mem_reverse.1 (List.mem_of_find?_eq_some h), by simpa using List.find?_some h⟩

/-- A candidate belongs to a state of the machine. -/
theorem Machine.mem_allPlaces_of_mem_candidates {m : Machine} {p : Place} (hp : p ∈ m.places)
    {name : Value} {arity : Nat} {c : Candidate} (hc : c ∈ p.candidates name arity) :
    c.placed.place ∈ m.allPlaces := by
  obtain ⟨hmap, hstate⟩ := Machine.mem_places.1 hp
  obtain ⟨hplace | hdefault, -⟩ := Place.mem_candidates hc
  · rw [hplace]
    exact Machine.mem_allPlaces.2 ⟨hmap, List.mem_append_right _ hstate⟩
  · obtain ⟨hsame, hd⟩ := Place.default?_eq_some.1 hdefault
    rw [← hsame] at hmap
    refine Machine.mem_allPlaces.2 ⟨hmap, ?_⟩
    rw [StateMap.allStates, hsame, hd]
    exact List.mem_cons_self

/-- A candidate of a valid machine is valid. -/
theorem Machine.Valid.of_mem_candidates {m : Machine} (hm : m.Valid) {p : Place} (hp : p ∈ m.places)
    {name : Value} {arity : Nat} {c : Candidate} (hc : c ∈ p.candidates name arity) :
    c.transition.Valid m p.map := by
  rw [← Place.map_of_mem_candidates hc]
  exact hm.transitions _ (mem_allPlaces_of_mem_candidates hp hc) _ (Place.mem_candidates hc).2

namespace Simulator

variable (sim : Simulator σ V) (again : Dispatch σ V)

/-- The simulation is in a real state of the machine. -/
def At (p : Place) (s : Simulation σ) : Prop :=
  ∃ name, s.context.current = some name ∧ sim.machine.stateNamed? name = some p

/-- What a dispatch selects, and the simulation in which it does. -/
inductive Selects (p : Place) (name : Value) (args : List V) (s : Simulation σ) :
    Except Fault Choice → Simulation σ → Prop
  /-- The first choice that holds. -/
  | choice {x : Choice} {s₁ : Simulation σ} :
    Run.Search (sim.asks again args) (p.choices name args.length) (s.underway name)
      (.ok (some x), s₁) → Selects p name args s (.ok x) s₁
  /-- No choice holds; the transition is refused. -/
  | refused {s₁ s₂ : Simulation σ} :
    Run.Search (sim.asks again args) (p.choices name args.length) (s.underway name)
      (.ok none, s₁) →
      s₂ = { s₁ with log := s₁.log ++
        ["No default handles '" ++ name.text ++ "' in state " ++ p.scopedName ++ "."] } →
      Selects p name args s (.error (.refused p.scopedName name.text)) s₂
  /-- Asking whether a choice holds raises a fault. -/
  | raised {f : Fault} {s₁ : Simulation σ} :
    Run.Search (sim.asks again args) (p.choices name args.length) (s.underway name)
      (.error f, s₁) → Selects p name args s (.error f) s₁

/-- What a dispatch comes to once it has selected: the choice is taken, or the fault
    is raised. No transition is under way afterwards. -/
def settled (name : Value) (args : List V) :
    Except Fault Choice → Simulation σ → Except Fault Unit × Simulation σ
  | .ok x, s => (((sim.follow again name args x).on s).1, ((sim.follow again name args x).on s).2.idle)
  | .error f, s => (.error f, s.idle)

/-- The simulator with listeners that do something else when they are told of a
    change. -/
def notifying (notify : String → Change String → Run σ Unit) : Simulator σ V :=
  { sim with host := { sim.host with notify := notify } }

variable {sim} {p : Place} {name : Value} {args : List V} {s s₁ : Simulation σ}

/-! ## One dispatch -/

/-- A dispatch in a state handles the transition, with its name under way
    meanwhile. -/
theorem dispatchBy_on (hp : sim.At p s) :
    (sim.dispatchBy again name args).on s =
      (((sim.handle again p name args).on (s.underway name)).1,
        ((sim.handle again p name args).on (s.underway name)).2.idle) := by
  obtain ⟨state, hcurrent, hstate⟩ := hp
  have hplace : sim.place state = (pure p : Run σ Place) := by rw [place, hstate]
  rw [dispatchBy, Run.on_bind_ok (Run.on_current_of_some hcurrent), hplace, pure_bind,
    Run.on_bind_ok (Run.on_changeContext _), Run.on_ensure]
  rfl

/-- Every dispatch selects a choice or a fault. -/
theorem exists_selects (sim : Simulator σ V) (again : Dispatch σ V) (p : Place) (name : Value)
    (args : List V) (s : Simulation σ) : ∃ r s₁, sim.Selects again p name args s r s₁ := by
  have h := Run.findM?_on (sim.asks again args) (p.choices name args.length) (s.underway name)
  generalize Run.on _ (s.underway name) = o at h
  rcases o with ⟨f | _ | x, s₁⟩
  · exact ⟨_, _, .raised h⟩
  · exact ⟨_, _, .refused h rfl⟩
  · exact ⟨_, _, .choice h⟩

/-- A dispatch whose search comes to nothing refuses the transition. -/
theorem exists_selects_refused (sim : Simulator σ V) (again : Dispatch σ V) (p : Place)
    (name : Value) (args : List V) (s : Simulation σ)
    (h : (((p.choices name args.length).findM? (sim.asks again args)).on
      (s.underway name)).1.toOption.map Option.isSome = some false) :
    ∃ s₁, sim.Selects again p name args s (.error (.refused p.scopedName name.text)) s₁ := by
  obtain ⟨r, s₁, hr⟩ := exists_selects sim again p name args s
  cases hr with
  | refused hs he => exact ⟨_, .refused hs he⟩
  | choice hs | raised hs =>
    -- the search would have come to something else
    rw [hs.eq] at h
    cases h

/-- A dispatch comes to what it selects. -/
theorem Selects.dispatchBy_on {r : Except Fault Choice} (h : sim.Selects again p name args s r s₁)
    (hm : sim.machine.WellFormed) (hp : sim.At p s) :
    (sim.dispatchBy again name args).on s = sim.settled again name args r s₁ := by
  have hguards : ∀ c ∈ p.candidates name args.length, c.transition.guards ≠ [] := by
    obtain ⟨state, -, hstate⟩ := hp
    intro c hc
    exact hm.guards_of_mem_candidates (Machine.stateNamed?_eq_some hstate).1 hc
  rw [Simulator.dispatchBy_on again hp, handle_eq sim again p name args hguards]
  cases h with
  | choice hs =>
    rw [Run.on_bind_ok hs.eq]
    rfl
  | refused hs he =>
    rw [Run.on_bind_ok hs.eq, he]
    rfl
  | raised hs =>
    rw [Run.on_bind_error hs.eq]
    rfl

/-- What issuing a transition comes to from what the dispatch came to: the state
    arrived at with the log, or the fault. -/
def issued : Except Fault Unit × Simulation σ →
    Except Fault (String × List String) × Simulation σ
  | (.ok (), s) => (.ok (s.context.current.getD "InTransition", s.log), s.unlogged)
  | (.error f, s) => (.error f, s)

theorem issue_on {o : Except Fault Unit × Simulation σ}
    (ho : (sim.dispatch (limit s.context) name args).on s.unlogged = o) :
    (sim.issue name args).on s = issued o := by
  have hhere : (sim.dispatchHere name args).on s.unlogged = o := by
    rw [dispatchHere, Run.on_bind_ok Run.on_get]
    exact ho
  rw [issue, issueBy, Run.on_bind_ok Run.on_clearLog]
  rcases o with ⟨f | _, s₁⟩
  · exact Run.on_bind_error hhere
  · exact Run.on_bind_ok hhere

/-! ## Dispatches that select nothing -/

section Observes

variable (h : sim.host.Observes)

include h

theorem tests_again (again' : Dispatch σ V) : sim.tests again args = sim.tests again' args := by
  funext c g
  simp only [tests, holds_again again again' h]

theorem asks_again (again' : Dispatch σ V) : sim.asks again args = sim.asks again' args := by
  funext x
  simp only [asks, tests_again again h again']

theorem asks_stays (x : Choice) : (sim.asks again args x).Stays := by
  refine .bind (.fit _) fun _ => .bind (.fit _) fun _ => .bind (holds_stays again h _ _) fun b => ?_
  cases b with
  | true => exact .pure true
  | false => exact .bind (.report _) fun _ => .pure false

/-- A search leaves the context as it is. -/
theorem search_alike {xs : List Choice} {r : Except Fault (Option Choice)}
    (hs : Run.Search (sim.asks again args) xs s (r, s₁)) : s.context.Alike s₁.context := by
  have hstays : (xs.findM? (sim.asks again args) : Run σ (Option Choice)).Stays := by
    clear hs
    induction xs with
    | nil => exact .pure none
    | cons x xs ih =>
      refine .bind (asks_stays again h x) fun b => ?_
      cases b with
      | true => exact .pure (some x)
      | false => exact ih
  have := hstays s
  rwa [hs.eq] at this

/-- A dispatch that selects nothing leaves the machine where it was. -/
theorem Selects.unmoved {f : Fault} (hf : sim.Selects again p name args s (.error f) s₁) :
    s.Unmoved s₁.idle := by
  cases hf with
  | refused hs he =>
    subst he
    have hs := search_alike again h hs
    exact .of_alike hs
  | raised hs => exact .of_alike (search_alike again h hs)

/-- What is selected depends neither on the way further transitions are
    dispatched, nor on the listeners. -/
theorem Selects.of_notifying {r : Except Fault Choice} (again' : Dispatch σ V)
    (notify : String → Change String → Run σ Unit)
    (hr : sim.Selects again p name args s r s₁) :
    (sim.notifying notify).Selects again' p name args s r s₁ := by
  have hasks : sim.asks again args = (sim.notifying notify).asks again' args := by
    rw [asks_again again h again']
    rfl
  cases hr with
  | choice hs => exact .choice (hasks ▸ hs)
  | refused hs he => exact .refused (hasks ▸ hs) he
  | raised hs => exact .raised (hasks ▸ hs)

end Observes

/-! ## A door -/

/-- The description of a door that can be pushed open and, on a condition, passed.
    A question suspends what it does until it is answered. -/
def door (condition : String) : Value :=
  .object [("class", .str "Door"), ("start", .str "Hall::Shut"), ("maps", .list [.object [
    ("name", .str "Hall"),
    ("states", .list [
      .object [("name", .str "Shut"), ("transitions", .list [
        .object [("name", .str "pass"), ("guard", .str condition), ("end_state", .str "Open")],
        .object [("name", .str "push"), ("end_state", .str "Open")],
        .object [("name", .str "ask"), ("type", .str "push"), ("end_state", .str "nil"),
          ("push_state", .str "Asked")]])],
      .object [("name", .str "Open")],
      .object [("name", .str "Asked"), ("transitions", .list [
        .object [("name", .str "answer"), ("type", .str "pop"), ("end_state", .str "push")]])],
      .object [("name", .str "Default"), ("transitions", .list [
        .object [("name", .str "Default"), ("guard", .str "False"), ("end_state", .str "nil")]])]])]])]

/-- A guard of the door. -/
def doorGuard (condition : String) (move : Move) (endState pushState : String) : Guard :=
  ⟨.str condition, move, .str endState, .str pushState, [], .str "", .int 0⟩

/-- A transition of the door. -/
def doorTransition (name : String) (g : Guard) : Transition :=
  ⟨.str name, [], [g], .int 0⟩

/-- A state of the door. -/
def doorState (name : String) (ts : List Transition) : State :=
  ⟨name, none, none, ts, .int 0⟩

/-- The state the door starts in. -/
def shut (condition : String) : State :=
  doorState "Shut" [
    doorTransition "pass" (doorGuard condition .set "Open" ""),
    doorTransition "push" (doorGuard "" .set "Open" ""),
    doorTransition "ask" (doorGuard "" .push "nil" "Asked")]

/-- The state in which a question is to be answered. -/
def asked : State :=
  doorState "Asked" [doorTransition "answer" (doorGuard "" .pop "push" "")]

/-- The map of the door. -/
def hall (condition : String) : StateMap where
  name := .str "Hall"
  states := [shut condition, doorState "Open" [], asked]
  default? := some (doorState "Default" [
    doorTransition "Default" (doorGuard "False" .set "nil" "")])
  line := .int 0

/-- The door. -/
def doorMachine (condition : String) : Machine where
  name := .str "Door"
  context := .str "Door"
  start := .str "Hall::Shut"
  maps := [hall condition]
  fsmClass := .str ""
  source := .str ""
  header := .str ""
  package := .str ""
  imports := []
  includes := []
  access := .str ""
  line := .int 0

theorem door_loads :
    (Load.machine (door "False") .null).outcome.1 = .ok (doorMachine "False") := by rfl

theorem door_valid :
    ∃ w, (doorMachine "False").validate none none = .ok w ∧ w.isValid = true := by
  have hmismatch : Validate.mismatch? (doorMachine "False") = none := by decide +kernel
  refine ⟨(doorMachine "False").validation none (.str "Door"), ?_, by decide +kernel⟩
  rw [Machine.validate, hmismatch]
  rfl

/-- A host for which only one expression is true, and nothing happens. -/
def stillHost : Host Unit Bool where
  ownerName := "Door"
  names _ := []
  evaluate _ e _ := pure (e == "True")
  isTrue b := b
  spread _ := pure []
  assign _ _ _ := pure ()
  member _ _ := pure none
  call _ _ _ := pure ()
  notify _ _ := pure ()

theorem stillHost_aloof : stillHost.Aloof where
  evaluate_issue _ _ _ _ := rfl
  call_issue _ _ _ _ := rfl
  stays := by
    intro α x hx
    cases hx <;> exact .pure _

/-- The door as it is simulated with a host. -/
def doorWith (host : Host Unit Bool) (condition : String) : Simulator Unit Bool where
  machine := doorMachine condition
  host := host

/-- The door after it was started. -/
def shutDoor (host : Host Unit Bool) (condition : String) : Simulation Unit :=
  ((doorWith host condition).start ()).2

theorem shutDoor_at :
    (doorWith stillHost "False").At ⟨hall "False", shut "False"⟩ (shutDoor stillHost "False") :=
  ⟨"Hall::Shut", by decide +kernel, rfl⟩

/-! ## Selection -/

/-- A dispatch selects the first choice that holds and takes it. One that selects
    none raises its fault and leaves the machine where it was; what the listeners
    would do does not matter, since none is told of anything. -/
theorem dispatch_selects_first_choice (sim : Simulator σ V) {v n : Value}
    (hload : (Load.machine v n).outcome.1 = .ok sim.machine) {p : Place} {s : Simulation σ}
    (hp : sim.At p s) (name : Value) (args : List V) :
    (∀ again, ∃ r s₁, sim.Selects again p name args s r s₁ ∧
      (sim.dispatchBy again name args).on s = sim.settled again name args r s₁) ∧
    (sim.host.Observes → ∀ again f s₁, sim.Selects again p name args s.unlogged (.error f) s₁ →
      (sim.issue name args).on s = (.error f, s₁.idle) ∧ s.Unmoved s₁.idle ∧
      ∀ notify, ((sim.notifying notify).issue name args).on s = (sim.issue name args).on s) ∧
    (Fault.refused p.scopedName name.text).kind = "TransitionUndefinedException" ∧
    (Fault.refused p.scopedName name.text).message =
      "State: " ++ p.scopedName ++ ", Transition: " ++ name.text := by
  have hm := Load.wellFormed_of_outcome hload
  refine ⟨fun again => ?_, fun h again f s₁ hf => ?_, rfl, rfl⟩
  · obtain ⟨r, s₁, hr⟩ := exists_selects sim again p name args s
    exact ⟨r, s₁, hr, hr.dispatchBy_on again hm hp⟩
  · -- what is selected depends neither on the listeners nor on the way transitions
    -- are issued inside, so it is selected by `issue` as well
    have hissue : ∀ notify, ((sim.notifying notify).issue name args).on s = (.error f, s₁.idle) := by
      intro notify
      exact issue_on ((hf.of_notifying again h _ notify).dispatchBy_on _ hm hp)
    obtain ⟨hcurrent, hprevious, hstack, htransition⟩ := hf.unmoved again h
    refine ⟨hissue sim.host.notify, ⟨hcurrent, hprevious, hstack, htransition⟩, fun notify => ?_⟩
    rw [hissue notify]
    exact (hissue sim.host.notify).symm

/-- A door that is not to be passed stays shut. -/
theorem shut_door_refuses_pass :
    (Load.machine (door "False") .null).outcome.1 = .ok (doorMachine "False") ∧
      (doorWith stillHost "False").At ⟨hall "False", shut "False"⟩ (shutDoor stillHost "False") ∧
      stillHost.Observes ∧
      ∃ s₁, ((doorWith stillHost "False").issue (.str "pass") []).on (shutDoor stillHost "False") =
          (.error (.refused "Hall::Shut" "pass"), s₁) ∧
        (shutDoor stillHost "False").Unmoved s₁ := by
  have h := dispatch_selects_first_choice (doorWith stillHost "False") door_loads shutDoor_at
    (.str "pass") []
  obtain ⟨s₁, hs⟩ := exists_selects_refused (doorWith stillHost "False") (fun _ _ => pure ())
    ⟨hall "False", shut "False"⟩ (.str "pass") [] (shutDoor stillHost "False").unlogged
    (by decide +kernel)
  obtain ⟨hissue, hunmoved, -⟩ := h.2.1 stillHost_aloof.observes _ _ _ hs
  exact ⟨door_loads, shutDoor_at, stillHost_aloof.observes, _, hissue, hunmoved⟩

/-- A condition that pushes the door, and is false then. -/
def pushes : String := "ctxt.issue('push') == 'Hall::Shut'"

/-- A host that pushes the door to evaluate anything but a constant. -/
def pushingHost : Host Unit Bool :=
  { stillHost with
    evaluate := fun issue e _ =>
      if e == "False" then pure false
      else do
        let state ← issue (.str "push") []
        return state == "Hall::Shut" }

/-- What a fault says. -/
def complaint? {α : Type} : Except Fault α → Option (String × String)
  | .ok _ => none
  | .error f => some (f.kind, f.message)

/-- A condition that issues a transition can move the machine, although the
    transition it belongs to is refused in the end. -/
theorem refused_pass_opens_door :
    (Load.machine (door pushes) .null).outcome.1 = .ok (doorMachine pushes) ∧
      (doorWith pushingHost pushes).At ⟨hall pushes, shut pushes⟩ (shutDoor pushingHost pushes) ∧
      complaint? (((doorWith pushingHost pushes).issue (.str "pass") []).on
        (shutDoor pushingHost pushes)).1 =
          some ("TransitionUndefinedException", "State: Hall::Shut, Transition: pass") ∧
      (((doorWith pushingHost pushes).issue (.str "pass") []).on
        (shutDoor pushingHost pushes)).2.context.current = some "Hall::Open" :=
  ⟨rfl, ⟨"Hall::Shut", by decide +kernel, rfl⟩, by decide +kernel, by decide +kernel⟩

end Simulator
end StateMachine
