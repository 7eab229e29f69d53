import StateMachine.Proofs.Drawing
import StateMachine.Proofs.Routes

/-!
# Drawn moves

A drawing shows the moves of the machine. Whatever guard is executed in a state,
an edge leaves the node of this state for it, with the guard's label, to the node
that the guard's route leads to (`every_move_is_drawn`). This holds from the level
on which conditions are shown, since loopbacks are left out below.

It holds of guards of the state itself, and of those of the Default State for names
that the state has no transition of: the drawing takes a Default State to apply to
these. A dispatch goes further and falls back on the Default State when all guards of
the state fail, which is not drawn (`passed_door_is_not_drawn`).
-/

namespace StateMachine

variable {σ V : Type}

/-- The node that a guard of the state leads to along the route. -/
def Route.node (level : GraphLevel) (p : Place) (g : Guard) : Route → String
  | .set q => q.scopedName
  | .stay => p.scopedName
  | .push q r => q.scopedName ++ scopeMark ++ Text.before scopeMark r.scopedName
  | .pushHere r => p.scopedName ++ scopeMark ++ Text.before scopeMark r.scopedName
  | .pop => p.map.name.text ++ scopeMark ++ "pop(" ++
    Diagram.popText level g (Text.squeeze g.popArguments.text) ++ ")"

namespace Diagram

variable {m : Machine} {level : GraphLevel} {a : Arrow}

theorem endNode_of_means {q : Place} (htarget : a.guard.hasTarget = true)
    (hq : m.Means a.place.map a.guard.endState q) : a.endNode = q.scopedName := by
  rw [Arrow.endNode, if_neg (by simp [Guard.isLoopback_of_hasTarget htarget]), Arrow.plan,
    Guard.plan, if_pos htarget, hq.1]
  rfl

theorem pushNode_of_means {r : Place} (hmove : a.guard.move = .push)
    (hr : m.Means a.place.map a.guard.pushState r) : a.pushNode = r.scopedName := by
  rw [Arrow.pushNode, Arrow.plan, Guard.plan, hmove, hr.1]
  rfl

/-- An edge leads where the route of its guard does. -/
theorem target_of_leads {r : Route} (h : a.guard.Leads m a.place.map r) :
    a.target level = r.node level a.place a.guard := by
  cases r with
  | set q =>
    obtain ⟨hmove, htarget, hq⟩ := h
    rw [Arrow.target, hmove]
    exact endNode_of_means htarget hq
  | stay =>
    obtain ⟨hmove, hloop⟩ := h
    rw [Arrow.target, hmove]
    exact if_pos hloop
  | push q r =>
    obtain ⟨hmove, htarget, hq, hr⟩ := h
    rw [Arrow.target, hmove]
    change a.endNode ++ scopeMark ++ Text.before scopeMark a.pushNode = _
    rw [endNode_of_means htarget hq, pushNode_of_means hmove hr]
    rfl
  | pushHere r =>
    obtain ⟨hmove, hloop, hr⟩ := h
    rw [Arrow.target, hmove]
    change a.endNode ++ scopeMark ++ Text.before scopeMark a.pushNode = _
    rw [Arrow.endNode, if_pos hloop, pushNode_of_means hmove hr]
    rfl
  | pop =>
    rw [Arrow.target, show a.guard.move = .pop from h]
    rfl

/-- Where conditions are shown, every guard is. -/
theorem isDrawn_of_showsGuards (hlevel : level.showsGuards = true) (g : Guard) :
    isDrawn level g = true := by
  rw [isDrawn, hlevel, Bool.not_true, Bool.and_false, Bool.not_false]

/-- Choices of a state are drawn as leaving it, those of the Default State if the state has no
    transition of the name. -/
theorem mem_arrows_of_mem_choices (hlevel : level.showsGuards = true) {p : Place}
    (hp : p ∈ m.places) {name : Value} {arity : Nat} {x : Choice} (hx : x ∈ p.choices name arity)
    (hshown : x.candidate.placed.place = p ∨
      p.state.named? x.candidate.transition.name = none) :
    (⟨p, x.candidate.transition, x.guard⟩ : Arrow) ∈ arrows level p.map := by
  obtain ⟨hc, hg⟩ := Place.mem_choices hx
  obtain ⟨hplace, ht⟩ := Place.mem_candidates hc
  refine mem_arrows.2 ⟨rfl, (Machine.mem_places.1 hp).2, hg, isDrawn_of_showsGuards hlevel _, ?_⟩
  -- a choice is one of the state itself or one of the Default State of its map
  rcases hplace with hown | hdefault
  · rw [hown] at ht
    exact .inl ht
  · rcases hshown with hown | hnamed
    · rw [hown] at ht
      exact .inl ht
    · exact .inr ⟨_, (Place.default?_eq_some.1 hdefault).2, ht, hnamed⟩

end Diagram

namespace Simulator

open Diagram

/-- Every dispatch in a state of a valid machine selects what it executes. Where conditions are
    shown, a selected guard is drawn in the cluster of the state: as an edge with its label, from
    the node of the state to where its route leads. This holds of the guards of the state, and of
    those of the Default State for names that the state has no transition of. -/
theorem every_move_is_drawn (sim : Simulator σ V) (hwf : sim.machine.WellFormed)
    {target : Option Target} {source : Option Value} {w : Validation}
    (hvalidate : sim.machine.validate target source = .ok w) (hvalid : w.isValid = true)
    {level : GraphLevel} (hlevel : level.showsGuards = true) :
    ∃ start, sim.machine.startPlace? = some start ∧
      ∀ (p : Place) (s : Simulation σ), sim.At p s → ∀ again name args,
        (∃ r s₁, sim.Selects again p name args s r s₁ ∧
          (sim.dispatchBy again name args).on s = sim.settled again name args r s₁) ∧
        ∀ x s₁, sim.Selects again p name args s (.ok x) s₁ →
          (x.candidate.placed.place = p ∨ p.state.named? x.candidate.transition.name = none) →
          ∃ route, x.guard.Leads sim.machine p.map route ∧
            ∃ c ∈ (graph level sim.machine start).clusters,
              c.name = p.map.name ∧ p.scopedName ∈ c.states.map DotNode.id ∧
              ⟨p.scopedName, route.node level p x.guard,
                labelled (guardLabel level x.candidate.transition x.guard)⟩ ∈ c.edges := by
  have hvalid := Machine.valid_of_validate hvalidate hvalid
  obtain ⟨start, hstart⟩ := hvalid.start
  refine ⟨start, hstart, fun p s hp again name args => ⟨?_, fun x s₁ hx hshown => ?_⟩⟩
  · obtain ⟨r, s₁, hr⟩ := exists_selects sim again p name args s
    exact ⟨r, s₁, hr, hr.dispatchBy_on again hwf hp⟩
  · have hplace := (Machine.stateNamed?_eq_some hp.stateNamed?_eq).1
    obtain ⟨hmap, hstate⟩ := Machine.mem_places.1 hplace
    have hdraws := drawing_draws level sim.machine p.map
    obtain ⟨hc, hg⟩ := Place.mem_choices hx.mem_choices
    have hguard := (hvalid.of_mem_candidates hplace hc).guards _ hg
    obtain ⟨route, hroute⟩ := hguard.exists_route hwf hmap
    refine ⟨route, hroute, drawing level sim.machine p.map, List.mem_map.2 ⟨_, hmap, rfl⟩,
      hdraws.name, ?_, ?_⟩
    · rw [hdraws.states]
      exact List.mem_map.2 ⟨p.state, hstate, rfl⟩
    · rw [hdraws.edges, ← target_of_leads (a := ⟨p, x.candidate.transition, x.guard⟩) hroute]
      exact List.mem_map.2 ⟨_, mem_arrows_of_mem_choices hlevel hplace hx.mem_choices hshown, rfl⟩

/-- A choice of a state of the door. -/
def doorChoice (p : Place) (step : Option DefaultStep) (name : String) (g : Guard) : Choice :=
  ⟨⟨step, ⟨p, doorTransition name g⟩⟩, g⟩

/-- The door that is pushed opens, along an edge of its drawing. -/
theorem pushed_door_is_drawn :
    (doorMachine "False").WellFormed ∧
      (∃ w, (doorMachine "False").validate none none = .ok w ∧ w.isValid = true) ∧
      (doorWith stillHost "False").At ⟨hall "False", shut "False"⟩ (shutDoor stillHost "False") ∧
      (∃ s₁, (doorWith stillHost "False").Selects (fun _ _ => pure ())
        ⟨hall "False", shut "False"⟩ (.str "push") [] (shutDoor stillHost "False")
        (.ok (doorChoice ⟨hall "False", shut "False"⟩ none "push" (doorGuard "" .set "Open" "")))
        s₁) ∧
      ∃ start, (doorMachine "False").startPlace? = some start ∧
        ∃ c ∈ (graph .guards (doorMachine "False") start).clusters,
          ⟨"Hall::Shut", "Hall::Open", labelled "push\\l"⟩ ∈ c.edges := by
  have hwf := Load.wellFormed_of_outcome door_loads
  obtain ⟨w, hvalidate, hvalid⟩ := door_valid
  have hplace := (Machine.stateNamed?_eq_some shutDoor_at.stateNamed?_eq).1
  have hpick : ((doorWith stillHost "False").pick (fun _ _ => pure ())
      ⟨hall "False", shut "False"⟩ (.str "push") []).on
      ((shutDoor stillHost "False").underway (.str "push")) = (.ok (doorChoice
        ⟨hall "False", shut "False"⟩ none "push" (doorGuard "" .set "Open" "")), _) := rfl
  have hselects := (pick_eq_ok_iff hwf hplace).1 hpick
  obtain ⟨start, hstart, hdrawn⟩ := every_move_is_drawn (doorWith stillHost "False") hwf hvalidate
    hvalid (show GraphLevel.guards.showsGuards = true from rfl)
  obtain ⟨route, hroute, c, hc, -, -, hedge⟩ :=
    (hdrawn _ _ shutDoor_at _ _ _).2 _ _ hselects (.inl rfl)
  refine ⟨hwf, ⟨w, hvalidate, hvalid⟩, shutDoor_at, ⟨_, hselects⟩, start, hstart, c, hc, ?_⟩
  have hlabel : guardLabel .guards (doorTransition "push" (doorGuard "" .set "Open" ""))
      (doorGuard "" .set "Open" "") = "push\\l" := by decide +kernel
  -- a guard of the hall that sets the state Open leads there
  have hnode : route.node .guards ⟨hall "False", shut "False"⟩ (doorGuard "" .set "Open" "") =
      "Hall::Open" := by
    cases route with
    | set q =>
      have hscoped : scopeName "Open" "Hall" = "Hall::Open" := by decide +kernel
      exact (Value.str.inj hroute.2.2.1.symm).trans hscoped
    | stay => cases hroute.2
    | push q r => cases hroute.1
    | pushHere r => cases hroute.1
    | pop => cases hroute
  rw [← hnode, ← hlabel]
  exact hedge

/-- The description of a door with a bell, which rings if the door cannot be passed. -/
def ringingDoor : Value :=
  .object [("class", .str "Door"), ("start", .str "Hall::Shut"), ("maps", .list [.object [
    ("name", .str "Hall"),
    ("states", .list [
      .object [("name", .str "Shut"), ("transitions", .list [
        .object [("name", .str "pass"), ("guard", .str "False"), ("end_state", .str "Open")]])],
      .object [("name", .str "Open")],
      .object [("name", .str "Default"), ("transitions", .list [
        .object [("name", .str "pass"), ("end_state", .str "nil"),
          ("actions", .list [.str "ring()"])]])]])]])]

/-- The guard that rings the bell. -/
def ringGuard : Guard :=
  { doorGuard "" .set "nil" "" with
    actions := [⟨.str "ring", [], false, false, false, .int 0⟩] }

/-- The map of the door with a bell. -/
def ringingHall : StateMap where
  name := .str "Hall"
  states := [doorState "Shut" [doorTransition "pass" (doorGuard "False" .set "Open" "")],
    doorState "Open" []]
  default? := some (doorState "Default" [doorTransition "pass" ringGuard])
  line := .int 0

/-- The door with a bell. -/
def ringingMachine : Machine :=
  { doorMachine "" with maps := [ringingHall] }

/-- The door with a bell as it is simulated. -/
def ringingSim : Simulator Unit Bool where
  machine := ringingMachine
  host := stillHost

/-- The state in which the door with a bell starts. -/
def ringingShut : Place :=
  ⟨ringingHall, doorState "Shut" [doorTransition "pass" (doorGuard "False" .set "Open" "")]⟩

/-- The door with a bell is found valid, and its states have different names. To pass it while
    it is shut rings the bell, but no edge of the drawing with the label of this guard leaves
    the state. -/
theorem passed_door_is_not_drawn :
    (Load.machine ringingDoor .null).outcome.1 = .ok ringingMachine ∧
      (∃ w, ringingMachine.validate none none = .ok w ∧ w.isValid = true) ∧
      ringingMachine.places.map Place.scopedName = ["Hall::Shut", "Hall::Open"] ∧
      ringingSim.At ringingShut (ringingSim.start ()).2 ∧
      (∃ s₁, ringingSim.Selects (fun _ _ => pure ()) ringingShut (.str "pass") []
        (ringingSim.start ()).2
        (.ok (doorChoice ⟨ringingHall, doorState "Default" [doorTransition "pass" ringGuard]⟩
          (some .mapTransition) "pass" ringGuard)) s₁) ∧
      guardLabel .guards (doorTransition "pass" ringGuard) ringGuard = "pass\\l" ∧
      ∀ start, ∀ c ∈ (graph .guards ringingMachine start).clusters, ∀ e ∈ c.edges,
        e.source = "Hall::Shut" → e.attributes ≠ labelled "pass\\l" := by
  have hload : (Load.machine ringingDoor .null).outcome.1 = .ok ringingMachine := rfl
  have hplace : ringingShut ∈ ringingMachine.places := List.mem_cons_self
  have hpick : (ringingSim.pick (fun _ _ => pure ()) ringingShut (.str "pass") []).on
      ((ringingSim.start ()).2.underway (.str "pass")) =
      (.ok (doorChoice ⟨ringingHall, doorState "Default" [doorTransition "pass" ringGuard]⟩
        (some .mapTransition) "pass" ringGuard), _) := rfl
  have hselects := (pick_eq_ok_iff (Load.wellFormed_of_outcome hload) hplace).1 hpick
  refine ⟨hload, Machine.exists_validation (by decide +kernel), by decide +kernel,
    ⟨"Hall::Shut", by decide +kernel, rfl⟩, ⟨_, hselects⟩, by decide +kernel, fun start => ?_⟩
  change ∀ c ∈ ringingMachine.maps.map (drawing .guards ringingMachine), _
  decide +kernel

end Simulator
end StateMachine
