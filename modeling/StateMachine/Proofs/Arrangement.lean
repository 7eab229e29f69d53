import Mathlib.Data.List.Forall2
import StateMachine.Proofs.Dispatching
import StateMachine.Proofs.RetouchedFiles

/-!
# The arrangement of guards

Where among the guards of a transition those without a condition are declared
does not show. Two machines that differ in nothing else (`Machine.Rearranged`)
become the same when the guards of every transition are put in the order they
are tried, and that is a retouch (`Retouch.arranging`). So all simulations, the
walks and the generated files are the same
(`rearranged_machines_do_the_same`).

There is one proviso, for classes: whether a branch needs the owner can be asked
of every guard (`Machine.OwnerKnown`), as it can be where conditions and
arguments are texts. The guards are asked one by one as they are declared until
one needs it, so a guard that cannot be asked does no harm after one that does
(`bell_file_depends_on_arrangement`).
-/

namespace StateMachine

/-! ## Rearranged machines -/

/-- The transitions differ only in how guards without a condition stand among those with
    one. -/
structure Transition.Rearranged (t t' : Transition) : Prop where
  conditional : t.guards.filter Guard.hasCondition = t'.guards.filter Guard.hasCondition
  unconditional : (t.guards.filter fun g => !g.hasCondition) =
    t'.guards.filter fun g => !g.hasCondition
  rest : t' = { t with guards := t'.guards }

/-- The states differ only in the arrangement of guards. -/
structure State.Rearranged (s s' : State) : Prop where
  transitions : List.Forall₂ Transition.Rearranged s.transitions s'.transitions
  rest : s' = { s with transitions := s'.transitions }

/-- The maps differ only in the arrangement of guards. -/
structure StateMap.Rearranged (m m' : StateMap) : Prop where
  states : List.Forall₂ State.Rearranged m.states m'.states
  default : Option.Rel State.Rearranged m.default? m'.default?
  rest : m' = { m with states := m'.states, default? := m'.default? }

/-- The machines differ only in the arrangement of guards. -/
structure Machine.Rearranged (m m' : Machine) : Prop where
  maps : List.Forall₂ StateMap.Rearranged m.maps m'.maps
  rest : m' = { m with maps := m'.maps }

/-- To put the guards of transitions in the order they are tried. -/
def Retouch.arranging : Retouch where
  line v := v
  transition t := { t with guards := t.ordered }
  name _ := rfl
  parameters _ := rfl
  ordered t := by simp [Transition.ordered, List.filter_filter]

theorem map_eq_map_iff_forall₂ {α β : Type} {f : α → β} {xs ys : List α} :
    xs.map f = ys.map f ↔ List.Forall₂ (fun x y => f x = f y) xs ys := by
  rw [← List.forall₂_eq_eq_eq, List.forall₂_map_left_iff, List.forall₂_map_right_iff]

theorem Transition.Rearranged.arranged_eq {t t' : Transition} (h : t.Rearranged t') :
    Retouch.arranging.transition t = Retouch.arranging.transition t' := by
  have hordered : t.ordered = t'.ordered := by
    rw [ordered, ordered, h.conditional, h.unconditional]
  rw [h.rest]
  change { t with guards := t.ordered } = { t with guards := t'.ordered }
  rw [hordered]

theorem State.Rearranged.arranged_eq {s s' : State} (h : s.Rearranged s') :
    s.retouched .arranging = s'.retouched .arranging := by
  have htransitions := map_eq_map_iff_forall₂.2
    (h.transitions.imp fun _ _ => Transition.Rearranged.arranged_eq)
  rw [h.rest, retouched, retouched, htransitions]

theorem StateMap.Rearranged.arranged_eq {m m' : StateMap} (h : m.Rearranged m') :
    m.retouched .arranging = m'.retouched .arranging := by
  have hstates := map_eq_map_iff_forall₂.2
    (h.states.imp fun _ _ => State.Rearranged.arranged_eq)
  have hdefault : ∀ d d' : Option State, Option.Rel State.Rearranged d d' →
      d.map (State.retouched .arranging) = d'.map (State.retouched .arranging) := by
    rintro _ _ (hd | _)
    · exact congrArg some hd.arranged_eq
    · rfl
  rw [h.rest, retouched, retouched, hdefault _ _ h.default, hstates]

/-- Machines that differ only in the arrangement of guards are the same once these are put in
    order. -/
theorem Machine.Rearranged.arranged_eq {m m' : Machine} (h : m.Rearranged m') :
    m.retouched .arranging = m'.retouched .arranging := by
  have hmaps := map_eq_map_iff_forall₂.2
    (h.maps.imp fun _ _ => StateMap.Rearranged.arranged_eq)
  rw [h.rest, retouched, retouched, hmaps]

/-! ## Needing the owner -/

/-- Whether it needs the owner can be asked of every guard. -/
def Machine.OwnerKnown (m : Machine) : Prop :=
  ∀ map ∈ m.maps, ∀ s ∈ map.allStates, ∀ t ∈ s.transitions, ∀ g ∈ t.guards,
    ∃ b, Transition.guardUsesOwner g = .ok b

/-- A guard can be asked if its condition and its arguments are texts. -/
theorem Transition.exists_guardUsesOwner {g : Guard} (hcondition : g.condition.isText = true)
    (harguments : g.popArguments.isText = true) : ∃ b, guardUsesOwner g = .ok b := by
  have hmentions : ∀ v : Value, v.isText = true → ∃ b, v.mentions ownerWord = .ok b := by
    intro v hv
    cases v with
    | str s => exact ⟨_, rfl⟩
    | _ => cases hv
  obtain ⟨b, hb⟩ := hmentions _ hcondition
  obtain ⟨b', hb'⟩ := hmentions _ harguments
  rw [guardUsesOwner, hb, hb']
  cases g.hasActions <;> cases b <;> exact ⟨_, rfl⟩

/-- Branches that can be asked need the owner if one of them does. -/
theorem Transition.branchesUseOwner_eq {gs : List Guard}
    (h : ∀ g ∈ gs, ∃ b, guardUsesOwner g = .ok b) :
    branchesUseOwner gs = .ok (gs.any fun g => (guardUsesOwner g).toOption == some true) := by
  induction gs with
  | nil => rfl
  | cons g gs ih =>
    obtain ⟨⟨b, hb⟩, hgs⟩ := List.forall_mem_cons.1 h
    rw [branchesUseOwner, hb, List.any_cons, hb, ih hgs]
    cases b <;> rfl

theorem Machine.OwnerKnown.keepsOwner {m : Machine} (h : m.OwnerKnown) :
    Retouch.arranging.KeepsOwner m := by
  intro map hmap s hs t ht
  have hguards := h map hmap s hs t ht
  have hordered : ∀ g ∈ t.ordered, ∃ b, Transition.guardUsesOwner g = .ok b := fun g hg =>
    hguards g (Transition.mem_ordered.1 hg)
  change Transition.branchesUseOwner t.ordered = Transition.branchesUseOwner t.guards
  rw [Transition.branchesUseOwner_eq hordered, Transition.branchesUseOwner_eq hguards,
    Except.ok.injEq, Bool.eq_iff_iff, List.any_eq_true, List.any_eq_true]
  exact exists_congr fun g => and_congr_left fun _ => Transition.mem_ordered

/-- The guards that are asked are the same in any arrangement. -/
theorem Machine.ownerKnown_arranged {m : Machine} :
    (m.retouched .arranging).OwnerKnown ↔ m.OwnerKnown := by
  simp only [OwnerKnown, retouched, List.forall_mem_map, StateMap.allStates_retouched,
    State.retouched]
  refine forall₂_congr fun map _ => forall₂_congr fun s _ => forall₂_congr fun t _ => ?_
  exact forall_congr' fun g => imp_congr_left Transition.mem_ordered

theorem Machine.Rearranged.generate_eq {m m' : Machine} (h : m.Rearranged m') {target : Target}
    (hm : target = .python → m.OwnerKnown) (o : Options) (base : Value) :
    m'.generate target o base = m.generate target o base := by
  rw [generate, generate]
  split
  · rfl
  · next g hg =>
    have hpython : g = .python → target = .python := by
      rintro rfl
      rw [generatorFor] at hg
      split at hg
      · cases hg
      · cases target <;> first | rfl | cases hg
    have hknown : m.OwnerKnown → m'.OwnerKnown := fun hm => by
      rwa [← ownerKnown_arranged, ← h.arranged_eq, ownerKnown_arranged]
    rw [← m.generateWith_retouched .arranging fun hg => (hm (hpython hg)).keepsOwner,
      ← m'.generateWith_retouched .arranging fun hg => (hknown (hm (hpython hg))).keepsOwner,
      h.arranged_eq]

/-! ## The walk -/

/-- The flags of a context. -/
def WalkContext.flags (c : WalkContext) : List Bool :=
  [c.inDefaultState, c.isFirstGuard, c.isLastGuard, c.isElseGuard, c.needsFallthrough]

/-- The events are the same, but for the arrangement of the guards in what they are about
    and what is open. -/
structure WalkEvent.Agrees (e e' : WalkEvent) : Prop where
  phase : e.phase = e'.phase
  node : e.node.retouched .arranging = e'.node.retouched .arranging
  context : e.context.retouched .arranging = e'.context.retouched .arranging
  flags : e.context.flags = e'.context.flags
  plan : e.context.plan? = e'.context.plan?

theorem WalkEvent.agrees_of_arranged_eq {e e' : WalkEvent}
    (h : e.retouched .arranging = e'.retouched .arranging) : e.Agrees e' := by
  obtain ⟨hphase, hnode, hcontext⟩ := WalkEvent.mk.inj h
  have hflags : ∀ c : WalkContext, (c.retouched .arranging).flags = c.flags := by
    intro c
    rw [WalkContext.flags, c.inDefaultState_retouched, c.needsFallthrough_retouched]
    rfl
  refine ⟨hphase, hnode, hcontext, ?_, ?_⟩
  · rw [← hflags e.context, hcontext, hflags]
  · rw [← e.context.plan?_retouched .arranging, hcontext, WalkContext.plan?_retouched]

theorem Machine.Rearranged.walk_agrees {m m' : Machine} (h : m.Rearranged m') :
    List.Forall₂ WalkEvent.Agrees m.walk m'.walk := by
  have hwalk : m.walk.map (WalkEvent.retouched .arranging) =
      m'.walk.map (WalkEvent.retouched .arranging) := by
    rw [← m.walk_retouched, h.arranged_eq, m'.walk_retouched]
  exact (map_eq_map_iff_forall₂.1 hwalk).imp fun _ _ => WalkEvent.agrees_of_arranged_eq

/-! ## Doing the same -/

/-- Machines that differ only in the arrangement of guards without a condition do the same.
    All simulations agree, the walks have the same events and end in the same mismatch, states
    have the same numbers, and the same files are generated for every target and all options;
    for classes, if it can be asked of every guard whether it needs the owner. -/
theorem rearranged_machines_do_the_same {m m' : Machine} (h : m.Rearranged m') :
    (∀ {σ V : Type} (sim : Simulator σ V), sim.machine = m →
      Simulator.Agrees { sim with machine := m' } sim) ∧
    List.Forall₂ WalkEvent.Agrees m.walk m'.walk ∧ m'.walkMismatch? = m.walkMismatch? ∧
    (∀ name scopedName, m'.index.idOf name scopedName = m.index.idOf name scopedName) ∧
    ∀ target o base, (target = .python → m.OwnerKnown) →
      m'.generate target o base = m.generate target o base := by
  have hmismatch : ∀ m : Machine, (m.retouched .arranging).walkMismatch? = m.walkMismatch? := by
    intro m
    rw [Machine.walkMismatch?, Machine.walkMismatch?, m.transitions_retouched, List.findSome?_map]
    refine congrArg (List.findSome? · _) (funext fun q => ?_)
    simp only [Function.comp_apply, Placed.retouched, Transition.walkMismatch?,
      Retouch.orderMismatch?, Retouch.ordered]
  refine ⟨?_, h.walk_agrees, ?_, fun name scopedName => ?_, fun target o base hm =>
    h.generate_eq hm o base⟩
  · rintro σ V sim rfl
    have hsim : (sim.retouched .arranging).Agrees sim := sim.agrees_retouched .arranging
    have hsim' := Simulator.agrees_retouched .arranging { sim with machine := m' }
    rw [Simulator.retouched] at hsim hsim'
    rw [← h.arranged_eq] at hsim'
    exact hsim'.symm.trans hsim
  · rw [← hmismatch m', ← h.arranged_eq, hmismatch m]
  · rw [← m'.idOf_retouched .arranging, ← h.arranged_eq, m.idOf_retouched]

/-! ## A bell -/

/-- The description of a bell that swings if it is ready. -/
def swing : Value :=
  .object [("name", .str "ring"), ("guard", .str "ready"), ("end_state", .str "Loud"),
    ("actions", .list [.object [("name", .str "swing")]])]

/-- The description of a bell that goes back to what it did before and rings again, with a
    number for arguments. -/
def ringAgain : Value :=
  .object [("name", .str "ring"), ("type", .str "pop"), ("end_state", .str "ring"),
    ("pop_args", .int 5)]

/-- The description of a bell that may be rung in two ways. -/
def bell (first second : Value) : Value :=
  .object [("class", .str "Bell"), ("start", .str "Tower::Still"), ("maps", .list [.object [
    ("name", .str "Tower"),
    ("states", .list [
      .object [("name", .str "Still"), ("transitions", .list [first, second])],
      .object [("name", .str "Loud")]])]])]

open Simulator in
/-- The bell. -/
def bellMachine (first second : Guard) : Machine :=
  { doorMachine "" with
    name := .str "Bell"
    context := .str "Bell"
    start := .str "Tower::Still"
    maps := [{
      name := .str "Tower"
      states := [
        doorState "Still" [{ doorTransition "ring" first with guards := [first, second] }],
        doorState "Loud" []]
      default? := none
      line := .int 0 }] }

/-- The guard of the bell that swings. -/
def swings : Guard :=
  ⟨.str "ready", .set, .str "Loud", .str "",
    [⟨.str "swing", [], false, false, false, .int 0⟩], .str "", .int 0⟩

/-- The guard of a bell that stays as it is. -/
def staysStill : Guard :=
  Simulator.doorGuard "" .set "nil" ""

/-- The guard of the bell that rings again. -/
def ringsAgain : Guard :=
  { Simulator.doorGuard "" .pop "ring" "" with popArguments := .int 5 }

theorem bell_rearranged {g : Guard} (hg : g.hasCondition = false) :
    (bellMachine g swings).Rearranged (bellMachine swings g) := by
  have hswings : swings.hasCondition = true := by decide
  refine ⟨.cons ⟨.cons ⟨.cons ⟨?_, ?_, rfl⟩ .nil, rfl⟩ (.cons ⟨.nil, rfl⟩ .nil), .none, rfl⟩
    .nil, rfl⟩
  · simp [hg, hswings]
  · simp [hg, hswings]

open Simulator in
/-- For a bell that stays as it is unless it is ready, it does not matter which of the two is
    declared first. -/
theorem bell_rings_the_same :
    let m := bellMachine staysStill swings
    let m' := bellMachine swings staysStill
    m.Rearranged m' ∧ m.OwnerKnown ∧
      Agrees { doorWith stillHost "" with machine := m' } { doorWith stillHost "" with machine := m } ∧
      List.Forall₂ WalkEvent.Agrees m.walk m'.walk ∧
      ∀ o base, m'.generate .python o base = m.generate .python o base := by
  intro m m'
  have hknown : m.OwnerKnown := by
    have hguards : ∀ g ∈ [staysStill, swings], ∃ b, Transition.guardUsesOwner g = .ok b := by
      simp only [List.forall_mem_cons]
      exact ⟨Transition.exists_guardUsesOwner rfl rfl, Transition.exists_guardUsesOwner rfl rfl,
        List.forall_mem_nil _⟩
    simpa [Machine.OwnerKnown, m, bellMachine, StateMap.allStates, doorState] using hguards
  have hm : m.Rearranged m' := bell_rearranged (by decide)
  obtain ⟨hagrees, hwalk, -, -, hgenerate⟩ := rearranged_machines_do_the_same hm
  exact ⟨hm, hknown, hagrees { doorWith stillHost "" with machine := m } rfl, hwalk,
    fun o base => hgenerate .python o base fun _ => hknown⟩

/-- For a bell that rings again with a number for arguments unless it is ready, classes are
    generated only if it swings first: whether the other branch needs the owner cannot be
    asked. -/
theorem bell_file_depends_on_arrangement :
    let m := bellMachine ringsAgain swings
    let m' := bellMachine swings ringsAgain
    (Load.machine (bell ringAgain swing) .null).outcome.1 = .ok m ∧
      (Load.machine (bell swing ringAgain) .null).outcome.1 = .ok m' ∧ m.Rearranged m' ∧
      m.generate .python .default .null = .error (.mismatch (.notContainer "int")) ∧
      (m'.generate .python .default .null).toOption.isSome = true := by
  intro m m'
  have hmismatch : ClassTable.mismatch? m = some (.notContainer "int") := by decide +kernel
  have hplace : m.startPlace?.isSome = true := by decide +kernel
  have hstates : m.hasStates = true := by decide +kernel
  have hstart : m.startMismatch? = none := by decide +kernel
  have hoptions : Machine.generatorFor .python .default = .ok .python := by rfl
  refine ⟨by rfl, by rfl, bell_rearranged (by decide), ?_, by decide +kernel⟩
  obtain ⟨p, hp⟩ := Option.isSome_iff_exists.1 hplace
  simp only [Machine.generate, hoptions, Machine.generateWith, hstates, hstart, hp,
    Generator.mismatch?, hmismatch]
  rfl

end StateMachine
