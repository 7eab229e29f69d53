import StateMachine.Proofs.ClassResolution
import StateMachine.Proofs.Dispatching

/-!
# Dispatching by the class table

The simulator and the classes generated for a machine dispatch alike. What
following the class table comes to can be carried out by the simulator
(`Simulator.carryOut`), and a dispatch of the simulator is nothing but that
(`handle_eq_carryOut`). So the guard that is found in the table is the guard
that the simulator selects, with its plan and its protection
(`class_table_dispatch_agrees`).
-/

namespace StateMachine

/-! ## Running by the table -/

/-- The candidate that a dispatch tries at a step. -/
def Place.candidateAt? (p : Place) (name : Value) (arity : Nat) (step : Option DefaultStep) :
    Option Candidate :=
  (p.candidates name arity).find? fun c => c.step == step

/-- There is at most one candidate at a step. -/
theorem Place.candidateAt?_of_mem {p : Place} {name : Value} {arity : Nat} {c : Candidate}
    (hc : c ∈ p.candidates name arity) : p.candidateAt? name arity c.step = some c := by
  have hfind : ∀ (q : Option Place) (step : Option DefaultStep) (name : Value) (n : Nat),
      ((Candidate.find q step name n).map Candidate.step).Sublist [step] := by
    intro q step name n
    cases q with
    | none => exact List.nil_sublist _
    | some q => cases h : q.state.ofArity? name n <;> simp [Candidate.find, h]
  have hsteps : ((p.candidates name arity).map Candidate.step).Sublist
      ([none] ++ (([some .mapTransition] ++ [some .stateDefault]) ++ [some .mapDefault])) := by
    rw [candidates, fallbacks, List.map_append, List.map_append]
    refine (hfind ..).append (List.Sublist.append ?_ (hfind ..))
    split
    · exact List.nil_sublist _
    · rw [List.map_append]
      exact (hfind ..).append (hfind ..)
  exact find?_of_nodup (hsteps.nodup (by decide)) hc

namespace Simulator

variable {σ V : Type} (sim : Simulator σ V) (again : Dispatch σ V)

/-- Asks whether a guard holds that a dispatch has come to at a step. -/
def asksAt (p : Place) (name : Value) (args : List V) (step : Option DefaultStep) (g : Guard) :
    Run σ Bool :=
  match p.candidateAt? name args.length step with
  | some c => sim.asks again args ⟨c, g⟩
  | none => pure false

/-- Runs actions and commits the next state; a protected commit is made even if an
    action fails. -/
def actAndCommitAs (isProtected : Bool) (plan : Plan) (actions : List Action)
    (bindings : Bindings V) (saved : Option String) : Run σ Unit :=
  if isProtected then
    Run.ensure (sim.performAll again bindings actions) (sim.commit again plan saved)
  else do
    sim.performAll again bindings actions
    sim.commit again plan saved

/-- Takes a guard by a plan, with the commit protected or not. -/
def takeAs (isProtected : Bool) (plan : Plan) (actions : List Action) (bindings : Bindings V) :
    Run σ Unit := do
  let saved ← if plan.savesState then some <$> Run.current else pure none
  if plan.exitsCurrent then sim.leave again
  if plan.clearsState then Run.changeContext Context.clear
  sim.actAndCommitAs again isProtected plan actions bindings saved
  sim.goOn again plan bindings

/-- Carries out what following the class table came to. -/
def carryOut (p : Place) (name : Value) (args : List V) : Resolution → Run σ Unit
  | .takes step g plan isProtected =>
    match p.candidateAt? name args.length step with
    | some c => do
      let state ← Run.current
      Run.report (takenLine c.transition g state)
      Run.fit g.planMismatch?
      sim.takeAs again isProtected plan g.actions (bind c.transition (c.arguments args))
      reportStep name step
    | none => throw (.refused p.scopedName name.text)
  | .undefined => refuse p name
  | .idles => pure ()
  | .missing => throw (.raised "AttributeError" name.text)

variable {sim} {p : Place} {name : Value} {args : List V}

/-- The simulator protects a guard's actions unless it has none, or is told not
    to. -/
theorem take_eq_takeAs (plan : Plan) :
    sim.take again plan = sim.takeAs again (plan.hasActions && !sim.noCatch) plan := rfl

/-- A choice is taken as its branch says. -/
theorem carryOut_taken {o : Options} (hcatch : sim.noCatch = o.noCatch.isSet) {x : Choice}
    (hx : x.candidate ∈ p.candidates name args.length) :
    sim.carryOut again p name args (ClassTable.taken o p.map x.candidate.step x.guard) =
      sim.follow again name args x := by
  have hmap : x.candidate.placed.place.map = p.map := Place.map_of_mem_candidates hx
  simp only [ClassTable.taken, carryOut, Place.candidateAt?_of_mem hx, follow, takeChoice,
    take_eq_takeAs, hmap, hcatch, bind_assoc]
  rfl

/-- Parameters that serve as keys can be bound. -/
theorem bindMismatch?_eq_none {t : Transition} (hkey : t.signature.isKey = true) (args : List V) :
    bindMismatch? t args = none := by
  rw [bindMismatch?, List.findSome?_eq_none_iff]
  rintro ⟨v, a⟩ hb
  obtain ⟨q, hq, rfl⟩ := List.mem_map.1 (List.of_mem_zip hb).1
  rw [Signature.isKey, List.all_eq_true] at hkey
  have hv : q.name.isKey = true := by
    refine hkey _ (List.mem_cons_of_mem _ (List.mem_flatMap.2 ⟨q.key, ?_, List.mem_cons_self⟩))
    exact List.mem_map.2 ⟨q, hq, rfl⟩
  rw [Value.keyMismatch?, if_pos hv]

/-- In a valid machine nothing stands in the way of asking whether a guard holds,
    and one without a condition is not asked. -/
theorem asks_eq_asksGuard (hvalid : sim.machine.Valid) (hp : p ∈ sim.machine.places) {x : Choice}
    (hx : x.candidate ∈ p.candidates name args.length) :
    ClassTable.asksGuard (sim.asksAt again p name args) x.candidate.step x.guard =
      sim.asks again args x := by
  have hat : sim.asksAt again p name args x.candidate.step x.guard = sim.asks again args x := by
    rw [asksAt, Place.candidateAt?_of_mem hx]
  by_cases hcondition : x.guard.hasCondition = true
  · rw [ClassTable.asksGuard, if_pos hcondition, hat]
  · obtain ⟨hkey, horder, -⟩ := hvalid.of_mem_candidates hp hx
    have hbind : bindMismatch? x.candidate.transition (x.candidate.arguments args) = none :=
      bindMismatch?_eq_none hkey _
    rw [ClassTable.asksGuard, if_neg hcondition, asks, tests, hbind, horder, holds, if_neg hcondition]
    simp

/-- Dispatching a collected name in a state is following the class table and
    carrying out what it comes to. -/
theorem handle_of_collected (hwf : sim.machine.WellFormed) (hvalid : sim.machine.Valid)
    {o : Options} (hcatch : sim.noCatch = o.noCatch.isSet) {start : Place} {position : Nat}
    (hmap : sim.machine.maps[position]? = some p.map) (hs : p.state ∈ p.map.states)
    (hdistinct : (p.map.states.map State.name).Nodup) (hkey : name.isKey = true)
    (hname : name ≠ .str defaultName)
    (hbase : (sim.machine.classTable o start).transitionNames.any name.alike = true) :
    sim.handle again p name args = (do
      let r ← (sim.machine.classTable o start).resolve (sim.asksAt again p name args)
        position p.state.name name args.length
      sim.carryOut again p name args r) := by
  have hp : p ∈ sim.machine.places := Machine.mem_places.2 ⟨List.mem_of_getElem? hmap, hs⟩
  have hmem : ∀ x ∈ p.choices name args.length, x.candidate ∈ p.candidates name args.length :=
    fun x hx => (Place.mem_choices hx).1
  rw [ClassTable.resolve_of_collected _ hwf hvalid hmap hs hdistinct hkey hname hbase,
    handle_eq sim again p name args fun c hc => hwf.guards_of_mem_candidates hp hc, bind_assoc]
  refine findM?_bind_congr (fun x hx => ?_) (fun x hx => ?_) ?_
  · exact (asks_eq_asksGuard again hvalid hp (hmem x hx)).symm
  · rw [pure_bind]
    exact (carryOut_taken again hcatch (hmem x hx)).symm
  · rw [pure_bind]
    rfl

/-- Dispatching in a state is following the class table and carrying out what it
    comes to. -/
theorem handle_eq_carryOut (hwf : sim.machine.WellFormed) (hvalid : sim.machine.Valid)
    {o : Options} (hcatch : sim.noCatch = o.noCatch.isSet) (start : Place) {position : Nat}
    (hmap : sim.machine.maps[position]? = some p.map) (hs : p.state ∈ p.map.states)
    (hdistinct : (p.map.states.map State.name).Nodup) {q : Placed}
    (hq : q ∈ signatureUnion sim.machine.transitions)
    (hname : q.transition.name ≠ .str defaultName) :
    sim.handle again p q.transition.name args = (do
      let r ← (sim.machine.classTable o start).resolve (sim.asksAt again p q.transition.name args)
        position p.state.name q.transition.name args.length
      sim.carryOut again p q.transition.name args r) := by
  have hkey := ClassTable.keyNames_transitions hvalid q (mem_of_mem_signatureUnion hq)
  exact handle_of_collected again hwf hvalid hcatch hmap hs hdistinct hkey hname
    (any_transitionNames hq hkey hname)

/-- In a real state of a machine that was loaded and found valid, and whose states
    have different names within a map, following the class table comes to the guard
    that the state and the default chain select, whatever the conditions are worth:
    with the plan of this guard, and protected where the simulator would protect it.
    It comes to the refusal of the base class if they select none. A dispatch of the
    simulator is nothing but that, carried out. -/
theorem class_table_dispatch_agrees (sim : Simulator σ V) {v n : Value}
    (hload : (Load.machine v n).outcome.1 = .ok sim.machine) {target : Option Target}
    {source : Option Value} {w : Validation} (hvalidate : sim.machine.validate target source = .ok w)
    (hvalid : w.isValid = true) {o : Options} (hcatch : sim.noCatch = o.noCatch.isSet)
    (start : Place) {p : Place} {position : Nat}
    (hmap : sim.machine.maps[position]? = some p.map) (hs : p.state ∈ p.map.states)
    (hdistinct : (p.map.states.map State.name).Nodup) {q : Placed}
    (hq : q ∈ signatureUnion sim.machine.transitions)
    (hname : q.transition.name ≠ .str defaultName) :
    (∀ (truth : Option DefaultStep → Guard → Bool) (arity : Nat),
      (sim.machine.classTable o start).resolve (M := Id) truth position p.state.name
          q.transition.name arity =
        match (p.choices q.transition.name arity).find? fun x =>
            !x.guard.hasCondition || truth x.candidate.step x.guard with
        | some x => .takes x.candidate.step x.guard (x.guard.plan p.map.name.text)
            ((x.guard.plan p.map.name.text).hasActions && !sim.noCatch)
        | none => .undefined) ∧
    ∀ (again : Dispatch σ V) (args : List V) (s : Simulation σ), sim.At p s →
      (sim.dispatchBy again q.transition.name args).on s =
        let outcome := (do
          let r ← (sim.machine.classTable o start).resolve
            (sim.asksAt again p q.transition.name args) position p.state.name q.transition.name
            args.length
          sim.carryOut again p q.transition.name args r).on (s.underway q.transition.name)
        (outcome.1, outcome.2.idle) := by
  have hwf := Load.wellFormed_of_outcome hload
  have hvalid := Machine.valid_of_validate hvalidate hvalid
  refine ⟨fun truth arity => ?_, fun again args s hp => ?_⟩
  · have hask : (fun x : Choice => ClassTable.asksGuard (M := Id) truth x.candidate.step x.guard) =
        fun x => pure (!x.guard.hasCondition || truth x.candidate.step x.guard) := by
      funext x
      rw [ClassTable.asksGuard]
      cases x.guard.hasCondition <;> rfl
    rw [ClassTable.resolve_eq (M := Id) truth hwf hvalid start hmap hs hdistinct hq hname arity, hask,
      List.findM?_pure, pure_bind, hcatch]
    cases List.find? _ (p.choices q.transition.name arity) <;> rfl
  · rw [dispatchBy_on again hp,
      handle_eq_carryOut again hwf hvalid hcatch start hmap hs hdistinct hq hname]

/-- In a door that was asked something, passing falls to the Default State, or is
    refused. -/
theorem asked_door_agrees :
    (doorMachine "False").maps[0]? = some (hall "False") ∧
      ((hall "False").states.map State.name).Nodup ∧
      ((doorMachine "False").classTable {} ⟨hall "False", shut "False"⟩).resolve (M := Id)
          (fun _ _ => true) 0 "Asked" (.str "pass") 0 =
        .takes (some .mapDefault) (doorGuard "False" .set "nil" "")
          ((doorGuard "False" .set "nil" "").plan "Hall") false ∧
      ((doorMachine "False").classTable {} ⟨hall "False", shut "False"⟩).resolve (M := Id)
          (fun _ _ => false) 0 "Asked" (.str "pass") 0 = .undefined := by
  obtain ⟨w, hvalidate, hvalid⟩ := door_valid
  have hpass : (⟨⟨hall "False", shut "False"⟩, doorTransition "pass"
      (doorGuard "False" .set "Open" "")⟩ : Placed) ∈
        signatureUnion (doorMachine "False").transitions := by
    have hfirst : (firstOfEach (doorMachine "False").transitions)[1]? = some ⟨⟨hall "False",
        shut "False"⟩, doorTransition "pass" (doorGuard "False" .set "Open" "")⟩ := by rfl
    rw [signatureUnion, if_neg (by decide +kernel)]
    exact List.mem_mergeSort.2 (List.mem_of_getElem? hfirst)
  have hmap : (doorWith stillHost "False").machine.maps[0]? = some (hall "False") := rfl
  have hdistinct : ((hall "False").states.map State.name).Nodup := by decide +kernel
  have h := (class_table_dispatch_agrees (doorWith stillHost "False") door_loads hvalidate hvalid
    (o := {}) rfl ⟨hall "False", shut "False"⟩ (p := ⟨hall "False", asked⟩) hmap
    (by simp [hall]) hdistinct hpass (by simp [doorTransition, defaultName])).1
  refine ⟨hmap, hdistinct, ?_, ?_⟩
  · exact h (fun _ _ => true) 0
  · exact h (fun _ _ => false) 0

end Simulator
end StateMachine
