import Mathlib.Data.List.Basic
import StateMachine.Generate.PythonModule
import StateMachine.Proofs.ClassDispatch

/-!
# Methods of the context class

A generated branch that pops issues its further transition by calling a method
of the context class, which calls that of the state gone back to
(`ClassTable.callContext`). The context class has methods for the collected
names only, and nothing sees to it that the further transition of a guard is
among these:

* it is if and only if it is not `Default` and some state defines a transition
  of its name (`ClassTable.hasMethod_iff`); then the call does what the
  simulator does;
* otherwise there is no transition to call, while the simulator goes on to the
  `Default` transitions (`Place.default_of_mem_candidates`).

`reissued_name_has_method_iff` puts this together for the machines that were
found valid.
-/

namespace StateMachine

/-! ## Calls -/

/-- A guard of the machine pops and has the transition of a name issued then. -/
def Machine.Reissues (m : Machine) (name : Value) : Prop :=
  ∃ q ∈ m.transitions, ∃ g ∈ q.transition.guards, g.popTransition = name ∧ name.isSet = true

namespace ClassTable

/-- A branch of the classes calls the method of the context class for a name. -/
def Calls (t : ClassTable) (name : Value) : Prop :=
  ∃ map ∈ t.maps, ∃ cls ∈ map.classes, ∃ method ∈ cls.methods, ∃ v ∈ method.overloads,
    ∃ b ∈ v.branches, b.plan.popTransition = name ∧ name.isSet = true

section Calls

variable {m : Machine} {o : Options} {p start : Place}

/-- No overload gets lost when methods of the same name are joined. -/
theorem exists_overload_insertMethod {v : Overload} {new : Method} {ms : List Method}
    (h : v ∈ new.overloads ∨ ∃ m ∈ ms, v ∈ m.overloads) :
    ∃ m ∈ insertMethod new ms, v ∈ m.overloads := by
  induction ms with
  | nil =>
    obtain h | ⟨m, hm, -⟩ := h
    · exact ⟨new, List.mem_cons_self, h⟩
    · cases hm
  | cons old rest ih =>
    rw [insertMethod]
    split
    · -- `new` joins `old`, whose overloads come first
      rcases h with h | ⟨m, hm, h⟩
      · exact ⟨_, List.mem_cons_self, List.mem_append_right _ h⟩
      · rcases List.mem_cons.1 hm with rfl | hm
        · exact ⟨_, List.mem_cons_self, List.mem_append_left _ h⟩
        · exact ⟨m, List.mem_cons_of_mem _ hm, h⟩
    · have hrest : (v ∈ new.overloads ∨ ∃ m ∈ rest, v ∈ m.overloads) →
          ∃ m ∈ old :: insertMethod new rest, v ∈ m.overloads := by
        intro h
        obtain ⟨m, hm, h⟩ := ih h
        exact ⟨m, List.mem_cons_of_mem _ hm, h⟩
      rcases h with h | ⟨m, hm, h⟩
      · exact hrest (.inl h)
      · rcases List.mem_cons.1 hm with rfl | hm
        · exact ⟨m, List.mem_cons_self, h⟩
        · exact hrest (.inr ⟨m, hm, h⟩)

/-- Every transition of a state is an overload of one of its methods. -/
theorem exists_overload_methods (m : Machine) (o : Options) {t : Transition}
    (ht : t ∈ p.state.transitions) :
    ∃ method ∈ methods m o p, overload o p t ∈ method.overloads := by
  have hfold : ∀ (ts : List Transition) (ms : List Method),
      (t ∈ ts ∨ ∃ method ∈ ms, overload o p t ∈ method.overloads) →
      ∃ method' ∈ ts.foldl (fun ms t => insertMethod (method m o p t) ms) ms,
        overload o p t ∈ method'.overloads := by
    intro ts
    induction ts with
    | nil => exact fun ms h => h.resolve_left List.not_mem_nil
    | cons t' ts ih =>
      intro ms h
      rcases h with h | h
      · rcases List.mem_cons.1 h with rfl | h
        · exact ih _ (.inr (exists_overload_insertMethod (.inl List.mem_cons_self)))
        · exact ih _ (.inl h)
      · exact ih _ (.inr (exists_overload_insertMethod (.inr h)))
  exact hfold _ _ (.inl ht)

/-- Every guard has a branch. -/
theorem exists_branch (o : Options) (p : Place) (t : Transition) (count index : Nat) {g : Guard}
    {gs : List Guard} (hg : g ∈ gs) :
    ∃ b ∈ branches o p t count index gs, b.plan = g.plan p.map.name.text := by
  induction gs generalizing index with
  | nil => cases hg
  | cons g' gs ih =>
    rcases List.mem_cons.1 hg with rfl | hg
    · exact ⟨_, List.mem_cons_self, rfl⟩
    · obtain ⟨b, hb, hplan⟩ := ih (index + 1) hg
      exact ⟨b, List.mem_cons_of_mem _ hb, hplan⟩

/-- Every state has a class with its methods. -/
theorem exists_class (o : Options) (start : Place) (hp : p ∈ m.allPlaces) :
    ∃ map ∈ (m.classTable o start).maps, ∃ cls ∈ map.classes, cls.methods = methods m o p := by
  obtain ⟨hmap, hstate⟩ := Machine.mem_allPlaces.1 hp
  refine ⟨_, List.mem_map.2 ⟨p.map, hmap, rfl⟩, ?_⟩
  rw [StateMap.allStates, List.mem_append] at hstate
  rcases hstate with hdefault | hreal
  · -- the default class comes first, and stands for this Default State
    refine ⟨_, List.mem_cons_self, ?_⟩
    rw [Option.mem_toList] at hdefault
    rw [hdefault]
    rfl
  · exact ⟨_, List.mem_cons_of_mem _ (List.mem_map.2 ⟨p.state, hreal, rfl⟩), rfl⟩

/-- The classes call the methods for the names that guards issue after a pop. -/
theorem calls_of_reissues {name : Value} (h : m.Reissues name) :
    (m.classTable o start).Calls name := by
  obtain ⟨q, hq, g, hg, hname⟩ := h
  obtain ⟨hplace, ht⟩ := Machine.mem_transitions.1 hq
  obtain ⟨map, hmap, cls, hcls, hmethods⟩ := exists_class o start hplace
  obtain ⟨method, hmethod, hoverload⟩ := exists_overload_methods m o ht
  obtain ⟨b, hb, hplan⟩ := exists_branch o q.place q.transition
    q.transition.ordered.length 0 (Transition.mem_ordered.2 hg)
  -- the branch has the plan of the guard, which names the transition
  refine ⟨map, hmap, cls, hcls, method, hmethods ▸ hmethod, _, hoverload, b, hb, ?_⟩
  rw [hplan]
  exact hname

end Calls

/-! ## Methods -/

/-- Has the context class a method for the transition of a name? -/
def hasMethod (t : ClassTable) (name : Value) : Bool :=
  t.transitionNames.any name.alike

/-- Calls the method of the context class for a transition, in a state of the map
    at a position. It calls that of the state. What the context class has beside
    the methods for transitions is left out of account. -/
def callContext {M : Type → Type} [Monad M] (t : ClassTable)
    (ask : Option DefaultStep → Guard → M Bool) (position : Nat) (state : String) (name : Value)
    (arity : Nat) : M Resolution :=
  if t.hasMethod name then t.resolve ask position state name arity else pure .missing

variable {m : Machine} {o : Options} {start : Place} {name : Value}

/-- The context class has a method for every name of a transition but `Default`. -/
theorem hasMethod_iff (hvalid : m.Valid) :
    (m.classTable o start).hasMethod name = true ↔
      name ≠ .str defaultName ∧ ∃ q ∈ m.transitions, name.alike q.transition.name = true :=
  any_transitionNames_iff (keyNames_transitions hvalid)

/-- A name with a method serves as a key. -/
theorem isKey_of_hasMethod (hvalid : m.Valid)
    (h : (m.classTable o start).hasMethod name = true) : name.isKey = true := by
  obtain ⟨-, q, hq, hname⟩ := (hasMethod_iff hvalid).1 h
  exact (Value.isKey_congr hname).trans (keyNames_transitions hvalid q hq)

end ClassTable

/-- The methods of the context class are written down. -/
theorem PythonModule.contextMethod_infix_lines {m : Machine} {o : Options} {start : Place}
    {name : Value} (h : name ∈ (m.classTable o start).transitionNames) :
    contextMethod (.ofOptions o) name.text <:+: lines m o start := by
  have hmethods : contextMethod (.ofOptions o) name.text <:+:
      (m.classTable o start).transitionNames.flatMap fun n => contextMethod (.ofOptions o) n.text :=
    List.infix_of_mem_flatten (List.mem_map.2 ⟨name, h, rfl⟩)
  have hclass : contextMethod (.ofOptions o) name.text <:+:
      contextClass (.ofOptions o) (m.classTable o start) := by
    refine List.infix_append_of_infix_left (List.infix_append_of_infix_left ?_)
    exact List.infix_append_of_infix_right hmethods
  rw [lines, classLines]
  refine List.infix_append_of_infix_left (List.infix_append_of_infix_right ?_)
  exact List.infix_append_of_infix_right hclass

/-- A candidate has the name that was issued, or is a `Default` transition. -/
theorem Place.name_of_mem_candidates {p : Place} {name : Value} {arity : Nat} {c : Candidate}
    (hc : c ∈ p.candidates name arity) :
    c.transition.name = .str defaultName ∨ (c.transition.name == name) = true := by
  have hfind : ∀ {q : Option Place} {step : Option DefaultStep} {name : Value} {n : Nat},
      c ∈ Candidate.find q step name n → (c.transition.name == name) = true := by
    intro q step name n hc
    obtain ⟨q', t, rfl, ht, rfl⟩ := Candidate.mem_find.1 hc
    exact (Bool.and_eq_true _ _ ▸ List.find?_some ht).1
  simp only [candidates, fallbacks, List.mem_append] at hc
  rcases hc with hc | hc | hc
  · exact .inr (hfind hc)
  · split at hc
    · simp at hc
    · rcases List.mem_append.1 hc with hc | hc
      · exact .inr (hfind hc)
      · exact .inl (Value.beq_str_iff.1 (hfind hc))
  · exact .inl (Value.beq_str_iff.1 (hfind hc))

/-- Only the `Default` transitions are left to try for a name without a method. -/
theorem Place.default_of_mem_candidates {m : Machine} (hvalid : m.Valid) {o : Options}
    {start p : Place} (hp : p ∈ m.places) {name : Value}
    (hnone : (m.classTable o start).hasMethod name = false) {arity : Nat} {c : Candidate}
    (hc : c ∈ p.candidates name arity) : c.transition.name = .str defaultName := by
  have hmem : c.placed ∈ m.transitions := Machine.mem_transitions.2
    ⟨Machine.mem_allPlaces_of_mem_candidates hp hc, (mem_candidates hc).2⟩
  have hkey : c.transition.name.isKey = true := ClassTable.keyNames_transitions hvalid _ hmem
  obtain hdefault | hname := name_of_mem_candidates hc
  · exact hdefault
  · -- a transition found by this name has it, so the name is `Default`
    have hlike : c.transition.name.alike name = true := by
      rw [Value.alike, Bool.or_eq_true]
      exact .inr hname
    have hlike' : name.alike c.transition.name = true := by
      rwa [Value.alike_comm ((Value.isKey_congr hlike).symm.trans hkey) hkey]
    have hdefault : name = .str defaultName := by
      by_contra hne
      rw [(ClassTable.hasMethod_iff hvalid).2 ⟨hne, c.placed, hmem, hlike'⟩] at hnone
      cases hnone
    rw [hdefault] at hlike
    exact Value.alike_str_iff.1 hlike

namespace Simulator

variable {σ V : Type}

/-- In a machine that was loaded and found valid, the context class has a method for
    the transition that a guard issues after a pop if and only if the transition is
    not `Default` and some state defines one of its name.

    If it has one, the method is written down, and calling it in a real state of a
    map whose states have different names comes to what the simulator does there.
    If it has none, a call issues no transition, whatever the state, while the
    simulator issues one for which it tries the `Default` transitions. -/
theorem reissued_name_has_method_iff (sim : Simulator σ V) {v n : Value}
    (hload : (Load.machine v n).outcome.1 = .ok sim.machine) {target : Option Target}
    {source : Option Value} {w : Validation} (hvalidate : sim.machine.validate target source = .ok w)
    (hvalid : w.isValid = true) {o : Options} (hcatch : sim.noCatch = o.noCatch.isSet)
    (start : Place) {name : Value} (hname : sim.machine.Reissues name) :
    (sim.machine.classTable o start).Calls name ∧
    ((sim.machine.classTable o start).hasMethod name = true ↔
      name ≠ .str defaultName ∧
        ∃ q ∈ sim.machine.transitions, name.alike q.transition.name = true) ∧
    ((sim.machine.classTable o start).hasMethod name = true →
      (∃ n, name.alike n = true ∧
        PythonModule.contextMethod (.ofOptions o) n.text <:+:
          PythonModule.lines sim.machine o start) ∧
      ∀ (p : Place) (position : Nat), sim.machine.maps[position]? = some p.map →
        p.state ∈ p.map.states → (p.map.states.map State.name).Nodup →
        ∀ (again : Dispatch σ V) (args : List V) (s : Simulation σ), sim.At p s →
          (sim.dispatchBy again name args).on s =
            let outcome := (do
              let r ← (sim.machine.classTable o start).callContext
                (sim.asksAt again p name args) position p.state.name name args.length
              sim.carryOut again p name args r).on (s.underway name)
            (outcome.1, outcome.2.idle)) ∧
    ((sim.machine.classTable o start).hasMethod name = false →
      (∀ ask position state arity, (sim.machine.classTable o start).callContext (M := Id) ask
        position state name arity = .missing) ∧
      ∀ p ∈ sim.machine.places, ∀ (arity : Nat), ∀ c ∈ p.candidates name arity,
        c.transition.name = .str defaultName) := by
  have hwf := Load.wellFormed_of_outcome hload
  have hvalid := Machine.valid_of_validate hvalidate hvalid
  refine ⟨ClassTable.calls_of_reissues hname, ClassTable.hasMethod_iff hvalid,
    fun hmethod => ⟨?_, ?_⟩, fun hnone => ⟨?_, ?_⟩⟩
  · obtain ⟨n, hn, hlike⟩ := List.any_eq_true.1 hmethod
    exact ⟨n, hlike, PythonModule.contextMethod_infix_lines hn⟩
  · -- the name is a key and not `Default`, so the method of the state can be followed
    intro p position hmap hs hdistinct again args s hp
    rw [dispatchBy_on again hp, handle_of_collected again hwf hvalid hcatch hmap hs hdistinct
      (ClassTable.isKey_of_hasMethod hvalid hmethod) ((ClassTable.hasMethod_iff hvalid).1 hmethod).1
      hmethod, ClassTable.callContext, if_pos hmethod]
  · intro ask position state arity
    rw [ClassTable.callContext, hnone]
    rfl
  · intro p hp arity c hc
    exact Place.default_of_mem_candidates hvalid hp hnone hc

/-- In the door, pushing after an answer is defined, so it can be called. -/
theorem door_push_has_method :
    (doorMachine "False").Reissues (.str "push") ∧
      ((doorMachine "False").classTable {} ⟨hall "False", shut "False"⟩).Calls (.str "push") ∧
      ((doorMachine "False").classTable {} ⟨hall "False", shut "False"⟩).hasMethod
        (.str "push") = true ∧
      PythonModule.contextMethod (.ofOptions {}) "push" <:+:
        PythonModule.lines (doorMachine "False") {} ⟨hall "False", shut "False"⟩ ∧
      ∀ again, ((doorWith stillHost "False").dispatchBy again (.str "push") []).on
          (shutDoor stillHost "False") =
        let outcome := (do
          let r ← ((doorMachine "False").classTable {} ⟨hall "False", shut "False"⟩).callContext
            ((doorWith stillHost "False").asksAt again ⟨hall "False", shut "False"⟩ (.str "push") [])
            0 "Shut" (.str "push") 0
          (doorWith stillHost "False").carryOut again ⟨hall "False", shut "False"⟩ (.str "push") []
            r).on ((shutDoor stillHost "False").underway (.str "push"))
        (outcome.1, outcome.2.idle) := by
  obtain ⟨w, hvalidate, hvalid⟩ := door_valid
  have hanswer : (⟨⟨hall "False", asked⟩, doorTransition "answer" (doorGuard "" .pop "push" "")⟩ :
      Placed) ∈ (doorMachine "False").transitions :=
    Machine.mem_transitions.2 ⟨Machine.mem_allPlaces.2 ⟨List.mem_cons_self,
      by simp [StateMap.allStates, hall]⟩, List.mem_cons_self⟩
  have hreissues : (doorMachine "False").Reissues (.str "push") :=
    ⟨_, hanswer, _, List.mem_cons_self, rfl, rfl⟩
  have hpush : (⟨⟨hall "False", shut "False"⟩, doorTransition "push"
      (doorGuard "" .set "Open" "")⟩ : Placed) ∈ (doorMachine "False").transitions :=
    Machine.mem_transitions.2 ⟨Machine.mem_allPlaces.2 ⟨List.mem_cons_self,
      by simp [StateMap.allStates, hall]⟩, by simp [shut, doorState]⟩
  obtain ⟨hcalls, hmethod, hagrees, -⟩ := reissued_name_has_method_iff (doorWith stillHost "False")
    door_loads hvalidate hvalid (o := {}) rfl ⟨hall "False", shut "False"⟩ hreissues
  have hmethod := hmethod.2 ⟨by simp [defaultName], _, hpush, Value.str_alike_iff.2 rfl⟩
  obtain ⟨⟨n, hn, hlines⟩, hdispatch⟩ := hagrees hmethod
  obtain rfl := Value.str_alike_iff.1 hn
  exact ⟨hreissues, hcalls, hmethod, hlines, fun again => hdispatch ⟨hall "False", shut "False"⟩ 0
    rfl (by simp [hall]) (by decide +kernel) again [] _ shutDoor_at⟩

/-! ## A porch -/

/-- The description of a porch where an answer is followed by a knock, which no
    state defines; every transition that is not defined is ignored. -/
def porch : Value :=
  .object [("class", .str "Door"), ("start", .str "Hall::Shut"), ("maps", .list [.object [
    ("name", .str "Hall"),
    ("states", .list [
      .object [("name", .str "Shut"), ("transitions", .list [
        .object [("name", .str "ask"), ("type", .str "push"), ("end_state", .str "nil"),
          ("push_state", .str "Asked")]])],
      .object [("name", .str "Asked"), ("transitions", .list [
        .object [("name", .str "answer"), ("type", .str "pop"), ("end_state", .str "knock")]])],
      .object [("name", .str "Default"), ("transitions", .list [
        .object [("name", .str "Default"), ("end_state", .str "nil")]])]])]])]

/-- The state in which a knock follows the answer. -/
def porchAsked : State :=
  doorState "Asked" [doorTransition "answer" (doorGuard "" .pop "knock" "")]

/-- The state the porch starts in. -/
def porchShut : State :=
  doorState "Shut" [doorTransition "ask" (doorGuard "" .push "nil" "Asked")]

/-- The map of the porch. -/
def porchMap : StateMap where
  name := .str "Hall"
  states := [porchShut, porchAsked]
  default? := some (doorState "Default" [doorTransition "Default" (doorGuard "" .set "nil" "")])
  line := .int 0

/-- The porch. -/
def porchMachine : Machine :=
  { doorMachine "" with maps := [porchMap] }

/-- The porch as it is simulated. -/
def quietPorch : Simulator Unit Bool where
  machine := porchMachine
  host := stillHost

/-- The porch after it was started and something was asked. -/
def askedPorch : Simulation Unit :=
  ((quietPorch.issue (.str "ask") []).on (quietPorch.start ()).2).2

/-- There is no method for the knock after an answer, although the porch was found
    valid. The simulator ignores the knock, by the last step of the default chain. -/
theorem knock_has_no_method :
    (Load.machine porch .null).outcome.1 = .ok porchMachine ∧
      (∃ w, porchMachine.validate none none = .ok w ∧ w.isValid = true) ∧
      porchMachine.Reissues (.str "knock") ∧
      (porchMachine.classTable {} ⟨porchMap, porchShut⟩).hasMethod (.str "knock") = false ∧
      (∀ ask, (porchMachine.classTable {} ⟨porchMap, porchShut⟩).callContext (M := Id) ask 0 "Shut"
        (.str "knock") 0 = .missing) ∧
      ((quietPorch.issue (.str "answer") []).on askedPorch).1.toOption =
        some ("Hall::Shut", ["Transition 'answer' in Hall::Asked", "Re-issuing 'knock' after pop.",
          "Transition 'Default' in Hall::Shut", "Default chain step 'c' handled 'knock'."]) := by
  obtain ⟨w, hvalidate, hvalid⟩ : ∃ w, porchMachine.validate none none = .ok w ∧ w.isValid = true :=
    Machine.exists_validation (by decide +kernel)
  have hanswer : (⟨⟨porchMap, porchAsked⟩, doorTransition "answer" (doorGuard "" .pop "knock" "")⟩ :
      Placed) ∈ porchMachine.transitions :=
    Machine.mem_transitions.2 ⟨Machine.mem_allPlaces.2 ⟨List.mem_cons_self,
      by simp [StateMap.allStates, porchMap]⟩, List.mem_cons_self⟩
  have hnames : ∀ q ∈ porchMachine.transitions, q.transition.name ≠ .str "knock" := by
    simp [Machine.transitions, StateMap.transitions, Place.transitions, StateMap.allStates,
      porchMachine, porchMap, porchShut, porchAsked, doorState, doorTransition]
  have hmethod : (porchMachine.classTable {} ⟨porchMap, porchShut⟩).hasMethod
      (.str "knock") = false := by
    refine Bool.eq_false_iff.2 fun h => ?_
    obtain ⟨-, q, hq, hname⟩ :=
      (ClassTable.hasMethod_iff (Machine.valid_of_validate hvalidate hvalid)).1 h
    exact hnames q hq (Value.str_alike_iff.1 hname)
  refine ⟨by rfl, ⟨w, hvalidate, hvalid⟩, ⟨_, hanswer, _, List.mem_cons_self, rfl, rfl⟩, hmethod,
    fun ask => ?_, by decide +kernel⟩
  rw [ClassTable.callContext, hmethod]
  rfl

end Simulator
end StateMachine
