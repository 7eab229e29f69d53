import Mathlib.Algebra.GroupWithZero.Nat
import Mathlib.Data.Finset.Card
import StateMachine.Proofs.Scoping
import StateMachine.Proofs.Sorts

/-!
# Conformance

What a machine has to be for the check to accept it, said without the check
(`Machine.Conforms`), and the number of ways in which it is not
(`Machine.faultCount`): one for the start state, the class and the header each,
one for a guard that ends or pushes wrongly, one for every guard beyond the
number of different conditions of its transition, and one for a parameter.

The check goes through the transitions of a state twice, once by signature and
once as declared, and through the guards in the order they are tried. For a
machine that was read from a description and whose names are texts, this makes
no difference: it accepts exactly the machines that conform, and finds as many
errors as there are faults (`validate_decides_conformance`).
-/

namespace StateMachine

/-! ## The meaning of names -/

/-- The map has a real state of the name. -/
def StateMap.HasState (map : StateMap) (name : String) : Prop :=
  ∃ s ∈ map.states, s.name = name

namespace Machine

variable {m : Machine} {map : StateMap} {name : String}

/-- The map named first has a real state of the name. -/
def HasScoped (m : Machine) (mapName stateName : String) : Prop :=
  ∃ map, m.findMap? (.str mapName) = some map ∧ map.HasState stateName

/-- A name means a real state in a map: a scoped name one of the map it names, any
    other name one of the map itself. -/
def HasState (m : Machine) (map : StateMap) (name : String) : Prop :=
  match Text.cutLast? scopeMark name with
  | some (mapName, stateName) => m.HasScoped mapName stateName
  | none => map.HasState name

/-- A name means a real state to start in: without a scope, one of any map. -/
def HasStart (m : Machine) (name : String) : Prop :=
  match Text.cutLast? scopeMark name with
  | some (mapName, stateName) => m.HasScoped mapName stateName
  | none => ∃ map ∈ m.maps, map.HasState name

theorem isSome_inMap? : (inMap? map name).isSome = true ↔ map.HasState name := by
  simp [inMap?, StateMap.find?, StateMap.HasState]

theorem isSome_findMap? {stateName : String} :
    ((m.findMap? (.str name)).bind fun map => inMap? map stateName).isSome = true ↔
      m.HasScoped name stateName := by
  rw [HasScoped]
  cases m.findMap? (.str name) <;> simp [isSome_inMap?]

/-- The states that are found are those a name means. -/
theorem isSome_findState? : (m.findState? name (some map)).isSome = true ↔ m.HasState map name := by
  rw [findState?, HasState]
  cases Text.cutLast? scopeMark name with
  | some names => exact isSome_findMap?
  | none => exact isSome_inMap?

theorem isSome_findStart? : (m.findStart? name).isSome = true ↔ m.HasStart name := by
  rw [findStart?, HasStart, contains_scopeMark, findState?]
  cases Text.cutLast? scopeMark name with
  | some names => exact isSome_findMap?
  | none => simp [List.findSome?_isSome_iff, isSome_inMap?]

instance : Decidable (m.HasState map name) :=
  decidable_of_iff _ isSome_findState?

instance : Decidable (m.HasStart name) :=
  decidable_of_iff _ isSome_findStart?

end Machine

/-! ## Conforming machines -/

/-- A guard that does not pop stays, or ends in a real state. -/
def Guard.EndsWell (m : Machine) (map : StateMap) (g : Guard) : Prop :=
  g.move = .pop ∨ g.endState.text = nilState ∨
    isDefaultName g.endState.text = false ∧ m.HasState map g.endState.text

/-- A guard that pushes, pushes a real state. -/
def Guard.PushesWell (m : Machine) (map : StateMap) (g : Guard) : Prop :=
  g.move = .push → g.pushState.text ≠ nilState ∧ isDefaultName g.pushState.text = false ∧
    m.HasState map g.pushState.text

/-- For the target Tcl, the type of the parameter says how it is passed. -/
def Parameter.PassedWell (target : Option Target) (q : Parameter) : Prop :=
  target = some .tcl → q.type = .str "value" ∨ q.type = .str "reference"

/-- The machine is one that code can be generated for. -/
structure Machine.Conforms (m : Machine) (target : Option Target) : Prop where
  start : m.start.isSet = true ∧ m.HasStart m.start.text
  context : m.context.isSet = true
  header : target.any Target.requiresHeader = true → m.header.isSet = true
  endStates : ∀ p ∈ m.allPlaces, ∀ t ∈ p.state.transitions, ∀ g ∈ t.guards, g.EndsWell m p.map
  pushStates : ∀ p ∈ m.allPlaces, ∀ t ∈ p.state.transitions, ∀ g ∈ t.guards, g.PushesWell m p.map
  conditions : ∀ p ∈ m.allPlaces, ∀ t ∈ p.state.transitions,
    (t.guards.map Guard.conditionText).Nodup
  parameters : ∀ p ∈ m.allPlaces, ∀ t ∈ p.state.transitions, ∀ q ∈ t.parameters,
    q.PassedWell target

section Counting

variable {m : Machine} {map : StateMap} {target : Option Target}

theorem Parameter.any_passing {q : Parameter} :
    Validate.passing.any (fun w => q.type == .str w) = true ↔
      q.type = .str "value" ∨ q.type = .str "reference" := by
  simp [Validate.passing, Value.beq_str_iff]

instance : DecidablePred (Guard.EndsWell m map) :=
  fun g => inferInstanceAs (Decidable (g.move = .pop ∨ _ ∨ _ ∧ _))

instance : DecidablePred (Guard.PushesWell m map) :=
  fun g => inferInstanceAs (Decidable (g.move = .push → _ ∧ _ ∧ _))

instance : DecidablePred (Parameter.PassedWell target) := fun q =>
  decidable_of_iff (target = some .tcl → Validate.passing.any (fun w => q.type == .str w) = true)
    (imp_congr_right fun _ => Parameter.any_passing)

end Counting

/-- How many guards there are beyond the number of different conditions. -/
def Transition.repetitions (t : Transition) : Nat :=
  t.guards.length - (t.guards.map Guard.conditionText).toFinset.card

/-- The number of faults in a transition of a state of the map. -/
def Transition.faultCount (m : Machine) (target : Option Target) (map : StateMap)
    (t : Transition) : Nat :=
  t.repetitions + t.parameters.countP (fun q => ¬ q.PassedWell target) +
    (t.guards.countP (fun g => ¬ g.EndsWell m map) +
      t.guards.countP fun g => ¬ g.PushesWell m map)

/-- The number of faults in a machine. -/
def Machine.faultCount (m : Machine) (target : Option Target) : Nat :=
  (if m.start.isSet = true ∧ m.HasStart m.start.text then 0 else 1) +
    (if m.context.isSet = true then 0 else 1) +
    (if target.any Target.requiresHeader = true → m.header.isSet = true then 0 else 1) +
    (m.allPlaces.map fun p =>
      (p.state.transitions.map (Transition.faultCount m target p.map)).sum).sum

/-- A transition without repetitions is one with different conditions. -/
theorem Transition.repetitions_eq_zero {t : Transition} :
    t.repetitions = 0 ↔ (t.guards.map Guard.conditionText).Nodup := by
  have hle := List.toFinset_card_le (t.guards.map Guard.conditionText)
  have hnodup : (t.guards.map Guard.conditionText).toFinset.card =
      (t.guards.map Guard.conditionText).length ↔ (t.guards.map Guard.conditionText).Nodup :=
    Multiset.toFinset_card_eq_card_iff_nodup
  rw [List.length_map] at hle hnodup
  rw [repetitions, ← hnodup]
  omega

/-- A machine conforms if it has no faults. -/
theorem Machine.faultCount_eq_zero {m : Machine} {target : Option Target} :
    m.faultCount target = 0 ↔ m.Conforms target := by
  have hone : ∀ {c : Prop} [Decidable c], (if c then 0 else 1) = 0 ↔ c := by
    intro c _
    split <;> simp_all
  have htransition : ∀ (map : StateMap) (t : Transition), t.faultCount m target map = 0 ↔
      (t.guards.map Guard.conditionText).Nodup ∧ (∀ q ∈ t.parameters, q.PassedWell target) ∧
        (∀ g ∈ t.guards, g.EndsWell m map) ∧ ∀ g ∈ t.guards, g.PushesWell m map := by
    intro map t
    simp [Transition.faultCount, Transition.repetitions_eq_zero, and_assoc]
  simp only [faultCount, Nat.add_eq_zero_iff, hone, List.sum_eq_zero_iff_forall_eq_nat,
    List.forall_mem_map, htransition]
  constructor
  · rintro ⟨⟨⟨hstart, hcontext⟩, hheader⟩, h⟩
    exact
      { start := hstart
        context := hcontext
        header := hheader
        conditions := fun p hp t ht => (h p hp t ht).1
        parameters := fun p hp t ht => (h p hp t ht).2.1
        endStates := fun p hp t ht => (h p hp t ht).2.2.1
        pushStates := fun p hp t ht => (h p hp t ht).2.2.2 }
  · intro h
    exact ⟨⟨⟨h.start, h.context⟩, h.header⟩, fun p hp t ht =>
      ⟨h.conditions p hp t ht, h.parameters p hp t ht, h.endStates p hp t ht,
        h.pushStates p hp t ht⟩⟩

/-! ## Counting errors -/

/-- A text is what it says. -/
theorem Value.eq_str_of_isText {v : Value} (h : v.isText = true) : v = .str v.text := by
  cases v <;> first | rfl | cases h

namespace Validate

variable {m : Machine} {target : Option Target} {p : Place} {t : Transition} {g : Guard}

/-- The number of violations that are errors. -/
def errorCount (vs : List Violation) : Nat :=
  vs.countP fun v => v.severity == .error

@[simp]
theorem errorCount_nil : errorCount [] = 0 := rfl

@[simp]
theorem errorCount_error (line : Value) (message : String) : errorCount [error line message] = 1 :=
  rfl

@[simp]
theorem errorCount_append (vs ws : List Violation) :
    errorCount (vs ++ ws) = errorCount vs + errorCount ws :=
  List.countP_append

theorem errorCount_start (htext : m.start.isText = true) :
    errorCount (start m) = if m.start.isSet = true ∧ m.HasStart m.start.text then 0 else 1 := by
  rw [start]
  by_cases hset : m.start.isSet = true
  · have hstart : m.startPlace?.isSome = true ↔ m.HasStart m.start.text := by
      rw [Value.eq_str_of_isText htext] at hset ⊢
      rw [Machine.startPlace?, Value.eq_str_of_isText htext, ← Machine.isSome_findStart?]
      simp only [Value.isSet, Bool.not_eq_true'] at hset
      simp [hset]
      rfl
    by_cases hsome : m.startPlace?.isSome = true
    · obtain ⟨q, hq⟩ := Option.isSome_iff_exists.1 hsome
      simp [hset, hq, hstart.1 hsome]
    · have hnone := Option.not_isSome_iff_eq_none.1 hsome
      simp [hset, hnone, mt hstart.2 hsome]
  · simp [hset]

theorem errorCount_context :
    errorCount (context m) = if m.context.isSet = true then 0 else 1 := by
  rw [context]
  split <;> rfl

theorem errorCount_header : errorCount (header m target) =
    if target.any Target.requiresHeader = true → m.header.isSet = true then 0 else 1 := by
  rw [header]
  by_cases htarget : target.any Target.requiresHeader = true <;>
    by_cases hset : m.header.isSet = true <;> simp [htarget, hset]

/-- A machine without maps is no error. -/
theorem errorCount_maps : errorCount (maps m) = 0 := by
  rw [maps]
  split <;> rfl

theorem isKnown_iff {name : String} : isKnown m p.map name = true ↔ m.HasState p.map name :=
  Machine.isSome_findState?

theorem errorCount_endState :
    errorCount (endState m p t g) = if g.EndsWell m p.map then 0 else 1 := by
  -- staying is no default
  have hnil : isDefaultName nilState = false := by decide +kernel
  simp only [endState, Guard.EndsWell, ← isKnown_iff, beq_iff_eq]
  by_cases hmove : g.move = .pop
  · simp [hmove]
  · by_cases hstays : g.endState.text = nilState
    · simp [hmove, hstays, hnil]
    · cases hdefault : isDefaultName g.endState.text <;>
        cases hknown : isKnown m p.map g.endState.text <;> simp [hmove, hstays]

theorem errorCount_pushState :
    errorCount (pushState m p t g) = if g.PushesWell m p.map then 0 else 1 := by
  simp only [pushState, Guard.PushesWell, ← isKnown_iff, bne_iff_ne, beq_iff_eq]
  by_cases hmove : g.move = .push
  · by_cases hstays : g.pushState.text = nilState
    · simp [hmove, hstays]
    · cases hdefault : isDefaultName g.pushState.text <;>
        cases hknown : isKnown m p.map g.pushState.text <;> simp [hmove, hstays]
  · simp [hmove]

/-- The guards are checked in another order than they are declared in. -/
theorem errorCount_guards :
    errorCount (t.ordered.flatMap fun g => endState m p t g ++ pushState m p t g) =
      t.guards.countP (fun g => ¬ g.EndsWell m p.map) +
        t.guards.countP fun g => ¬ g.PushesWell m p.map := by
  have hperm : t.ordered.Perm t.guards := List.filter_append_perm Guard.hasCondition t.guards
  rw [← hperm.countP_eq, ← hperm.countP_eq]
  induction t.ordered with
  | nil => rfl
  | cons g gs ih =>
    simp only [List.flatMap_cons, errorCount_append, errorCount_endState, errorCount_pushState, ih,
      List.countP_cons, decide_not, Bool.not_eq_true', decide_eq_false_iff_not, ite_not]
    omega

theorem errorCount_parameter {q : Parameter} :
    errorCount (parameter target q) = if q.PassedWell target then 0 else 1 := by
  simp only [parameter, Parameter.PassedWell, ← Parameter.any_passing]
  by_cases htarget : target = some .tcl
  · cases passing.any (fun w => q.type == .str w) <;> simp [htarget]
  · simp [htarget]

theorem errorCount_parameters (qs : List Parameter) :
    errorCount (qs.flatMap (parameter target)) = qs.countP fun q => ¬ q.PassedWell target := by
  induction qs with
  | nil => rfl
  | cons q qs ih =>
    simp only [List.flatMap_cons, errorCount_append, ih, errorCount_parameter, List.countP_cons,
      decide_not, Bool.not_eq_true', decide_eq_false_iff_not, ite_not]
    omega

/-- The guards that repeat a condition, and the conditions that are different and
    were not `seen`, make up all guards. -/
theorem length_repeated (seen : List String) (gs : List Guard) :
    (repeated seen gs).length +
      ((gs.map Guard.conditionText).toFinset \ seen.toFinset).card = gs.length := by
  induction gs generalizing seen with
  | nil => simp [repeated]
  | cons g gs ih =>
    have hseen := ih (g.conditionText :: seen)
    simp only [repeated, List.map_cons, List.toFinset_cons, List.length_cons] at hseen ⊢
    by_cases hmem : g.conditionText ∈ seen
    · have hmem' : g.conditionText ∈ seen.toFinset := List.mem_toFinset.2 hmem
      rw [Finset.insert_eq_of_mem hmem'] at hseen
      rw [if_pos (List.contains_iff_mem.2 hmem), Finset.insert_sdiff_of_mem _ hmem', List.length_cons]
      omega
    · -- the condition is new: it leaves what is not seen, and one is counted for it
      have hmem' : g.conditionText ∉ seen.toFinset := mt List.mem_toFinset.1 hmem
      have hnew : insert g.conditionText (gs.map Guard.conditionText).toFinset \ seen.toFinset =
          insert g.conditionText ((gs.map Guard.conditionText).toFinset \
            insert g.conditionText seen.toFinset) := by
        ext c
        by_cases hc : c = g.conditionText <;> simp [hc, hmem]
      rw [if_neg (mt List.contains_iff_mem.1 hmem), hnew, Finset.card_insert_of_notMem (by simp)]
      omega

theorem errorCount_conditions : errorCount (conditions p t) = t.repetitions := by
  have hlength := length_repeated [] t.guards
  have herror : errorCount (conditions p t) = (repeated [] t.guards).length := by
    rw [conditions, errorCount, List.countP_map]
    exact List.countP_eq_length.2 fun g _ => rfl
  simp only [List.toFinset_nil, Finset.sdiff_empty] at hlength
  rw [herror, Transition.repetitions]
  omega

theorem errorCount_state (hsignature : p.state.bySignature = p.state.transitions) :
    errorCount (state m target p) =
      (p.state.transitions.map (Transition.faultCount m target p.map)).sum := by
  rw [state, hsignature]
  induction p.state.transitions with
  | nil => rfl
  | cons t ts ih => 
    simp only [List.flatMap_cons, errorCount_append, List.map_cons, List.sum_cons] at ih ⊢
    rw [← ih, errorCount_conditions, Transition.faultCount, transition, errorCount_append,
      errorCount_parameters, errorCount_guards]
    omega

end Validate

/-! ## Machines that were read -/

namespace Load

variable {P : State → Prop}

theorem state_gives_of (hempty : ∀ s, s.transitions = [] → P s)
    (hadd : ∀ s t, P s → P (s.addTransition t)) (mapName v : Value) :
    Gives (state mapName v) fun r => ∀ s ∈ r, P s := by
  have hfold : ∀ (ts : List Transition) (s : State), P s → P (ts.foldl State.addTransition s) := by
    intro ts
    induction ts with
    | nil => exact fun _ hs => hs
    | cons t ts ih => exact fun s hs => ih _ (hadd s t hs)
  rw [state]
  split
  · refine .after fun entry => .after fun exit => ?_
    split
    · refine .after fun entries => .after fun ts => .pure ?_
      rintro _ ⟨⟩
      exact hfold ts _ (hempty _ rfl)
    · exact .throw _
  · exact .after fun _ => .pure (by simp)

theorem map_gives_of (h : ∀ mapName v, Gives (state mapName v) fun r => ∀ s ∈ r, P s) (v : Value) :
    Gives (map v) fun r => ∀ m ∈ r, ∀ s ∈ m.allStates, P s := by
  have hfold : ∀ (ss : List State) (m : StateMap), (∀ s ∈ m.allStates, P s) → (∀ s ∈ ss, P s) →
      ∀ s ∈ (ss.foldl StateMap.addState m).allStates, P s := by
    intro ss
    induction ss with
    | nil => exact fun _ hm _ => hm
    | cons s ss ih =>
      intro m hm hss
      obtain ⟨hs, hss⟩ := List.forall_mem_cons.1 hss
      exact ih _ (StateMap.forall_addState hm hs) hss
  rw [map]
  split
  · refine .after fun entries => (Gives.collect (h _) entries).bind fun ss hss => .pure ?_
    rintro _ ⟨⟩
    exact hfold ss _ (by simp [StateMap.allStates]) hss
  · exact .after fun _ => .pure (by simp)

/-- What holds of states without transitions, and is kept by a further transition,
    holds of all states of a machine that was read. -/
theorem forall_states_of_outcome {v name : Value} {m : Machine}
    (hempty : ∀ s, s.transitions = [] → P s) (hadd : ∀ s t, P s → P (s.addTransition t))
    (hm : (machine v name).outcome.1 = .ok m) : ∀ p ∈ m.allPlaces, P p.state := by
  have hgives : Gives (machine v name) fun m => ∀ map ∈ m.maps, ∀ s ∈ map.allStates, P s := by
    rw [machine.eq_def]
    split
    · exact .after fun _ => .after fun _ => .after fun entries =>
        (Gives.collect (map_gives_of (state_gives_of hempty hadd)) entries).bind fun _ hmaps =>
          .after fun _ => .pure hmaps
    · exact .throw _
  intro p hp
  obtain ⟨hmap, hstate⟩ := Machine.mem_allPlaces.1 hp
  exact hgives [] m _ (Prod.ext hm rfl) p.map hmap p.state hstate

/-- No two transitions of a state that was read have the same signature. -/
theorem distinct_of_outcome {v name : Value} {m : Machine}
    (hm : (machine v name).outcome.1 = .ok m) :
    ∀ p ∈ m.allPlaces, Transition.Distinct p.state.transitions :=
  forall_states_of_outcome (fun _ hs => hs ▸ List.Pairwise.nil)
    (fun _ _ hs => State.distinct_insertTransition hs) hm

end Load

/-! ## Machines of texts -/

/-- The names, types and conditions of the transition are texts, and so are the
    states its guards name. -/
structure Transition.Textual (t : Transition) : Prop where
  name : t.name.isText = true
  parameters : ∀ q ∈ t.parameters, q.name.isText = true ∧ q.type.isText = true
  guards : ∀ g ∈ t.guards,
    g.condition.isText = true ∧ g.endState.isText = true ∧ g.pushState.isText = true

/-- The texts that the check reads are texts. -/
structure Machine.Textual (m : Machine) : Prop where
  start : m.start.isText = true
  transitions : ∀ p ∈ m.allPlaces, ∀ t ∈ p.state.transitions, t.Textual

section Textual

variable {t u : Transition}

/-- Textual names are alike if they are equal. -/
theorem Transition.Textual.alike_eq_same (ht : t.Textual) :
    t.signature.alike u.signature = t.signature.same u.signature := by
  rw [Signature.alike, Signature.same, signature, Value.eq_str_of_isText ht.name]
  rfl

theorem State.joinTransition_of_forall {us : List Transition}
    (h : ∀ u ∈ us, u.signature.alike t.signature = false) : joinTransition us t = us ++ [t] := by
  induction us with
  | nil => rfl
  | cons u us ih =>
    obtain ⟨hu, hus⟩ := List.forall_mem_cons.1 h
    rw [joinTransition, hu, if_neg Bool.false_ne_true, ih hus, List.cons_append]

/-- Transitions that can be told apart are told apart by signature. -/
theorem State.bySignature_of_distinct {s : State} (htext : ∀ t ∈ s.transitions, t.Textual)
    (hdistinct : Transition.Distinct s.transitions) : s.bySignature = s.transitions := by
  have hjoin : ∀ ts us : List Transition,
      (us ++ ts).Pairwise (fun t u => t.signature.alike u.signature = false) →
        ts.foldl joinTransition us = us ++ ts := by
    intro ts
    induction ts with
    | nil => exact fun us _ => (List.append_nil us).symm
    | cons t ts ih =>
      intro us h
      have hlast := (List.pairwise_append.1 h).2.2
      rw [List.foldl_cons, joinTransition_of_forall fun u hu => hlast u hu t List.mem_cons_self,
        ih (us ++ [t]) (by simpa using h), List.append_assoc, List.singleton_append]
  refine hjoin s.transitions [] (List.Pairwise.imp_of_mem (fun ht _ h => ?_) hdistinct)
  rw [(htext _ ht).alike_eq_same]
  exact h

end Textual

namespace Validate

/-- A text can be scoped. -/
theorem scopeMismatch?_of_isText {v : Value} (h : v.isText = true) : scopeMismatch? v = none := by
  rw [Value.eq_str_of_isText h]
  rfl

theorem transitionMismatch_of_textual {t : Transition} (ht : t.Textual) :
    t.signature.isKey = true ∧ t.orderMismatch? = none ∧
      ∀ g ∈ t.ordered, guardMismatch? g = none := by
  have hname : ∀ v : Value, v.isText = true → v.isKey = true := fun v h => by
    rw [Value.eq_str_of_isText h]
    rfl
  refine ⟨?_, ?_, fun g hg => ?_⟩
  · simp only [Signature.isKey, Signature.parts, Transition.signature, List.all_eq_true,
      List.mem_cons, List.mem_flatMap, List.mem_map]
    rintro v (rfl | ⟨_, ⟨q, hq, rfl⟩, rfl | rfl | hv⟩)
    · exact hname _ ht.name
    · exact hname _ (ht.parameters q hq).1
    · exact hname _ (ht.parameters q hq).2
    · cases hv
  · refine List.findSome?_eq_none_iff.2 fun g hg => ?_
    rw [Guard.conditionMismatch?, Value.textMismatch?, if_pos (ht.guards g hg).1]
  · obtain ⟨-, hend, hpush⟩ := ht.guards g (Transition.mem_ordered.1 hg)
    simp [guardMismatch?, Guard.planMismatch?, nameMismatch?, Value.textMismatch?, hend, hpush,
      scopeMismatch?_of_isText]

/-- A machine of texts can be checked. -/
theorem mismatch?_of_textual {m : Machine} (h : m.Textual)
    (hsignature : ∀ p ∈ m.allPlaces, p.state.bySignature = p.state.transitions) :
    mismatch? m = none := by
  have hstart : m.startMismatch? = none := by
    rw [Machine.startMismatch?, h.start]
    rfl
  have hstate : ∀ p ∈ m.allPlaces, stateMismatch? p.state = none := by
    intro p hp
    have hparts := fun t ht => transitionMismatch_of_textual (h.transitions p hp t ht)
    have hkeys : (p.state.transitions.all fun t => t.signature.isKey) = true :=
      List.all_eq_true.2 fun t ht => (hparts t ht).1
    have hconditions : p.state.transitions.findSome? conditionMismatch? = none := by
      refine List.findSome?_eq_none_iff.2 fun t ht => ?_
      rw [conditionMismatch?, (hparts t ht).2.1, ite_self]
    have hguards : (p.state.transitions.findSome? fun t =>
        t.orderMismatch? <|> t.ordered.findSome? guardMismatch?) = none := by
      refine List.findSome?_eq_none_iff.2 fun t ht => ?_
      rw [(hparts t ht).2.1]
      exact List.findSome?_eq_none_iff.2 (hparts t ht).2.2
    rw [stateMismatch?, hsignature p hp, if_pos hkeys, hconditions, hguards]
    rfl
  rw [mismatch?, hstart]
  exact List.findSome?_eq_none_iff.2 hstate

end Validate

/-- The errors found are the faults there are. -/
theorem Machine.length_errors {m : Machine} {target : Option Target} {source : Value}
    (hstart : m.start.isText = true)
    (hsignature : ∀ p ∈ m.allPlaces, p.state.bySignature = p.state.transitions) :
    (m.validation target source).errors.length = m.faultCount target := by
  have hplaces : Validate.errorCount (m.allPlaces.flatMap (Validate.state m target)) =
      (m.allPlaces.map fun p =>
        (p.state.transitions.map (Transition.faultCount m target p.map)).sum).sum := by
    rw [Validate.errorCount, List.countP_flatMap]
    exact congrArg List.sum
      (List.map_congr_left fun p hp => Validate.errorCount_state (hsignature p hp))
  have herrors : (m.validation target source).errors.length =
      Validate.errorCount (Validate.violations m target) := by
    rw [Validation.errors, validation, ← List.countP_eq_length_filter, List.countP_map]
    rfl
  rw [herrors, Validate.violations, Validate.errorCount_append, Validate.errorCount_append,
    Validate.errorCount_append, Validate.errorCount_append, Validate.errorCount_start hstart,
    Validate.errorCount_context, Validate.errorCount_header, Validate.errorCount_maps, hplaces,
    faultCount, Nat.add_zero]

/-- The check of a machine that was read and is made of texts comes to a result. It
    accepts the machine if and only if it conforms, and finds one error for each
    fault. -/
theorem validate_decides_conformance {v name : Value} {m : Machine}
    (hload : (Load.machine v name).outcome.1 = .ok m) (htext : m.Textual)
    (target : Option Target) (source : Option Value) :
    ∃ w, m.validate target source = .ok w ∧ (w.isValid = true ↔ m.Conforms target) ∧
      w.errors.length = m.faultCount target := by
  have hsignature : ∀ p ∈ m.allPlaces, p.state.bySignature = p.state.transitions := fun p hp =>
    State.bySignature_of_distinct (htext.transitions p hp) (Load.distinct_of_outcome hload p hp)
  have hlength : (m.validation target (source.getD m.name)).errors.length = m.faultCount target :=
    m.length_errors htext.start hsignature
  refine ⟨m.validation target (source.getD m.name), ?_, ?_, hlength⟩
  · rw [Machine.validate, Validate.mismatch?_of_textual htext hsignature]
  · rw [Validation.isValid, List.isEmpty_iff_length_eq_zero, hlength, Machine.faultCount_eq_zero]

/-! ## A jammed door -/

/-- The description of a way to pass the jammed door. -/
def jammedPass (condition endState : String) : Value :=
  .object [("name", .str "pass"),
    ("parameters", .list [.object [("name", .str "key"), ("type", .str "any")]]),
    ("guard", .str condition), ("end_state", .str endState)]

/-- The description of a door that nothing is right about. -/
def jammedDoor : Value :=
  .object [("name", .str "Door"), ("start", .str "Hall::Gone"), ("maps", .list [.object [
    ("name", .str "Hall"),
    ("states", .list [.object [("name", .str "Shut"), ("transitions", .list [
      jammedPass "ready" "Default", jammedPass " ready " "nil", jammedPass "ready" "nil",
      .object [("name", .str "ask"), ("type", .str "push"), ("end_state", .str "nil"),
        ("push_state", .str "nil")]])]])]])]

open Simulator

/-- The state of the jammed door. -/
def jammedShut : State :=
  doorState "Shut" [
    ⟨.str "pass", [⟨.str "key", .str "any", .int 0⟩],
      [doorGuard "ready" .set "Default" "", doorGuard " ready " .set "nil" "",
        doorGuard "ready" .set "nil" ""], .int 0⟩,
    doorTransition "ask" (doorGuard "" .push "nil" "nil")]

/-- The jammed door. -/
def jammedMachine : Machine :=
  { doorMachine "" with
    context := .str ""
    start := .str "Hall::Gone"
    maps := [{ name := .str "Hall", states := [jammedShut], default? := none, line := .int 0 }] }

theorem jammed_textual : jammedMachine.Textual := by
  refine ⟨rfl, ?_⟩
  have htransitions : ∀ t ∈ jammedShut.transitions, t.Textual := by
    simp only [jammedShut, doorState, List.forall_mem_cons]
    refine ⟨⟨rfl, ?_, ?_⟩, ⟨rfl, ?_, ?_⟩, List.forall_mem_nil _⟩ <;>
      simp [doorTransition, doorGuard, Value.isText]
  simpa [Machine.allPlaces, jammedMachine, StateMap.allStates] using htransitions

/-- For Tcl, the jammed door has no start state and no class, a wrong end state, a wrong state
    to push, a wrong parameter, and one condition three times. -/
theorem jammed_door_has_seven_errors :
    (Load.machine jammedDoor .null).outcome.1 = .ok jammedMachine ∧ jammedMachine.Textual ∧
      jammedMachine.faultCount (some .tcl) = 7 ∧
      ∃ w, jammedMachine.validate (some .tcl) none = .ok w ∧ w.isValid = false ∧
        w.errors.length = 7 := by
  have hload : (Load.machine jammedDoor .null).outcome.1 = .ok jammedMachine := by rfl
  have hcount : jammedMachine.faultCount (some .tcl) = 7 := by decide +kernel
  obtain ⟨w, hvalidate, hvalid, hlength⟩ :=
    validate_decides_conformance hload jammed_textual (some .tcl) none
  refine ⟨hload, jammed_textual, hcount, w, hvalidate, ?_, hlength.trans hcount⟩
  refine Bool.eq_false_iff.2 fun h => ?_
  rw [Machine.faultCount_eq_zero.2 (hvalid.1 h)] at hcount
  cases hcount

end StateMachine
