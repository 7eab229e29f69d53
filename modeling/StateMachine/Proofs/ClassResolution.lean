import StateMachine.Proofs.ClassMethods
import StateMachine.Proofs.TransitionNames
import StateMachine.Proofs.Validated

/-!
# Following the class table

The classes generated for a machine dispatch a transition by calling its method
(`ClassTable.resolve`):

* the method is looked for in the class of the state, then in the default class
  of its map, then in the base class;
* the base class calls `Default` without arguments in its place, from the class
  of the state on; the base class's own `Default` refuses.

Following the table is a search through the choices of the state
(`resolve_eq`).
-/

namespace StateMachine.ClassTable

/-! ## Calls from a state -/

/-- The class of a state of the map at a position, and the class above it, if that
    is right below the base class. -/
def classes? (t : ClassTable) (position : Nat) (state : String) :
    Option (StateClass × StateClass) := do
  let map ← t.maps[position]?
  let i ← map.instances.find? fun i => i.name == state
  let cls ← map.classes.find? fun c => c.name == i.className
  let above ← map.classes.find? fun c => c.name == cls.parent
  if above.parent == t.base then some (cls, above) else none

section Calls

variable {M : Type → Type} [Monad M] (ask : Option DefaultStep → Guard → M Bool)

/-- The method of the base class for a transition: it calls `Default`, if it is
    there. -/
def callBase (t : ClassTable) (cls above : StateClass) (name : Value) : M Resolution :=
  if t.transitionNames.any name.alike then
    Ancestor.call ask (.str defaultName) 0 (pure .undefined)
      [⟨some .stateDefault, cls⟩, ⟨some .mapDefault, above⟩]
  else pure .missing

/-- Calls the method of a transition in a state of the map at a position. -/
def resolve (t : ClassTable) (position : Nat) (state : String) (name : Value) (arity : Nat) :
    M Resolution :=
  match t.classes? position state with
  | none => pure .missing
  | some (cls, above) =>
    Ancestor.call ask name arity (t.callBase ask cls above name)
      [⟨none, cls⟩, ⟨some .mapTransition, above⟩]

end Calls

/-! ## Classes -/

variable {m : Machine} {o : Options} {p : Place}

/-- The place of the Default State, or of a bare one in its stead. -/
def defaultPlace (map : StateMap) : Place :=
  ⟨map, map.default?.getD bareDefault⟩

theorem isDefault_defaultPlace {map : StateMap} (h : map.WellFormed) :
    (defaultPlace map).state.isDefault = true := by
  cases hd : map.default? with
  | none =>
    rw [defaultPlace, hd]
    exact beq_self_eq_true (Text.lower defaultName)
  | some d =>
    rw [defaultPlace, hd]
    exact h.default_isDefault d hd

section MapClasses

variable {map : StateMap} {s : State} (names : List Value) (index : StateIndex)

/-- The instance of a state has the class named for the state. -/
theorem find?_instances (hs : s ∈ map.states) (hdistinct : (map.states.map State.name).Nodup) :
    ∃ i, (mapClasses m o names index map).instances.find? (fun i => i.name == s.name) = some i ∧
      i.className = stateClassName map s := by
  change ∃ i, (map.states.map _).find? _ = some i ∧ _
  rw [List.find?_map]
  change ∃ i, (map.states.find? fun s' => s'.name == s.name).map _ = some i ∧ _
  rw [find?_of_nodup hdistinct hs]
  exact ⟨_, rfl, rfl⟩

/-- The class named for a state is that of the state. -/
theorem find?_classes (hreal : s.isDefault = false) (hs : s ∈ map.states)
    (hdistinct : (map.states.map State.name).Nodup) :
    (mapClasses m o names index map).classes.find? (fun c => c.name == stateClassName map s) =
      some (stateClass m o names (stateClassName map s) ⟨map, s⟩) := by
  have hdefault : ¬(defaultClassName map == stateClassName map s) = true := by
    intro h
    -- a state with the name of the default class would be a Default State
    have hname : defaultName = s.name := by
      simpa [defaultClassName, stateClassName] using h
    rw [State.isDefault, isDefaultName, ← hname, beq_self_eq_true] at hreal
    cases hreal
  change List.find? _ (stateClass m o names (defaultClassName map) (defaultPlace map) ::
    map.states.map _) = _
  rw [List.find?_cons_of_neg (p := fun c : StateClass => c.name == stateClassName map s) hdefault,
    List.find?_map]
  have hname : (fun s' : State => stateClassName map s' == stateClassName map s) =
      fun s' => s'.name == s.name := by
    funext s'
    rw [Bool.eq_iff_iff]
    simp [stateClassName]
  change (map.states.find? fun s' => stateClassName map s' == stateClassName map s).map _ = _
  rw [hname, find?_of_nodup hdistinct hs]
  rfl

/-- The class above that of a real state is the default class of the map. -/
theorem find?_classes_parent (hreal : s.isDefault = false) :
    (mapClasses m o names index map).classes.find?
        (fun c => c.name == (stateClass m o names (stateClassName map s) ⟨map, s⟩).parent) =
      some (stateClass m o names (defaultClassName map) (defaultPlace map)) := by
  change List.find? (fun c => c.name == parentClass m ⟨map, s⟩)
    (stateClass m o names (defaultClassName map) (defaultPlace map) :: map.states.map _) = _
  rw [parentClass, if_neg (by rw [hreal]; exact Bool.false_ne_true), List.find?_cons_of_pos]
  exact beq_self_eq_true _

end MapClasses

/-- The classes a state's methods are looked for in: its own, and the default class
    of its map. -/
theorem classes?_classTable {map : StateMap} {position : Nat} {s : State} {start : Place}
    (hmap : m.maps[position]? = some map) (hwf : map.WellFormed) (hs : s ∈ map.states)
    (hdistinct : (map.states.map State.name).Nodup) :
    (m.classTable o start).classes? position s.name =
      some (stateClass m o (m.classTable o start).transitionNames (stateClassName map s) ⟨map, s⟩,
        stateClass m o (m.classTable o start).transitionNames (defaultClassName map)
          (defaultPlace map)) := by
  have hmaps : (m.classTable o start).maps[position]? =
      some (mapClasses m o (m.classTable o start).transitionNames m.index map) := by
    change (m.maps.map _)[position]? = _
    rw [List.getElem?_map, hmap]
    rfl
  obtain ⟨i, hi, hclass⟩ := find?_instances (m := m) (o := o)
    (m.classTable o start).transitionNames m.index hs hdistinct
  have hbase : ((stateClass m o (m.classTable o start).transitionNames (defaultClassName map)
      (defaultPlace map)).parent == (m.classTable o start).base) = true := by
    change (parentClass m (defaultPlace map) == baseName m) = true
    rw [parentClass, if_pos (isDefault_defaultPlace hwf)]
    exact beq_self_eq_true _
  simp only [classes?, hmaps, hi, hclass, Option.bind_eq_bind, Option.bind_some,
    find?_classes _ _ (hwf.real s hs) hs hdistinct, find?_classes_parent _ _ (hwf.real s hs),
    hbase, if_true]

/-- A bare Default State has no candidates. -/
theorem find_defaultPlace (p : Place) (step : Option DefaultStep) (name : Value) (arity : Nat) :
    Candidate.find (some (defaultPlace p.map)) step name arity =
      Candidate.find p.default? step name arity := by
  cases h : p.map.default? with
  | none =>
    have hdefault : p.default? = none := by rw [Place.default?, h]; rfl
    rw [hdefault, defaultPlace, h]
    rfl
  | some d =>
    have hdefault : p.default? = some ⟨p.map, d⟩ := by rw [Place.default?, h]; rfl
    rw [hdefault, defaultPlace, h]
    rfl

/-- The names of the transitions of a valid machine serve as keys. -/
theorem keyNames_transitions (hvalid : m.Valid) : KeyNames m.transitions := by
  intro q hq
  obtain ⟨hplace, ht⟩ := Machine.mem_transitions.1 hq
  have h := (hvalid.transitions q.place hplace q.transition ht).key
  rw [Signature.isKey, Signature.parts, List.all_cons, Bool.and_eq_true] at h
  exact h.1

/-- So do those of a state and of its Default State. -/
theorem isKey_of_valid (hvalid : m.Valid) {map : StateMap} (hmap : map ∈ m.maps) :
    (∀ s ∈ map.states, ∀ t ∈ s.transitions, t.name.isKey = true) ∧
      ∀ t ∈ (defaultPlace map).state.transitions, t.name.isKey = true := by
  have hkey : ∀ s ∈ map.allStates, ∀ t ∈ s.transitions, t.name.isKey = true := by
    intro s hs t ht
    exact keyNames_transitions hvalid ⟨⟨map, s⟩, t⟩
      (Machine.mem_transitions.2 ⟨Machine.mem_allPlaces.2 ⟨hmap, hs⟩, ht⟩)
  refine ⟨fun s hs => hkey s (List.mem_append_right _ hs), ?_⟩
  cases hd : map.default? with
  | none =>
    rw [defaultPlace, hd]
    exact fun t ht => absurd ht List.not_mem_nil
  | some d =>
    rw [defaultPlace, hd]
    exact hkey d (by rw [StateMap.allStates, hd]; exact List.mem_cons_self)

variable {M : Type → Type} [Monad M] [LawfulMonad M]

/-- Following the class table for a collected name is a search through the choices
    of the state. -/
theorem resolve_of_collected (ask : Option DefaultStep → Guard → M Bool) (hwf : m.WellFormed)
    (hvalid : m.Valid) {start : Place} {position : Nat} (hmap : m.maps[position]? = some p.map)
    (hs : p.state ∈ p.map.states) (hdistinct : (p.map.states.map State.name).Nodup) {name : Value}
    (hkey : name.isKey = true) (hname : name ≠ .str defaultName)
    (hbase : (m.classTable o start).transitionNames.any name.alike = true) (arity : Nat) :
    (m.classTable o start).resolve ask position p.state.name name arity = (do
      match ← (p.choices name arity).findM?
          (fun x => asksGuard ask x.candidate.step x.guard) with
      | some x => return taken o p.map x.candidate.step x.guard
      | none => return .undefined) := by
  have hmem := List.mem_of_getElem? hmap
  have hne : (name == .str defaultName) = false :=
    Bool.eq_false_iff.2 fun h => hname (Value.beq_str_iff.1 h)
  obtain ⟨hown, hdefault⟩ := isKey_of_valid hvalid hmem
  have hown := hown p.state hs
  have hdefaultName : (Value.str defaultName).isKey = true := rfl
  rw [resolve, classes?_classTable hmap (hwf _ hmem) hs hdistinct]
  simp only [callBase, hbase, if_true, call_stateClass ask hkey hown,
    call_stateClass ask hkey hdefault, call_stateClass ask hdefaultName hown,
    call_stateClass ask hdefaultName hdefault, find_defaultPlace, Place.choices, Place.candidates,
    Place.fallbacks, hne, Bool.false_eq_true, if_false, List.flatMap_append, List.append_assoc,
    findM?_append_bind]
  -- step by step, both sides go on in the same way
  refine bind_congr fun r => ?_
  cases r with
  | some x => rfl
  | none =>
    refine bind_congr fun r => ?_
    cases r with
    | some x => rfl
    | none =>
      refine bind_congr fun r => ?_
      cases r with
      | some x => rfl
      | none =>
        refine bind_congr fun r => ?_
        cases r <;> rfl

/-- Following the class table is a search through the choices of the state. -/
theorem resolve_eq (ask : Option DefaultStep → Guard → M Bool) (hwf : m.WellFormed)
    (hvalid : m.Valid) (start : Place) {position : Nat} (hmap : m.maps[position]? = some p.map)
    (hs : p.state ∈ p.map.states) (hdistinct : (p.map.states.map State.name).Nodup)
    {q : Placed} (hq : q ∈ signatureUnion m.transitions)
    (hname : q.transition.name ≠ .str defaultName) (arity : Nat) :
    (m.classTable o start).resolve ask position p.state.name q.transition.name arity = (do
      match ← (p.choices q.transition.name arity).findM?
          (fun x => asksGuard ask x.candidate.step x.guard) with
      | some x => return taken o p.map x.candidate.step x.guard
      | none => return .undefined) := by
  have hkey := keyNames_transitions hvalid q (mem_of_mem_signatureUnion hq)
  exact resolve_of_collected ask hwf hvalid hmap hs hdistinct hkey hname
    (any_transitionNames hq hkey hname) arity

end StateMachine.ClassTable
