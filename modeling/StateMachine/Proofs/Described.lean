import StateMachine.Proofs.Entries

/-!
# What entries describe

The result of a reading, without what it reports, is computed from the results of its steps
(`Load.result_bind`). So what becomes of an entry can be told without the reading: an entry
*describes* an action, a parameter, a transition, a state, a map or a machine
(`Value.toAction?` and so on to `Value.toMachine`).

If the lists of a description are lists, and the names of its states and transitions are texts
(`Value.Shaped`), nothing but the type of a transition can make the reading fail: the result is
the machine described, or the fault of the first named entry with a bad type
(`Load.result_machine`).
-/

namespace StateMachine

variable {α β : Type}

/-! ## Results -/

namespace Load

/-- What a reading comes to. -/
def result (x : Load α) : Except LoadError α :=
  x.outcome.1

/-- The result of a reading in two steps. -/
theorem result_bind {x : Load α} {k : α → Load β} (hk : ∀ a, Adds (k a)) :
    (x >>= k).result = x.result >>= fun a => (k a).result := by
  change ((x >>= k).run.run []).1 = _
  rw [run_bind, result]
  change (match x.outcome with
    | (.ok a, records) => (k a).run.run records
    | (.error e, records) => (.error e, records)).1 = _
  rcases x.outcome with ⟨e | a, records⟩
  · rfl
  · -- what the second step comes to does not depend on the reports of the first
    exact congrArg (fun o => o.1) (hk a records)

/-- A step with a known result. -/
theorem result_bind_ok {x : Load α} {k : α → Load β} (hk : ∀ a, Adds (k a)) {a : α}
    (hx : x.result = .ok a) : (x >>= k).result = (k a).result := by
  rw [result_bind hk, hx]
  rfl

theorem elements_list (items : List Value) : elements (.list items) = pure items := rfl

/-- The first entry is read before the others. -/
theorem result_collect_cons {read : Value → Load (Option α)} (hadds : ∀ v, Adds (read v))
    (v : Value) (vs : List Value) : (collect read (v :: vs)).result = do
      let part ← (read v).result
      let parts ← (collect read vs).result
      return part.toList ++ parts := by
  rw [collect, result_bind fun _ => (Adds.collect hadds vs).bind fun _ => .pure _]
  exact congrArg _ (funext fun part => result_bind fun _ => .pure _)

/-- Entries of which one cannot be read, or each one gives a part or is skipped. -/
theorem result_collect {read : Value → Load (Option α)} {vs : List Value}
    {fault? : Value → Option LoadError} {part? : Value → Option α} (hadds : ∀ v, Adds (read v))
    (h : ∀ v ∈ vs, (read v).result = (fault? v).elim (.ok (part? v)) .error) :
    (collect read vs).result = (vs.findSome? fault?).elim (.ok (vs.filterMap part?)) .error := by
  induction vs with
  | nil => rfl
  | cons v vs ih =>
    obtain ⟨hv, hvs⟩ := List.forall_mem_cons.1 h
    rw [result_collect_cons hadds, hv, ih hvs, List.findSome?_cons, List.filterMap_cons]
    cases fault? v with
    | some e => rfl
    | none =>
      cases vs.findSome? fault? with
      | some e => rfl
      | none => cases part? v <;> rfl

/-- Entries that can all be read. -/
theorem result_collect_ok {read : Value → Load (Option α)} {vs : List Value}
    {part? : Value → Option α} (hadds : ∀ v, Adds (read v))
    (h : ∀ v ∈ vs, (read v).result = .ok (part? v)) :
    (collect read vs).result = .ok (vs.filterMap part?) := by
  have hnone : vs.findSome? (fun _ => (none : Option LoadError)) = none := by simp
  have hread : ∀ v ∈ vs, (read v).result =
      (none : Option LoadError).elim (.ok (part? v)) .error := h
  rw [result_collect hadds hread, hnone]
  rfl

end Load

/-! ## Parts -/

namespace Value

/-- The entries with a name in the member `key`. -/
def namedEntries (v : Value) (key : String) : List Value :=
  (v.entries key).filter Load.isNamed

/-- The action described, unless the entry is to be skipped. -/
def toAction? (v : Value) : Option Action :=
  match v with
  | .str s => if Text.isBlankText s then none else Shorthand.action? s
  | v =>
    if Load.isNamed v then some
      { name := v.getD "name" .null
        arguments := (v.entries "arguments").map text
        property := (v.getD "property" (.bool false)).isSet
        static := (v.getD "static" (.bool false)).isSet
        emptiesStack := v.getD "name" .null == .str emptyStackName
        line := v.getD "line" (.int 0) }
    else none

/-- The actions described in the member `key`, if there is a list of them. -/
def toActions? (v : Value) (key : String) : Option (List Action) :=
  match v.getD key .null with
  | .null => none
  | _ => some ((v.entries key).filterMap toAction?)

/-- The parameter described, unless the entry is to be skipped. -/
def toParameter? (v line : Value) : Option Parameter :=
  match v with
  | .str s =>
    let (name, type) := (Text.cutFirst [':'] s.toList).getD (s.toList, [])
    some
      { name := .str (String.ofList (Text.trimChars name))
        type := .str (String.ofList (Text.trimChars type))
        line := line }
  | v =>
    if Load.isNamed v then some ⟨v.getD "name" .null, v.getD "type" (.str ""), line⟩ else none

/-- The word for the move of a transition. -/
def moveWord (v : Value) : String :=
  Text.lower (v.getD "type" (.str "set")).text

/-- The guard described. -/
def toGuard (v : Value) : Guard where
  condition := Load.settled v "guard"
  move := (Move.ofWord? v.moveWord).getD .set
  endState := Load.settled v "end_state"
  pushState := Load.settled v "push_state"
  actions := (v.toActions? "actions").getD []
  popArguments := Load.settled v "pop_args"
  line := v.getD "line" (.int 0)

/-- The transition described, with its one guard. -/
def toTransition (v : Value) : Transition where
  name := v.getD "name" .null
  parameters := (v.entries "parameters").filterMap fun p => p.toParameter? (v.getD "line" (.int 0))
  guards := [v.toGuard]
  line := v.getD "line" (.int 0)

/-- The state described, before it has transitions. -/
def toBareState (v : Value) : State where
  name := (v.getD "name" .null).text
  entry := v.toActions? "entry"
  exit := v.toActions? "exit"
  transitions := []
  line := v.getD "line" (.int 0)

/-- The state described. -/
def toState (v : Value) : State :=
  ((v.namedEntries "transitions").map toTransition).foldl State.addTransition v.toBareState

/-- The map described, before it has states. -/
def toBareMap (v : Value) : StateMap where
  name := v.getD "name" .null
  states := []
  default? := none
  line := v.getD "line" (.int 0)

/-- The map described. -/
def toMap (v : Value) : StateMap :=
  ((v.namedEntries "states").map toState).foldl StateMap.addState v.toBareMap

/-- The machine described, under a name given from outside or its own. -/
def toMachine (v name : Value) : Machine where
  name := Load.firstSet [name, v.getD "name" .null, v.getD "class" .null] (.str "UntitledFSM")
  context := v.getD "class" (.str "")
  start := v.getD "start" (.str "")
  maps := (v.namedEntries "maps").map toMap
  fsmClass := v.getD "fsmclass" (.str "")
  source := v.getD "source" (.str "")
  header := v.getD "header" (.str "")
  package := v.getD "package" (.str "")
  imports := v.entries "imports"
  includes := v.entries "includes"
  access := v.getD "access" (.str "")
  line := v.getD "line" (.int 0)

/-! ## Faults -/

/-- The type of the transition is none of those there are. -/
def HasBadType (v : Value) : Prop :=
  v.moveWord ∉ ["set", "push", "pop"]

/-- The fault of an entry of a transition. Entries without a name have none. -/
def entryFault? (v : Value) : Option LoadError :=
  if Load.isNamed v && (Move.ofWord? v.moveWord).isNone then
    some (.unknownMove v.moveWord (v.getD "name" .null).text)
  else none

/-- The first fault in the entry of a state. -/
def stateFault? (v : Value) : Option LoadError :=
  if Load.isNamed v then (v.entries "transitions").findSome? entryFault? else none

/-- The first fault in the entry of a map. -/
def mapFault? (v : Value) : Option LoadError :=
  if Load.isNamed v then (v.entries "states").findSome? stateFault? else none

/-- The first fault in a description. -/
def fault? (v : Value) : Option LoadError :=
  (v.entries "maps").findSome? mapFault?

theorem isNone_ofWord?_iff {word : String} :
    (Move.ofWord? word).isNone = true ↔ word ∉ ["set", "push", "pop"] := by
  rw [Move.ofWord?]
  split
  · simp [*]
  · split
    · simp [*]
    · split <;> simp [*]

/-- The entries of transitions that are read: those with a name, in entries with a name. -/
def namedTransitions (v : Value) : List Value :=
  (v.namedEntries "maps").flatMap fun m =>
    (m.namedEntries "states").flatMap fun s => s.namedEntries "transitions"

theorem mem_namedEntries {v x : Value} {key : String} :
    x ∈ v.namedEntries key ↔ x ∈ v.entries key ∧ Load.isNamed x = true :=
  List.mem_filter

theorem entryFault?_eq_some {v : Value} {e : LoadError} : v.entryFault? = some e ↔
    Load.isNamed v = true ∧ v.HasBadType ∧
      e = .unknownMove v.moveWord (v.getD "name" .null).text := by
  rw [entryFault?, HasBadType, ← isNone_ofWord?_iff]
  cases Load.isNamed v <;> cases (Move.ofWord? v.moveWord).isNone <;> simp [eq_comm]

/-- A fault is that of a named entry with a bad type. -/
theorem exists_of_fault? {v : Value} {e : LoadError} (h : v.fault? = some e) :
    ∃ t ∈ v.namedTransitions, t.HasBadType ∧
      e = .unknownMove t.moveWord (t.getD "name" .null).text := by
  obtain ⟨m, hm, h⟩ := List.exists_of_findSome?_eq_some h
  rw [mapFault?] at h
  split at h
  · next hmap =>
    obtain ⟨s, hs, h⟩ := List.exists_of_findSome?_eq_some h
    rw [stateFault?] at h
    split at h
    · next hstate =>
      obtain ⟨t, ht, h⟩ := List.exists_of_findSome?_eq_some h
      obtain ⟨hentry, hbad, he⟩ := entryFault?_eq_some.1 h
      refine ⟨t, List.mem_flatMap.2 ⟨m, mem_namedEntries.2 ⟨hm, hmap⟩, List.mem_flatMap.2
        ⟨s, mem_namedEntries.2 ⟨hs, hstate⟩, mem_namedEntries.2 ⟨ht, hentry⟩⟩⟩, hbad, he⟩
    · cases h
  · cases h

/-- There is a fault if a named entry has a bad type. -/
theorem isSome_fault? {v t : Value} (ht : t ∈ v.namedTransitions) (hbad : t.HasBadType) :
    v.fault?.isSome = true := by
  obtain ⟨m, hm, ht⟩ := List.mem_flatMap.1 ht
  obtain ⟨s, hs, ht⟩ := List.mem_flatMap.1 ht
  obtain ⟨hm, hmap⟩ := mem_namedEntries.1 hm
  obtain ⟨hs, hstate⟩ := mem_namedEntries.1 hs
  obtain ⟨ht, hentry⟩ := mem_namedEntries.1 ht
  have hfault : t.entryFault?.isSome = true :=
    Option.isSome_of_eq_some (entryFault?_eq_some.2 ⟨hentry, hbad, rfl⟩)
  refine List.findSome?_isSome_iff.2 ⟨m, hm, ?_⟩
  rw [mapFault?, if_pos hmap]
  refine List.findSome?_isSome_iff.2 ⟨s, hs, ?_⟩
  rw [stateFault?, if_pos hstate]
  exact List.findSome?_isSome_iff.2 ⟨t, ht, hfault⟩

/-! ## Shapes -/

/-- The member `key`, if it is there, is a list whose items satisfy `P`. -/
def HasList (key : String) (P : Value → Prop) : Value → Prop :=
  Has key fun x => ∃ items, x = .list items ∧ ∀ y ∈ items, P y

/-- The entry of an action has a list of arguments, if it is an object with a name. -/
def ShapedAction (v : Value) : Prop :=
  Load.isNamed v = true → v.HasList "arguments" fun _ => True

/-- The member `key`, if it is there, is null or a list of actions. -/
def HasActions (key : String) : Value → Prop :=
  Has key fun x => x = .null ∨ ∃ items, x = .list items ∧ ∀ y ∈ items, y.ShapedAction

/-- The entry of a transition has a text as its name, and lists of parameters and actions. -/
@[mk_iff]
structure ShapedEntry (v : Value) : Prop where
  name : ∃ s, v.getD "name" .null = .str s
  parameters : v.HasList "parameters" fun _ => True
  actions : v.HasActions "actions"

/-- The entry of a state has a text as its name, and lists of actions and transitions. -/
@[mk_iff]
structure ShapedState (v : Value) : Prop where
  name : ∃ s, v.getD "name" .null = .str s
  entry : v.HasActions "entry"
  exit : v.HasActions "exit"
  transitions : v.HasList "transitions" fun e => Load.isNamed e = true → e.ShapedEntry

/-- The description is an object with the lists that are looked for in it. Nothing is said of
    entries without a name. -/
structure Shaped (v : Value) : Prop where
  isObject : ∃ members, v = .object members
  imports : v.HasList "imports" fun _ => True
  includes : v.HasList "includes" fun _ => True
  maps : v.HasList "maps" fun e => Load.isNamed e = true →
    e.HasList "states" fun e => Load.isNamed e = true → e.ShapedState

variable {v : Value} {key : String} {P : Value → Prop}

theorem entries_eq (v : Value) (key : String) :
    v.entries key = (v.getD key .null).elements.toOption.getD [] := by
  rw [entries, Value.getD, Value.getD]
  cases v.get? key <;> rfl

/-- What is walked through in a list that is there, or else in the empty one. -/
theorem HasList.getD_eq (h : v.HasList key P) :
    v.getD key (.list []) = .list (v.entries key) ∧ ∀ y ∈ v.entries key, P y := by
  have hlist : ∃ items, v.getD key (.list []) = .list items ∧ ∀ y ∈ items, P y :=
    Has.getD h ⟨[], rfl, List.forall_mem_nil P⟩
  obtain ⟨items, hitems, hP⟩ := hlist
  have hentries : v.entries key = items := by
    rw [entries, hitems]
    rfl
  rw [hentries]
  exact ⟨hitems, hP⟩

end Value

/-! ## Readings -/

namespace Load

variable {v : Value}

theorem result_action (h : v.ShapedAction) : (action v).result = .ok v.toAction? := by
  cases v with
  | object members =>
    change (if isNamed (.object members) then _ else _ : Load (Option Action)).result =
      .ok (if _ then _ else _)
    split
    · next hnamed =>
      rw [((h hnamed).getD_eq).1, elements_list, pure_bind]
      rfl
    · rfl
  | str s =>
    rw [action, Value.toAction?]
    split
    · rfl
    · cases Shorthand.action? s <;> rfl
  | _ => rfl

theorem result_actions? {key : String} (h : v.HasActions key) :
    (actions? (v.getD key .null)).result = .ok (v.toActions? key) := by
  have hshape : v.getD key .null = .null ∨
      ∃ items, v.getD key .null = .list items ∧ ∀ y ∈ items, y.ShapedAction :=
    Value.Has.getD h (.inl rfl)
  rw [Value.toActions?]
  rcases hshape with hnull | ⟨items, hitems, hP⟩
  · rw [hnull]
    rfl
  · have hentries : v.entries key = items := by
      rw [Value.entries_eq, hitems]
      rfl
    have hread := result_collect_ok Adds.action fun y hy => result_action (hP y hy)
    rw [hitems, hentries, actions?.eq_def]
    change (elements (.list items) >>= fun entries => collect action entries >>= _).result = _
    rw [elements_list, pure_bind, result_bind_ok (fun _ => .pure _) hread]
    rfl

theorem result_parameter (line : Value) :
    (parameter line v).result = .ok (v.toParameter? line) := by
  cases v with
  | object members =>
    change (if isNamed (.object members) then _ else _ : Load (Option Parameter)).result =
      .ok (if _ then _ else _)
    split <;> rfl
  | _ => rfl

/-- A transition is read if its type is known. -/
theorem result_transition (h : v.ShapedEntry) : (transition v).result =
    if (Move.ofWord? v.moveWord).isNone then
      .error (.unknownMove v.moveWord (v.getD "name" .null).text)
    else .ok v.toTransition := by
  have hguard : ∀ move, Move.ofWord? v.moveWord = some move → v.toGuard.move = move := by
    intro move hmove
    rw [Value.toGuard, hmove]
    rfl
  -- the type comes first: nothing else is looked at in an entry with a bad one
  rw [transition, show Text.lower (v.getD "type" (.str "set")).text = v.moveWord from rfl]
  cases hmove : Move.ofWord? v.moveWord with
  | none => rfl
  | some move =>
    have hparameters : (collect (parameter (v.getD "line" (.int 0)))
        (v.entries "parameters")).result = .ok v.toTransition.parameters :=
      result_collect_ok (Adds.parameter _) fun p _ => result_parameter _
    simp only [h.parameters.getD_eq.1, elements_list, pure_bind]
    rw [result_bind_ok (fun _ => (Adds.actions? _).bind fun _ => .pure _) hparameters,
      result_bind_ok (fun _ => .pure _) (result_actions? h.actions), ← hguard move hmove]
    rfl

/-- The parts described by entries with a name. -/
theorem filterMap_isNamed (f : Value → α) (vs : List Value) :
    (vs.filterMap fun v => if isNamed v then some (f v) else none) =
      (vs.filter isNamed).map f := by
  induction vs with
  | nil => rfl
  | cons v vs ih => cases hv : isNamed v <;> simp [hv, ih]

theorem result_transitionEntry (scopedName : String) (h : isNamed v = true → v.ShapedEntry) :
    (transitionEntry scopedName v).result =
      v.entryFault?.elim (.ok (if isNamed v then some v.toTransition else none)) .error := by
  rw [transitionEntry, Value.entryFault?]
  cases hnamed : isNamed v with
  | false => rfl
  | true =>
    change (transition v >>= fun t => pure (some t)).result = _
    rw [result_bind fun _ => .pure _, result_transition (h hnamed)]
    cases (Move.ofWord? v.moveWord).isNone <;> rfl

/-- A state is read if its transitions are. -/
theorem result_state (mapName : Value) (h : isNamed v = true → v.ShapedState) :
    (state mapName v).result =
      v.stateFault?.elim (.ok (if isNamed v then some v.toState else none)) .error := by
  rw [state, Value.stateFault?]
  cases hnamed : isNamed v with
  | false => rfl
  | true =>
    have hshape := h hnamed
    obtain ⟨hlist, hitems⟩ := hshape.transitions.getD_eq
    obtain ⟨name, hname⟩ := hshape.name
    have htransitions := result_collect (Adds.transitionEntry (mapName.text ++ scopeMark ++ name))
      fun e he => result_transitionEntry _ (hitems e he)
    rw [if_pos rfl, if_pos rfl, if_pos rfl, hname, hlist]
    simp only [elements_list, pure_bind]
    rw [result_bind_ok (fun _ => (Adds.actions? _).bind fun _ =>
        (Adds.collect (Adds.transitionEntry _) _).bind fun _ => .pure _)
        (result_actions? hshape.entry),
      result_bind_ok (fun _ => (Adds.collect (Adds.transitionEntry _) _).bind fun _ => .pure _)
        (result_actions? hshape.exit),
      result_bind fun _ => .pure _, htransitions, filterMap_isNamed]
    cases (v.entries "transitions").findSome? Value.entryFault? with
    | some e => rfl
    | none =>
      rw [Value.toState, Value.toBareState, hname]
      rfl

/-- A map is read if its states are. -/
theorem result_map (h : isNamed v = true →
      v.HasList "states" fun e => isNamed e = true → e.ShapedState) :
    (map v).result = v.mapFault?.elim (.ok (if isNamed v then some v.toMap else none)) .error := by
  rw [map, Value.mapFault?]
  cases hnamed : isNamed v with
  | false => rfl
  | true =>
    obtain ⟨hlist, hitems⟩ := (h hnamed).getD_eq
    have hstates := result_collect (Adds.state (v.getD "name" .null)) fun e he =>
      result_state (v.getD "name" .null) (hitems e he)
    rw [if_pos rfl, if_pos rfl, if_pos rfl, hlist, elements_list, pure_bind,
      result_bind fun _ => .pure _, hstates, filterMap_isNamed]
    cases (v.entries "states").findSome? Value.stateFault? <;> rfl

/-- A machine is read if its maps are. -/
theorem result_machine (h : v.Shaped) (name : Value) :
    (machine v name).result = v.fault?.elim (.ok (v.toMachine name)) .error := by
  obtain ⟨members, rfl⟩ := h.isObject
  obtain ⟨hlist, hitems⟩ := h.maps.getD_eq
  have hmaps := result_collect Adds.map fun e he => result_map (hitems e he)
  rw [machine, h.imports.getD_eq.1, h.includes.getD_eq.1, hlist]
  simp only [elements_list, pure_bind]
  rw [result_bind fun _ => (Adds.report _ _).bind fun _ => .pure _, hmaps, filterMap_isNamed,
    Value.fault?]
  cases ((Value.object members).entries "maps").findSome? Value.mapFault? <;> rfl

end Load
end StateMachine
