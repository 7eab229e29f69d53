import StateMachine.Proofs.Described

/-!
# Entries without a name

An entry that lacks a name is skipped, with a warning. So a description can be *pruned*
(`Value.pruned`): of the maps, their states and transitions, and the actions and parameters of
these, the entries without a name are left out. What is read is the same
(`Load.agree_machine`), whatever the description is.
-/

namespace StateMachine

namespace Value

/-! ## Members -/

/-- The value with the member `key`, if there is one, changed by `f`. -/
def mapAt (key : String) (f : Value → Value) : Value → Value
  | .object members => .object (members.map fun m => if m.1 = key then (m.1, f m.2) else m)
  | v => v

/-- The value with its items changed by `f`, if it is a list. -/
def onItems (f : List Value → List Value) : Value → Value
  | .list items => .list (f items)
  | v => v

variable {v d : Value} {key k : String} {f : Value → Value}

theorem get?_mapAt_self : (v.mapAt key f).get? key = (v.get? key).map f := by
  cases v with
  | object members =>
    rw [mapAt, get?, get?]
    induction members with
    | nil => rfl
    | cons m ms ih => by_cases hm : m.1 = key <;> simp [member?, hm, ih]
  | _ => rfl

theorem get?_mapAt_of_ne (h : k ≠ key) : (v.mapAt key f).get? k = v.get? k := by
  cases v with
  | object members =>
    rw [mapAt, get?, get?]
    induction members with
    | nil => rfl
    | cons m ms ih => by_cases hm : m.1 = key <;> simp [member?, hm, h.symm, ih]
  | _ => rfl

theorem getD_mapAt_self (hd : f d = d) : (v.mapAt key f).getD key d = f (v.getD key d) := by
  rw [getD, getD, get?_mapAt_self]
  cases v.get? key with
  | none => exact hd.symm
  | some x => rfl

theorem getD_mapAt_of_ne (h : k ≠ key) : (v.mapAt key f).getD k d = v.getD k d := by
  rw [getD, getD, get?_mapAt_of_ne h]

theorem isNamed_mapAt (h : "name" ≠ key) : Load.isNamed (v.mapAt key f) = Load.isNamed v := by
  rw [Load.isNamed, Load.isNamed, getD_mapAt_of_ne h]

/-! ## Pruning -/

/-- Does the entry of an action have a name? A text is named if it is not blank. -/
def namesAction : Value → Bool
  | .str s => !Text.isBlankText s
  | v => Load.isNamed v

/-- Does the entry of a parameter have a name? A text always does. -/
def namesParameter : Value → Bool
  | .str _ => true
  | v => Load.isNamed v

/-- The entry of a transition without nameless entries in it. -/
def prunedEntry (v : Value) : Value :=
  (v.mapAt "parameters" (onItems (·.filter namesParameter))).mapAt "actions"
    (onItems (·.filter namesAction))

/-- The entry of a state without nameless entries in it. -/
def prunedState (v : Value) : Value :=
  ((v.mapAt "entry" (onItems (·.filter namesAction))).mapAt "exit"
    (onItems (·.filter namesAction))).mapAt "transitions"
      (onItems fun es => (es.filter Load.isNamed).map prunedEntry)

/-- The entry of a map without nameless entries in it. -/
def prunedMap (v : Value) : Value :=
  v.mapAt "states" (onItems fun es => (es.filter Load.isNamed).map prunedState)

/-- The description without nameless entries in it. -/
def pruned (v : Value) : Value :=
  v.mapAt "maps" (onItems fun es => (es.filter Load.isNamed).map prunedMap)

end Value

/-! ## Readings that agree -/

namespace Load

open Value

variable {α β : Type}

/-- The two readings add to the records, and come to the same. They need not report the same. -/
structure Agree (x y : Load α) : Prop where
  left : Adds x
  right : Adds y
  result_eq : x.result = y.result

namespace Agree

variable {x y : Load α} {read : Value → Load (Option α)}

theorem refl (h : Adds x) : Agree x x :=
  ⟨h, h, rfl⟩

theorem trans {z : Load α} (h : Agree x y) (h' : Agree y z) : Agree x z :=
  ⟨h.left, h'.right, h.result_eq.trans h'.result_eq⟩

theorem bind {k k' : α → Load β} (h : Agree x y) (hk : ∀ a, Agree (k a) (k' a)) :
    Agree (x >>= k) (y >>= k') where
  left := h.left.bind fun a => (hk a).left
  right := h.right.bind fun a => (hk a).right
  result_eq := by
    rw [result_bind fun a => (hk a).left, result_bind fun a => (hk a).right, h.result_eq]
    exact congrArg _ (funext fun a => (hk a).result_eq)

/-- An entry that is skipped, whatever is reported. -/
theorem skip (message message' : String) :
    Agree (do warn message; return (none : Option α)) (do warn message'; return none) :=
  ⟨.skip _, .skip _, rfl⟩

/-- Entries that are skipped can be left out. -/
theorem filter (hadds : ∀ v, Adds (read v)) {named : Value → Bool}
    (h : ∀ v, named v = false → (read v).result = .ok none) (vs : List Value) :
    Agree (collect read (vs.filter named)) (collect read vs) where
  left := .collect hadds _
  right := .collect hadds _
  result_eq := by
    induction vs with
    | nil => rfl
    | cons v vs ih =>
      rw [result_collect_cons hadds]
      -- an entry that is left out adds nothing to the parts that are read
      cases hv : named v with
      | true => rw [List.filter_cons_of_pos hv, result_collect_cons hadds, ih]
      | false =>
        rw [List.filter_cons_of_neg (by simp [hv]), ih, h v hv]
        cases (collect read vs).result <;> rfl

/-- Entries can be changed if that makes no difference to what is read. -/
theorem map {f : Value → Value} (h : ∀ v, Agree (read (f v)) (read v)) (vs : List Value) :
    Agree (collect read (vs.map f)) (collect read vs) := by
  induction vs with
  | nil => exact .refl (.pure _)
  | cons v vs ih => exact .bind (h v) fun part => .bind ih fun parts => .refl (.pure _)

/-- Of a list in which entries are changed that make no difference, the same is read. -/
theorem walk {f : List Value → List Value}
    (h : ∀ vs, Agree (collect read (f vs)) (collect read vs)) {k k' : List α → Load β}
    (hk : ∀ parts, Agree (k parts) (k' parts)) (v : Value) :
    Agree (elements (v.onItems f) >>= fun vs => collect read vs >>= k)
      (elements v >>= fun vs => collect read vs >>= k') := by
  cases v with
  | list items =>
    rw [onItems, elements_list, elements_list, pure_bind, pure_bind]
    exact .bind (h items) hk
  | _ => exact .bind (.refl (.elements _)) fun vs => .bind (.refl (h vs).right) hk

end Agree

/-! ## Pruned descriptions -/

theorem result_action_of_nameless (v : Value) (h : v.namesAction = false) :
    (action v).result = .ok none := by
  cases v with
  | object members =>
    change (if isNamed (.object members) then _ else _ : Load (Option Action)).result = _
    rw [show isNamed (.object members) = false from h]
    rfl
  | str s =>
    have hblank : Text.isBlankText s = true := by simpa [namesAction] using h
    rw [action, if_pos hblank]
    rfl
  | _ => rfl

theorem result_parameter_of_nameless (line v : Value) (h : v.namesParameter = false) :
    (parameter line v).result = .ok none := by
  cases v with
  | object members =>
    change (if isNamed (.object members) then _ else _ : Load (Option Parameter)).result = _
    rw [show isNamed (.object members) = false from h]
    rfl
  | str s => cases h
  | _ => rfl

theorem agree_actions? (v : Value) :
    Agree (actions? (v.onItems (·.filter namesAction))) (actions? v) := by
  have hwalk : ∀ v, Agree (elements (v.onItems (·.filter namesAction)) >>= fun vs =>
      collect action vs >>= fun as => pure (some as)) (elements v >>= fun vs =>
      collect action vs >>= fun as => pure (some as)) :=
    .walk (.filter Adds.action result_action_of_nameless) fun _ => .refl (.pure _)
  cases v with
  | null => exact .refl (.pure _)
  | _ => exact hwalk _

/-- A transition is read as if its entry had no nameless entries in it. -/
theorem agree_transition (v : Value) : Agree (transition v.prunedEntry) (transition v) := by
  have hsame : ∀ key d, key ≠ "parameters" → key ≠ "actions" →
      v.prunedEntry.getD key d = v.getD key d := by
    intro key d hparameters hactions
    rw [prunedEntry, getD_mapAt_of_ne hactions, getD_mapAt_of_ne hparameters]
  have hparameters : v.prunedEntry.getD "parameters" (.list []) =
      (v.getD "parameters" (.list [])).onItems (·.filter namesParameter) := by
    rw [prunedEntry, getD_mapAt_of_ne (by decide), getD_mapAt_self rfl]
  have hactions : v.prunedEntry.getD "actions" .null =
      (v.getD "actions" .null).onItems (·.filter namesAction) := by
    rw [prunedEntry, getD_mapAt_self rfl, getD_mapAt_of_ne (by decide)]
  have hsettled : ∀ key, key ≠ "parameters" → key ≠ "actions" →
      settled v.prunedEntry key = settled v key := by
    intro key hparameters hactions
    rw [settled, settled, hsame key _ hparameters hactions]
  rw [transition, transition, hparameters, hactions, hsame "name" _ (by decide) (by decide),
    hsame "type" _ (by decide) (by decide), hsame "line" _ (by decide) (by decide),
    hsettled "guard" (by decide) (by decide), hsettled "end_state" (by decide) (by decide),
    hsettled "push_state" (by decide) (by decide), hsettled "pop_args" (by decide) (by decide)]
  dsimp only
  split
  · exact .refl (.throw _)
  · exact .walk (.filter (.parameter _) (result_parameter_of_nameless _))
      (fun _ => .bind (agree_actions? _) fun _ => .refl (.pure _)) _

theorem isNamed_prunedEntry (v : Value) : isNamed v.prunedEntry = isNamed v := by
  rw [prunedEntry, isNamed_mapAt (by decide), isNamed_mapAt (by decide)]

theorem agree_transitionEntry (scopedName : String) (v : Value) :
    Agree (transitionEntry scopedName v.prunedEntry) (transitionEntry scopedName v) := by
  rw [transitionEntry, transitionEntry, isNamed_prunedEntry]
  split
  · exact .bind (agree_transition v) fun _ => .refl (.pure _)
  · exact .skip _ _

theorem result_transitionEntry_of_nameless (scopedName : String) (v : Value)
    (h : isNamed v = false) : (transitionEntry scopedName v).result = .ok none := by
  rw [transitionEntry, h]
  rfl

/-- A state is read as if its entry had no nameless entries in it. -/
theorem agree_state (mapName v : Value) :
    Agree (state mapName v.prunedState) (state mapName v) := by
  have hsame : ∀ key d, key ≠ "entry" → key ≠ "exit" → key ≠ "transitions" →
      v.prunedState.getD key d = v.getD key d := by
    intro key d hentry hexit htransitions
    rw [prunedState, getD_mapAt_of_ne htransitions, getD_mapAt_of_ne hexit, getD_mapAt_of_ne hentry]
  have hentry : v.prunedState.getD "entry" .null =
      (v.getD "entry" .null).onItems (·.filter namesAction) := by
    rw [prunedState, getD_mapAt_of_ne (by decide), getD_mapAt_of_ne (by decide),
      getD_mapAt_self rfl]
  have hexit : v.prunedState.getD "exit" .null =
      (v.getD "exit" .null).onItems (·.filter namesAction) := by
    rw [prunedState, getD_mapAt_of_ne (by decide), getD_mapAt_self rfl,
      getD_mapAt_of_ne (by decide)]
  have htransitions : v.prunedState.getD "transitions" (.list []) =
      (v.getD "transitions" (.list [])).onItems fun es => (es.filter isNamed).map prunedEntry := by
    rw [prunedState, getD_mapAt_self rfl, getD_mapAt_of_ne (by decide),
      getD_mapAt_of_ne (by decide)]
  have hnamed : isNamed v.prunedState = isNamed v := by
    rw [isNamed, isNamed, hsame "name" _ (by decide) (by decide) (by decide)]
  rw [state, state, hnamed, hentry, hexit, htransitions,
    hsame "name" _ (by decide) (by decide) (by decide),
    hsame "line" _ (by decide) (by decide) (by decide)]
  split
  · refine .bind (agree_actions? _) fun entry => .bind (agree_actions? _) fun exit => ?_
    split
    · exact .walk (fun vs => (Agree.map (agree_transitionEntry _) _).trans
        (.filter (.transitionEntry _) (result_transitionEntry_of_nameless _) vs))
        (fun _ => .refl (.pure _)) _
    · exact .refl (.throw _)
  · exact .skip _ _

theorem result_state_of_nameless (mapName v : Value) (h : isNamed v = false) :
    (state mapName v).result = .ok none := by
  rw [state, h]
  rfl

/-- A map is read as if its entry had no nameless entries in it. -/
theorem agree_map (v : Value) : Agree (map v.prunedMap) (map v) := by
  have hsame : ∀ key d, key ≠ "states" → v.prunedMap.getD key d = v.getD key d := by
    intro key d hstates
    rw [prunedMap, getD_mapAt_of_ne hstates]
  have hstates : v.prunedMap.getD "states" (.list []) =
      (v.getD "states" (.list [])).onItems fun es => (es.filter isNamed).map prunedState := by
    rw [prunedMap, getD_mapAt_self rfl]
  have hnamed : isNamed v.prunedMap = isNamed v := by
    rw [isNamed, isNamed, hsame "name" _ (by decide)]
  rw [map, map, hnamed, hstates, hsame "name" _ (by decide), hsame "line" _ (by decide)]
  split
  · exact .walk (fun vs => (Agree.map (agree_state _) _).trans
      (.filter (.state _) (result_state_of_nameless _) vs)) (fun _ => .refl (.pure _)) _
  · exact .skip _ _

theorem result_map_of_nameless (v : Value) (h : isNamed v = false) : (map v).result = .ok none := by
  rw [map, h]
  rfl

/-- A machine is read as if its description had no nameless entries in it. -/
theorem agree_machine (v name : Value) : Agree (machine v.pruned name) (machine v name) := by
  have hsame : ∀ key d, key ≠ "maps" → v.pruned.getD key d = v.getD key d := by
    intro key d hmaps
    rw [pruned, getD_mapAt_of_ne hmaps]
  have hmaps : v.pruned.getD "maps" (.list []) =
      (v.getD "maps" (.list [])).onItems fun es => (es.filter isNamed).map prunedMap := by
    rw [pruned, getD_mapAt_self rfl]
  -- pruning leaves an object an object, and anything else as it is
  cases v with
  | object members =>
    have hpruned : ∃ members', (Value.object members).pruned = .object members' := ⟨_, rfl⟩
    obtain ⟨members', hmembers'⟩ := hpruned
    rw [hmembers'] at hsame hmaps ⊢
    rw [machine, machine, hmaps]
    simp (disch := decide) only [hsame]
    refine .bind (.refl (.elements _)) fun imports => .bind (.refl (.elements _)) fun includes => ?_
    exact .walk (fun vs => (Agree.map agree_map _).trans
      (.filter .map result_map_of_nameless vs))
      (fun _ => .refl ((Adds.report _ _).bind fun _ => .pure _)) _
  | _ => exact .refl (.throw _)

end Load
end StateMachine
