import StateMachine.Proofs.Events
import StateMachine.Proofs.Rereading

/-!
# Descriptions that are read back unchanged

A machine that was read from a description can be described, and the description
be read: does it come back unchanged? It does just if the machine is *nameable*
(`Machine.Nameable`), that is, if every action and every parameter has a name
(`reads_back_iff_nameable`).

* If it is, nothing is left out, and the guards of each transition find together
  again (`State.reread_eq_settle`). What is settled anew, flags and lines, is not
  written.
* If it is not, what has no name is left out, so the description that comes back
  names all it holds (`Description.Named`), and the other one does not.
-/

namespace StateMachine

/-! ## Nameable machines -/

/-- The parameters and actions of the transition have names. -/
structure Transition.Nameable (t : Transition) : Prop where
  parameters : ∀ p ∈ t.parameters, p.name.isSet = true
  actions : ∀ g ∈ t.guards, ∀ a ∈ g.actions, a.name.isSet = true

/-- The actions of the state, and the parameters of its transitions, have names. -/
structure State.Nameable (s : State) : Prop where
  entry : ∀ as ∈ s.entry, ∀ a ∈ as, a.name.isSet = true
  exit : ∀ as ∈ s.exit, ∀ a ∈ as, a.name.isSet = true
  transitions : ∀ t ∈ s.transitions, t.Nameable

/-- All actions and parameters of the machine have names. -/
def Machine.Nameable (m : Machine) : Prop :=
  ∀ map ∈ m.maps, ∀ s ∈ map.allStates, s.Nameable

instance (t : Transition) : Decidable t.Nameable :=
  decidable_of_iff ((∀ p ∈ t.parameters, p.name.isSet = true) ∧
    ∀ g ∈ t.guards, ∀ a ∈ g.actions, a.name.isSet = true)
    ⟨fun h => ⟨h.1, h.2⟩, fun h => ⟨h.parameters, h.actions⟩⟩

instance (s : State) : Decidable s.Nameable :=
  decidable_of_iff ((∀ as ∈ s.entry, ∀ a ∈ as, a.name.isSet = true) ∧
    (∀ as ∈ s.exit, ∀ a ∈ as, a.name.isSet = true) ∧ ∀ t ∈ s.transitions, t.Nameable)
    ⟨fun h => ⟨h.1, h.2.1, h.2.2⟩, fun h => ⟨h.entry, h.exit, h.transitions⟩⟩

instance (m : Machine) : Decidable m.Nameable :=
  inferInstanceAs (Decidable (∀ map ∈ m.maps, ∀ s ∈ map.allStates, s.Nameable))

/-! ## Settled machines -/

/-- A guard with its actions and its line settled. -/
def Guard.settle (g : Guard) : Guard :=
  { g with actions := g.actions.map Action.settle, line := g.line.settle (.int 0) }

/-- A transition with its guards and its line settled. -/
def Transition.settle (t : Transition) : Transition where
  name := t.name
  parameters := t.parameters.map fun p => { p with line := t.line.settle (.int 0) }
  guards := t.guards.map Guard.settle
  line := t.line.settle (.int 0)

/-- A state with its actions, its transitions and its line settled. -/
def State.settle (s : State) : State :=
  { s with
    entry := s.entry.map (List.map Action.settle)
    exit := s.exit.map (List.map Action.settle)
    transitions := s.transitions.map Transition.settle
    line := s.line.settle (.int 0) }

/-- Where every item is kept, what is made of the items is what is made of each. -/
theorem filterMap_eq_map_of_forall {α β : Type} {p : α → Bool} {f : α → β} {xs : List α}
    (h : ∀ x ∈ xs, p x = true) :
    xs.filterMap (fun x => if p x then some (f x) else none) = xs.map f := by
  induction xs with
  | nil => rfl
  | cons x xs ih =>
    obtain ⟨hx, hxs⟩ := List.forall_mem_cons.1 h
    rw [List.filterMap_cons, if_pos hx, List.map_cons]
    exact congrArg (f x :: ·) (ih hxs)

theorem Action.reread_eq {as : List Action} (h : ∀ a ∈ as, a.name.isSet = true) :
    Action.reread as = as.map Action.settle :=
  filterMap_eq_map_of_forall h

theorem Parameter.reread_eq {line : Value} {ps : List Parameter}
    (h : ∀ p ∈ ps, p.name.isSet = true) :
    Parameter.reread line ps = ps.map fun p => { p with line := line } :=
  filterMap_eq_map_of_forall h

theorem Transition.signature_settle (t : Transition) : t.settle.signature = t.signature := by
  simp [Transition.signature, Transition.settle, Parameter.key, Function.comp_def]

theorem Transition.Nameable.signature_reread {t : Transition} (ht : t.Nameable) (g : Guard) :
    (t.reread g).signature = t.signature := by
  rw [Transition.signature, Transition.reread, Parameter.reread_eq ht.parameters]
  simp [Transition.signature, Parameter.key, Function.comp_def]

theorem Transition.Nameable.reread_guard {t : Transition} (ht : t.Nameable) {g : Guard}
    (hg : g ∈ t.guards) : g.reread = g.settle := by
  rw [Guard.reread, Guard.settle, Action.reread_eq (ht.actions g hg)]

/-- A transition has the signature it has. -/
theorem Transition.Fits.same_signature {S : Sorts} {t : Transition} (ht : t.Fits S) :
    t.signature.same t.signature = true := by
  have hkeys : ∀ ps : List Parameter, (∀ p ∈ ps, p.Fits S t.line) →
      sameParameters (ps.map Parameter.key) (ps.map Parameter.key) = true := by
    intro ps
    induction ps with
    | nil => exact fun _ => rfl
    | cons p ps ih =>
      intro hps
      obtain ⟨hp, hps⟩ := List.forall_mem_cons.1 hps
      have hname := Value.alike_of_same (S.same_self _ hp.name)
      have htype := Value.alike_of_same (S.same_self _ hp.type)
      simp only [List.map_cons, sameParameters, Parameter.key, hname, htype, Bool.true_and]
      exact ih hps
  rw [Signature.same, Bool.and_eq_true]
  exact ⟨S.same_self t.name ht.name, hkeys t.parameters ht.parameters⟩

namespace State

/-! ## Guards that find together -/

theorem insertTransition_of_new {t : Transition} {us : List Transition}
    (h : ∀ u ∈ us, u.signature.same t.signature = false) : insertTransition t us = us ++ [t] := by
  induction us with
  | nil => rfl
  | cons u us ih =>
    obtain ⟨hu, hus⟩ := List.forall_mem_cons.1 h
    rw [insertTransition, if_neg (by simp [hu]), ih hus, List.cons_append]

theorem insertTransition_of_last {t v : Transition} {us : List Transition}
    (h : ∀ u ∈ us, u.signature.same t.signature = false)
    (hv : v.signature.same t.signature = true) :
    insertTransition t (us ++ [v]) = us ++ [v.addGuards t.guards] := by
  induction us with
  | nil => rw [List.nil_append, insertTransition, if_pos hv, List.nil_append]
  | cons u us ih =>
    obtain ⟨hu, hus⟩ := List.forall_mem_cons.1 h
    rw [List.cons_append, insertTransition, if_neg (by simp [hu]), ih hus, List.cons_append]

variable {S : Sorts}

/-- The guards of a transition that is unlike those before it are read back as this
    transition. -/
theorem foldl_reread_guards {t : Transition} (ht : t.Fits S) (hn : t.Nameable)
    {us : List Transition} (hnew : ∀ u ∈ us, u.signature.same t.signature = false) (s : State) :
    (t.guards.map t.reread).foldl addTransition { s with transitions := us } =
      { s with transitions := us ++ [t.settle] } := by
  -- all guards but the first join it, one by one
  have hjoin : ∀ (gs : List Guard) (v : Transition), v.signature = t.signature →
      (∀ g ∈ gs, g ∈ t.guards) →
      (gs.map t.reread).foldl addTransition { s with transitions := us ++ [v] } =
        { s with transitions := us ++ [v.addGuards (gs.map Guard.settle)] } := by
    intro gs
    induction gs with
    | nil => simp [Transition.addGuards]
    | cons g gs ih =>
      intro v hv hgs
      obtain ⟨hg, hgs⟩ := List.forall_mem_cons.1 hgs
      have hsignature := hn.signature_reread g
      have hinsert : insertTransition (t.reread g) (us ++ [v]) = us ++ [v.addGuards [g.settle]] := by
        rw [insertTransition_of_last (by rwa [hsignature])
          (by rw [hsignature, hv]; exact ht.same_signature), ← hn.reread_guard hg]
        rfl
      rw [List.map_cons, List.foldl_cons, addTransition, hinsert]
      refine (ih (v.addGuards [g.settle]) hv hgs).trans ?_
      simp [Transition.addGuards]
  obtain ⟨g, gs, hguards, hline⟩ := ht.first
  have hg : g ∈ t.guards := hguards ▸ List.mem_cons_self
  have hfirst : insertTransition (t.reread g) us = us ++ [t.reread g] :=
    insertTransition_of_new (by rwa [hn.signature_reread])
  rw [hguards, List.map_cons, List.foldl_cons, addTransition, hfirst]
  refine (hjoin gs (t.reread g) (hn.signature_reread g) fun g' hg' =>
    hguards ▸ List.mem_cons_of_mem g hg').trans ?_
  have hsettle : (t.reread g).addGuards (gs.map Guard.settle) = t.settle := by
    rw [Transition.settle, hguards, Transition.reread, Transition.addGuards,
      Parameter.reread_eq hn.parameters, hn.reread_guard hg, hline]
    rfl
  rw [hsettle]

/-- A nameable state is read back as it was, but for what is settled. -/
theorem reread_eq_settle {s : State} (hs : s.Fits S) (hn : s.Nameable) : s.reread = s.settle := by
  -- the transitions before are settled already, and none of them is the next one
  have hfold : ∀ (ts us : List Transition) (s : State), (∀ t ∈ ts, t.Fits S ∧ t.Nameable) →
      Transition.Distinct (us ++ ts) →
      ts.foldl (fun s t => (t.guards.map t.reread).foldl addTransition s)
          { s with transitions := us.map Transition.settle } =
        { s with transitions := (us ++ ts).map Transition.settle } := by
    intro ts
    induction ts with
    | nil => simp
    | cons t ts ih =>
      intro us s hts hdistinct
      obtain ⟨ht, hts⟩ := List.forall_mem_cons.1 hts
      have hnew : ∀ u ∈ us.map Transition.settle, u.signature.same t.signature = false := by
        intro u hu
        obtain ⟨v, hv, rfl⟩ := List.mem_map.1 hu
        rw [v.signature_settle]
        exact (List.pairwise_append.1 hdistinct).2.2 v hv t List.mem_cons_self
      have hmap : us.map Transition.settle ++ [t.settle] = (us ++ [t]).map Transition.settle := by
        simp
      rw [List.append_cons] at hdistinct ⊢
      rw [List.foldl_cons, foldl_reread_guards ht.1 ht.2 hnew, hmap]
      exact ih (us ++ [t]) s hts hdistinct
  have hentry : s.entry.map Action.reread = s.entry.map (List.map Action.settle) :=
    Option.map_congr fun as has => Action.reread_eq (hn.entry as has)
  have hexit : s.exit.map Action.reread = s.exit.map (List.map Action.settle) :=
    Option.map_congr fun as has => Action.reread_eq (hn.exit as has)
  rw [State.reread, s.map_branches Transition.reread, List.foldl_flatMap, hentry, hexit]
  exact hfold s.transitions [] s.settle
    (fun t ht => ⟨hs.transitions t ht, hn.transitions t ht⟩) hs.distinct

end State

/-! ## Descriptions of settled machines -/

namespace Description

/-- What is not written cannot be told from its default. -/
theorem ifSet_settle {key : String} {v default : Value} (h : default.isSet = false) :
    ifSet key (v.settle default) = ifSet key v := by
  rw [ifSet, ifSet, Value.isSet_settle h, Value.settle]
  split <;> rfl

theorem action_settle (a : Action) : action a.settle = action a := by
  simp only [action, Action.settle, ifSet_settle (show (Value.int 0).isSet = false from rfl)]

theorem actions_settle (as : List Action) : actions (as.map Action.settle) = actions as := by
  simp [actions, action_settle]

theorem entry_settle (t : Transition) (g : Guard) : entry t.settle g.settle = entry t g := by
  have hparameters : t.settle.parameters.map parameter = t.parameters.map parameter := by
    simp [Transition.settle, parameter]
  simp only [entry, hparameters]
  simp only [Guard.settle, Transition.settle, actions_settle,
    ifSet_settle (show (Value.int 0).isSet = false from rfl)]

theorem state_settle (s : State) : state s.settle = state s := by
  have hentries : (s.transitions.map Transition.settle).flatMap entries =
      s.transitions.flatMap entries := by
    have ht : ∀ t : Transition, entries t.settle = entries t := fun t => by
      simp [entries, Transition.settle, Function.comp_def, ← entry_settle t]
    simp [List.flatMap_map, ht]
  simp only [state, State.settle, hentries, Option.map_map, Function.comp_def, actions_settle,
    ifSet_settle (show (Value.int 0).isSet = false from rfl)]

end Description

variable {S : Sorts} {m : Machine}

theorem StateMap.allStates_reread (map : StateMap) :
    map.reread.allStates = map.allStates.map State.reread := by
  cases h : map.default? <;> simp [StateMap.allStates, StateMap.reread, h]

/-- A nameable machine is described as before, when its description was read back. -/
theorem Machine.description_reread (hm : m.Fits S) (hn : m.Nameable) :
    m.reread.description = m.description := by
  have hmap : ∀ map ∈ m.maps, Description.map map.reread = Description.map map := by
    intro map hmap
    have hstates : map.reread.allStates.map Description.state =
        map.allStates.map Description.state := by
      rw [map.allStates_reread, List.map_map]
      refine List.map_congr_left fun s hs => ?_
      rw [Function.comp_apply, State.reread_eq_settle ((hm.maps map hmap).states s hs)
        (hn map hmap s hs), Description.state_settle]
    rw [Description.map, Description.map, hstates]
    rfl
  have hmaps : m.reread.maps.map Description.map = m.maps.map Description.map := by
    rw [Machine.reread, List.map_map]
    exact List.map_congr_left hmap
  simp only [Machine.description, Description.machine, hmaps]
  simp only [Machine.reread, Description.ifSet_settle (show (Value.str "").isSet = false from rfl)]

/-! ## Definite descriptions -/

namespace Description

variable {key : String} {v : Value} {ms : List (Option (String × Value))}

/-- An object with a further member is definite. -/
theorem definite_cons {m : Option (String × Value)} (h : (object ms).Definite)
    (hm : ∀ kv ∈ m, kv.2.Definite ∧ (object ms).get? kv.1 = none) : (object (m :: ms)).Definite := by
  cases m with
  | none => exact h
  | some kv =>
    obtain ⟨hv, hnew⟩ := hm kv rfl
    cases h with
    | object hkeys hms =>
      refine .object (List.nodup_cons.2 ⟨fun hmem => ?_, hkeys⟩) (List.forall_mem_cons.2 ⟨hv, hms⟩)
      obtain ⟨x, hx⟩ := Option.isSome_iff_exists.1 (Value.isSome_member?.2 hmem)
      cases hx.symm.trans hnew

theorem definite_always (hv : v.Definite) (h : (object ms).Definite)
    (hnew : (object ms).get? key = none := by simp) : (object (always key v :: ms)).Definite := by
  refine definite_cons h ?_
  rintro _ ⟨⟩
  exact ⟨hv, hnew⟩

theorem definite_ifSet (hv : v.Definite) (h : (object ms).Definite)
    (hnew : (object ms).get? key = none := by simp) : (object (ifSet key v :: ms)).Definite := by
  rw [ifSet]
  split
  · exact definite_always hv h hnew
  · exact h

theorem definite_ifGiven {v : Option Value} (hv : ∀ w ∈ v, w.Definite) (h : (object ms).Definite)
    (hnew : (object ms).get? key = none := by simp) : (object (ifGiven key v :: ms)).Definite := by
  cases v with
  | none => exact h
  | some w => exact definite_always (hv w rfl) h hnew

theorem definite_nil : (object []).Definite :=
  .object List.nodup_nil nofun

theorem definite_list {α : Type} {f : α → Value} {xs : List α} (h : ∀ x ∈ xs, (f x).Definite) :
    (Value.list (xs.map f)).Definite :=
  .list (List.forall_mem_map.2 h)

theorem definite_action {a : Action} (ha : a.Fits .definite) : (action a).Definite :=
  definite_always ha.name <| definite_always (definite_list fun _ _ => .str _) <|
    definite_ifSet (.bool _) <| definite_ifSet (.bool _) <| definite_ifSet ha.line definite_nil

theorem definite_actions {as : List Action} (has : ∀ a ∈ as, a.Fits .definite) :
    (actions as).Definite :=
  definite_list fun a ha => definite_action (has a ha)

theorem definite_parameter {p : Parameter} {line : Value} (hp : p.Fits .definite line) :
    (parameter p).Definite :=
  definite_always hp.name <| definite_always hp.type definite_nil

theorem definite_entry {t : Transition} (ht : t.Fits .definite) {g : Guard} (hg : g ∈ t.guards) :
    (entry t g).Definite := by
  have hfits := ht.guards g hg
  obtain ⟨hcondition, hend, hpush, hpop⟩ : g.condition.Definite ∧ g.endState.Definite ∧
      g.pushState.Definite ∧ g.popArguments.Definite := by
    simpa [Sorts.definite] using fun v hv => (hfits.texts v hv).1
  have hparameters : (Value.list (t.parameters.map parameter)).Definite :=
    definite_list fun p hp => definite_parameter (ht.parameters p hp)
  exact definite_always ht.name <| definite_always hparameters <| definite_always (.str _) <|
    definite_always hend <| definite_always (definite_actions hfits.actions) <|
    definite_ifSet hcondition <| definite_ifSet hpush <| definite_ifSet hpop <|
    definite_ifSet hfits.line definite_nil

theorem definite_state {s : State} (hs : s.Fits .definite) : (state s).Definite := by
  have hblock : ∀ block : Option (List Action), (∀ as ∈ block, ∀ a ∈ as, a.Fits .definite) →
      ∀ v ∈ block.map actions, v.Definite := by
    intro block hblock v hv
    obtain ⟨as, has, rfl⟩ := Option.map_eq_some_iff.1 hv
    exact definite_actions (hblock as has)
  have hentries : (Value.list (s.transitions.flatMap entries)).Definite := by
    refine .list fun v hv => ?_
    obtain ⟨t, ht, hv⟩ := List.mem_flatMap.1 hv
    obtain ⟨g, hg, rfl⟩ := List.mem_map.1 hv
    exact definite_entry (hs.transitions t ht) hg
  exact definite_always (.str _) <| definite_ifGiven (hblock s.entry hs.entry) <|
    definite_ifGiven (hblock s.exit hs.exit) <| definite_ifSet hs.line <|
    definite_always hentries definite_nil

theorem definite_map {m : StateMap} (hm : m.Fits .definite) : (map m).Definite :=
  definite_always hm.name <|
    definite_always (definite_list fun s hs => definite_state (hm.states s hs)) definite_nil

/-- The description of a machine made of definite values is definite. -/
theorem definite_machine (hm : m.Fits .definite) : (machine m).Definite := by
  obtain ⟨hname, hcontext, hstart, hclass, hsource, hheader, hpackage, haccess⟩ :
      m.name.Definite ∧ m.context.Definite ∧ m.start.Definite ∧ m.fsmClass.Definite ∧
      m.source.Definite ∧ m.header.Definite ∧ m.package.Definite ∧ m.access.Definite := by
    simpa [Sorts.definite] using hm.texts
  have hmaps : (Value.list (m.maps.map map)).Definite :=
    definite_list fun map hmap => definite_map (hm.maps map hmap)
  exact definite_always hname <| definite_always hcontext <| definite_always hstart <|
    definite_ifSet hclass <| definite_ifSet hsource <| definite_ifSet hheader <|
    definite_ifSet hpackage <| definite_ifSet (.list hm.imports) <|
    definite_ifSet (.list hm.includes) <| definite_ifSet haccess <|
    definite_always hmaps definite_nil

/-! ## Descriptions that name all they hold -/

/-- A transition entry whose parameters and actions have names. -/
def NamedEntry (v : Value) : Prop :=
  v.Each "parameters" (Load.isNamed ·) ∧ v.Each "actions" (Load.isNamed ·)

/-- The description of a state whose actions and parameters have names. -/
def NamedState (v : Value) : Prop :=
  v.Each "entry" (Load.isNamed ·) ∧ v.Each "exit" (Load.isNamed ·) ∧ v.Each "transitions" NamedEntry

/-- The description of a machine whose actions and parameters have names. -/
def Named (v : Value) : Prop :=
  v.Each "maps" (Value.Each "states" NamedState)

end Description

namespace Value

/-- What holds of a definite value holds of the values that equal it. -/
def Respected (P : Value → Prop) : Prop :=
  ∀ v w : Value, v.Definite → v.same w = true → P v → P w

theorem Respected.each {P : Value → Prop} (hP : Respected P) (key : String) :
    Respected (Value.Each key P) := by
  intro v w hv h heach y hy items hitems z hz
  obtain ⟨x, hx, hxy⟩ := exists_get?_left hv h hy
  obtain ⟨items', hitems', hmeets⟩ := exists_elements_left (hv.get? hx) hxy hitems
  obtain ⟨z', hz', hsame⟩ := hmeets z hz
  exact hP z' z ((hv.get? hx).elements hitems' hz') hsame (heach x hx items' hitems' z' hz')

theorem Respected.and {P Q : Value → Prop} (hP : Respected P) (hQ : Respected Q) :
    Respected fun v => P v ∧ Q v :=
  fun v w hv h hboth => ⟨hP v w hv h hboth.1, hQ v w hv h hboth.2⟩

theorem respected_isNamed : Respected (Load.isNamed ·) := by
  intro v w hv h hnamed
  simp only [Load.isNamed, Value.getD] at hnamed ⊢
  cases hx : v.get? "name" with
  | none =>
    rw [hx] at hnamed
    cases hnamed
  | some x =>
    obtain ⟨y, hy, hxy⟩ := exists_get?_right hv h hx
    rw [hx] at hnamed
    rw [hy]
    exact (isSet_eq_of_same hxy).symm.trans hnamed

/-- What a walk through a member that is a list meets. -/
theorem each_iff {α : Type} {P : Value → Prop} {f : α → Value} {xs : List α} {v : Value}
    {key : String} (h : v.get? key = some (.list (xs.map f))) :
    v.Each key P ↔ ∀ x ∈ xs, P (f x) := by
  constructor
  · exact fun heach x hx => heach _ h _ rfl (f x) (List.mem_map_of_mem hx)
  · intro hall y hy items hitems z hz
    rw [h] at hy
    cases hy
    cases hitems
    obtain ⟨x, hx, rfl⟩ := List.mem_map.1 hz
    exact hall x hx

end Value

namespace Description

theorem respected_named : Value.Respected Named :=
  have hnamed := Value.respected_isNamed
  have hentry : Value.Respected NamedEntry := (hnamed.each _).and (hnamed.each _)
  have hstate : Value.Respected NamedState :=
    (hnamed.each _).and ((hnamed.each _).and (hentry.each _))
  (hstate.each _).each _

/-- Does the description of actions give names to all of them? -/
theorem each_actions {v : Value} {key : String} {as : List Action}
    (h : v.get? key = some (actions as)) :
    v.Each key (Load.isNamed ·) ↔ ∀ a ∈ as, a.name.isSet = true := by
  have haction : ∀ a : Action, Load.isNamed (action a) = a.name.isSet := fun a => by
    simp [Load.isNamed, Value.getD, action]
  simp [Value.each_iff h, haction]

theorem each_actionBlock {v : Value} {key : String} {block : Option (List Action)}
    (h : v.get? key = block.map actions) :
    v.Each key (Load.isNamed ·) ↔ ∀ as ∈ block, ∀ a ∈ as, a.name.isSet = true := by
  cases block with
  | none => simp [Value.Each, Value.Has, h]
  | some as => simp [each_actions h]

theorem namedEntry_iff {t : Transition} {g : Guard} :
    NamedEntry (entry t g) ↔
      (∀ p ∈ t.parameters, p.name.isSet = true) ∧ ∀ a ∈ g.actions, a.name.isSet = true := by
  have hparameters : (entry t g).get? "parameters" = some (.list (t.parameters.map parameter)) := by
    simp [entry]
  have hactions : (entry t g).get? "actions" = some (actions g.actions) := by simp [entry]
  have hparameter : ∀ p : Parameter, Load.isNamed (parameter p) = p.name.isSet := fun p => by
    simp [Load.isNamed, Value.getD, parameter]
  simp [NamedEntry, Value.each_iff hparameters, each_actions hactions, hparameter]

/-- The description of a state names all it holds if the state is nameable, given that
    its transitions have guards to be written. -/
theorem namedState_iff {s : State} (hs : s.WellFormed) : NamedState (state s) ↔ s.Nameable := by
  have hentry : (state s).get? "entry" = s.entry.map actions := by simp [state]
  have hexit : (state s).get? "exit" = s.exit.map actions := by simp [state]
  have hbranches : (∀ b ∈ s.branches, NamedEntry (entry b.1 b.2)) ↔
      ∀ t ∈ s.transitions, t.Nameable := by
    simp only [namedEntry_iff]
    constructor
    · -- the parameters are written with the guards, so there has to be one
      intro h t ht
      have hguard : ∀ g ∈ t.guards, (t, g) ∈ s.branches := fun g hg =>
        List.mem_flatMap.2 ⟨t, ht, List.mem_map_of_mem hg⟩
      obtain ⟨g, hg⟩ := List.exists_mem_of_ne_nil _ (hs.transitions t ht)
      exact ⟨(h _ (hguard g hg)).1, fun g hg => (h _ (hguard g hg)).2⟩
    · intro h b hb
      obtain ⟨t, ht, hb⟩ := List.mem_flatMap.1 hb
      obtain ⟨g, hg, rfl⟩ := List.mem_map.1 hb
      exact ⟨(h t ht).parameters, (h t ht).actions g hg⟩
  rw [NamedState, each_actionBlock hentry, each_actionBlock hexit, Value.each_iff (get?_transitions s),
    hbranches]
  exact ⟨fun h => ⟨h.1, h.2.1, h.2.2⟩, fun h => ⟨h.entry, h.exit, h.transitions⟩⟩

/-- The description of a machine names all it holds if the machine is nameable. -/
theorem named_iff (hm : m.WellFormed) : Named m.description ↔ m.Nameable := by
  have hmaps : m.description.get? "maps" = some (.list (m.maps.map map)) := by
    simp [Machine.description, machine]
  have hstates : ∀ map' : StateMap, (map map').get? "states" =
      some (.list (map'.allStates.map state)) := fun map' => by simp [map]
  rw [Named, Value.each_iff hmaps]
  simp only [Value.each_iff (hstates _)]
  refine forall_congr' fun map => forall_congr' fun hmap => forall_congr' fun s =>
    forall_congr' fun hs => namedState_iff ?_
  rcases List.mem_append.1 hs with hs | hs
  · exact (hm map hmap).default s (Option.mem_toList.1 hs)
  · exact (hm map hmap).states s hs

end Description

/-! ## Reading back -/

/-- What is read back has a name. -/
theorem State.nameable_reread (s : State) : s.reread.Nameable := by
  have hactions : ∀ as : List Action, ∀ a ∈ Action.reread as, a.name.isSet = true := by
    intro as a ha
    obtain ⟨b, -, hb⟩ := List.mem_filterMap.1 ha
    split at hb
    · next hset =>
      cases hb
      exact hset
    · cases hb
  have hentry : ∀ (t : Transition) (g : Guard), (t.reread g).Nameable := by
    refine fun t g => ⟨fun p hp => ?_, List.forall_mem_singleton.2 (hactions g.actions)⟩
    obtain ⟨q, -, hq⟩ := List.mem_filterMap.1 hp
    split at hq
    · next hset =>
      cases hq
      exact hset
    · cases hq
  have hblock : ∀ block : Option (List Action), ∀ as ∈ block.map Action.reread, ∀ a ∈ as,
      a.name.isSet = true := by
    intro block as has
    obtain ⟨bs, -, rfl⟩ := Option.map_eq_some_iff.1 has
    exact hactions bs
  -- the transitions stay nameable as the entries are added one by one
  have hfold : ∀ (ts : List Transition) (s : State), (∀ t ∈ ts, t.Nameable) → s.Nameable →
      (ts.foldl State.addTransition s).Nameable := by
    intro ts
    induction ts with
    | nil => exact fun _ _ hs => hs
    | cons t ts ih =>
      intro s hts hs
      obtain ⟨ht, hts⟩ := List.forall_mem_cons.1 hts
      refine ih (s.addTransition t) hts { hs with transitions := ?_ }
      refine State.forall_insertTransition (fun u hu => ?_) ht hs.transitions
      exact ⟨hu.parameters, fun g hg => (List.mem_append.1 hg).elim (hu.actions g) (ht.actions g)⟩
  refine hfold _ _ (fun t ht => ?_) ⟨hblock s.entry, hblock s.exit, List.forall_mem_nil _⟩
  obtain ⟨b, -, rfl⟩ := List.mem_map.1 ht
  exact hentry b.1 b.2

theorem Machine.nameable_reread (m : Machine) : m.reread.Nameable := by
  intro map hmap s hs
  obtain ⟨map, -, rfl⟩ := List.mem_map.1 hmap
  rw [map.allStates_reread] at hs
  obtain ⟨s, -, rfl⟩ := List.mem_map.1 hs
  exact s.nameable_reread

/-- Of a machine read from a definite description, the description can be read, and the
    machine that this gives has an equal description if and only if the first one is
    nameable. -/
theorem reads_back_iff_nameable {v : Value} (hv : v.Definite) {m : Machine}
    (hm : (Load.machine v .null).outcome.1 = .ok m) :
    ∃ m', (Load.machine m.description .null).outcome.1 = .ok m' ∧
      ((m'.description == m.description) = true ↔ m.Nameable) := by
  have hwf := Load.wellFormed_of_outcome hm
  have hfits := Load.fits_of_outcome (Sorts.fits_of_definite hv) hm
  have hdefinite : m.description.Definite := Description.definite_machine hfits
  have hreread := (Load.machine_reads hwf hfits).outcome
  refine ⟨m.reread, hreread, fun h => ?_, fun hn => ?_⟩
  · -- the description that comes back is definite and names all it holds
    have hfits' := Load.fits_of_outcome (Sorts.fits_of_definite hdefinite) hreread
    have hnamed := (Description.named_iff (Load.wellFormed_of_outcome hreread)).2 m.nameable_reread
    exact (Description.named_iff hwf).1 (Description.respected_named _ _
      (Description.definite_machine hfits') h hnamed)
  · rw [Machine.description_reread hfits hn]
    exact Value.same_self hdefinite

open Simulator in
/-- The desk comes back as it was. If on leaving it the clerk does something that has no
    name, the description can still be read, but does not come back. -/
theorem nameless_desk_changes :
    let named := desk (callEntry "tidy" []) (callEntry "sign" []) (callEntry "file" [])
    let nameless := desk (.str "(1)") (callEntry "sign" []) (callEntry "file" [])
    named.Definite ∧ nameless.Definite ∧
      (∃ m m', (Load.machine named .null).outcome.1 = .ok m ∧
        (Load.machine m.description .null).outcome.1 = .ok m' ∧
        (m'.description == m.description) = true) ∧
      ∃ m m', (Load.machine nameless .null).outcome.1 = .ok m ∧
        (Load.machine m.description .null).outcome.1 = .ok m' ∧
        (m'.description == m.description) = false := by
  intro named nameless
  have hdefinite : named.Definite := by simp [named, desk, callEntry]
  have hnameless : nameless.Definite := by simp [nameless, desk, callEntry]
  have hloads : (Load.machine nameless .null).outcome.1 =
      .ok (deskMachine (clerkCall "" ["1"]) (clerkCall "sign" []) (clerkCall "file" [])) := by rfl
  obtain ⟨m', hm', hiff⟩ := reads_back_iff_nameable hdefinite plainDesk_loads
  obtain ⟨m'', hm'', hiff'⟩ := reads_back_iff_nameable hnameless hloads
  refine ⟨hdefinite, hnameless, ⟨plainDesk, m', plainDesk_loads, hm', hiff.2 (by decide +kernel)⟩,
    _, m'', hloads, hm'', ?_⟩
  exact Bool.eq_false_iff.2 (mt hiff'.1 (by decide +kernel))

end StateMachine
