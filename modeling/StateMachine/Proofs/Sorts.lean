import StateMachine.Proofs.Definite
import StateMachine.Proofs.Loaded

/-!
# Sorts of values

A description is read without a check of the kinds of its values. What they are
to be, its texts, its line numbers and the items of its lists, is told by `Sorts`.
A description *fits* sorts (`Sorts.Fits`) if what is there is of the sorts; what
is missing does no harm. All definite values make up sorts, and so do texts
together with integers for the lines.

The machine read from a description that fits, fits as well (`Machine.Fits`), and
it has what only a machine that was read has:

* texts that do not count as set are empty;
* the line of a transition is that of its first guard and of its parameters;
* no two transitions of a state have the same signature;
* an action that empties the stack has the name of the directive.
-/

namespace StateMachine

/-! ## Descriptions -/

namespace Value

/-- What a walk through the value meets satisfies `P`. -/
def Meets (P : Value → Prop) (v : Value) : Prop :=
  ∀ items, v.elements = .ok items → ∀ x ∈ items, P x

/-- The member `key`, if there is one, satisfies `P`. -/
def Has (key : String) (P : Value → Prop) (v : Value) : Prop :=
  ∀ x, v.get? key = some x → P x

/-- What a walk through the member `key`, if there is one, meets satisfies `P`. -/
def Each (key : String) (P : Value → Prop) : Value → Prop :=
  Has key (Meets P)

/-- The value counts as set, or is the empty text. -/
def Settled (v : Value) : Prop :=
  v.isSet = true ∨ v = .str ""

variable {P Q : Value → Prop} {v : Value} {key : String}

theorem Has.getD {default : Value} (h : v.Has key P) (hdefault : P default) :
    P (v.getD key default) := by
  rw [Value.getD]
  cases hx : v.get? key with
  | none => exact hdefault
  | some x => exact h x hx

/-- A member that counts as set is there. -/
theorem Has.of_isSet (h : v.Has key P) (hset : (v.getD key .null).isSet = true) :
    P (v.getD key .null) := by
  rw [Value.getD] at hset ⊢
  cases hx : v.get? key with
  | none =>
    rw [hx] at hset
    cases hset
  | some x => exact h x hx

@[simp]
theorem has_nil : (Value.object []).Has key P :=
  nofun

@[simp]
theorem has_cons {k : String} {x : Value} {members : List (String × Value)} :
    (Value.object ((k, x) :: members)).Has key P ↔
      if k = key then P x else (Value.object members).Has key P := by
  simp only [Has, get?, member?]
  split <;> simp

@[simp]
theorem has_str (s : String) : (Value.str s).Has key P :=
  nofun

@[simp]
theorem meets_list {items : List Value} : (Value.list items).Meets P ↔ ∀ x ∈ items, P x :=
  ⟨fun h => h items rfl, by rintro h _ ⟨⟩; exact h⟩

theorem meets_null : Value.null.Meets P :=
  nofun

theorem meets_nil : (Value.list []).Meets P :=
  meets_list.2 (List.forall_mem_nil P)

theorem settled_str (s : String) : (Value.str s).Settled := by
  by_cases hs : s = ""
  · exact .inr (hs ▸ rfl)
  · exact .inl (by simpa [isSet] using hs)

theorem settled_settled (v : Value) (key : String) : (Load.settled v key).Settled := by
  rw [Load.settled]
  split
  · next h => exact .inl h
  · exact .inr rfl

theorem Definite.has (h : v.Definite) : v.Has key Definite :=
  fun _ => h.get?

theorem Definite.each (h : v.Definite) (hP : ∀ x : Value, x.Definite → P x) : v.Each key P :=
  fun _ hx _ hitems x hmem => hP x ((h.get? hx).elements hitems hmem)

end Value

/-- What the values of a description are to be. -/
structure Sorts where
  text : Value → Prop
  line : Value → Prop
  /-- The items of lists that are taken over as they are. -/
  item : Value → Prop
  text_str : ∀ s, text (.str s)
  line_zero : line (.int 0)
  /-- Texts can be recognized. -/
  same_self : ∀ v, text v → v.same v = true

namespace Sorts

/-- Definite values of any kind. -/
def definite : Sorts where
  text := Value.Definite
  line := Value.Definite
  item := Value.Definite
  text_str := .str
  line_zero := .int 0
  same_self _ := Value.same_self

/-- Texts, with integers for the lines; any items. -/
def plain : Sorts where
  text v := v.isText = true
  line v := ∃ i, v = .int i
  item _ := True
  text_str _ := rfl
  line_zero := ⟨0, rfl⟩
  same_self v h := by
    cases v with
    | str s => exact Value.same_self (.str s)
    | _ => cases h

variable (S : Sorts)

/-- The description of an action fits. -/
structure FitsAction (v : Value) : Prop where
  name : v.Has "name" S.text
  line : v.Has "line" S.line

/-- The description of a parameter fits. -/
structure FitsParameter (v : Value) : Prop where
  name : v.Has "name" S.text
  type : v.Has "type" S.text

/-- A transition entry fits. -/
structure FitsEntry (v : Value) : Prop where
  texts : ∀ key ∈ ["name", "guard", "end_state", "push_state", "pop_args"], v.Has key S.text
  line : v.Has "line" S.line
  parameters : v.Each "parameters" S.FitsParameter
  actions : v.Each "actions" S.FitsAction

/-- The description of a state fits. -/
structure FitsState (v : Value) : Prop where
  line : v.Has "line" S.line
  entry : v.Each "entry" S.FitsAction
  exit : v.Each "exit" S.FitsAction
  transitions : v.Each "transitions" S.FitsEntry

/-- The description of a map fits. -/
structure FitsMap (v : Value) : Prop where
  name : v.Has "name" S.text
  states : v.Each "states" S.FitsState

/-- The description of a machine fits. -/
structure Fits (v : Value) : Prop where
  texts : ∀ key ∈ ["name", "class", "start", "fsmclass", "source", "header", "package", "access"],
    v.Has key S.text
  imports : v.Each "imports" S.item
  includes : v.Each "includes" S.item
  maps : v.Each "maps" S.FitsMap

/-- A definite description fits. -/
theorem fits_of_definite {v : Value} (h : v.Definite) : definite.Fits v := by
  have haction : ∀ v : Value, v.Definite → definite.FitsAction v := fun v h => ⟨h.has, h.has⟩
  have hparameter : ∀ v : Value, v.Definite → definite.FitsParameter v := fun v h => ⟨h.has, h.has⟩
  have hentry : ∀ v : Value, v.Definite → definite.FitsEntry v := fun v h =>
    ⟨fun _ _ => h.has, h.has, h.each hparameter, h.each haction⟩
  have hstate : ∀ v : Value, v.Definite → definite.FitsState v := fun v h =>
    ⟨h.has, h.each haction, h.each haction, h.each hentry⟩
  have hmap : ∀ v : Value, v.Definite → definite.FitsMap v := fun v h => ⟨h.has, h.each hstate⟩
  exact ⟨fun _ _ => h.has, h.each fun _ hx => hx, h.each fun _ hx => hx, h.each hmap⟩

end Sorts

/-! ## Machines -/

variable {S : Sorts}

/-- The action is of the sorts, and empties the stack only under the name of the
    directive. -/
structure Action.Fits (S : Sorts) (a : Action) : Prop where
  name : S.text a.name
  line : S.line a.line
  directive : a.emptiesStack = true → a.name = .str emptyStackName

/-- The parameter is of the sorts, and stands on the line. -/
structure Parameter.Fits (S : Sorts) (line : Value) (p : Parameter) : Prop where
  name : S.text p.name
  type : S.text p.type
  line_eq : p.line = line

/-- The guard is of the sorts. -/
structure Guard.Fits (S : Sorts) (g : Guard) : Prop where
  texts : ∀ v ∈ [g.condition, g.endState, g.pushState, g.popArguments], S.text v ∧ v.Settled
  actions : ∀ a ∈ g.actions, a.Fits S
  line : S.line g.line

/-- The transition is of the sorts, and stands on the line of its first guard. -/
structure Transition.Fits (S : Sorts) (t : Transition) : Prop where
  name : S.text t.name
  named : t.name.isSet = true
  parameters : ∀ p ∈ t.parameters, p.Fits S t.line
  guards : ∀ g ∈ t.guards, g.Fits S
  first : ∃ g gs, t.guards = g :: gs ∧ g.line = t.line

/-- No two of the transitions have the same signature. -/
def Transition.Distinct : List Transition → Prop :=
  List.Pairwise fun t u => t.signature.same u.signature = false

/-- The state is of the sorts, and its transitions can be told apart. -/
structure State.Fits (S : Sorts) (s : State) : Prop where
  line : S.line s.line
  entry : ∀ as ∈ s.entry, ∀ a ∈ as, a.Fits S
  exit : ∀ as ∈ s.exit, ∀ a ∈ as, a.Fits S
  transitions : ∀ t ∈ s.transitions, t.Fits S
  distinct : Transition.Distinct s.transitions

/-- The map is of the sorts. -/
structure StateMap.Fits (S : Sorts) (m : StateMap) : Prop where
  name : S.text m.name
  named : m.name.isSet = true
  states : ∀ s ∈ m.allStates, s.Fits S

/-- The machine is of the sorts. -/
structure Machine.Fits (S : Sorts) (m : Machine) : Prop where
  texts : ∀ v ∈ [m.name, m.context, m.start, m.fsmClass, m.source, m.header, m.package, m.access],
    S.text v
  named : m.name.isSet = true
  imports : ∀ v ∈ m.imports, S.item v
  includes : ∀ v ∈ m.includes, S.item v
  maps : ∀ map ∈ m.maps, map.Fits S

/-! ## Transitions of a state -/

namespace State

/-- What holds of a transition, and of one that guards are added to, holds of all
    transitions when one is inserted. -/
theorem forall_insertTransition {P : Transition → Prop} {t : Transition} {us : List Transition}
    (hadd : ∀ u, P u → P (u.addGuards t.guards)) (ht : P t) (hus : ∀ u ∈ us, P u) :
    ∀ u ∈ insertTransition t us, P u := by
  induction us with
  | nil => simpa [insertTransition] using ht
  | cons u us ih =>
    obtain ⟨hu, hus⟩ := List.forall_mem_cons.1 hus
    rw [insertTransition]
    split
    · exact List.forall_mem_cons.2 ⟨hadd u hu, hus⟩
    · exact List.forall_mem_cons.2 ⟨hu, ih hus⟩

theorem distinct_insertTransition {t : Transition} {us : List Transition}
    (hus : Transition.Distinct us) : Transition.Distinct (insertTransition t us) := by
  induction us with
  | nil => exact List.pairwise_singleton _ t
  | cons u us ih =>
    obtain ⟨hu, hus⟩ := List.pairwise_cons.1 hus
    rw [insertTransition]
    split
    · exact List.pairwise_cons.2 ⟨hu, hus⟩
    · next hne =>
      -- the signatures after `u` are those of before, and that of `t`
      refine List.pairwise_cons.2 ⟨?_, ih hus⟩
      exact forall_insertTransition (fun v hv => hv) (Bool.eq_false_iff.2 hne) hu

theorem Fits.addTransition {s : State} {t : Transition} (hs : s.Fits S) (ht : t.Fits S) :
    (s.addTransition t).Fits S where
  line := hs.line
  entry := hs.entry
  exit := hs.exit
  distinct := distinct_insertTransition hs.distinct
  transitions := by
    refine forall_insertTransition (fun u hu => ?_) ht hs.transitions
    obtain ⟨g, gs, hgs, hline⟩ := hu.first
    refine { hu with guards := fun g hg => ?_, first := ⟨g, gs ++ t.guards, ?_, hline⟩ }
    · exact (List.mem_append.1 hg).elim (hu.guards g) (ht.guards g)
    · rw [Transition.addGuards, hgs, List.cons_append]

theorem Fits.foldl_addTransition {s : State} {ts : List Transition} (hs : s.Fits S)
    (hts : ∀ t ∈ ts, t.Fits S) : (ts.foldl State.addTransition s).Fits S := by
  induction ts generalizing s with
  | nil => exact hs
  | cons t ts ih =>
    obtain ⟨ht, hts⟩ := List.forall_mem_cons.1 hts
    exact ih (hs.addTransition ht) hts

end State

/-- What holds of the states of a map and of a further one holds of all states
    when it is added. -/
theorem StateMap.forall_addState {P : State → Prop} {m : StateMap} {s : State}
    (hm : ∀ u ∈ m.allStates, P u) (hs : P s) : ∀ u ∈ (m.addState s).allStates, P u := by
  intro u hu
  rw [addState] at hu
  split at hu
  · simp only [allStates, List.mem_append, Option.mem_toList] at hu
    rcases hu with hu | hu
    · cases hu
      exact hs
    · exact hm u (List.mem_append_right _ hu)
  · simp only [allStates, ← List.append_assoc, List.mem_append, List.mem_singleton] at hu
    rcases hu with hu | rfl
    · exact hm u (List.mem_append.2 hu)
    · exact hs

theorem StateMap.Fits.foldl_addState {m : StateMap} {ss : List State} (hm : m.Fits S)
    (hss : ∀ s ∈ ss, s.Fits S) : (ss.foldl StateMap.addState m).Fits S := by
  induction ss generalizing m with
  | nil => exact hm
  | cons s ss ih =>
    obtain ⟨hs, hss⟩ := List.forall_mem_cons.1 hss
    have hname : (m.addState s).name = m.name := by
      rw [addState]
      split <;> rfl
    exact ih ⟨hname ▸ hm.name, hname ▸ hm.named, forall_addState hm.states hs⟩ hss

/-! ## The reader -/

namespace Load

variable {α : Type}

/-- The parts collected from entries are of the kind each of them gives. -/
theorem Gives.collect_of_mem {Q : α → Prop} {read : Value → Load (Option α)} {vs : List Value}
    (h : ∀ v ∈ vs, Gives (read v) fun r => ∀ a ∈ r, Q a) :
    Gives (Load.collect read vs) fun as => ∀ a ∈ as, Q a := by
  induction vs with
  | nil => exact .pure (by simp)
  | cons v vs ih =>
    obtain ⟨hv, hvs⟩ := List.forall_mem_cons.1 h
    refine hv.bind fun part hpart => (ih hvs).bind fun parts hparts => .pure fun a ha => ?_
    rcases List.mem_append.1 ha with ha | ha
    · exact hpart a (by simpa using ha)
    · exact hparts a ha

theorem elements_gives {P : Value → Prop} {v : Value} (h : v.Meets P) :
    Gives (elements v) fun items => ∀ x ∈ items, P x := by
  rw [elements]
  split
  · next items hitems => exact .pure (h items hitems)
  · exact .throw _

theorem ofBody_fits {static : Bool} {cs : List Char} {a : Action}
    (h : Shorthand.ofBody static cs = some a) : a.Fits S := by
  have hcall : ∀ name arguments static, (Shorthand.call name arguments static).Fits S := by
    refine fun name _ _ => ⟨S.text_str name, S.line_zero, fun h => ?_⟩
    exact congrArg Value.str (by simpa [Shorthand.call] using h)
  rw [Shorthand.ofBody] at h
  split at h
  · cases h
    exact ⟨S.text_str _, S.line_zero, nofun⟩
  · split at h
    · cases h
      exact hcall _ _ _
    · obtain ⟨list, -, rfl⟩ := Option.map_eq_some_iff.1 h
      exact hcall _ _ _

theorem action_fits {v : Value} (h : S.FitsAction v) :
    Gives (action v) fun r => ∀ a ∈ r, a.Fits S := by
  rw [action.eq_def]
  split
  · split
    · next hnamed =>
      refine .after fun arguments => .pure ?_
      rintro _ ⟨⟩
      exact ⟨h.name.of_isSet hnamed, h.line.getD S.line_zero, Value.beq_str_iff.1⟩
    · exact .after fun _ => .pure (by simp)
  · split
    · exact .after fun _ => .pure (by simp)
    · split
      · next a ha =>
        refine .pure ?_
        rintro _ ⟨⟩
        rcases hbody : Shorthand.unmarked (Shorthand.body _) with ⟨static, cs⟩
        rw [Shorthand.action?, hbody] at ha
        exact ofBody_fits ha
      · exact .after fun _ => .pure (by simp)
  · exact .after fun _ => .pure (by simp)

theorem actions?_fits {v : Value} (h : v.Meets S.FitsAction) :
    Gives (actions? v) fun r => ∀ as ∈ r, ∀ a ∈ as, a.Fits S := by
  rw [actions?.eq_def]
  split
  · exact .pure (by simp)
  · refine (elements_gives h).bind fun entries hentries => ?_
    refine (Gives.collect_of_mem fun v hv => action_fits (hentries v hv)).bind fun as has => .pure ?_
    rintro _ ⟨⟩
    exact has

theorem parameter_fits {line v : Value} (h : S.FitsParameter v) :
    Gives (parameter line v) fun r => ∀ p ∈ r, p.Fits S line := by
  rw [parameter.eq_def]
  split
  · refine .pure ?_
    rintro _ ⟨⟩
    exact ⟨S.text_str _, S.text_str _, rfl⟩
  · split
    · next hnamed =>
      refine .pure ?_
      rintro _ ⟨⟩
      exact ⟨h.name.of_isSet hnamed, h.type.getD (S.text_str ""), rfl⟩
    · exact .after fun _ => .pure (by simp)

theorem settled_fits {v : Value} {key : String} (h : v.Has key S.text) :
    S.text (settled v key) ∧ (settled v key).Settled := by
  refine ⟨?_, Value.settled_settled v key⟩
  rw [settled]
  split
  · exact h.getD (S.text_str "")
  · exact S.text_str ""

theorem transition_fits {v : Value} (h : S.FitsEntry v) (hnamed : isNamed v = true) :
    Gives (transition v) (Transition.Fits S) := by
  rw [transition]
  split
  · exact .throw _
  · refine (elements_gives (h.parameters.getD Value.meets_nil)).bind fun entries hentries => ?_
    refine (Gives.collect_of_mem fun v hv => parameter_fits (hentries v hv)).bind
      fun parameters hparameters => ?_
    refine (actions?_fits (h.actions.getD Value.meets_null)).bind fun actions hactions => .pure ?_
    refine ⟨(h.texts "name" (by simp)).of_isSet hnamed, hnamed, hparameters,
      List.forall_mem_singleton.2 ⟨?_, ?_, h.line.getD S.line_zero⟩, _, [], rfl, rfl⟩
    · simp only [List.forall_mem_cons]
      exact ⟨settled_fits (h.texts "guard" (by simp)), settled_fits (h.texts "end_state" (by simp)),
        settled_fits (h.texts "push_state" (by simp)), settled_fits (h.texts "pop_args" (by simp)),
        List.forall_mem_nil _⟩
    · cases actions with
      | none => exact List.forall_mem_nil _
      | some as => exact hactions as rfl

theorem transitionEntry_fits {scopedName : String} {v : Value} (h : S.FitsEntry v) :
    Gives (transitionEntry scopedName v) fun r => ∀ t ∈ r, t.Fits S := by
  rw [transitionEntry]
  split
  · next hnamed =>
    refine (transition_fits h hnamed).bind fun t ht => .pure ?_
    rintro _ ⟨⟩
    exact ht
  · exact .after fun _ => .pure (by simp)

theorem state_fits {mapName v : Value} (h : S.FitsState v) :
    Gives (state mapName v) fun r => ∀ s ∈ r, s.Fits S := by
  rw [state]
  split
  · refine (actions?_fits (h.entry.getD Value.meets_null)).bind fun entry hentry => ?_
    refine (actions?_fits (h.exit.getD Value.meets_null)).bind fun exit hexit => ?_
    split
    · refine (elements_gives (h.transitions.getD Value.meets_nil)).bind fun entries hentries => ?_
      refine (Gives.collect_of_mem fun v hv => transitionEntry_fits (hentries v hv)).bind
        fun ts hts => .pure ?_
      rintro _ ⟨⟩
      exact State.Fits.foldl_addTransition
        ⟨h.line.getD S.line_zero, hentry, hexit, List.forall_mem_nil _, .nil⟩ hts
    · exact .throw _
  · exact .after fun _ => .pure (by simp)

theorem map_fits {v : Value} (h : S.FitsMap v) : Gives (map v) fun r => ∀ m ∈ r, m.Fits S := by
  rw [map]
  split
  · next hnamed =>
    refine (elements_gives (h.states.getD Value.meets_nil)).bind fun entries hentries => ?_
    refine (Gives.collect_of_mem fun v hv => state_fits (hentries v hv)).bind fun ss hss => .pure ?_
    rintro _ ⟨⟩
    exact StateMap.Fits.foldl_addState ⟨h.name.of_isSet hnamed, hnamed, List.forall_mem_nil _⟩ hss
  · exact .after fun _ => .pure (by simp)

/-- The first value that counts as set satisfies what such values and the default do. -/
theorem firstSet_fits {P : Value → Prop} {vs : List Value} {default : Value}
    (hvs : ∀ v ∈ vs, v.isSet = true → P v) (hdefault : P default) : P (firstSet vs default) := by
  induction vs with
  | nil => exact hdefault
  | cons v vs ih =>
    obtain ⟨hv, hvs⟩ := List.forall_mem_cons.1 hvs
    rw [firstSet]
    split
    · next hset => exact hv hset
    · exact ih hvs

theorem machine_fits {v : Value} (h : S.Fits v) : Gives (machine v .null) (Machine.Fits S) := by
  rw [machine.eq_def]
  split
  · next members =>
    refine (elements_gives (h.imports.getD Value.meets_nil)).bind fun imports himports => ?_
    refine (elements_gives (h.includes.getD Value.meets_nil)).bind fun includes hincludes => ?_
    refine (elements_gives (h.maps.getD Value.meets_nil)).bind fun entries hentries => ?_
    refine (Gives.collect_of_mem fun v hv => map_fits (hentries v hv)).bind fun maps hmaps => ?_
    have htext : ∀ key ∈ ["class", "start", "fsmclass", "source", "header", "package", "access"],
        S.text ((Value.object members).getD key (.str "")) := fun key hkey =>
      (h.texts key (List.mem_cons_of_mem _ hkey)).getD (S.text_str "")
    refine .after fun _ => .pure ⟨?_, ?_, himports, hincludes, hmaps⟩
    · refine List.forall_mem_cons.2 ⟨firstSet_fits ?_ (S.text_str _), by simpa using htext⟩
      simp only [List.forall_mem_cons]
      have hnull : Value.null.isSet = true → S.text .null := fun hset => by cases hset
      exact ⟨hnull, (h.texts "name" (by simp)).of_isSet, (h.texts "class" (by simp)).of_isSet,
        List.forall_mem_nil _⟩
    · exact firstSet_fits (fun _ _ hset => hset) rfl
  · exact .throw _

/-- A machine read from a description that fits, fits. -/
theorem fits_of_outcome {v : Value} {m : Machine} (h : S.Fits v)
    (hm : (machine v .null).outcome.1 = .ok m) : m.Fits S :=
  machine_fits h [] m _ (Prod.ext hm rfl)

end Load
end StateMachine
