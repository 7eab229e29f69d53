import Mathlib.Data.List.Forall2
import Mathlib.Data.List.Perm.Basic
import StateMachine.Proofs.Reloading

/-!
# Entries and what becomes of them

A reading *adds* to the records (`Load.Adds`): neither what it comes to nor what it
reports depends on the records made before. So a reading without a warning
(`Load.Quiet`) is made of readings without a warning. Nothing is skipped in these, so
that the parts of what is read stand for the entries of the description, one by one.

There is one exception. A map has a single Default State, and of several entries for
it the last one counts. The others are gone with their guards and actions, and nothing
is reported (`spare_default_is_lost`). Nothing else is lost, as
`reading_keeps_entries_iff` shows: a machine read without a warning has a map, state,
guard, parameter and action of its own for each entry if and only if no map has
several entries for its Default State.
-/

namespace StateMachine

/-! ## Pairing -/

section Paired

variable {α β γ δ : Type} {R : α → β → Prop} {xs : List α} {ys : List β}

/-- Each of the `xs` has one of the `ys` of its own, and there are no others. -/
def Paired (R : α → β → Prop) (xs : List α) (ys : List β) : Prop :=
  ∃ zs, List.Forall₂ R xs zs ∧ zs.Perm ys

theorem Paired.length_eq (h : Paired R xs ys) : xs.length = ys.length := by
  obtain ⟨zs, hzs, hperm⟩ := h
  exact hzs.length_eq.trans hperm.length_eq

/-- The parts are paired if they are those of items that stand for each other. -/
theorem Paired.flatMap {S : γ → δ → Prop} {f : α → List γ} {g : β → List δ}
    (h : List.Forall₂ R xs ys) (hparts : ∀ x y, R x y → Paired S (f x) (g y)) :
    Paired S (xs.flatMap f) (ys.flatMap g) := by
  induction h with
  | nil => exact ⟨[], .nil, .refl []⟩
  | cons hxy _ ih =>
    obtain ⟨zs, hzs, hperm⟩ := hparts _ _ hxy
    obtain ⟨zs', hzs', hperm'⟩ := ih
    rw [List.flatMap_cons, List.flatMap_cons]
    exact ⟨zs ++ zs', List.rel_append hzs hzs', hperm.append hperm'⟩

/-- There are equally many parts if those that are paired have equally many. -/
theorem Paired.length_flatMap {f : α → List γ} {g : β → List δ} (h : Paired R xs ys)
    (hparts : ∀ x y, R x y → (f x).length = (g y).length) :
    (xs.flatMap f).length = (ys.flatMap g).length := by
  obtain ⟨zs, hzs, hperm⟩ := h
  rw [← (hperm.flatMap_right g).length_eq]
  clear hperm
  induction hzs with
  | nil => rfl
  | cons hxz _ ih =>
    rw [List.flatMap_cons, List.flatMap_cons, List.length_append, List.length_append,
      hparts _ _ hxz, ih]

end Paired

/-! ## Readings without a warning -/

namespace Load

variable {α β : Type}

/-- The reading adds to the records: what it comes to and what it reports does not
    depend on the records made before. -/
def Adds (x : Load α) : Prop :=
  ∀ records, x.run.run records = (x.outcome.1, records ++ x.outcome.2)

/-- A reading followed by another one. -/
theorem run_bind (x : Load α) (k : α → Load β) (records : List Record) :
    (x >>= k).run.run records = match x.run.run records with
      | (.ok a, records') => (k a).run.run records'
      | (.error e, records') => (.error e, records') := by
  have he : (x >>= k).run.run records = match x.run.run records with
      | (r, records') => (ExceptT.bindCont k r : StateM _ _) records' := rfl
  rw [he]
  rcases x.run.run records with ⟨_ | a, records'⟩ <;> rfl

namespace Adds

variable {x : Load α}

theorem pure (a : α) : Adds (Pure.pure a) :=
  fun records => Prod.ext rfl (List.append_nil records).symm

theorem throw (e : LoadError) : Adds (MonadExcept.throw e : Load α) :=
  fun records => Prod.ext rfl (List.append_nil records).symm

theorem report (level : Level) (message : String) : Adds (Load.report level message) :=
  fun _ => rfl

theorem bind {k : α → Load β} (hx : Adds x) (hk : ∀ a, Adds (k a)) : Adds (x >>= k) := by
  intro records
  have hout : (x >>= k).outcome = (x >>= k).run.run [] := rfl
  rw [hout, run_bind, run_bind, hx records, show x.run.run [] = x.outcome from rfl]
  rcases x.outcome with ⟨_ | a, records'⟩
  · rfl
  · -- the second reading adds to what the first one has added, wherever that started
    change (k a).run.run (records ++ records') =
      (((k a).run.run records').1, records ++ ((k a).run.run records').2)
    rw [hk a (records ++ records'), hk a records', List.append_assoc]

theorem elements (v : Value) : Adds (Load.elements v) := by
  rw [Load.elements]
  split
  · exact .pure _
  · exact .throw _

theorem collect {read : Value → Load (Option α)} (h : ∀ v, Adds (read v)) (vs : List Value) :
    Adds (Load.collect read vs) := by
  induction vs with
  | nil => exact .pure _
  | cons v vs ih => exact (h v).bind fun _ => ih.bind fun _ => .pure _

/-- An entry that is skipped with a warning. -/
theorem skip (message : String) : Adds (do Load.warn message; return (none : Option α)) :=
  (report _ _).bind fun _ => .pure _

end Adds

/-- The reading comes to `a`, and makes no warning. -/
def Quiet (x : Load α) (a : α) : Prop :=
  x.outcome.1 = .ok a ∧ ∀ r ∈ x.outcome.2, r.level ≠ .warning

namespace Quiet

variable {x : Load α} {a : α}

theorem of_pure {b : α} (h : Quiet (Pure.pure a) b) : a = b :=
  Except.ok.inj h.1

theorem not_throw {e : LoadError} : ¬Quiet (MonadExcept.throw e) a :=
  fun h => nomatch h.1

/-- A reading in two steps without a warning has none in either of them. -/
theorem of_bind {k : α → Load β} {b : β} (hk : ∀ a, Adds (k a)) (h : Quiet (x >>= k) b) :
    ∃ a, Quiet x a ∧ Quiet (k a) b := by
  have hout : (x >>= k).outcome = (x >>= k).run.run [] := rfl
  rw [Quiet, hout, run_bind, show x.run.run [] = x.outcome from rfl] at h
  rcases hx : x.outcome with ⟨_ | a, records⟩ <;> rw [hx] at h
  · cases h.1
  · change ((k a).run.run records).1 = _ ∧ ∀ r ∈ ((k a).run.run records).2, _ at h
    -- the records of the first reading are still there at the end
    rw [hk a records] at h
    refine ⟨a, ⟨by rw [hx], fun r hr => ?_⟩, h.1, fun r hr => ?_⟩
    · rw [hx] at hr
      exact h.2 r (List.mem_append_left _ hr)
    · exact h.2 r (List.mem_append_right _ hr)

theorem not_skip {message : String} {r : Option α} :
    ¬Quiet (do Load.warn message; return (none : Option α)) r :=
  fun h => h.2 ⟨.warning, Topic.loader, message⟩ (List.mem_singleton_self _) rfl

theorem of_elements {v : Value} {items : List Value} (h : Quiet (Load.elements v) items) :
    v.elements = .ok items := by
  rw [Load.elements] at h
  split at h
  · next hitems => rw [hitems, of_pure h]
  · exact (not_throw h).elim

/-- Where no entry is skipped, the parts stand for the entries one by one. -/
theorem of_collect {read : Value → Load (Option α)} {R : Value → α → Prop} {vs : List Value}
    {parts : List α} (hadds : ∀ v, Adds (read v))
    (hread : ∀ v r, Quiet (read v) r → ∃ a, r = some a ∧ R v a)
    (h : Quiet (Load.collect read vs) parts) : List.Forall₂ R vs parts := by
  induction vs generalizing parts with
  | nil =>
    obtain rfl := of_pure h
    exact .nil
  | cons v vs ih =>
    obtain ⟨part, hpart, h⟩ := of_bind (fun _ => (Adds.collect hadds vs).bind fun _ => .pure _) h
    obtain ⟨rest, hrest, h⟩ := of_bind (fun _ => .pure _) h
    obtain ⟨a, rfl, ha⟩ := hread v part hpart
    obtain rfl := of_pure h
    exact .cons ha (ih hrest)

end Quiet
end Load

/-! ## Entries -/

/-- What the member `key` of an entry holds when it is walked through. -/
def Value.entries (v : Value) (key : String) : List Value :=
  (v.getD key (.list [])).elements.toOption.getD []

/-- Is it the entry of a Default State? -/
def Value.namesDefault (v : Value) : Bool :=
  (v.getD "name" .null).str?.any isDefaultName

/-! ### Actions -/

namespace Load

theorem Adds.action (v : Value) : Adds (action v) := by
  rw [action.eq_def]
  split
  · split
    · exact (Adds.elements _).bind fun _ => .pure _
    · exact .skip _
  · split
    · exact .skip _
    · split
      · exact .pure _
      · exact .skip _
  · exact .skip _

theorem Adds.actions? (v : Value) : Adds (actions? v) := by
  rw [Load.actions?.eq_def]
  split
  · exact .pure _
  · exact (Adds.elements _).bind fun _ => (Adds.collect Adds.action _).bind fun _ => .pure _

end Load

/-- The entry, a text in shorthand or an object, describes the action. -/
inductive Value.GivesAction : Value → Action → Prop
  | shorthand {s : String} {a : Action} : Shorthand.action? s = some a → GivesAction (.str s) a
  | object {v : Value} {a : Action} : Load.isNamed v = true →
    a.name = v.getD "name" .null →
    a.arguments = (v.entries "arguments").map Value.text →
    a.property = (v.getD "property" (.bool false)).isSet →
    a.static = (v.getD "static" (.bool false)).isSet → GivesAction v a

/-- Without a warning, an entry gives an action. -/
theorem Load.Quiet.of_action {v : Value} {r : Option Action} (h : Quiet (action v) r) :
    ∃ a, r = some a ∧ v.GivesAction a := by
  rw [action.eq_def] at h
  split at h
  · split at h
    · next hnamed =>
      obtain ⟨arguments, harguments, h⟩ := of_bind (fun _ => .pure _) h
      refine ⟨_, (of_pure h).symm, .object hnamed rfl ?_ rfl rfl⟩
      rw [Value.entries, of_elements harguments]
      rfl
    · exact (not_skip h).elim
  · split at h
    · exact (not_skip h).elim
    · split at h
      · next a ha => exact ⟨a, (of_pure h).symm, .shorthand ha⟩
      · exact (not_skip h).elim
  · exact (not_skip h).elim

/-- A list of actions that is not there has no entries. -/
theorem Load.Quiet.of_actions? {v : Value} {key : String} {r : Option (List Action)}
    (h : Quiet (actions? (v.getD key .null)) r) :
    List.Forall₂ Value.GivesAction (v.entries key) (r.getD []) := by
  have hdefault : v.entries key = (v.getD key .null).elements.toOption.getD [] := by
    rw [Value.entries, Value.getD, Value.getD]
    cases v.get? key <;> rfl
  rw [actions?.eq_def] at h
  split at h
  · next hnull =>
    obtain rfl := of_pure h
    rw [hdefault, hnull]
    exact .nil
  · obtain ⟨items, hitems, h⟩ := of_bind
      (fun _ => (Adds.collect Adds.action _).bind fun _ => .pure _) h
    obtain ⟨as, has, h⟩ := of_bind (fun _ => .pure _) h
    obtain rfl := of_pure h
    rw [hdefault, of_elements hitems]
    exact of_collect Adds.action (fun _ _ => of_action) has

/-! ### Guards and their parameters -/

/-- The value is `w` itself or alike. -/
def Value.Matches (v w : Value) : Prop :=
  v = w ∨ v.alike w = true

/-- The parameters have matching names and types. -/
def Parameter.Matches (p q : Parameter) : Prop :=
  p.name.Matches q.name ∧ p.type.Matches q.type

/-- A guard with the name and the parameters of the transition that owns it. -/
structure OwnedGuard where
  name : Value
  parameters : List Parameter
  guard : Guard

/-- The guards of a transition. -/
def Transition.ownedGuards (t : Transition) : List OwnedGuard :=
  t.guards.map fun g => ⟨t.name, t.parameters, g⟩

/-- The guards of a state, each with its own transition. -/
def State.ownedGuards (s : State) : List OwnedGuard :=
  s.transitions.flatMap Transition.ownedGuards

/-- The guard is the one of `t`, and the transition that owns it matches `t`. -/
structure OwnedGuard.IsOf (o : OwnedGuard) (t : Transition) : Prop where
  guard : t.guards = [o.guard]
  name : o.name.Matches t.name
  parameters : List.Forall₂ Parameter.Matches o.parameters t.parameters

theorem forall₂_matches_of_sameParameters {ps qs : List Parameter}
    (h : sameParameters (ps.map Parameter.key) (qs.map Parameter.key) = true) :
    List.Forall₂ Parameter.Matches ps qs := by
  induction ps generalizing qs with
  | nil =>
    cases qs with
    | nil => exact .nil
    | cons q qs => simp [sameParameters] at h
  | cons p ps ih =>
    cases qs with
    | nil => simp [sameParameters] at h
    | cons q qs =>
      simp only [List.map_cons, sameParameters, Bool.and_eq_true] at h
      exact .cons ⟨.inr h.1.1, .inr h.1.2⟩ (ih h.2)

/-- A transition with one guard that joins others: they have one guard more, and it is
    owned by a transition that matches. -/
theorem ownedGuards_insertTransition {t : Transition} {g : Guard} (ht : t.guards = [g])
    (us : List Transition) : ∃ o, OwnedGuard.IsOf o t ∧
      ((State.insertTransition t us).flatMap Transition.ownedGuards).Perm
        (us.flatMap Transition.ownedGuards ++ [o]) := by
  induction us with
  | nil =>
    have hparameters : List.Forall₂ Parameter.Matches t.parameters t.parameters :=
      List.forall₂_same.2 fun _ _ => ⟨.inl rfl, .inl rfl⟩
    refine ⟨⟨t.name, t.parameters, g⟩, ⟨ht, .inl rfl, hparameters⟩, ?_⟩
    simp [State.insertTransition, Transition.ownedGuards, ht]
  | cons u us ih =>
    rw [State.insertTransition]
    split
    · next hsame =>
      -- the guard joins those of `u`, which come before those of the other transitions
      rw [Signature.same, Bool.and_eq_true] at hsame
      have hname : u.name.Matches t.name := .inr (Value.alike_of_same hsame.1)
      refine ⟨⟨u.name, u.parameters, g⟩,
        ⟨ht, hname, forall₂_matches_of_sameParameters hsame.2⟩, ?_⟩
      rw [List.flatMap_cons, List.flatMap_cons, ht, List.append_assoc]
      have hguards : (u.addGuards [g]).ownedGuards =
          u.ownedGuards ++ [⟨u.name, u.parameters, g⟩] := by
        simp [Transition.ownedGuards, Transition.addGuards]
      rw [hguards, List.append_assoc]
      exact List.perm_append_comm.append_left _
    · obtain ⟨o, ho, hperm⟩ := ih
      refine ⟨o, ho, ?_⟩
      rw [List.flatMap_cons, List.flatMap_cons, List.append_assoc]
      exact hperm.append_left _

namespace Load

theorem Adds.parameter (line v : Value) : Adds (parameter line v) := by
  rw [parameter.eq_def]
  split
  · exact .pure _
  · split
    · exact .pure _
    · exact .skip _

theorem Adds.transition (v : Value) : Adds (transition v) := by
  rw [Load.transition]
  split
  · exact .throw _
  · exact (Adds.elements _).bind fun _ => (Adds.collect (Adds.parameter _) _).bind fun _ =>
      (Adds.actions? _).bind fun _ => .pure _

end Load

/-- The entry, a text `name` or `name: type` or an object, describes the parameter. -/
inductive Value.GivesParameter : Value → Parameter → Prop
  | text {s : String} {name type : List Char} {p : Parameter} :
    (Text.cutFirst [':'] s.toList).getD (s.toList, []) = (name, type) →
    p.name = .str (String.ofList (Text.trimChars name)) →
    p.type = .str (String.ofList (Text.trimChars type)) → GivesParameter (.str s) p
  | object {v : Value} {p : Parameter} : Load.isNamed v = true →
    p.name = v.getD "name" .null → p.type = v.getD "type" (.str "") → GivesParameter v p

/-- The entry of a transition describes the guard. -/
structure Value.GivesGuard (v : Value) (g : Guard) : Prop where
  condition : g.condition = Load.settled v "guard"
  move : Move.ofWord? (Text.lower (v.getD "type" (.str "set")).text) = some g.move
  endState : g.endState = Load.settled v "end_state"
  pushState : g.pushState = Load.settled v "push_state"
  popArguments : g.popArguments = Load.settled v "pop_args"
  actions : List.Forall₂ GivesAction (v.entries "actions") g.actions

/-- The entry describes the transition, which has one guard. -/
structure Value.GivesTransition (v : Value) (t : Transition) : Prop where
  name : t.name = v.getD "name" .null
  parameters : List.Forall₂ GivesParameter (v.entries "parameters") t.parameters
  guard : ∃ g, t.guards = [g] ∧ v.GivesGuard g

/-- The guard is that of the entry, and its transition matches the one of the entry. -/
def Value.KeptAsGuard (v : Value) (o : OwnedGuard) : Prop :=
  ∃ t, v.GivesTransition t ∧ OwnedGuard.IsOf o t

theorem Value.KeptAsGuard.gives {v : Value} {o : OwnedGuard} (h : v.KeptAsGuard o) :
    v.GivesGuard o.guard := by
  obtain ⟨t, ht, ho⟩ := h
  obtain ⟨g, hg, hgives⟩ := ht.guard
  rw [ho.guard, List.singleton_inj] at hg
  exact hg ▸ hgives

/-- The transitions of entries are put together to those of a state, which has then one
    more guard for each entry. -/
theorem ownedGuards_foldl {vs : List Value} {ts : List Transition}
    (h : List.Forall₂ Value.GivesTransition vs ts) (s : State) :
    ∃ os, List.Forall₂ Value.KeptAsGuard vs os ∧
      (s.ownedGuards ++ os).Perm (ts.foldl State.addTransition s).ownedGuards := by
  induction h generalizing s with
  | nil => exact ⟨[], .nil, by simp⟩
  | @cons v t vs ts ht _ ih =>
    obtain ⟨g, hg, -⟩ := ht.guard
    obtain ⟨o, ho, hperm⟩ := ownedGuards_insertTransition hg s.transitions
    obtain ⟨os, hos, hrest⟩ := ih (s.addTransition t)
    -- the guard of this entry counts among those the state has when the rest is added
    refine ⟨o :: os, .cons ⟨t, ht, ho⟩ hos, .trans ?_ hrest⟩
    rw [List.append_cons]
    exact hperm.symm.append_right os

namespace Load

theorem Quiet.of_parameter {line v : Value} {r : Option Parameter}
    (h : Quiet (parameter line v) r) : ∃ p, r = some p ∧ v.GivesParameter p := by
  rw [parameter.eq_def] at h
  split at h
  · exact ⟨_, (of_pure h).symm, .text rfl rfl rfl⟩
  · split at h
    · next hnamed => exact ⟨_, (of_pure h).symm, .object hnamed rfl rfl⟩
    · exact (not_skip h).elim

theorem Quiet.of_transition {v : Value} {t : Transition} (h : Quiet (transition v) t) :
    v.GivesTransition t := by
  rw [transition] at h
  split at h
  · exact (not_throw h).elim
  · next move hmove =>
    obtain ⟨items, hitems, h⟩ := of_bind (fun _ => (Adds.collect (Adds.parameter _) _).bind
      fun _ => (Adds.actions? _).bind fun _ => .pure _) h
    obtain ⟨ps, hps, h⟩ := of_bind (fun _ => (Adds.actions? _).bind fun _ => .pure _) h
    obtain ⟨as, has, h⟩ := of_bind (fun _ => .pure _) h
    obtain rfl := of_pure h
    refine ⟨rfl, ?_, _, rfl, rfl, hmove, rfl, rfl, rfl, of_actions? has⟩
    rw [Value.entries, of_elements hitems]
    exact of_collect (Adds.parameter _) (fun _ _ => of_parameter) hps

end Load

/-! ### States -/

/-- A state with further transitions is otherwise unchanged. -/
theorem State.foldl_addTransition_eq (ts : List Transition) (s : State) :
    ts.foldl addTransition s =
      { s with transitions := (ts.foldl addTransition s).transitions } := by
  induction ts generalizing s with
  | nil => rfl
  | cons t ts ih => exact ih (s.addTransition t)

/-- The state has the name of the entry, and an action and a guard of its own for each of
    the entries in it. -/
structure Value.GivesState (v : Value) (s : State) : Prop where
  name : v.getD "name" .null = .str s.name
  entry : List.Forall₂ GivesAction (v.entries "entry") (s.entry.getD [])
  exit : List.Forall₂ GivesAction (v.entries "exit") (s.exit.getD [])
  transitions : Paired KeptAsGuard (v.entries "transitions") s.ownedGuards

namespace Load

theorem Adds.transitionEntry (scopedName : String) (v : Value) :
    Adds (transitionEntry scopedName v) := by
  rw [Load.transitionEntry]
  split
  · exact (Adds.transition v).bind fun _ => .pure _
  · exact .skip _

theorem Quiet.of_transitionEntry {scopedName : String} {v : Value} {r : Option Transition}
    (h : Quiet (transitionEntry scopedName v) r) : ∃ t, r = some t ∧ v.GivesTransition t := by
  rw [transitionEntry] at h
  split at h
  · obtain ⟨t, ht, h⟩ := of_bind (fun _ => .pure _) h
    exact ⟨t, (of_pure h).symm, ht.of_transition⟩
  · exact (not_skip h).elim

/-- The entries of transitions have guards of their own, whichever of them are put
    together. -/
theorem Quiet.paired_transitions {scopedName : String} {vs : List Value} {ts : List Transition}
    (h : Quiet (collect (transitionEntry scopedName) vs) ts) {s : State} (hs : s.transitions = []) :
    Paired Value.KeptAsGuard vs (ts.foldl State.addTransition s).ownedGuards := by
  have hread : List.Forall₂ Value.GivesTransition vs ts :=
    of_collect (Adds.transitionEntry _) (fun _ _ => of_transitionEntry) h
  obtain ⟨os, hos, hperm⟩ := ownedGuards_foldl hread s
  refine ⟨os, hos, ?_⟩
  simpa [State.ownedGuards, hs] using hperm

theorem Adds.state (mapName v : Value) : Adds (state mapName v) := by
  rw [Load.state]
  split
  · refine (Adds.actions? _).bind fun _ => (Adds.actions? _).bind fun _ => ?_
    split
    · exact (Adds.elements _).bind fun _ => (Adds.collect (Adds.transitionEntry _) _).bind fun _ =>
        .pure _
    · exact .throw _
  · exact .skip _

theorem Quiet.of_state {mapName v : Value} {r : Option State} (h : Quiet (state mapName v) r) :
    ∃ s, r = some s ∧ v.GivesState s := by
  rw [state] at h
  split at h
  · cases hname : v.getD "name" .null <;> rw [hname] at h
    case str name =>
      obtain ⟨entry, hentry, h⟩ := of_bind (fun _ => (Adds.actions? _).bind fun _ =>
        (Adds.elements _).bind fun _ => (Adds.collect (Adds.transitionEntry _) _).bind fun _ =>
          .pure _) h
      obtain ⟨exit, hexit, h⟩ := of_bind (fun _ => (Adds.elements _).bind fun _ =>
        (Adds.collect (Adds.transitionEntry _) _).bind fun _ => .pure _) h
      obtain ⟨items, hitems, h⟩ := of_bind (fun _ =>
        (Adds.collect (Adds.transitionEntry _) _).bind fun _ => .pure _) h
      obtain ⟨ts, hts, h⟩ := of_bind (fun _ => .pure _) h
      refine ⟨_, (of_pure h).symm, ⟨?_, ?_, ?_, ?_⟩⟩
      · rw [State.foldl_addTransition_eq, hname]
      · rw [State.foldl_addTransition_eq]
        exact of_actions? hentry
      · rw [State.foldl_addTransition_eq]
        exact of_actions? hexit
      · rw [Value.entries, of_elements hitems]
        exact hts.paired_transitions rfl
    all_goals
      -- a name that is no text ends the reading
      obtain ⟨_, _, h⟩ := of_bind (fun _ => (Adds.actions? _).bind fun _ => .throw _) h
      obtain ⟨_, _, h⟩ := of_bind (fun _ => .throw _) h
      exact (not_throw h).elim
  · exact (not_skip h).elim

end Load

/-! ### Maps -/

namespace StateMap

theorem name_foldl_addState (ss : List State) (m : StateMap) :
    (ss.foldl addState m).name = m.name := by
  induction ss generalizing m with
  | nil => rfl
  | cons s ss ih =>
    rw [List.foldl_cons, ih, addState]
    split <;> rfl

/-- The real states are kept in their order. -/
theorem states_foldl_addState (ss : List State) (m : StateMap) :
    (ss.foldl addState m).states = m.states ++ ss.filter fun s => !s.isDefault := by
  induction ss generalizing m with
  | nil => simp
  | cons s ss ih =>
    rw [List.foldl_cons, ih, addState]
    cases hs : s.isDefault <;> simp [hs]

/-- Of several Default States the last one counts. -/
theorem default?_foldl_addState (ss : List State) (m : StateMap) :
    (ss.foldl addState m).default? = (ss.filter State.isDefault).getLast?.or m.default? := by
  induction ss generalizing m with
  | nil => simp
  | cons s ss ih =>
    rw [List.foldl_cons, ih, addState]
    cases hs : s.isDefault
    · simp [hs]
    · rw [List.filter_cons_of_pos hs, List.getLast?_cons]
      cases (ss.filter State.isDefault).getLast? <;> rfl

end StateMap

/-- The map has the name of the entry, its real states are those of the entries in it, and
    its Default State is that of the last entry for one. -/
structure Value.GivesMap (v : Value) (m : StateMap) : Prop where
  name : m.name = v.getD "name" .null
  states : ∃ ss, List.Forall₂ GivesState (v.entries "states") ss ∧
    m.states = (ss.filter fun s => !s.isDefault) ∧ m.default? = (ss.filter State.isDefault).getLast?

namespace Load

theorem Adds.map (v : Value) : Adds (map v) := by
  rw [Load.map]
  split
  · exact (Adds.elements _).bind fun _ => (Adds.collect (Adds.state _) _).bind fun _ => .pure _
  · exact .skip _

theorem Quiet.of_map {v : Value} {r : Option StateMap} (h : Quiet (map v) r) :
    ∃ m, r = some m ∧ v.GivesMap m := by
  rw [map] at h
  split at h
  · obtain ⟨items, hitems, h⟩ := of_bind (fun _ =>
      (Adds.collect (Adds.state _) _).bind fun _ => .pure _) h
    obtain ⟨ss, hss, h⟩ := of_bind (fun _ => .pure _) h
    refine ⟨_, (of_pure h).symm, ?_, ss, ?_, ?_, ?_⟩
    · exact StateMap.name_foldl_addState ss _
    · rw [Value.entries, of_elements hitems]
      exact of_collect (Adds.state _) (fun _ _ => of_state) hss
    · rw [StateMap.states_foldl_addState, List.nil_append]
    · rw [StateMap.default?_foldl_addState, Option.or_none]
  · exact (not_skip h).elim

/-- A machine read without a warning has the maps of the entries. -/
theorem Quiet.of_machine {v name : Value} {m : Machine} (h : Quiet (machine v name) m) :
    List.Forall₂ Value.GivesMap (v.entries "maps") m.maps := by
  rw [machine.eq_def] at h
  split at h
  · obtain ⟨_, _, h⟩ := of_bind (fun _ => (Adds.elements _).bind fun _ => (Adds.elements _).bind
      fun _ => (Adds.collect Adds.map _).bind fun _ => (Adds.report _ _).bind fun _ => .pure _) h
    obtain ⟨_, _, h⟩ := of_bind (fun _ => (Adds.elements _).bind fun _ =>
      (Adds.collect Adds.map _).bind fun _ => (Adds.report _ _).bind fun _ => .pure _) h
    obtain ⟨items, hitems, h⟩ := of_bind (fun _ =>
      (Adds.collect Adds.map _).bind fun _ => (Adds.report _ _).bind fun _ => .pure _) h
    obtain ⟨maps, hmaps, h⟩ := of_bind (fun _ => (Adds.report _ _).bind fun _ => .pure _) h
    obtain ⟨_, _, h⟩ := of_bind (fun _ => .pure _) h
    obtain rfl := of_pure h
    rw [Value.entries, of_elements hitems]
    exact of_collect Adds.map (fun _ _ => of_map) hmaps
  · exact (not_throw h).elim

end Load

/-! ## Entries that are kept -/

/-- The guards of a machine, state by state. -/
def Machine.guards (m : Machine) : List Guard :=
  m.allPlaces.flatMap fun p => p.state.transitions.flatMap Transition.guards

namespace Value

/-- The entries of states, map by map. -/
def stateEntries (v : Value) : List Value :=
  (v.entries "maps").flatMap fun e => e.entries "states"

/-- The entries of transitions, state by state. -/
def transitionEntries (v : Value) : List Value :=
  v.stateEntries.flatMap fun e => e.entries "transitions"

/-- The entries of actions in that of a state: on entry, on exit, and of its transitions. -/
def stateActionEntries (e : Value) : List Value :=
  e.entries "entry" ++ e.entries "exit" ++
    (e.entries "transitions").flatMap fun t => t.entries "actions"

/-- The entries of actions, state by state. -/
def actionEntries (v : Value) : List Value :=
  v.stateEntries.flatMap stateActionEntries

/-- The entry of a map has at most one entry for a Default State. -/
def HasOneDefault (e : Value) : Prop :=
  (e.entries "states").countP namesDefault ≤ 1

instance (e : Value) : Decidable e.HasOneDefault :=
  inferInstanceAs (Decidable ((e.entries "states").countP namesDefault ≤ 1))

/-- The map has the name of the entry, and a state of its own for each of the entries in
    it. -/
structure KeptAsMap (e : Value) (m : StateMap) : Prop where
  name : m.name = e.getD "name" .null
  states : Paired GivesState (e.entries "states") m.allStates

/-- Nothing of the description is lost in the machine: each entry is kept as its own map,
    state, guard, parameter or action, so that there are equally many of them. -/
structure KeptBy (v : Value) (m : Machine) : Prop where
  maps : List.Forall₂ KeptAsMap (v.entries "maps") m.maps
  maps_length : m.maps.length = (v.entries "maps").length
  states_length : m.allPlaces.length = v.stateEntries.length
  guards_length : m.guards.length = v.transitionEntries.length
  actions_length : m.actions.length = v.actionEntries.length

variable {v e : Value}

/-! ### Maps -/

theorem GivesState.namesDefault_eq {s : State} (h : e.GivesState s) :
    e.namesDefault = s.isDefault := by
  rw [namesDefault, h.name]
  rfl

theorem countP_namesDefault {es : List Value} {ss : List State}
    (h : List.Forall₂ GivesState es ss) : es.countP namesDefault = ss.countP State.isDefault := by
  induction h with
  | nil => rfl
  | cons he _ ih => rw [List.countP_cons, List.countP_cons, he.namesDefault_eq, ih]

/-- A map keeps the entries of its states if and only if there is at most one for its
    Default State. -/
theorem GivesMap.keptAsMap_iff {m : StateMap} (h : e.GivesMap m) :
    e.KeptAsMap m ↔ e.HasOneDefault := by
  obtain ⟨ss, hss, hstates, hdefault⟩ := h.states
  rw [HasOneDefault, countP_namesDefault hss, List.countP_eq_length_filter]
  have hperm : (ss.filter State.isDefault ++ ss.filter fun s => !s.isDefault).Perm ss :=
    List.filter_append_perm _ ss
  constructor
  · intro hkept
    -- there are as many states as before, but only one of them is a Default State
    have hlength := hss.length_eq.symm.trans hkept.states.length_eq
    rw [← hperm.length_eq, StateMap.allStates, hstates, List.length_append, List.length_append,
      Nat.add_right_cancel_iff] at hlength
    rw [hlength]
    cases m.default? <;> simp
  · intro hone
    refine ⟨h.name, ss, hss, ?_⟩
    have hlast : m.default?.toList = ss.filter State.isDefault := by
      rw [hdefault]
      cases hds : ss.filter State.isDefault with
      | nil => rfl
      | cons d ds =>
        rw [hds, List.length_cons] at hone
        obtain rfl : ds = [] := List.length_eq_zero_iff.1 (by omega)
        rfl
    rw [StateMap.allStates, hlast, hstates]
    exact hperm.symm

theorem forall₂_keptAsMap_iff {es : List Value} {ms : List StateMap}
    (h : List.Forall₂ GivesMap es ms) :
    List.Forall₂ KeptAsMap es ms ↔ ∀ e ∈ es, e.HasOneDefault := by
  induction h with
  | nil => simp
  | cons he _ ih => rw [List.forall₂_cons, List.forall_mem_cons, he.keptAsMap_iff, ih]

/-! ### Numbers -/

theorem GivesState.transitions_length {s : State} (h : e.GivesState s) :
    (e.entries "transitions").length = (s.transitions.flatMap Transition.guards).length := by
  rw [h.transitions.length_eq]
  simp [State.ownedGuards, Transition.ownedGuards, List.length_flatMap]

theorem GivesState.actions_length {s : State} (h : e.GivesState s) :
    e.stateActionEntries.length = s.actions.length := by
  have hguards : (s.transitions.flatMap fun t => t.guards.flatMap Guard.actions) =
      s.ownedGuards.flatMap fun o => o.guard.actions := by
    simp [State.ownedGuards, Transition.ownedGuards, List.flatMap_assoc, List.flatMap_map]
  rw [stateActionEntries, State.actions, hguards, List.length_append, List.length_append,
    List.length_append, List.length_append, h.entry.length_eq, h.exit.length_eq,
    h.transitions.length_flatMap fun t o ho => ho.gives.actions.length_eq]

/-- A machine that keeps the entries of each map has as many parts as there are entries. -/
theorem keptBy_of_maps {m : Machine} (h : List.Forall₂ KeptAsMap (v.entries "maps") m.maps) :
    v.KeptBy m := by
  -- the numbers of guards and actions follow from the states, taken over all maps
  have hstates : Paired GivesState v.stateEntries (m.maps.flatMap StateMap.allStates) :=
    .flatMap h fun _ _ hmap => hmap.states
  have hplaces : m.allPlaces.map Place.state = m.maps.flatMap StateMap.allStates := by
    simp [Machine.allPlaces, List.map_flatMap, Function.comp_def]
  have hactions : m.actions = (m.maps.flatMap StateMap.allStates).flatMap State.actions := by
    rw [Machine.actions, List.flatMap_assoc]
  refine ⟨h, h.length_eq.symm, ?_, ?_, ?_⟩
  · rw [hstates.length_eq, ← hplaces, List.length_map]
  · rw [transitionEntries, hstates.length_flatMap fun e s he => he.transitions_length, ← hplaces,
      List.flatMap_map, Machine.guards]
  · rw [hactions, actionEntries, hstates.length_flatMap fun e s he => he.actions_length]

end Value

/-- A machine read without a warning has the maps of the entries, each with the states of
    the entries in it, but of the Default States the last one only. So every entry is kept
    if and only if no map has several entries for its Default State. -/
theorem reading_keeps_entries_iff {v name : Value} {m : Machine} {records : List Record}
    (h : (Load.machine v name).outcome = (.ok m, records))
    (hquiet : ∀ r ∈ records, r.level ≠ .warning) :
    List.Forall₂ Value.GivesMap (v.entries "maps") m.maps ∧
      (v.KeptBy m ↔ ∀ e ∈ v.entries "maps", e.HasOneDefault) := by
  have hread : Load.Quiet (Load.machine v name) m := by
    rw [Load.Quiet, h]
    exact ⟨rfl, hquiet⟩
  have hmaps := hread.of_machine
  refine ⟨hmaps, ?_⟩
  rw [← Value.forall₂_keptAsMap_iff hmaps]
  exact ⟨Value.KeptBy.maps, Value.keptBy_of_maps⟩

/-! ### A door with a bell -/

/-- The entry of a Default State that answers a knock. -/
def chime : Value :=
  .object [("name", .str "Default"), ("transitions", .list [
    .object [("name", .str "knock"), ("end_state", .str "nil"),
      ("actions", .list [.str "ring()"])]])]

/-- The entry of a Default State, under another spelling, that greets on entry. -/
def greeting : Value :=
  .object [("name", .str "default"), ("entry", .list [.str "greet()"])]

/-- A door that opens to one who asks by name, with the given entries of Default States.
    The two entries for a transition name their parameter in different ways. -/
def bellDoor (defaults : List Value) : Value :=
  .object [("class", .str "Door"), ("start", .str "Hall::Shut"), ("maps", .list [
    .object [("name", .str "Hall"), ("states", .list (
      .object [("name", .str "Shut"), ("transitions", .list [
        .object [("name", .str "ask"), ("parameters", .list [.str "who: str"]),
          ("guard", .str "who"), ("end_state", .str "nil"),
          ("actions", .list [.str "open(who)", .object [("name", .str "bow")]])],
        .object [("name", .str "ask"),
          ("parameters", .list [.object [("name", .str "who"), ("type", .str "str")]]),
          ("end_state", .str "nil")]])] :: defaults))]])]

/-- The numbers of states, guards and actions of a machine. -/
def Machine.sizes (m : Machine) : Nat × Nat × Nat :=
  (m.allPlaces.length, m.guards.length, m.actions.length)

/-- A machine of known size that is read without a warning. -/
theorem Load.exists_machine (v name : Value) (sizes : Nat × Nat × Nat)
    (hsizes : (machine v name).outcome.1.toOption.map Machine.sizes = some sizes)
    (hquiet : ((machine v name).outcome.2.all fun r => decide (r.level ≠ .warning)) = true) :
    ∃ m records, (machine v name).outcome = (.ok m, records) ∧
      (∀ r ∈ records, r.level ≠ .warning) ∧ m.sizes = sizes := by
  rcases hout : (machine v name).outcome with ⟨_ | m, records⟩ <;> rw [hout] at hsizes hquiet
  · cases hsizes
  · exact ⟨m, records, rfl, by simpa using hquiet, Option.some.inj hsizes⟩

/-- With one Default State, nothing of the door is lost. -/
theorem bell_door_keeps_entries :
    ∃ m records, (Load.machine (bellDoor [chime]) .null).outcome = (.ok m, records) ∧
      (∀ r ∈ records, r.level ≠ .warning) ∧ (bellDoor [chime]).KeptBy m ∧ m.sizes = (2, 3, 3) := by
  obtain ⟨m, records, h, hquiet, hsizes⟩ :=
    Load.exists_machine (bellDoor [chime]) .null (2, 3, 3) (by decide +kernel) (by decide +kernel)
  have hone : ∀ e ∈ (bellDoor [chime]).entries "maps", e.HasOneDefault :=
    List.forall_mem_singleton.2 (by decide +kernel)
  exact ⟨m, records, h, hquiet, (reading_keeps_entries_iff h hquiet).2.2 hone, hsizes⟩

/-- Of two entries for the Default State the first one is lost, with its guard and its
    action, and no warning is given. -/
theorem spare_default_is_lost :
    ∃ m records, (Load.machine (bellDoor [chime, greeting]) .null).outcome = (.ok m, records) ∧
      (∀ r ∈ records, r.level ≠ .warning) ∧ m.sizes = (2, 2, 3) ∧
      (bellDoor [chime, greeting]).stateEntries.length = 3 ∧
      (bellDoor [chime, greeting]).transitionEntries.length = 3 ∧
      (bellDoor [chime, greeting]).actionEntries.length = 4 ∧
      ¬(bellDoor [chime, greeting]).KeptBy m := by
  obtain ⟨m, records, h, hquiet, hsizes⟩ :=
    Load.exists_machine (bellDoor [chime, greeting]) .null (2, 2, 3) (by decide +kernel)
      (by decide +kernel)
  have hstates : (bellDoor [chime, greeting]).stateEntries.length = 3 := by decide +kernel
  have hplaces : m.allPlaces.length = 2 := congrArg Prod.fst hsizes
  refine ⟨m, records, h, hquiet, hsizes, hstates, by decide +kernel, by decide +kernel,
    fun hkept => ?_⟩
  have hlength := hkept.states_length
  rw [hplaces, hstates] at hlength
  cases hlength

end StateMachine
