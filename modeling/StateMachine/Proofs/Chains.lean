import StateMachine.Proofs.Arrangement
import StateMachine.Proofs.ContextMethods
import StateMachine.Proofs.GuardOrder
import StateMachine.Proofs.Trimming
import StateMachine.Semantics.Validate

/-!
# Chains of alternatives

The guards of a transition become the branches of an overload. Where the machine
was found valid these make up a *chain*: a single branch without a keyword, or
branches with a condition, the first introduced by another keyword than the
rest, and at the end one that is always taken. This is the guard without a
condition, or else the call of the class above.

* `Validate.nodup_conditionTexts`: guards of a transition have different
  conditions, so at most one has none (`length_unconditional_le_one`);
* `ClassTable.map_keyword_branches`: the keywords of the branches of conditional
  guards and of what comes after them;
* `transitions_become_chains`: the main result.
-/

namespace StateMachine

/-! ## Conditions -/

namespace Guard

variable {g : Guard}

/-- A guard has a condition exactly if its text, without the blanks around it, is not empty. -/
theorem hasCondition_iff : g.hasCondition = true ↔ g.conditionText ≠ "" := by
  rw [hasCondition, conditionText, Ne, Text.trim_eq_empty_iff, Bool.not_eq_true',
    Bool.eq_false_iff]

end Guard

namespace State

variable {t u : Transition} {us : List Transition}

/-- One of the transitions has the guards of `t`, among others. -/
def KeepGuards (us : List Transition) (t : Transition) : Prop :=
  ∃ u ∈ us, t.guards.Sublist u.guards

theorem keepGuards_joinTransition (us : List Transition) (t : Transition) :
    KeepGuards (joinTransition us t) t := by
  induction us with
  | nil => exact ⟨t, List.mem_cons_self, .refl _⟩
  | cons u us ih =>
    rw [joinTransition]
    split
    · exact ⟨_, List.mem_cons_self, List.sublist_append_right _ _⟩
    · obtain ⟨u', hu', hsub⟩ := ih
      exact ⟨u', List.mem_cons_of_mem _ hu', hsub⟩

/-- Guards that are joined stay where others join them. -/
theorem KeepGuards.joinTransition (h : KeepGuards us u) (t : Transition) :
    KeepGuards (joinTransition us t) u := by
  obtain ⟨v, hv, hsub⟩ := h
  induction us with
  | nil => cases hv
  | cons u' us ih =>
    rw [State.joinTransition]
    split
    · rcases List.mem_cons.1 hv with rfl | hv
      · exact ⟨_, List.mem_cons_self, hsub.trans (List.sublist_append_left _ _)⟩
      · exact ⟨v, List.mem_cons_of_mem _ hv, hsub⟩
    · rcases List.mem_cons.1 hv with rfl | hv
      · exact ⟨v, List.mem_cons_self, hsub⟩
      · obtain ⟨v', hv', hsub'⟩ := ih hv
        exact ⟨v', List.mem_cons_of_mem _ hv', hsub'⟩

theorem keepGuards_foldl {ts : List Transition} (h : t ∈ ts ∨ KeepGuards us t) :
    KeepGuards (ts.foldl State.joinTransition us) t := by
  induction ts generalizing us with
  | nil => exact h.resolve_left List.not_mem_nil
  | cons t' ts ih =>
    rcases h with h | h
    · rcases List.mem_cons.1 h with rfl | h
      · exact ih (.inr (keepGuards_joinTransition us t))
      · exact ih (.inl h)
    · exact ih (.inr (h.joinTransition t'))

/-- The guards of a transition are among those that are joined by its signature. -/
theorem exists_joined {s : State} (ht : t ∈ s.transitions) :
    ∃ u ∈ s.bySignature, t.guards.Sublist u.guards :=
  keepGuards_foldl (.inl ht)

end State

namespace Validate

/-- Where no guard repeats a condition the conditions are different. -/
theorem nodup_of_repeated_eq_nil (seen : List String) {gs : List Guard}
    (h : repeated seen gs = []) :
    (gs.map Guard.conditionText).Nodup ∧ ∀ g ∈ gs, g.conditionText ∉ seen := by
  induction gs generalizing seen with
  | nil => exact ⟨List.nodup_nil, nofun⟩
  | cons g gs ih =>
    simp only [repeated] at h
    split at h
    · cases h
    · next hseen =>
      obtain ⟨hnodup, hnew⟩ := ih _ h
      refine ⟨List.nodup_cons.2 ⟨fun hmem => ?_, hnodup⟩, List.forall_mem_cons.2 ⟨?_, ?_⟩⟩
      · obtain ⟨g', hg', hsame⟩ := List.mem_map.1 hmem
        exact hnew g' hg' (hsame ▸ List.mem_cons_self)
      · exact mt List.contains_iff_mem.2 hseen
      · exact fun g' hg' hmem => hnew g' hg' (List.mem_cons_of_mem _ hmem)

/-- The guards of a transition that was found valid have different conditions. -/
theorem nodup_conditionTexts {m : Machine} {target : Option Target} {source : Option Value}
    {w : Validation} (hcheck : m.validate target source = .ok w) (hvalid : w.isValid = true)
    {p : Place} (hp : p ∈ m.allPlaces) {t : Transition} (ht : t ∈ p.state.transitions) :
    (t.guards.map Guard.conditionText).Nodup := by
  obtain ⟨u, hu, hsub⟩ := State.exists_joined ht
  refine List.Nodup.sublist (hsub.map _) (nodup_of_repeated_eq_nil [] ?_).1
  -- a guard that repeats a condition is an error
  refine List.eq_nil_iff_forall_not_mem.2 fun g hg => ?_
  have hconditions : _ ∈ conditions p u := List.mem_map.2 ⟨g, hg, rfl⟩
  have hstate : _ ∈ state m target p :=
    List.mem_append_left _ (List.mem_flatMap.2 ⟨u, hu, hconditions⟩)
  exact Machine.severity_of_validate hcheck hvalid _
    (List.mem_append_right _ (List.mem_flatMap.2 ⟨p, hp, hstate⟩)) rfl

end Validate

/-- Guards with different conditions have at most one without any. -/
theorem Transition.length_unconditional_le_one {t : Transition}
    (h : (t.guards.map Guard.conditionText).Nodup) :
    (t.guards.filter fun g => !g.hasCondition).length ≤ 1 := by
  have hnodup : ((t.guards.filter fun g => !g.hasCondition).map Guard.conditionText).Nodup :=
    h.sublist (List.filter_sublist.map _)
  have hempty : ∀ text ∈ (t.guards.filter fun g => !g.hasCondition).map Guard.conditionText,
      text = "" := by
    intro text htext
    obtain ⟨g, hg, rfl⟩ := List.mem_map.1 htext
    have hblank : ¬ g.hasCondition = true := by simpa using (List.mem_filter.1 hg).2
    exact not_not.1 (mt Guard.hasCondition_iff.2 hblank)
  rw [← List.length_map (f := Guard.conditionText), List.eq_replicate_of_mem hempty]
  rw [List.eq_replicate_of_mem hempty] at hnodup
  simpa using List.nodup_replicate.1 hnodup

/-! ## Keywords -/

namespace ClassTable

variable {o : Options} {p : Place} {t : Transition}

theorem branches_append (count index : Nat) (gs hs : List Guard) :
    branches o p t count index (gs ++ hs) =
      branches o p t count index gs ++ branches o p t count (index + gs.length) hs := by
  induction gs generalizing index with
  | nil => rfl
  | cons g gs ih =>
    rw [List.cons_append, branches, branches, ih, List.cons_append, List.length_cons,
      show index + 1 + gs.length = index + (gs.length + 1) by omega]

/-- Every branch but the first of those with a condition goes on with a chain. -/
theorem map_keyword_branches {gs : List Guard} (h : ∀ g ∈ gs, g.hasCondition = true)
    (count index : Nat) :
    (branches o p t count (index + 1) gs).map Branch.keyword =
      List.replicate gs.length (some .next) := by
  induction gs generalizing index with
  | nil => rfl
  | cons g gs ih =>
    obtain ⟨hg, hgs⟩ := List.forall_mem_cons.1 h
    rw [branches, List.map_cons, ih hgs, List.length_cons, List.replicate_succ, branch, keyword,
      if_pos hg, if_neg (Nat.succ_ne_zero index)]

theorem map_guard_branches (count index : Nat) (gs : List Guard) :
    (branches o p t count index gs).map Branch.guard = gs := by
  induction gs generalizing index with
  | nil => rfl
  | cons g gs ih =>
    rw [branches, List.map_cons, ih]
    rfl

theorem mem_branches {count index : Nat} {gs : List Guard} {b : Branch}
    (hb : b ∈ branches o p t count index gs) :
    ∃ g ∈ gs, ∃ i, b = branch o p t g i count := by
  induction gs generalizing index with
  | nil => cases hb
  | cons g gs ih =>
    rcases List.mem_cons.1 hb with rfl | hb
    · exact ⟨g, List.mem_cons_self, index, rfl⟩
    · obtain ⟨g', hg', i, rfl⟩ := ih hb
      exact ⟨g', List.mem_cons_of_mem _ hg', i, rfl⟩

/-- A branch that asks has something to ask. -/
theorem condition_ne_empty {count index : Nat} {gs : List Guard} {b : Branch}
    (hb : b ∈ branches o p t count index gs)
    (hasks : b.keyword = some .first ∨ b.keyword = some .next) : b.condition ≠ "" := by
  obtain ⟨g, -, i, rfl⟩ := mem_branches hb
  refine Guard.hasCondition_iff.1 (by_contra fun hg => ?_)
  simp only [branch, keyword, if_neg hg] at hasks
  split at hasks <;> simp at hasks

/-- The keywords of the branches of a transition that has a guard, and at most one without a
    condition. -/
theorem map_keyword_overload (hguards : t.guards ≠ [])
    (hone : (t.guards.filter fun g => !g.hasCondition).length ≤ 1) :
    ((overload o p t).branches.map Branch.keyword = [none] ∧
        ∃ g, t.guards = [g] ∧ g.hasCondition = false) ∨
      ∃ n, (overload o p t).branches.map Branch.keyword =
        some .first :: List.replicate n (some .next) ++
          if t.guards.any fun g => !g.hasCondition then [some .otherwise] else [] := by
  rcases hasked : t.guards.filter Guard.hasCondition with - | ⟨g, gs⟩
  · -- no guard has a condition, so there is only one
    have hself : (t.guards.filter fun g => !g.hasCondition) = t.guards :=
      List.filter_eq_self.2 fun g hg => by simpa using List.filter_eq_nil_iff.1 hasked g hg
    rw [hself] at hone
    obtain ⟨g, hg⟩ := List.length_eq_one_iff.1
      (Nat.le_antisymm hone (List.length_pos_iff.2 hguards))
    have hblank : g.hasCondition = false := by
      simpa using List.filter_eq_nil_iff.1 hasked g (hg ▸ List.mem_cons_self)
    have hordered : t.ordered = [g] := by
      rw [Transition.ordered, hasked, hself, hg, List.nil_append]
    refine .inl ⟨?_, g, hg, hblank⟩
    rw [overload, hordered]
    simp [branches, branch, keyword, hblank]
  · have hgs : ∀ h ∈ g :: gs, h.hasCondition = true := fun h hh =>
      (List.mem_filter.1 (hasked ▸ hh)).2
    refine .inr ⟨gs.length, ?_⟩
    rcases hlast : t.guards.filter (fun g => !g.hasCondition) with - | ⟨u, us⟩
    · have hordered : t.ordered = g :: gs := by
        rw [Transition.ordered, hasked, hlast, List.append_nil]
      have hnone : (t.guards.any fun g => !g.hasCondition) = false :=
        List.any_eq_false.2 (List.filter_eq_nil_iff.1 hlast)
      rw [hnone, overload, hordered]
      simp [branches, branch, keyword, map_keyword_branches (List.forall_mem_cons.1 hgs).2,
        hgs g List.mem_cons_self]
    · rw [hlast, List.length_cons] at hone
      obtain rfl : us = [] := List.length_eq_zero_iff.1 (by omega)
      have hu : u ∈ t.guards.filter fun g => !g.hasCondition := hlast ▸ List.mem_cons_self
      have hblank : u.hasCondition = false := by simpa using (List.mem_filter.1 hu).2
      have hordered : t.ordered = g :: gs ++ [u] := by rw [Transition.ordered, hasked, hlast]
      have hsome : (t.guards.any fun g => !g.hasCondition) = true :=
        List.any_eq_true.2 ⟨u, List.mem_filter.1 hu⟩
      rw [hsome, overload, hordered]
      simp [branches, branch, keyword, branches_append, hblank,
        map_keyword_branches (List.forall_mem_cons.1 hgs).2, hgs g List.mem_cons_self]

end ClassTable

/-! ## Alternatives as they are written -/

namespace PythonModule

/-- One of the ways on inside an overload: a branch, or the call of the class above. -/
structure Alternative where
  keyword : Option Keyword
  lines : List String

/-- Is the alternative taken without asking? -/
def Alternative.isFinal (a : Alternative) : Bool :=
  a.keyword != some .first && a.keyword != some .next

/-- The alternatives of an overload. -/
def alternatives (s : Style) (parent : String) (v : Overload) : List Alternative :=
  v.branches.map (fun b => ⟨b.keyword, branch s b⟩)
    ++ if v.fallsThrough then
      [⟨some .otherwise, ["        else:", "            " ++ parent ++ "(self, fsm, *args)"]⟩]
    else []

/-- After the number of arguments was asked and they were taken apart, an overload is written
    as its alternatives. -/
theorem overload_eq_alternatives (s : Style) (parent : String) (isFirst : Bool) (v : Overload) :
    overload s parent isFirst v =
      ["    " ++ (if isFirst then "if" else "elif") ++ " len(args) == "
        ++ toString v.parameters.length ++ ":"]
      ++ unpack v.parameters ++ (alternatives s parent v).flatMap Alternative.lines := by
  rw [overload, alternatives, List.flatMap_append, List.flatMap_map]
  cases v.fallsThrough <;> simp [when]

theorem map_keyword_alternatives (s : Style) (parent : String) (v : Overload) :
    (alternatives s parent v).map Alternative.keyword =
      v.branches.map Branch.keyword ++ if v.fallsThrough then [some .otherwise] else [] := by
  rw [alternatives, List.map_append, List.map_map]
  cases v.fallsThrough <;> rfl

/-- Alternatives whose keywords are those of a chain end in the only one that is final. -/
theorem exists_final {as : List Alternative} {k : Option Keyword}
    (asked : List (Option Keyword)) (h : as.map Alternative.keyword = asked ++ [k])
    (hk : k = none ∨ k = some .otherwise)
    (hasked : ∀ k ∈ asked, k = some .first ∨ k = some .next) :
    ∃ before last, as = before ++ [last] ∧ last.isFinal = true ∧
      ∀ a ∈ before, a.isFinal = false := by
  obtain ⟨before, rest, rfl, hbefore, hrest⟩ := List.map_eq_append_iff.1 h
  obtain ⟨last, rfl, rfl⟩ := List.map_eq_singleton_iff.1 hrest
  refine ⟨before, last, rfl, ?_, fun a ha => ?_⟩
  · rcases hk with hk | hk <;> simp [Alternative.isFinal, hk]
  · rcases hasked a.keyword (hbefore ▸ List.mem_map_of_mem ha) with ha | ha <;>
      simp [Alternative.isFinal, ha]

end PythonModule

/-! ## Every valid machine -/

open ClassTable in
/-- In a machine that was found valid, the code of every transition is collected in a method of
    the class of its state, with its guards in the order they are tried. It is a single branch
    without a keyword, and no call of the class above. Or it is a chain: the first branch is
    introduced by `if`, further ones by `elif`, each with a condition, and the last by `else`
    exactly if a guard has no condition; the call of the class above follows exactly if every
    guard has one. So what is written for a number of arguments ends in one alternative
    that is always taken, and has no other. -/
theorem transitions_become_chains {m : Machine} (hwf : m.WellFormed) {target : Option Target}
    {source : Option Value} {w : Validation} (hcheck : m.validate target source = .ok w)
    (hvalid : w.isValid = true) (o : Options) (start : Place) {p : Place} (hp : p ∈ m.allPlaces)
    {t : Transition} (ht : t ∈ p.state.transitions) :
    (∃ map ∈ (m.classTable o start).maps, ∃ cls ∈ map.classes, cls.methods = methods m o p ∧
      ∃ method ∈ cls.methods, overload o p t ∈ method.overloads) ∧
    (overload o p t).branches.map Branch.guard =
      t.guards.filter Guard.hasCondition ++ t.guards.filter (fun g => !g.hasCondition) ∧
    (((overload o p t).branches.map Branch.keyword = [none] ∧
        (overload o p t).fallsThrough = false) ∨
      ∃ n, (overload o p t).branches.map Branch.keyword =
        some .first :: List.replicate n (some .next) ++
          if t.guards.any fun g => !g.hasCondition then [some .otherwise] else []) ∧
    (∀ b ∈ (overload o p t).branches, b.keyword = some .first ∨ b.keyword = some .next →
      b.condition ≠ "") ∧
    ((overload o p t).fallsThrough = true ↔ ∀ g ∈ t.guards, g.hasCondition = true) ∧
    ∀ s parent isFirst,
      PythonModule.overload s parent isFirst (overload o p t) =
        ["    " ++ (if isFirst then "if" else "elif") ++ " len(args) == "
          ++ toString (overload o p t).parameters.length ++ ":"]
        ++ PythonModule.unpack (overload o p t).parameters
        ++ (PythonModule.alternatives s parent (overload o p t)).flatMap
          PythonModule.Alternative.lines ∧
      ∃ asked last, PythonModule.alternatives s parent (overload o p t) = asked ++ [last] ∧
        last.isFinal = true ∧ ∀ a ∈ asked, a.isFinal = false := by
  obtain ⟨map, hmap, cls, hcls, hmethods⟩ := exists_class o start hp
  obtain ⟨method, hmethod, hoverload⟩ := exists_overload_methods m o ht
  have hguards : t.guards ≠ [] := by
    obtain ⟨hmap, hstate⟩ := Machine.mem_allPlaces.1 hp
    rcases List.mem_append.1 hstate with hdefault | hreal
    · exact ((hwf p.map hmap).default p.state (Option.mem_toList.1 hdefault)).transitions t ht
    · exact ((hwf p.map hmap).states p.state hreal).transitions t ht
  have hone := Transition.length_unconditional_le_one
    (Validate.nodup_conditionTexts hcheck hvalid hp ht)
  have hthrough : (overload o p t).fallsThrough = !t.guards.any fun g => !g.hasCondition := by
    rw [overload, Transition.unconditional?, ← Option.not_isSome, List.isSome_find?]
  have hkeywords := map_keyword_overload (o := o) (p := p) hguards hone
  refine ⟨⟨map, hmap, cls, hcls, hmethods, method, hmethods ▸ hmethod, hoverload⟩,
    map_guard_branches _ _ _, ?_, fun b hb => condition_ne_empty hb, ?_,
    fun s parent isFirst => ⟨PythonModule.overload_eq_alternatives s parent isFirst _, ?_⟩⟩
  · refine hkeywords.imp_left ?_
    rintro ⟨hnone, g, hg, hblank⟩
    refine ⟨hnone, ?_⟩
    rw [hthrough, hg]
    simp [hblank]
  · rw [hthrough]
    simp
  · have hwritten := PythonModule.map_keyword_alternatives s parent (overload o p t)
    rcases hkeywords with ⟨hnone, g, hg, hblank⟩ | ⟨n, hchain⟩
    · refine PythonModule.exists_final [] (k := none) ?_ (.inl rfl) (List.forall_mem_nil _)
      rw [hwritten, hnone, hthrough, hg]
      simp [hblank]
    · refine PythonModule.exists_final (some .first :: List.replicate n (some .next))
        (k := some .otherwise) ?_ (.inr rfl) ?_
      · -- the branch that is always taken is there exactly if the call of the class above is not
        rw [hwritten, hchain, hthrough]
        cases t.guards.any fun g => !g.hasCondition <;> simp
      · intro k hk
        rcases List.mem_cons.1 hk with rfl | hk
        · exact .inl rfl
        · exact .inr (List.eq_of_mem_replicate hk)

open Simulator ClassTable in
/-- The bell that stays as it is unless it is ready, which is asked first although it was
    declared last. -/
theorem bell_becomes_chain :
    let m := bellMachine staysStill swings
    let ring : Transition := ⟨.str "ring", [], [staysStill, swings], .int 0⟩
    let still := doorState "Still" [ring]
    let p : Place := ⟨⟨.str "Tower", [still, doorState "Loud" []], none, .int 0⟩, still⟩
    p ∈ m.allPlaces ∧ m.WellFormed ∧ (∃ w, m.validate none none = .ok w ∧ w.isValid = true) ∧
      (overload {} p ring).branches.map (fun b => (b.keyword, b.condition)) =
        [(some .first, "ready"), (some .otherwise, "")] ∧
      (overload {} p ring).fallsThrough = false ∧
      ∀ s parent, ∃ asked last,
        PythonModule.alternatives s parent (overload {} p ring) = asked ++ [last] ∧
          last.isFinal = true ∧ ∀ a ∈ asked, a.isFinal = false := by
  intro m ring still p
  have hload : (Load.machine (bell (.object [("name", .str "ring"), ("end_state", .str "nil")])
      swing) .null).outcome.1 = .ok m := by rfl
  have hwf : m.WellFormed := Load.wellFormed_of_outcome hload
  have hp : p ∈ m.allPlaces := List.mem_cons_self
  obtain ⟨w, hcheck, hvalid⟩ : ∃ w, m.validate none none = .ok w ∧ w.isValid = true :=
    Machine.exists_validation (by decide +kernel)
  obtain ⟨-, -, -, -, -, hwritten⟩ := transitions_become_chains hwf hcheck hvalid {} p hp
    (t := ring) List.mem_cons_self
  exact ⟨hp, hwf, ⟨w, hcheck, hvalid⟩, by decide +kernel, by decide +kernel,
    fun s parent => (hwritten s parent true).2⟩

end StateMachine
