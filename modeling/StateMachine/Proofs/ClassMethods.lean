import StateMachine.Generate.ClassTable
import StateMachine.Proofs.Keys
import StateMachine.Proofs.Selection

/-!
# The methods of a class

A call of a method is *followed* from a class upwards (`Ancestor.call`):

* a method picks its first overload with the number of arguments, and in it the
  first branch whose condition holds;
* where no overload or branch is taken, it goes on to the method it names as its
  parent.

Conditions are asked in any monad, so that a call can be compared with truth
values given beforehand and with a run of the simulator alike. The class of a
state takes the first guard that holds of the candidate found in the state, and
goes on if there is none (`call_stateClass`).
-/

namespace StateMachine

/-! ## Calls -/

/-- What following the class table comes to. -/
inductive Resolution
  /-- A guard is taken, as its branch says. -/
  | takes (step : Option DefaultStep) (guard : Guard) (plan : Plan) (isProtected : Bool)
  /-- The base class refuses the transition. -/
  | undefined
  /-- A method ends without having taken a guard. -/
  | idles
  /-- There is no such class or method. -/
  | missing

/-- A class on the way up, with the step of the default chain a call has come to
    there. -/
structure Ancestor where
  step : Option DefaultStep
  cls : StateClass

section Following

variable {M : Type → Type} [Monad M] (ask : Option DefaultStep → Guard → M Bool)

/-- Is the branch taken? Its condition is asked for unless it needs none. -/
def Branch.asks (step : Option DefaultStep) (b : Branch) : M Bool :=
  match b.keyword with
  | some .first | some .next => ask step b.guard
  | some .otherwise | none => pure true

/-- Calls a method from a class on upwards; `base` is the method of the base
    class. -/
def Ancestor.call (name : Value) (arity : Nat) (base : M Resolution) : List Ancestor → M Resolution
  | [] => base
  | l :: ls =>
    match l.cls.methods.find? fun m => m.name == name with
    | none => call name arity base ls
    | some m =>
      let above :=
        if m.parent == l.cls.parent ++ "." ++ m.name.text then call name arity base ls
        else pure .missing
      match m.overloads.find? fun o => o.parameters.length == arity with
      | none => above
      | some o => do
        match ← o.branches.findM? (Branch.asks ask l.step) with
        | some b => return .takes l.step b.guard b.plan b.isProtected
        | none => if o.fallsThrough then above else return .idles

end Following

/-! ## Methods -/

namespace ClassTable

variable {m : Machine} {o : Options} {p : Place}

/-- The overloads of the method of a name. -/
def overloadsOf (name : Value) (ms : List Method) : List Overload :=
  ((ms.find? fun m => m.name == name).map Method.overloads).getD []

/-- A method that joins others keeps their names and parents. -/
theorem forall_insertMethod {P : Value → String → Prop} {new : Method} {ms : List Method}
    (hnew : P new.name new.parent) (hms : ∀ m ∈ ms, P m.name m.parent) :
    ∀ m ∈ insertMethod new ms, P m.name m.parent := by
  induction ms with
  | nil => simpa [insertMethod] using hnew
  | cons old rest ih =>
    obtain ⟨hold, hrest⟩ := List.forall_mem_cons.1 hms
    rw [insertMethod]
    split
    · exact List.forall_mem_cons.2 ⟨hold, hrest⟩
    · exact List.forall_mem_cons.2 ⟨hold, ih hrest⟩

/-- One more method adds its overloads to those of its name. -/
theorem overloadsOf_insertMethod {name : Value} {new : Method} {ms : List Method}
    (hname : name.isKey = true) (hnew : new.name.isKey = true)
    (hms : ∀ m ∈ ms, m.name.isKey = true) :
    overloadsOf name (insertMethod new ms) =
      overloadsOf name ms ++ if new.name == name then new.overloads else [] := by
  induction ms with
  | nil =>
    rw [insertMethod, overloadsOf, overloadsOf, List.find?_nil, List.find?_cons]
    cases new.name == name <;> simp
  | cons old rest ih =>
    obtain ⟨hold, hrest⟩ := List.forall_mem_cons.1 hms
    have ih := ih hrest
    rw [insertMethod]
    by_cases hjoin : (old.name == new.name) = true
    · -- both names are equal, so either both are looked for or neither is
      rw [if_pos hjoin, overloadsOf, overloadsOf, List.find?_cons, List.find?_cons]
      have hsame : (old.name == name) = (new.name == name) := Value.beq_congr hold hnew hjoin
      simp only [hsame]
      cases h : new.name == name <;> simp
    · rw [if_neg hjoin, overloadsOf, overloadsOf, List.find?_cons, List.find?_cons]
      cases h : old.name == name with
      | false => exact ih
      | true =>
        -- `old` is the method looked for, so `new`, which is not, has another name
        have hother : (new.name == name) = false := by
          rw [Value.beq_comm hnew hname, ← Value.beq_congr hold hname h]
          exact Bool.eq_false_iff.2 hjoin
        simp [hother]

/-- The method of a name has the transitions of this name as overloads, in their
    order. -/
theorem overloadsOf_methods {name : Value} (hname : name.isKey = true)
    (hkeys : ∀ t ∈ p.state.transitions, t.name.isKey = true) :
    overloadsOf name (methods m o p) =
      (p.state.transitions.filter fun t => t.name == name).map (overload o p) := by
  have hfold : ∀ (ts : List Transition) (ms : List Method), (∀ t ∈ ts, t.name.isKey = true) →
      (∀ m ∈ ms, m.name.isKey = true) →
      overloadsOf name (ts.foldl (fun ms t => insertMethod (method m o p t) ms) ms) =
        overloadsOf name ms ++ (ts.filter fun t => t.name == name).map (overload o p) := by
    intro ts
    induction ts with
    | nil => simp
    | cons t ts ih =>
      intro ms hts hms
      obtain ⟨ht, hts⟩ := List.forall_mem_cons.1 hts
      have hkey : (method m o p t).name.isKey = true := ht
      rw [List.foldl_cons,
        ih _ hts (forall_insertMethod (P := fun name _ => name.isKey = true) hkey hms),
        overloadsOf_insertMethod hname hkey hms, List.filter_cons]
      change _ ++ (if (t.name == name) = true then [overload o p t] else []) ++ _ = _
      cases t.name == name <;> simp
  exact hfold p.state.transitions [] hkeys (by simp)

/-- A method names its parent in the class above. -/
theorem parent_of_mem_methods {new : Method} (h : new ∈ methods m o p) :
    new.parent = parentClass m p ++ "." ++ new.name.text := by
  have hfold : ∀ (ts : List Transition) (ms : List Method),
      (∀ m' ∈ ms, m'.parent = parentClass m p ++ "." ++ m'.name.text) →
      ∀ m' ∈ ts.foldl (fun ms t => insertMethod (method m o p t) ms) ms,
        m'.parent = parentClass m p ++ "." ++ m'.name.text := by
    intro ts
    induction ts with
    | nil => exact fun _ hms => hms
    | cons t ts ih =>
      intro ms hms
      exact ih _ (forall_insertMethod
        (P := fun name parent => parent = parentClass m p ++ "." ++ name.text) rfl hms)
  exact hfold p.state.transitions [] (by simp) new h

/-- A method picks the transition that a state finds by the number of arguments. -/
theorem find?_overloadsOf {name : Value} (hname : name.isKey = true)
    (hkeys : ∀ t ∈ p.state.transitions, t.name.isKey = true) (arity : Nat) :
    (overloadsOf name (methods m o p)).find? (fun o => o.parameters.length == arity) =
      (p.state.ofArity? name arity).map (overload o p) := by
  rw [overloadsOf_methods hname hkeys, List.find?_map, List.find?_filter, State.ofArity?]
  congr 2
  funext t
  rw [Bool.eq_iff_iff]
  simp [overload, Transition.arity]

/-! ## Branches -/

section Branches

variable {M : Type → Type} [Monad M] [LawfulMonad M] (ask : Option DefaultStep → Guard → M Bool)

/-- Is the guard taken? Its condition is asked for if it has one. -/
def asksGuard (step : Option DefaultStep) (g : Guard) : M Bool :=
  if g.hasCondition then ask step g else pure true

/-- A guard as its branch has it. -/
def taken (o : Options) (map : StateMap) (step : Option DefaultStep) (g : Guard) : Resolution :=
  .takes step g (g.plan map.name.text) (g.hasActions && !o.noCatch.isSet)

omit [LawfulMonad M] in
theorem branch_asks (t : Transition) (step : Option DefaultStep) (g : Guard) (index count : Nat) :
    Branch.asks ask step (branch o p t g index count) = asksGuard ask step g := by
  change (match keyword g index count with
    | some .first | some .next => ask step g
    | some .otherwise | none => pure true) = _
  rw [keyword, asksGuard]
  cases g.hasCondition with
  | true => by_cases h : index = 0 <;> simp [h]
  | false => by_cases h : 1 < count <;> simp [h]

/-- A search among the branches of guards is one among the guards. -/
theorem findM?_branches (t : Transition) (step : Option DefaultStep) (count : Nat)
    (index : Nat) (gs : List Guard) (rest : M Resolution) :
    (do
      match ← (branches o p t count index gs).findM? (Branch.asks ask step) with
      | some b => return .takes step b.guard b.plan b.isProtected
      | none => rest) = (do
      match ← gs.findM? (asksGuard ask step) with
      | some g => return taken o p.map step g
      | none => rest) := by
  induction gs generalizing index with
  | nil => simp [branches]
  | cons g gs ih =>
    rw [branches, List.findM?, List.findM?, branch_asks]
    simp only [bind_assoc]
    congr 1
    funext b
    cases b with
    | false => exact ih (index + 1)
    | true => simp [branch, taken, Guard.plan]

/-- A search among guards one of which needs no condition finds one. -/
theorem findM?_asksGuard {α : Type} (step : Option DefaultStep) {gs : List Guard}
    (hg : ∃ g ∈ gs, g.hasCondition = false) (found : Guard → M α) (rest rest' : M α) :
    (do
      match ← gs.findM? (asksGuard ask step) with
      | some g => found g
      | none => rest) = (do
      match ← gs.findM? (asksGuard ask step) with
      | some g => found g
      | none => rest') := by
  induction gs with
  | nil => simp at hg
  | cons g gs ih =>
    simp only [List.findM?, bind_assoc]
    by_cases h : g.hasCondition = true
    · congr 1
      funext b
      cases b with
      | true => simp
      | false =>
        obtain ⟨g', hmem, hg'⟩ := hg
        rcases List.mem_cons.1 hmem with rfl | hmem
        · rw [h] at hg'
          cases hg'
        · exact ih ⟨g', hmem, hg'⟩
    · simp [asksGuard, h]

/-- An overload of a state takes the first guard of its transition that holds, and
    goes on if there is none. -/
theorem findM?_overload (t : Transition) (step : Option DefaultStep) (rest : M Resolution) :
    (do
      match ← (overload o p t).branches.findM? (Branch.asks ask step) with
      | some b => return .takes step b.guard b.plan b.isProtected
      | none => if (overload o p t).fallsThrough then rest else return .idles) = (do
      match ← t.ordered.findM? (asksGuard ask step) with
      | some g => return taken o p.map step g
      | none => rest) := by
  change (do
    match ← (branches o p t t.ordered.length 0 t.ordered).findM? (Branch.asks ask step) with
    | some b => return Resolution.takes step b.guard b.plan b.isProtected
    | none => if t.unconditional?.isNone then rest else return .idles) = _
  rw [findM?_branches ask t step]
  cases h : t.unconditional? with
  | none => rfl
  | some g =>
    -- an unconditional guard is taken at the latest, so nothing comes after it
    apply findM?_asksGuard
    refine ⟨g, Transition.mem_ordered.2 (List.mem_of_find?_eq_some h), ?_⟩
    simpa using List.find?_some h

/-- The class of a state takes the first guard of the candidate found in the state
    that holds, and goes on if there is none. -/
theorem call_stateClass {name : Value} {arity : Nat} (hname : name.isKey = true)
    (hkeys : ∀ t ∈ p.state.transitions, t.name.isKey = true) (names : List Value) (cls : String)
    (step : Option DefaultStep) (base : M Resolution) (ls : List Ancestor) :
    Ancestor.call ask name arity base (⟨step, stateClass m o names cls p⟩ :: ls) = (do
      match ← ((Candidate.find (some p) step name arity).flatMap Candidate.choices).findM?
          (fun x => asksGuard ask x.candidate.step x.guard) with
      | some x => return taken o p.map x.candidate.step x.guard
      | none => Ancestor.call ask name arity base ls) := by
  have hfind := find?_overloadsOf (m := m) (o := o) (p := p) hname hkeys arity
  have hchoices : (Candidate.find (some p) step name arity).flatMap Candidate.choices =
      (p.state.ofArity? name arity).toList.flatMap fun t =>
        t.ordered.map fun g => ⟨⟨step, ⟨p, t⟩⟩, g⟩ := by
    cases h : p.state.ofArity? name arity <;>
      simp [Candidate.find, h, Candidate.choices_eq, Candidate.transition]
  rw [hchoices, Ancestor.call]
  change (match (methods m o p).find? fun m => m.name == name with
    | none => _
    | some m' => _) = _
  cases hmethod : (methods m o p).find? fun m => m.name == name with
  | none =>
    -- without a method the state has no transition of this name
    rw [overloadsOf, hmethod] at hfind
    cases hof : p.state.ofArity? name arity with
    | none => simp
    | some t =>
      rw [hof] at hfind
      cases hfind
  | some method =>
    -- the parent it names is the method of the class above
    have hparent :
        (method.parent == (stateClass m o names cls p).parent ++ "." ++ method.name.text) = true :=
      beq_iff_eq.2 (parent_of_mem_methods (List.mem_of_find?_eq_some hmethod))
    rw [overloadsOf, hmethod] at hfind
    change method.overloads.find? _ = _ at hfind
    simp only [hparent, if_true, hfind]
    cases p.state.ofArity? name arity with
    | none => simp
    | some t =>
      simp only [Option.map_some, findM?_overload ask t step, Option.toList_some,
        List.flatMap_cons, List.flatMap_nil, List.append_nil, findM?_map, bind_map_left]
      congr 1
      funext r
      cases r <;> rfl

end Branches

end ClassTable
end StateMachine
