import StateMachine.Proofs.Loaded
import StateMachine.Simulate.Dispatch

/-!
# Candidates

Which guards a dispatch may take. Issued in a state, a transition has up to four
*candidates* (`Place.candidates`), in this order:

* the first transition of the state with the name and the number of arguments;
* the first such transition of the Default State;
* the first `Default` transition of the state without parameters;
* the first `Default` transition of the Default State without parameters;

for a transition named `Default` only the first and the last of them. The
guards of the candidates, of each candidate those with a condition first, are
the *choices* (`Place.choices`). The candidates after the first are those that
the default chain lists (`Place.defaultChain_eq`).
-/

namespace StateMachine

/-! ## Candidates and choices -/

/-- A transition that a dispatch may try. -/
structure Candidate where
  /-- The step of the default chain; nothing for the state's own transition. -/
  step : Option DefaultStep
  placed : Placed

/-- A guard that a dispatch may take. -/
structure Choice where
  candidate : Candidate
  guard : Guard

namespace Candidate

/-- The transition that is tried. -/
def transition (c : Candidate) : Transition :=
  c.placed.transition

/-- The arguments the candidate is tried with. -/
def arguments {V : Type} (c : Candidate) (args : List V) : List V :=
  match c.step with
  | none => args
  | some step => Simulator.linkArguments step args

/-- The guards of the candidate: those with a condition as they are declared, and
    then those without one. -/
def choices (c : Candidate) : List Choice :=
  (c.transition.guards.filter Guard.hasCondition
    ++ c.transition.guards.filter fun g => !g.hasCondition).map fun g => ⟨c, g⟩

/-- The candidate as a link of the default chain. -/
def link? (c : Candidate) : Option DefaultLink :=
  c.step.map fun step => ⟨step, some c.placed⟩

/-- The first transition of a state with a name and number of parameters, if
    there are such a state and transition. -/
def find (q : Option Place) (step : Option DefaultStep) (name : Value) (arity : Nat) :
    List Candidate :=
  (q.bind fun q => (q.state.ofArity? name arity).map fun t => ⟨step, ⟨q, t⟩⟩).toList

end Candidate

namespace Place

/-- The candidates after the state's own transition. -/
def fallbacks (p : Place) (name : Value) (arity : Nat) : List Candidate :=
  (if name == .str defaultName then []
    else Candidate.find p.default? (some .mapTransition) name arity
      ++ Candidate.find (some p) (some .stateDefault) (.str defaultName) 0)
    ++ Candidate.find p.default? (some .mapDefault) (.str defaultName) 0

/-- The transitions that a dispatch in a state tries, one after the other. -/
def candidates (p : Place) (name : Value) (arity : Nat) : List Candidate :=
  Candidate.find (some p) none name arity ++ p.fallbacks name arity

/-- The guards that a dispatch in a state tries, one after the other. -/
def choices (p : Place) (name : Value) (arity : Nat) : List Choice :=
  (p.candidates name arity).flatMap Candidate.choices

end Place

/-- The guards of a candidate come in the order they are tried. -/
theorem Candidate.choices_eq (c : Candidate) :
    c.choices = c.transition.ordered.map fun g => ⟨c, g⟩ :=
  rfl

theorem Candidate.mem_find {q : Option Place} {step : Option DefaultStep} {name : Value}
    {arity : Nat} {c : Candidate} :
    c ∈ find q step name arity ↔
      ∃ q' t, q = some q' ∧ q'.state.ofArity? name arity = some t ∧ c = ⟨step, ⟨q', t⟩⟩ := by
  cases q with
  | none => simp [find]
  | some q' => simp [find, @eq_comm _ c]

/-- A candidate is a transition of the state or of the Default State. -/
theorem Place.mem_candidates {p : Place} {name : Value} {arity : Nat} {c : Candidate}
    (hc : c ∈ p.candidates name arity) :
    (c.placed.place = p ∨ p.default? = some c.placed.place) ∧
      c.transition ∈ c.placed.place.state.transitions := by
  have hfind : ∀ {q : Option Place} {step : Option DefaultStep} {name : Value} {n : Nat},
      c ∈ Candidate.find q step name n →
        q = some c.placed.place ∧ c.transition ∈ c.placed.place.state.transitions := by
    intro q step name n hc
    obtain ⟨q', t, rfl, ht, rfl⟩ := Candidate.mem_find.1 hc
    exact ⟨rfl, List.mem_of_find?_eq_some ht⟩
  have hself : ∀ {step : Option DefaultStep} {name : Value} {n : Nat},
      c ∈ Candidate.find (some p) step name n →
        c.placed.place = p ∧ c.transition ∈ c.placed.place.state.transitions := by
    intro step name n hc
    exact ⟨(Option.some.inj (hfind hc).1).symm, (hfind hc).2⟩
  -- the first and third are found in the state, the others in the Default State
  simp only [candidates, fallbacks, List.mem_append] at hc
  rcases hc with hc | hc | hc
  · exact ⟨.inl (hself hc).1, (hself hc).2⟩
  · split at hc
    · simp at hc
    · rcases List.mem_append.1 hc with hc | hc
      · exact ⟨.inr (hfind hc).1, (hfind hc).2⟩
      · exact ⟨.inl (hself hc).1, (hself hc).2⟩
  · exact ⟨.inr (hfind hc).1, (hfind hc).2⟩

/-- A candidate belongs to a state of the same map. -/
theorem Place.map_of_mem_candidates {p : Place} {name : Value} {arity : Nat} {c : Candidate}
    (hc : c ∈ p.candidates name arity) : c.placed.place.map = p.map := by
  obtain ⟨hplace | hdefault, -⟩ := mem_candidates hc
  · rw [hplace]
  · exact (default?_eq_some.1 hdefault).1

/-- A well-formed machine has guards wherever a dispatch looks for them. -/
theorem Machine.WellFormed.guards_of_mem_candidates {m : Machine} (hm : m.WellFormed) {p : Place}
    (hp : p ∈ m.places) {name : Value} {arity : Nat} {c : Candidate}
    (hc : c ∈ p.candidates name arity) : c.transition.guards ≠ [] := by
  obtain ⟨hmap, hstate⟩ := Machine.mem_places.1 hp
  obtain ⟨hplace | hdefault, ht⟩ := Place.mem_candidates hc
  · rw [hplace] at ht
    exact ((hm p.map hmap).states p.state hstate).transitions _ ht
  · obtain ⟨-, hd⟩ := Place.default?_eq_some.1 hdefault
    exact ((hm p.map hmap).default _ hd).transitions _ ht

/-- A fallback is a step of the default chain. -/
theorem Place.step_of_mem_fallbacks {p : Place} {name : Value} {arity : Nat} {c : Candidate}
    (hc : c ∈ p.fallbacks name arity) : c.step ≠ none := by
  simp only [fallbacks, List.mem_append] at hc
  rcases hc with hc | hc
  · split at hc
    · simp at hc
    · rcases List.mem_append.1 hc with hc | hc <;>
        obtain ⟨q, t, -, -, rfl⟩ := Candidate.mem_find.1 hc <;> exact Option.some_ne_none _
  · obtain ⟨q, t, -, -, rfl⟩ := Candidate.mem_find.1 hc
    exact Option.some_ne_none _

/-- A candidate is found with as many parameters as it is given arguments. -/
theorem Place.arity_of_mem_fallbacks {V : Type} {p : Place} {name : Value} {args : List V}
    {c : Candidate} (hc : c ∈ p.fallbacks name args.length) :
    c.transition.arity = (c.arguments args).length := by
  have harity : ∀ {q : Place} {name : Value} {n : Nat} {t : Transition},
      q.state.ofArity? name n = some t → t.arity = n := by
    intro q name n t ht
    have := List.find?_some ht
    simp only [Bool.and_eq_true, beq_iff_eq] at this
    exact this.2
  simp only [fallbacks, List.mem_append] at hc
  rcases hc with hc | hc
  · split at hc
    · simp at hc
    · rcases List.mem_append.1 hc with hc | hc <;>
        obtain ⟨q, t, -, ht, rfl⟩ := Candidate.mem_find.1 hc <;>
        simpa [Candidate.arguments, Simulator.linkArguments, Candidate.transition] using harity ht
  · obtain ⟨q, t, -, ht, rfl⟩ := Candidate.mem_find.1 hc
    simpa [Candidate.arguments, Simulator.linkArguments, Candidate.transition] using harity ht

theorem Transition.mem_ordered {t : Transition} {g : Guard} : g ∈ t.ordered ↔ g ∈ t.guards := by
  cases h : g.hasCondition <;> simp [ordered, List.mem_filter, h]

/-- A choice is a guard of a candidate. -/
theorem Place.mem_choices {p : Place} {name : Value} {arity : Nat} {x : Choice}
    (hx : x ∈ p.choices name arity) :
    x.candidate ∈ p.candidates name arity ∧ x.guard ∈ x.candidate.transition.guards := by
  obtain ⟨c, hc, hx⟩ := List.mem_flatMap.1 hx
  rw [Candidate.choices_eq] at hx
  obtain ⟨g, hg, rfl⟩ := List.mem_map.1 hx
  exact ⟨hc, Transition.mem_ordered.1 hg⟩

theorem Transition.ordered_ne_nil {t : Transition} (h : t.guards ≠ []) : t.ordered ≠ [] := by
  obtain ⟨g, hg⟩ := List.exists_mem_of_ne_nil _ h
  exact List.ne_nil_of_mem (mem_ordered.2 hg)

/-- A transition without parameters is found by its number of parameters. -/
theorem State.find?_nil (s : State) (name : Value) : s.find? name [] = s.ofArity? name 0 := by
  rw [find?, ofArity?]
  congr 1
  funext t
  cases h : t.parameters <;> simp [Transition.arity, h, sameParameters]

/-- The default chain lists the fallbacks, and then the system default. -/
theorem Place.defaultChain_eq (p : Place) (name : Value) (arity : Nat) :
    p.defaultChain name (.arity arity) false =
      (p.fallbacks name arity).filterMap Candidate.link? ++ [⟨.systemDefault, none⟩] := by
  have hlink : ∀ (q : Place) (step : DefaultStep) (name : Value) (n : Nat),
      (Candidate.find (some q) (some step) name n).filterMap Candidate.link? =
        q.link step (q.state.ofArity? name n) := by
    intro q step name n
    cases h : q.state.ofArity? name n <;> simp [Candidate.find, link, h, Candidate.link?]
  have hnone : ∀ (step : Option DefaultStep) (name : Value) (n : Nat),
      Candidate.find none step name n = [] := fun _ _ _ => rfl
  rw [defaultChain, fallbacks]
  cases hd : p.default? with
  | none =>
    cases name == Value.str defaultName <;> simp [hnone, hlink, State.find?_nil]
  | some d =>
    cases name == Value.str defaultName <;> simp [hlink, State.find?_nil, Match.find?]

end StateMachine
