import StateMachine.Generate.File
import StateMachine.Proofs.Retouching

/-!
# Files of retouched machines

The files generated for a retouched machine are those generated for the machine
(`Machine.generateWith_retouched`). Diagrams and pages ask for the guards in the
order they are tried. Classes do not: whether a transition needs the owner is
asked of its guards as they are declared, and the question may fail at one of
them or be answered before it is reached. So for classes it takes that the answer
is the same (`Retouch.KeepsOwner`).
-/

namespace StateMachine

variable (r : Retouch)

/-! ## The union of signatures -/

section Insertion

variable {α β : Type} {lt : α → α → Bool} {lt' : β → β → Bool} {f : α → β}
  (hlt : ∀ a b, lt' (f a) (f b) = lt a b)

include hlt

theorem risingRun_map (x : α) (ys : List α) : risingRun lt' (f x) (ys.map f) =
    ((risingRun lt x ys).1.map f, (risingRun lt x ys).2.map f) := by
  induction ys generalizing x with
  | nil => rfl
  | cons y ys ih =>
    rw [List.map_cons, risingRun, risingRun, hlt, ih]
    split <;> rfl

theorem fallingRun_map (x : α) (ys : List α) : fallingRun lt' (f x) (ys.map f) =
    ((fallingRun lt x ys).1.map f, (fallingRun lt x ys).2.map f) := by
  induction ys generalizing x with
  | nil => rfl
  | cons y ys ih =>
    rw [List.map_cons, fallingRun, fallingRun, hlt, ih]
    split <;> rfl

theorem position_map (x : α) (items : List α) (fuel low high : Nat) :
    position lt' (f x) (items.map f) fuel low high = position lt x items fuel low high := by
  induction fuel generalizing low high with
  | zero => rfl
  | succ fuel ih =>
    simp only [position, List.getElem?_map]
    cases items[(low + high) / 2]? <;> simp only [Option.map, hlt, ih]

theorem insertAtPosition_map (items : List α) (x : α) :
    insertAtPosition lt' (items.map f) (f x) = (insertAtPosition lt items x).map f := by
  simp [insertAtPosition, position_map hlt]

/-- Items that are compared in the same way are inserted in the same way. -/
theorem inserted_map (items : List α) : inserted lt' (items.map f) = (inserted lt items).map f := by
  have hfoldl : ∀ rest run : List α, (rest.map f).foldl (insertAtPosition lt') (run.map f) =
      (rest.foldl (insertAtPosition lt) run).map f := by
    intro rest
    induction rest with
    | nil => exact fun _ => rfl
    | cons x rest ih =>
      intro run
      rw [List.map_cons, List.foldl_cons, insertAtPosition_map hlt, ih, List.foldl_cons]
  -- the run that the rest is inserted into falls or rises by how the first two compare
  match items with
  | [] => rfl
  | [_] => rfl
  | x :: y :: ys =>
    rw [List.map_cons, List.map_cons, inserted, inserted, hlt, ← List.map_cons,
      fallingRun_map hlt, risingRun_map hlt]
    by_cases hfirst : lt y x = true
    · rw [if_pos hfirst, if_pos hfirst]
      simp only [← List.map_reverse]
      exact hfoldl _ _
    · rw [if_neg hfirst, if_neg hfirst]
      exact hfoldl _ _

end Insertion

theorem firstOfEach_retouched (ps : List Placed) :
    firstOfEach (ps.map (Placed.retouched r)) = (firstOfEach ps).map (Placed.retouched r) := by
  induction ps with
  | nil => rfl
  | cons p ps ih =>
    rw [List.map_cons, firstOfEach, firstOfEach, ih, List.filter_map, List.map_cons]
    simp only [Function.comp_def, Placed.retouched, r.signature]

theorem signatureUnion_retouched (ps : List Placed) :
    signatureUnion (ps.map (Placed.retouched r)) = (signatureUnion ps).map (Placed.retouched r) := by
  have hsignature : ∀ p : Placed, (p.retouched r).transition.signature = p.transition.signature :=
    fun p => r.signature p.transition
  rw [signatureUnion, signatureUnion, firstOfEach_retouched]
  simp only [List.any_map, Function.comp_def, hsignature]
  -- signatures with a number that is none are not ordered, so they are inserted
  split
  · exact inserted_map (fun p q => by rw [hsignature, hsignature]) _
  · rw [List.map_mergeSort]
    exact fun p _ q _ => by rw [hsignature, hsignature]

theorem transitionNames_retouched (ps : List Placed) :
    transitionNames (ps.map (Placed.retouched r)) = transitionNames ps := by
  rw [transitionNames, transitionNames, List.foldl_map]
  simp only [Placed.retouched, r.name]

theorem unionMismatch?_retouched (ps : List Placed) :
    unionMismatch? (ps.map (Placed.retouched r)) = unionMismatch? ps := by
  rw [unionMismatch?, unionMismatch?, List.map_map]
  simp only [Function.comp_def, Placed.retouched, r.signature]

theorem StateMap.transitions_retouched (map : StateMap) :
    (map.retouched r).transitions = map.transitions.map (Placed.retouched r) := by
  simp only [StateMap.transitions, allStates_retouched, Place.transitions, List.flatMap_map,
    List.map_flatMap, List.map_map, State.retouched]
  rfl

theorem Machine.transitions_retouched (m : Machine) :
    (m.retouched r).transitions = m.transitions.map (Placed.retouched r) := by
  simp [Machine.transitions, Machine.retouched, List.flatMap_map, List.map_flatMap,
    StateMap.transitions_retouched]

/-! ## Classes -/

/-- The transitions of the machine that need the owner are those of the retouched one. -/
def Retouch.KeepsOwner (m : Machine) : Prop :=
  ∀ map ∈ m.maps, ∀ s ∈ map.allStates, ∀ t ∈ s.transitions,
    (r.transition t).usesOwner = t.usesOwner

namespace ClassTable

variable (m : Machine) (o : Options)

theorem branches_retouched (p : Place) (t : Transition) (count index : Nat) (gs : List Guard) :
    branches o (p.retouched r) (r.transition t) count index gs = branches o p t count index gs := by
  induction gs generalizing index with
  | nil => rfl
  | cons g gs ih =>
    rw [branches, branches, ih, branch, branch, r.name, r.parameters]
    rfl

/-- A transition has the same method if it needs the owner as before. -/
theorem method_retouched (p : Place) {t : Transition}
    (ht : (r.transition t).usesOwner = t.usesOwner) :
    method (m.retouched r) o (p.retouched r) (r.transition t) = method m o p t := by
  rw [method, method, overload, overload, r.ordered, branches_retouched, r.name, r.parameters,
    r.unconditional?, ht]
  rfl

theorem methods_retouched {p : Place}
    (hp : ∀ t ∈ p.state.transitions, (r.transition t).usesOwner = t.usesOwner) :
    methods (m.retouched r) o (p.retouched r) = methods m o p := by
  have hmap : ∀ (m : Machine) (p : Place), methods m o p =
      (p.state.transitions.map (method m o p)).foldl (fun ms new => insertMethod new ms) [] := by
    intro m p
    rw [methods, List.foldl_map]
  rw [hmap, hmap, Place.retouched, State.retouched, List.map_map]
  exact congrArg _ (List.map_congr_left fun t ht => method_retouched r m o p (hp t ht))

theorem reflection_retouched (names : List Value) (map : StateMap) (s : State) :
    reflection o names (map.retouched r) (s.retouched r) = reflection o names map s := by
  have horigin : ∀ name, origin (map.retouched r) (s.retouched r) name = origin map s name := by
    intro name
    have hisDefault : (s.retouched r).isDefault = s.isDefault := rfl
    have hdefault : ((map.retouched r).default?.any fun d => (d.named? name).isSome) =
        map.default?.any fun d => (d.named? name).isSome := by
      cases h : map.default? <;> simp [StateMap.retouched, h, State.named?_retouched]
    rw [origin, origin, s.named?_retouched, Option.isSome_map, hdefault, hisDefault]
  simp only [reflection, horigin]

theorem stateClass_retouched (names : List Value) (name : String) {p : Place}
    (hp : ∀ t ∈ p.state.transitions, (r.transition t).usesOwner = t.usesOwner) :
    stateClass (m.retouched r) o names name (p.retouched r) = stateClass m o names name p := by
  have hreflection : reflection o names (p.retouched r).map (p.retouched r).state =
      reflection o names p.map p.state := reflection_retouched r o names p.map p.state
  rw [stateClass, stateClass, methods_retouched r m o hp, hreflection]
  rfl

/-- A map without a Default State gets a class of one without transitions. -/
theorem defaultClass_retouched (names : List Value) (name : String) {map : StateMap}
    (hmap : ∀ s ∈ map.allStates, ∀ t ∈ s.transitions, (r.transition t).usesOwner = t.usesOwner) :
    stateClass (m.retouched r) o names name
        ⟨map.retouched r, (map.retouched r).default?.getD bareDefault⟩ =
      stateClass m o names name ⟨map, map.default?.getD bareDefault⟩ := by
  have hdefault : (map.retouched r).default?.getD bareDefault =
      (map.default?.getD bareDefault).retouched r := by
    cases h : map.default? <;> simp [StateMap.retouched, h]; rfl
  have hstate : ∀ t ∈ (map.default?.getD bareDefault).transitions,
      (r.transition t).usesOwner = t.usesOwner := by
    cases h : map.default? with
    | none => exact List.forall_mem_nil _
    | some d => exact hmap d (List.mem_append_left _ (by rw [h]; exact List.mem_singleton_self d))
  rw [hdefault]
  exact stateClass_retouched r m o names name (p := ⟨map, _⟩) hstate

theorem mapClasses_retouched (names : List Value) {map : StateMap}
    (hmap : ∀ s ∈ map.allStates, ∀ t ∈ s.transitions, (r.transition t).usesOwner = t.usesOwner) :
    mapClasses (m.retouched r) o names (m.retouched r).index (map.retouched r) =
      mapClasses m o names m.index map := by
  have hstates : (map.retouched r).states.map (fun s =>
        stateClass (m.retouched r) o names (stateClassName (map.retouched r) s)
          ⟨map.retouched r, s⟩) =
      map.states.map fun s => stateClass m o names (stateClassName map s) ⟨map, s⟩ := by
    rw [StateMap.retouched, List.map_map]
    exact List.map_congr_left fun s hs => stateClass_retouched r m o names _ (p := ⟨map, s⟩)
      (hmap s (List.mem_append_right _ hs))
  have hinstances : (map.retouched r).states.map (fun s : State =>
        (⟨s.name, stateClassName (map.retouched r) s, stateLabel (map.retouched r) s,
          ((m.retouched r).index.idAt ⟨map.retouched r, s⟩).toOption.getD defaultStateId⟩ :
            Instance)) =
      map.states.map fun s => ⟨s.name, stateClassName map s, stateLabel map s,
        (m.index.idAt ⟨map, s⟩).toOption.getD defaultStateId⟩ := by
    rw [StateMap.retouched, List.map_map]
    refine List.map_congr_left fun s _ => ?_
    rw [← m.idAt_retouched r ⟨map, s⟩]
    rfl
  rw [mapClasses, defaultClass_retouched r m o names _ hmap, hstates, hinstances]
  rfl

/-- What is wrong with generating the methods of transitions is the same, if they need the
    owner as before. -/
theorem transitionsMismatch?_retouched {before ts : List Transition}
    (hbefore : ∀ t ∈ before, (r.transition t).usesOwner = t.usesOwner)
    (hts : ∀ t ∈ ts, (r.transition t).usesOwner = t.usesOwner) :
    transitionsMismatch? (before.map r.transition) (ts.map r.transition) =
      transitionsMismatch? before ts := by
  -- looking for a guard without a condition goes wrong only where ordering them does
  have horder : ∀ (t : Transition) (rest : Option Mismatch),
      (t.unconditionalMismatch? <|> t.orderMismatch? <|> rest) = (t.orderMismatch? <|> rest) := by
    intro t rest
    cases h : t.unconditionalMismatch? with
    | none => rfl
    | some e => rw [t.orderMismatch?_of_unconditionalMismatch? h]; rfl
  induction ts generalizing before with
  | nil => rfl
  | cons t ts ih =>
    obtain ⟨ht, hts⟩ := List.forall_mem_cons.1 hts
    have hseen : ((before.map r.transition).any fun u =>
          u.name == t.name && u.usesOwner.toOption == some true) =
        before.any fun u => u.name == t.name && u.usesOwner.toOption == some true := by
      rw [List.any_map, Bool.eq_iff_iff, List.any_eq_true, List.any_eq_true]
      refine exists_congr fun u => and_congr_right fun hu => ?_
      rw [Function.comp_apply, r.name, hbefore u hu]
    have howner : ownerMismatch? (before.map r.transition) (r.transition t) =
        ownerMismatch? before t := by
      rw [ownerMismatch?, ownerMismatch?, r.name, ht, hseen]
    have hbranch : branchMismatch? (r.transition t) = branchMismatch? t := by
      funext g
      rw [branchMismatch?, branchMismatch?, r.parameters]
    have hrest := ih (List.forall_mem_append.2 ⟨hbefore, List.forall_mem_singleton.2 ht⟩) hts
    rw [List.map_append, List.map_cons, List.map_nil] at hrest
    rw [List.map_cons, transitionsMismatch?, transitionsMismatch?, horder, horder, howner, hbranch,
      r.orderMismatch?, r.ordered, hrest]

theorem mismatch?_retouched (hm : r.KeepsOwner m) : mismatch? (m.retouched r) = mismatch? m := by
  have hplaces : (m.retouched r).allPlaces.findSome?
        (fun p => transitionsMismatch? [] p.state.transitions) =
      m.allPlaces.findSome? fun p => transitionsMismatch? [] p.state.transitions := by
    have hmap : ∀ f : Place → Option Mismatch,
        m.allPlaces.findSome? f = (m.allPlaces.map f).findSome? id := by
      intro f
      rw [List.findSome?_map]
      rfl
    rw [m.allPlaces_retouched, List.findSome?_map, hmap, hmap]
    refine congrArg _ (List.map_congr_left fun p hp => ?_)
    obtain ⟨map, hmap, hp⟩ := List.mem_flatMap.1 hp
    obtain ⟨s, hs, rfl⟩ := List.mem_map.1 hp
    exact transitionsMismatch?_retouched r (List.forall_mem_nil _) (hm map hmap s hs)
  rw [mismatch?, mismatch?, m.transitions_retouched, unionMismatch?_retouched, hplaces]
  rfl

end ClassTable

theorem Machine.classTable_retouched {m : Machine} (hm : r.KeepsOwner m) (o : Options)
    (start : Place) : (m.retouched r).classTable o (start.retouched r) = m.classTable o start := by
  have hnames : transitionNames (signatureUnion (m.retouched r).transitions) =
      transitionNames (signatureUnion m.transitions) := by
    rw [m.transitions_retouched, signatureUnion_retouched, transitionNames_retouched]
  have hmaps : ∀ names, (m.retouched r).maps.map
        (ClassTable.mapClasses (m.retouched r) o names (m.retouched r).index) =
      m.maps.map (ClassTable.mapClasses m o names m.index) := by
    intro names
    rw [show (m.retouched r).maps = m.maps.map (StateMap.retouched r) from rfl, List.map_map]
    exact List.map_congr_left fun map hmap =>
      ClassTable.mapClasses_retouched r m o names (hm map hmap)
  simp only [Machine.classTable, hnames, hmaps, m.places_retouched, List.map_map]
  rfl

/-! ## Diagrams -/

namespace Diagram

/-- The arrow in the retouched machine. -/
def Arrow.retouched (a : Arrow) : Arrow :=
  ⟨a.place.retouched r, r.transition a.transition, a.guard⟩

variable (level : GraphLevel)

theorem arrowsOf_retouched (p : Place) (s : State) :
    arrowsOf level (p.retouched r) (s.retouched r) =
      (arrowsOf level p s).map (Arrow.retouched r) := by
  simp only [arrowsOf, State.retouched, List.flatMap_map, r.ordered, List.map_flatMap, List.map_map]
  rfl

theorem inherited_retouched (p : Place) :
    inherited level (p.retouched r) = (inherited level p).map (Arrow.retouched r) := by
  have hnamed : ∀ a : Arrow, ((p.retouched r).state.named? (a.retouched r).transition.name).isNone =
      (p.state.named? a.transition.name).isNone := by
    intro a
    rw [show (p.retouched r).state = p.state.retouched r from rfl, State.named?_retouched,
      Option.isNone_map, show (a.retouched r).transition = r.transition a.transition from rfl, r.name]
  rw [inherited, inherited]
  cases h : p.map.default? with
  | none => simp [Place.retouched, StateMap.retouched, h]
  | some d =>
    have hgiven : (p.retouched r).map.default? = some (d.retouched r) := by
      simp [Place.retouched, StateMap.retouched, h]
    simp only [hgiven, arrowsOf_retouched, List.filter_map, Function.comp_def, hnamed]

theorem arrows_retouched (map : StateMap) :
    arrows level (map.retouched r) = (arrows level map).map (Arrow.retouched r) := by
  have hown : ∀ s : State, arrowsOf level ⟨map.retouched r, s.retouched r⟩ (s.retouched r) =
      (arrowsOf level ⟨map, s⟩ s).map (Arrow.retouched r) := fun s =>
    arrowsOf_retouched r level ⟨map, s⟩ s
  have hinherited : ∀ s : State, inherited level ⟨map.retouched r, s.retouched r⟩ =
      (inherited level ⟨map, s⟩).map (Arrow.retouched r) := fun s =>
    inherited_retouched r level ⟨map, s⟩
  have hstates : (map.retouched r).states = map.states.map (State.retouched r) := rfl
  simp only [arrows, hstates, List.flatMap_map, hown, hinherited, List.map_append,
    List.map_flatMap]

theorem addArrow_retouched (c : Cluster) (a : Arrow) :
    Cluster.addArrow level c (a.retouched r) = Cluster.addArrow level c a := by
  have hedge : (a.retouched r).edge level = a.edge level := by
    rw [Arrow.edge, Arrow.edge, guardLabel, guardLabel, Arrow.retouched, r.name, r.parameters]
    rfl
  rw [Cluster.addArrow, Cluster.addArrow, hedge]
  rfl

theorem ofMap_retouched (map : StateMap) :
    Cluster.ofMap level (map.retouched r) = Cluster.ofMap level map := by
  have hlabel : ∀ s : State, stateLabel level ⟨map.retouched r, s.retouched r⟩ =
      stateLabel level ⟨map, s⟩ := by
    intro s
    rw [stateLabel, stateLabel, map.entryOf_retouched, map.exitOf_retouched]
    rfl
  have hstates : (map.retouched r).states = map.states.map (State.retouched r) := rfl
  simp only [Cluster.ofMap, arrows_retouched, List.foldl_map, addArrow_retouched, hstates,
    List.map_map, Function.comp_def, hlabel]
  rfl

theorem pushedStates_retouched (m : Machine) :
    pushedStates level (m.retouched r) = pushedStates level m := by
  have harrows : (m.retouched r).maps.flatMap (arrows level) =
      (m.maps.flatMap (arrows level)).map (Arrow.retouched r) := by
    simp [Machine.retouched, List.flatMap_map, List.map_flatMap, arrows_retouched]
  rw [pushedStates, pushedStates, harrows, List.filter_map, List.foldl_map]
  rfl

theorem text_retouched (m : Machine) (o : Options) (start : Place) :
    text (m.retouched r) o (start.retouched r) = text m o start := by
  have hgraph : graph o.graphLevel (m.retouched r) (start.retouched r) =
      graph o.graphLevel m start := by
    simp only [graph, pushedStates_retouched]
    simp only [Machine.retouched, List.map_map, Function.comp_def, ofMap_retouched]
    rfl
  simp only [text, lines, hgraph]
  rfl

theorem mismatch?_retouched (m : Machine) (o : Options) :
    mismatch? (m.retouched r) o = mismatch? m o := by
  have htransition : ∀ t, transitionMismatch? o.graphLevel (r.transition t) =
      transitionMismatch? o.graphLevel t := by
    intro t
    simp only [transitionMismatch?, labelMismatch?, r.orderMismatch?, r.ordered, r.name,
      r.parameterMismatch?]
  rw [mismatch?, mismatch?, m.transitions_retouched, List.findSome?_map]
  exact congrArg (List.findSome? · _) (funext fun q => htransition q.transition)

end Diagram

/-! ## Pages -/

namespace Page

theorem row_retouched (columns : List Value) (s : State) :
    row columns (s.retouched r) = row columns s := by
  have hentry : ∀ t g, entry (s.retouched r) (r.transition t) g = entry s t g := by
    intro t g
    rw [entry, entry, r.parameterText]
    rfl
  have hcell : cell (s.retouched r) = cell s := by
    funext name
    simp only [cell, State.retouched, List.filter_map, List.flatMap_map, Function.comp_def, r.name,
      r.ordered]
    exact congrArg (List.flatMap · _) (funext fun t => List.map_congr_left fun g _ => hentry t g)
  rw [row, row, hcell]
  rfl

theorem table_retouched (map : StateMap) : table (map.retouched r) = table map := by
  have hrows : ∀ columns, ((map.retouched r).states ++ (map.retouched r).default?.toList).map
      (row columns) = (map.states ++ map.default?.toList).map (row columns) := by
    intro columns
    have hstates : (map.retouched r).states ++ (map.retouched r).default?.toList =
        (map.states ++ map.default?.toList).map (State.retouched r) := by
      cases h : map.default? <;> simp [StateMap.retouched, h]
    rw [hstates, List.map_map]
    exact List.map_congr_left fun s _ => row_retouched r columns s
  simp only [table, map.transitions_retouched, signatureUnion_retouched, transitionNames_retouched,
    hrows]
  rfl

theorem text_retouched (m : Machine) (o : Options) : text (m.retouched r) o = text m o := by
  simp only [text, lines, Machine.retouched, List.map_map, Function.comp_def, table_retouched]

theorem mismatch?_retouched (m : Machine) : mismatch? (m.retouched r) = mismatch? m := by
  have htransition : ∀ t, transitionMismatch? (r.transition t) = transitionMismatch? t := by
    intro t
    simp only [transitionMismatch?, entryMismatch?, r.orderMismatch?, r.ordered,
      r.parameterMismatch?]
  rw [mismatch?, mismatch?, Machine.retouched, List.findSome?_map]
  refine congrArg (List.findSome? · _) (funext fun map => ?_)
  rw [Function.comp_apply, map.transitions_retouched, unionMismatch?_retouched, List.findSome?_map]
  simp only [Function.comp_def, Placed.retouched, htransition]

end Page

/-! ## Generated files -/

/-- Of a retouched machine, a generator makes the file it makes of the machine; for classes,
    if the same transitions need the owner. -/
theorem Machine.generateWith_retouched {m : Machine} {g : Generator}
    (hm : g = .python → r.KeepsOwner m) (o : Options) (base : Value) :
    (m.retouched r).generateWith g o base = m.generateWith g o base := by
  have hstates : (m.retouched r).hasStates = m.hasStates := by
    simp only [hasStates, retouched, List.any_map, Function.comp_def, StateMap.retouched,
      List.isEmpty_map]
  have hstart : (m.retouched r).startMismatch? = m.startMismatch? := rfl
  have hmismatch : g.mismatch? (m.retouched r) o = g.mismatch? m o := by
    cases g with
    | python => exact ClassTable.mismatch?_retouched r m (hm rfl)
    | graph => exact Diagram.mismatch?_retouched r m o
    | table => exact Page.mismatch?_retouched r m
  have htext : ∀ start : Place, g.text (m.retouched r) o (start.retouched r) = g.text m o start := by
    intro start
    cases g with
    | python =>
      simp only [Generator.text, PythonModule.text, PythonModule.lines,
        m.classTable_retouched r (hm rfl)]
      rfl
    | graph => exact Diagram.text_retouched r m o start
    | table => exact Page.text_retouched r m o
  rw [generateWith, generateWith, hstates, hstart, m.startPlace?_retouched, hmismatch]
  cases m.startPlace? with
  | none => rfl
  | some start =>
    simp only [Option.map_some, htext]
    rfl

end StateMachine
