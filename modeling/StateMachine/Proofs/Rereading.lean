import StateMachine.Export.Description
import StateMachine.Proofs.Sorts

/-!
# Reading a description back

What is read from the description of a machine, if the machine was itself read
from one (`machine_reads`). The reading never fails, and nothing is read but:

* actions and parameters without a name are left out;
* of the actions, those with the name of the directive empty the stack;
* lines, and texts of the machine, that do not count as set are the default ones,
  as are the lines of the machine and of its maps, which are not written;
* the guards of a state are put together to transitions once more.
-/

namespace StateMachine

/-! ## Readings that come to something -/

namespace Load

variable {α β ι : Type}

/-- The reading comes to `a`, after whatever records. -/
def Reads (x : Load α) (a : α) : Prop :=
  ∀ records, ∃ records', x.run.run records = (.ok a, records')

namespace Reads

variable {x : Load α} {a : α}

theorem pure (a : α) : Reads (Pure.pure a) a :=
  fun records => ⟨records, rfl⟩

theorem bind {k : α → Load β} {b : β} (hx : Reads x a) (hk : Reads (k a) b) :
    Reads (x >>= k) b := by
  intro records
  obtain ⟨records₁, h₁⟩ := hx records
  obtain ⟨records₂, h₂⟩ := hk records₁
  have he : (x >>= k).run.run records = match x.run.run records with
      | (r, records') => (ExceptT.bindCont k r : StateM _ _) records' := rfl
  exact ⟨records₂, by rw [he, h₁]; exact h₂⟩

theorem report (level : Level) (message : String) : Reads (Load.report level message) () :=
  fun _ => ⟨_, rfl⟩

/-- A list is walked through item by item. -/
theorem elements (items : List Value) : Reads (Load.elements (.list items)) items :=
  pure items

/-- The parts collected from entries are those each of them comes to. -/
theorem collect {read : Value → Load (Option α)} {write : ι → Value} {part? : ι → Option α}
    {is : List ι} (h : ∀ i ∈ is, Reads (read (write i)) (part? i)) :
    Reads (Load.collect read (is.map write)) (is.filterMap part?) := by
  induction is with
  | nil => exact pure []
  | cons i is ih =>
    obtain ⟨hi, his⟩ := List.forall_mem_cons.1 h
    refine hi.bind ((ih his).bind ?_)
    have hcons : (part? i).toList ++ is.filterMap part? = (i :: is).filterMap part? := by
      cases hpart : part? i <;> simp [hpart]
    exact hcons ▸ pure _

/-- Where no entry is left out, the parts are those of the entries. -/
theorem collect_all {read : Value → Load (Option α)} {write : ι → Value} {part : ι → α}
    {is : List ι} (h : ∀ i ∈ is, Reads (read (write i)) (some (part i))) :
    Reads (Load.collect read (is.map write)) (is.map part) := by
  have hall := collect h
  rwa [List.filterMap_eq_map'] at hall

theorem outcome (h : Reads x a) : x.outcome.1 = .ok a := by
  obtain ⟨records, hx⟩ := h []
  rw [Load.outcome, hx]

end Reads
end Load

/-! ## Members of a description -/

namespace Description

variable {key k : String} {v : Value} {ms : List (Option (String × Value))}

@[simp]
theorem get?_object_nil : (object []).get? key = none :=
  rfl

@[simp]
theorem get?_object_always :
    (object (always k v :: ms)).get? key = if k = key then some v else (object ms).get? key :=
  rfl

@[simp]
theorem get?_object_ifSet : (object (ifSet k v :: ms)).get? key =
    if k = key ∧ v.isSet = true then some v else (object ms).get? key := by
  by_cases hset : v.isSet = true
  · rw [ifSet, if_pos hset]
    simp only [hset, and_true]
    rfl
  · rw [ifSet, if_neg hset, if_neg fun h => hset h.2]
    rfl

@[simp]
theorem get?_object_ifGiven {v : Option Value} : (object (ifGiven k v :: ms)).get? key =
    if k = key then v.or ((object ms).get? key) else (object ms).get? key := by
  cases v with
  | none => simp [ifGiven, object]
  | some v =>
    rw [Option.some_or]
    rfl

end Description

/-! ## What is read back -/

/-- The value, where it counts as set; `default` otherwise. -/
def Value.settle (v default : Value) : Value :=
  if v.isSet then v else default

/-- An action as it is read back. -/
def Action.settle (a : Action) : Action :=
  { a with
    emptiesStack := a.name == .str emptyStackName
    line := a.line.settle (.int 0) }

/-- The actions that are read back. -/
def Action.reread (as : List Action) : List Action :=
  as.filterMap fun a => if a.name.isSet then some a.settle else none

/-- The parameters that are read back, on a line. -/
def Parameter.reread (line : Value) (ps : List Parameter) : List Parameter :=
  ps.filterMap fun p => if p.name.isSet then some { p with line := line } else none

/-- A guard as it is read back. -/
def Guard.reread (g : Guard) : Guard :=
  { g with actions := Action.reread g.actions, line := g.line.settle (.int 0) }

/-- The transition read back from the entry of a guard. -/
def Transition.reread (t : Transition) (g : Guard) : Transition where
  name := t.name
  parameters := Parameter.reread (g.line.settle (.int 0)) t.parameters
  guards := [g.reread]
  line := g.line.settle (.int 0)

/-- The guards of a state, each with its transition. -/
def State.branches (s : State) : List (Transition × Guard) :=
  s.transitions.flatMap fun t => t.guards.map fun g => (t, g)

/-- A state as it is read back, one guard after the other. -/
def State.reread (s : State) : State :=
  (s.branches.map fun b => b.1.reread b.2).foldl State.addTransition
    { s with
      entry := s.entry.map Action.reread
      exit := s.exit.map Action.reread
      transitions := []
      line := s.line.settle (.int 0) }

/-- A map as it is read back. -/
def StateMap.reread (m : StateMap) : StateMap where
  name := m.name
  states := m.states.map State.reread
  default? := m.default?.map State.reread
  line := .int 0

/-- A machine as it is read back. -/
def Machine.reread (m : Machine) : Machine :=
  { m with
    maps := m.maps.map StateMap.reread
    fsmClass := m.fsmClass.settle (.str "")
    source := m.source.settle (.str "")
    header := m.header.settle (.str "")
    package := m.package.settle (.str "")
    access := m.access.settle (.str "")
    line := .int 0 }

theorem State.map_branches {α : Type} (s : State) (f : Transition → Guard → α) :
    (s.branches.map fun b => f b.1 b.2) = s.transitions.flatMap fun t => t.guards.map (f t) := by
  simp [State.branches, List.map_flatMap, Function.comp_def]

theorem Value.settle_eq_self {v : Value} (h : v.Settled) : v.settle (.str "") = v := by
  rw [Value.settle]
  rcases h with h | rfl
  · rw [if_pos h]
  · rfl

theorem Value.settle_list (items : List Value) :
    (Value.list items).settle (.list []) = .list items := by
  cases items <;> rfl

theorem Value.isSet_settle {v default : Value} (h : default.isSet = false) :
    (v.settle default).isSet = v.isSet := by
  rw [Value.settle]
  split
  · rfl
  · next hset => rw [h, Bool.eq_false_iff.2 hset]

/-! ## The reader -/

namespace Description

/-- A member that is written if it is set. -/
theorem getD_ifSet {v w default : Value} {key : String}
    (h : v.get? key = if w.isSet = true then some w else none) :
    v.getD key default = w.settle default := by
  rw [Value.getD, h, Value.settle]
  split <;> rfl

/-- A state has one entry for each of its guards. -/
theorem get?_transitions (s : State) : (state s).get? "transitions" =
    some (.list (s.branches.map fun b => entry b.1 b.2)) := by
  have hentries : s.transitions.flatMap entries = s.branches.map fun b => entry b.1 b.2 :=
    (s.map_branches entry).symm
  simp [state, hentries]

end Description

namespace Load

theorem action_reads (a : Action) :
    Reads (action (Description.action a)) (if a.name.isSet then some a.settle else none) := by
  have hname : (Description.action a).getD "name" .null = a.name := by
    simp [Value.getD, Description.action]
  have hnamed : isNamed (Description.action a) = a.name.isSet := by rw [isNamed, hname]
  have harguments : (Description.action a).getD "arguments" (.list []) =
      .list (a.arguments.map .str) := by
    simp [Value.getD, Description.action]
  -- a flag that is not written is not set, and that is how it is read
  have hproperty : ((Description.action a).getD "property" (.bool false)).isSet = a.property := by
    cases h : a.property <;> simp [Value.getD, Description.action, Value.isSet, h]
  have hstatic : ((Description.action a).getD "static" (.bool false)).isSet = a.static := by
    cases h : a.static <;> simp [Value.getD, Description.action, Value.isSet, h]
  have hline : (Description.action a).getD "line" (.int 0) = a.line.settle (.int 0) :=
    Description.getD_ifSet (by simp [Description.action])
  rw [action.eq_def]
  split
  · rw [hnamed]
    split
    · rw [harguments, hname, hproperty, hstatic, hline]
      refine (Reads.elements _).bind ?_
      have htexts : (a.arguments.map Value.str).map Value.text = a.arguments := by
        simp [Function.comp_def, Value.text]
      rw [htexts]
      exact .pure _
    · exact (Reads.report _ _).bind (.pure _)
  · next h => cases h
  · next h _ => exact (h _ rfl).elim

theorem actions?_reads (as : List Action) :
    Reads (actions? (Description.actions as)) (some (Action.reread as)) :=
  (Reads.elements _).bind ((Reads.collect fun a _ => action_reads a).bind (.pure _))

/-- The actions on entry or exit, where a state declares any. -/
theorem actionBlock_reads {v : Value} {key : String} {block : Option (List Action)}
    (h : v.get? key = block.map Description.actions) :
    Reads (actions? (v.getD key .null)) (block.map Action.reread) := by
  rw [Value.getD, h]
  cases block with
  | none => exact .pure none
  | some as => exact actions?_reads as

theorem parameter_reads (line : Value) (p : Parameter) :
    Reads (parameter line (Description.parameter p))
      (if p.name.isSet then some { p with line := line } else none) := by
  have hname : (Description.parameter p).getD "name" .null = p.name := by
    simp [Value.getD, Description.parameter]
  have htype : (Description.parameter p).getD "type" (.str "") = p.type := by
    simp [Value.getD, Description.parameter]
  rw [parameter.eq_def]
  split
  · next h => cases h
  · rw [isNamed, hname, htype]
    split
    · exact .pure _
    · exact (Reads.report _ _).bind (.pure _)

/-- A text of a guard that is written if it is set. -/
theorem settled_eq_self {v w : Value} {key : String} (hw : w.Settled)
    (h : v.get? key = if w.isSet = true then some w else none) : settled v key = w := by
  rw [settled, Description.getD_ifSet h, Value.settle_eq_self hw]
  exact Value.settle_eq_self hw

theorem transition_reads {S : Sorts} {t : Transition} {g : Guard} (hg : g.Fits S) :
    Reads (transition (Description.entry t g)) (t.reread g) := by
  have hname : (Description.entry t g).getD "name" .null = t.name := by
    simp [Value.getD, Description.entry]
  have hword : Text.lower ((Description.entry t g).getD "type" (.str "set")).text = g.move.word := by
    have hget : (Description.entry t g).getD "type" (.str "set") = .str g.move.word := by
      simp [Value.getD, Description.entry]
    rw [hget]
    cases g.move <;> decide +kernel
  have hmove : Move.ofWord? g.move.word = some g.move := by cases g.move <;> rfl
  have hline : (Description.entry t g).getD "line" (.int 0) = g.line.settle (.int 0) :=
    Description.getD_ifSet (by simp [Description.entry])
  have hparameters : (Description.entry t g).getD "parameters" (.list []) =
      .list (t.parameters.map Description.parameter) := by
    simp [Value.getD, Description.entry]
  have hactions : (Description.entry t g).getD "actions" .null = Description.actions g.actions := by
    simp [Value.getD, Description.entry]
  obtain ⟨hcondition, hend, hpush, hpop⟩ : g.condition.Settled ∧ g.endState.Settled ∧
      g.pushState.Settled ∧ g.popArguments.Settled := by
    simpa using fun v hv => (hg.texts v hv).2
  have hguard : settled (Description.entry t g) "guard" = g.condition :=
    settled_eq_self hcondition (by simp [Description.entry])
  -- of the texts of a guard, this one is written whether or not it is set
  have hendState : settled (Description.entry t g) "end_state" = g.endState := by
    have hget : (Description.entry t g).getD "end_state" (.str "") = g.endState := by
      simp [Value.getD, Description.entry]
    rw [settled, hget]
    exact Value.settle_eq_self hend
  have hpushState : settled (Description.entry t g) "push_state" = g.pushState :=
    settled_eq_self hpush (by simp [Description.entry])
  have hpopArguments : settled (Description.entry t g) "pop_args" = g.popArguments :=
    settled_eq_self hpop (by simp [Description.entry])
  rw [transition, hword, hmove, hname, hline, hparameters, hactions, hguard, hendState, hpushState,
    hpopArguments]
  refine (Reads.elements _).bind ?_
  refine (Reads.collect fun p _ => parameter_reads _ p).bind ?_
  exact (actions?_reads g.actions).bind (.pure _)

theorem transitionEntry_reads {S : Sorts} (scopedName : String) {t : Transition} (ht : t.Fits S)
    {g : Guard} (hg : g ∈ t.guards) :
    Reads (transitionEntry scopedName (Description.entry t g)) (some (t.reread g)) := by
  have hnamed : isNamed (Description.entry t g) = true := by
    rw [isNamed, show (Description.entry t g).getD "name" .null = t.name by
      simp [Value.getD, Description.entry]]
    exact ht.named
  rw [transitionEntry, if_pos hnamed]
  exact (transition_reads (ht.guards g hg)).bind (.pure _)

theorem state_reads {S : Sorts} (mapName : Value) {s : State} (hname : s.name ≠ "")
    (hs : s.Fits S) : Reads (state mapName (Description.state s)) (some s.reread) := by
  have hget : (Description.state s).getD "name" .null = .str s.name := by
    simp [Value.getD, Description.state]
  have hnamed : isNamed (Description.state s) = true := by
    rw [isNamed, hget]
    simpa [Value.isSet] using hname
  have hline : (Description.state s).getD "line" (.int 0) = s.line.settle (.int 0) :=
    Description.getD_ifSet (by simp [Description.state])
  have hentry : (Description.state s).get? "entry" = s.entry.map Description.actions := by
    simp [Description.state]
  have hexit : (Description.state s).get? "exit" = s.exit.map Description.actions := by
    simp [Description.state]
  have htransitions : (Description.state s).getD "transitions" (.list []) =
      .list (s.branches.map fun b => Description.entry b.1 b.2) := by
    rw [Value.getD, Description.get?_transitions, Option.getD_some]
  rw [state, if_pos hnamed, hget, hline, htransitions]
  refine (actionBlock_reads hentry).bind ((actionBlock_reads hexit).bind ?_)
  refine (Reads.elements _).bind (Reads.bind (Reads.collect_all fun b hb => ?_) (.pure _))
  obtain ⟨t, ht, hb⟩ := List.mem_flatMap.1 hb
  obtain ⟨g, hg, rfl⟩ := List.mem_map.1 hb
  exact transitionEntry_reads _ (hs.transitions t ht) hg

/-- A state that is read back is a Default State if it was one. -/
theorem isDefault_reread (s : State) : s.reread.isDefault = s.isDefault := by
  have hname : ∀ (ts : List Transition) (s : State),
      (ts.foldl State.addTransition s).name = s.name := by
    intro ts
    induction ts with
    | nil => exact fun _ => rfl
    | cons t ts ih => exact fun s => ih (s.addTransition t)
  rw [State.isDefault, State.isDefault, State.reread, hname]

/-- The Default State comes first, and the real states follow. -/
theorem foldl_addState_reread {m : StateMap} (hwf : m.WellFormed) :
    (m.allStates.map State.reread).foldl StateMap.addState ⟨m.name, [], none, .int 0⟩ = m.reread := by
  -- real states are added behind those that are there, and do not touch the Default State
  have hreal : ∀ (ss before : List State) (d : Option State), (∀ s ∈ ss, s.isDefault = false) →
      (ss.map State.reread).foldl StateMap.addState ⟨m.name, before, d, .int 0⟩ =
        ⟨m.name, before ++ ss.map State.reread, d, .int 0⟩ := by
    intro ss
    induction ss with
    | nil => simp
    | cons s ss ih =>
      intro before d hss
      obtain ⟨hs, hss⟩ := List.forall_mem_cons.1 hss
      rw [List.map_cons, List.foldl_cons, StateMap.addState, isDefault_reread, if_neg (by simp [hs]),
        ih _ _ hss, List.append_assoc]
      rfl
  rw [StateMap.allStates, List.map_append, List.foldl_append]
  cases hd : m.default? with
  | none =>
    rw [StateMap.reread, hd]
    exact hreal m.states [] none hwf.real
  | some d =>
    have hfirst : StateMap.addState ⟨m.name, [], none, .int 0⟩ d.reread =
        ⟨m.name, [], some d.reread, .int 0⟩ := by
      rw [StateMap.addState, isDefault_reread, if_pos (hwf.default_isDefault d hd)]
    rw [StateMap.reread, hd]
    simp only [Option.toList_some, List.map_cons, List.map_nil, List.foldl_cons, List.foldl_nil,
      hfirst]
    exact hreal m.states [] (some d.reread) hwf.real

theorem map_reads {S : Sorts} {m : StateMap} (hwf : m.WellFormed) (hm : m.Fits S) :
    Reads (map (Description.map m)) (some m.reread) := by
  have hget : (Description.map m).getD "name" .null = m.name := by
    simp [Value.getD, Description.map]
  have hnamed : isNamed (Description.map m) = true := by
    rw [isNamed, hget]
    exact hm.named
  have hline : (Description.map m).getD "line" (.int 0) = .int 0 := by
    simp [Value.getD, Description.map]
  have hstates : (Description.map m).getD "states" (.list []) =
      .list (m.allStates.map Description.state) := by
    simp [Value.getD, Description.map]
  have hnames : ∀ s ∈ m.allStates, s.name ≠ "" := by
    intro s hs
    rcases List.mem_append.1 hs with hs | hs
    · exact (hwf.default s (Option.mem_toList.1 hs)).named
    · exact (hwf.states s hs).named
  have hcollect : Reads (collect (state m.name) (m.allStates.map Description.state))
      (m.allStates.map State.reread) :=
    .collect_all fun s hs => state_reads _ (hnames s hs) (hm.states s hs)
  rw [map, if_pos hnamed, hget, hline, hstates]
  refine (Reads.elements _).bind (hcollect.bind ?_)
  rw [← foldl_addState_reread hwf]
  exact .pure _

/-- What is read from the description of a machine that was read. -/
theorem machine_reads {S : Sorts} {m : Machine} (hwf : m.WellFormed) (hm : m.Fits S) :
    Reads (machine m.description .null) m.reread := by
  have hname : m.description.getD "name" .null = m.name := by
    simp [Value.getD, Machine.description, Description.machine]
  have hfirst : firstSet [.null, m.name, m.description.getD "class" .null] (.str "UntitledFSM") =
      m.name := by
    rw [firstSet, if_neg (by simp [Value.isSet]), firstSet, if_pos hm.named]
  have hcontext : m.description.getD "class" (.str "") = m.context := by
    simp [Value.getD, Machine.description, Description.machine]
  have hstart : m.description.getD "start" (.str "") = m.start := by
    simp [Value.getD, Machine.description, Description.machine]
  have himports : m.description.getD "imports" (.list []) = .list m.imports := by
    rw [← Value.settle_list m.imports]
    exact Description.getD_ifSet (by simp [Machine.description, Description.machine])
  have hincludes : m.description.getD "includes" (.list []) = .list m.includes := by
    rw [← Value.settle_list m.includes]
    exact Description.getD_ifSet (by simp [Machine.description, Description.machine])
  have hmaps : m.description.getD "maps" (.list []) = .list (m.maps.map Description.map) := by
    simp [Value.getD, Machine.description, Description.machine]
  have hline : m.description.getD "line" (.int 0) = .int 0 := by
    simp [Value.getD, Machine.description, Description.machine]
  have hfsmClass : m.description.getD "fsmclass" (.str "") = m.fsmClass.settle (.str "") :=
    Description.getD_ifSet (by simp [Machine.description, Description.machine])
  have hsource : m.description.getD "source" (.str "") = m.source.settle (.str "") :=
    Description.getD_ifSet (by simp [Machine.description, Description.machine])
  have hheader : m.description.getD "header" (.str "") = m.header.settle (.str "") :=
    Description.getD_ifSet (by simp [Machine.description, Description.machine])
  have hpackage : m.description.getD "package" (.str "") = m.package.settle (.str "") :=
    Description.getD_ifSet (by simp [Machine.description, Description.machine])
  have haccess : m.description.getD "access" (.str "") = m.access.settle (.str "") :=
    Description.getD_ifSet (by simp [Machine.description, Description.machine])
  rw [machine.eq_def]
  split
  · rw [hname, hfirst, hcontext, hstart, himports, hincludes, hmaps, hline, hfsmClass, hsource,
      hheader, hpackage, haccess]
    refine (Reads.elements _).bind ((Reads.elements _).bind ((Reads.elements _).bind ?_))
    refine (Reads.collect_all fun map hmap => ?_).bind ((Reads.report _ _).bind (.pure _))
    exact map_reads (hwf map hmap) (hm.maps map hmap)
  · next h => exact (h _ rfl).elim

end Load
end StateMachine
