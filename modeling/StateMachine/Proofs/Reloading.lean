import StateMachine.Proofs.Lines
import StateMachine.Proofs.RoundTrip

/-!
# Machines that are loaded again

A nameable machine, read from a description with texts and integers where these
belong, is described and read once more. It is the same machine without the lines
of the machine and its maps, which are not written, but for one thing: whether an
action empties the stack is told from its name alone
(`reloads_flagged`). A property `emptyStateStack` that is assigned to in shorthand
does not empty the stack, but does when it was loaded again.

So if every action of this name is the directive, the machine that is loaded again
does what the machine does: all simulations agree (`Simulator.Agrees`), and the
generated files are the same.
-/

namespace StateMachine

variable {σ V : Type}

/-! ## The actions of a machine -/

/-- The actions of a state: on entry, on exit, and of its guards. -/
def State.actions (s : State) : List Action :=
  s.entry.getD [] ++ s.exit.getD [] ++ s.transitions.flatMap fun t => t.guards.flatMap Guard.actions

/-- The actions of a machine. -/
def Machine.actions (m : Machine) : List Action :=
  m.maps.flatMap fun map => map.allStates.flatMap State.actions

/-- The guard with changed actions. -/
def Guard.mapActions (f : Action → Action) (g : Guard) : Guard :=
  { g with actions := g.actions.map f }

/-- The transition with changed actions. -/
def Transition.mapActions (f : Action → Action) (t : Transition) : Transition :=
  { t with guards := t.guards.map (Guard.mapActions f) }

/-- The state with changed actions. -/
def State.mapActions (f : Action → Action) (s : State) : State :=
  { s with
    entry := s.entry.map (List.map f)
    exit := s.exit.map (List.map f)
    transitions := s.transitions.map (Transition.mapActions f) }

/-- The map with changed actions. -/
def StateMap.mapActions (f : Action → Action) (m : StateMap) : StateMap :=
  { m with
    states := m.states.map (State.mapActions f)
    default? := m.default?.map (State.mapActions f) }

/-- The machine with changed actions. -/
def Machine.mapActions (f : Action → Action) (m : Machine) : Machine :=
  { m with maps := m.maps.map (StateMap.mapActions f) }

section MapActions

variable {f : Action → Action}

theorem map_eq_self {α : Type} {f : α → α} {xs : List α} (h : ∀ x ∈ xs, f x = x) : xs.map f = xs :=
  (List.map_congr_left h).trans (List.map_id xs)

theorem State.mapActions_eq_self {s : State} (h : ∀ a ∈ s.actions, f a = a) :
    s.mapActions f = s := by
  have hblock : ∀ block : Option (List Action), (∀ a ∈ block.getD [], f a = a) →
      block.map (List.map f) = block := by
    intro block hblock
    cases block with
    | none => rfl
    | some as => exact congrArg some (map_eq_self hblock)
  have hentry := hblock s.entry fun a ha =>
    h a (List.mem_append_left _ (List.mem_append_left _ ha))
  have hexit := hblock s.exit fun a ha =>
    h a (List.mem_append_left _ (List.mem_append_right _ ha))
  have htransitions : s.transitions.map (Transition.mapActions f) = s.transitions := by
    refine map_eq_self fun t ht => ?_
    have hguards : t.guards.map (Guard.mapActions f) = t.guards := by
      refine map_eq_self fun g hg => ?_
      have hactions : g.actions.map f = g.actions := map_eq_self fun a ha =>
        h a (List.mem_append_right _
          (List.mem_flatMap.2 ⟨t, ht, List.mem_flatMap.2 ⟨g, hg, ha⟩⟩))
      rw [Guard.mapActions, hactions]
    rw [Transition.mapActions, hguards]
  rw [State.mapActions, hentry, hexit, htransitions]

/-- A machine none of whose actions is changed is not changed. -/
theorem Machine.mapActions_eq_self {m : Machine} (h : ∀ a ∈ m.actions, f a = a) :
    m.mapActions f = m := by
  have hmaps : m.maps.map (StateMap.mapActions f) = m.maps := by
    refine map_eq_self fun map hmap => ?_
    have hstate : ∀ s ∈ map.allStates, s.mapActions f = s := fun s hs =>
      State.mapActions_eq_self fun a ha =>
        h a (List.mem_flatMap.2 ⟨map, hmap, List.mem_flatMap.2 ⟨s, hs, ha⟩⟩)
    have hstates : map.states.map (State.mapActions f) = map.states :=
      map_eq_self fun s hs => hstate s (List.mem_append_right _ hs)
    have hdefault : map.default?.map (State.mapActions f) = map.default? := by
      cases hd : map.default? with
      | none => rfl
      | some d =>
        refine congrArg some (hstate d (List.mem_append_left _ ?_))
        rw [hd]
        exact List.mem_singleton_self d
    rw [StateMap.mapActions, hstates, hdefault]
  rw [Machine.mapActions, hmaps]

end MapActions

/-! ## What is loaded again -/

/-- The action, emptying the stack if it has the name of the directive. -/
def Action.flagged (a : Action) : Action :=
  { a with emptiesStack := a.name == .str emptyStackName }

namespace Sorts

theorem settle_line {v : Value} (h : plain.line v) : v.settle (.int 0) = v := by
  obtain ⟨i, rfl⟩ := h
  rw [Value.settle]
  split
  · rfl
  · next hset =>
    have hzero : i = 0 := by simpa [Value.isSet] using hset
    rw [hzero]

theorem settle_text {v : Value} (h : plain.text v) : v.settle (.str "") = v := by
  cases v with
  | str s => exact Value.settle_eq_self (Value.settled_str s)
  | _ => cases h

end Sorts

theorem Action.Fits.settle_eq {a : Action} (ha : a.Fits .plain) : a.settle = a.flagged := by
  rw [Action.settle, Action.flagged, Sorts.settle_line ha.line]

theorem Guard.Fits.settle_eq {g : Guard} (hg : g.Fits .plain) :
    g.settle = g.mapActions Action.flagged := by
  rw [Guard.settle, Guard.mapActions, Sorts.settle_line hg.line,
    List.map_congr_left fun a ha => (hg.actions a ha).settle_eq]

theorem Transition.Fits.settle_eq {t : Transition} (ht : t.Fits .plain) :
    t.settle = t.mapActions Action.flagged := by
  obtain ⟨g, gs, hguards, hline⟩ := ht.first
  have hsettle : t.line.settle (.int 0) = t.line := by
    rw [← hline]
    exact Sorts.settle_line (ht.guards g (hguards ▸ List.mem_cons_self)).line
  -- a parameter is put on the line of its transition, where it was
  have hparameters : t.parameters.map (fun p => { p with line := t.line }) = t.parameters :=
    map_eq_self fun p hp => by rw [← (ht.parameters p hp).line_eq]
  rw [Transition.settle, Transition.mapActions, hsettle, hparameters,
    List.map_congr_left fun g hg => (ht.guards g hg).settle_eq]

theorem State.Fits.settle_eq {s : State} (hs : s.Fits .plain) :
    s.settle = s.mapActions Action.flagged := by
  have hblock : ∀ block : Option (List Action), (∀ as ∈ block, ∀ a ∈ as, a.Fits .plain) →
      block.map (List.map Action.settle) = block.map (List.map Action.flagged) := fun block h =>
    Option.map_congr fun as has => List.map_congr_left fun a ha => (h as has a ha).settle_eq
  rw [State.settle, State.mapActions, hblock s.entry hs.entry, hblock s.exit hs.exit,
    Sorts.settle_line hs.line, List.map_congr_left fun t ht => (hs.transitions t ht).settle_eq]

/-- A nameable machine of texts and integers is read back as it was, but for the lines of
    the machine and its maps, and with every action flagged. -/
theorem Machine.reread_eq_flagged {m : Machine} (hm : m.Fits .plain) (hn : m.Nameable) :
    m.reread = (m.mapActions Action.flagged).unlined := by
  have hstate : ∀ map ∈ m.maps, ∀ s ∈ map.allStates, s.reread = s.mapActions Action.flagged := by
    intro map hmap s hs
    have hfits := (hm.maps map hmap).states s hs
    rw [State.reread_eq_settle hfits (hn map hmap s hs), hfits.settle_eq]
  have hmap : ∀ map ∈ m.maps, map.reread = (map.mapActions Action.flagged).unlined := by
    intro map hmap
    have hstates : map.states.map State.reread = map.states.map (State.mapActions Action.flagged) :=
      List.map_congr_left fun s hs => hstate map hmap s (List.mem_append_right _ hs)
    have hdefault : map.default?.map State.reread =
        map.default?.map (State.mapActions Action.flagged) :=
      Option.map_congr fun s hs =>
        hstate map hmap s (List.mem_append_left _ (Option.mem_toList.2 hs))
    rw [StateMap.reread, hstates, hdefault]
    rfl
  have hmaps : m.maps.map StateMap.reread = (m.mapActions Action.flagged).unlined.maps := by
    rw [Machine.unlined, Machine.mapActions, List.map_map]
    exact List.map_congr_left hmap
  -- the name, the context and the start state are always written, the other texts are not
  have htexts : ∀ v ∈ [m.fsmClass, m.source, m.header, m.package, m.access],
      v.settle (.str "") = v := fun v hv =>
    Sorts.settle_text (hm.texts v
      (List.mem_cons_of_mem _ (List.mem_cons_of_mem _ (List.mem_cons_of_mem _ hv))))
  simp only [List.forall_mem_cons] at htexts
  obtain ⟨hclass, hsource, hheader, hpackage, haccess, -⟩ := htexts
  rw [Machine.reread, hmaps, hclass, hsource, hheader, hpackage, haccess]
  rfl

theorem Machine.Fits.of_mem_actions {S : Sorts} {m : Machine} (hm : m.Fits S) {a : Action}
    (ha : a ∈ m.actions) : a.Fits S := by
  have hblock : ∀ block : Option (List Action), (∀ as ∈ block, ∀ a ∈ as, a.Fits S) →
      a ∈ block.getD [] → a.Fits S := by
    intro block h ha
    cases block with
    | none => cases ha
    | some as => exact h as rfl a ha
  obtain ⟨map, hmap, ha⟩ := List.mem_flatMap.1 ha
  obtain ⟨s, hs, ha⟩ := List.mem_flatMap.1 ha
  have hfits := (hm.maps map hmap).states s hs
  rw [State.actions, List.mem_append, List.mem_append] at ha
  rcases ha with (ha | ha) | ha
  · exact hblock s.entry hfits.entry ha
  · exact hblock s.exit hfits.exit ha
  · obtain ⟨t, ht, ha⟩ := List.mem_flatMap.1 ha
    obtain ⟨g, hg, ha⟩ := List.mem_flatMap.1 ha
    exact ((hfits.transitions t ht).guards g hg).actions a ha

/-- An action that is the directive if it has its name is flagged already. -/
theorem Action.Fits.flagged_eq_self {S : Sorts} {a : Action} (ha : a.Fits S)
    (h : a.name = .str emptyStackName → a.emptiesStack = true) : a.flagged = a := by
  have hflag : (a.name == .str emptyStackName) = a.emptiesStack := by
    rw [Bool.eq_iff_iff, Value.beq_str_iff]
    exact ⟨h, ha.directive⟩
  rw [Action.flagged, hflag]

/-! ## Loading again -/

/-- Of a nameable machine read from a description with texts and integers where these
    belong, the description can be read. This gives the machine without the lines of the
    machine and its maps, with every action flagged. If every action with the name of the
    directive is the directive, it is the machine itself without these lines, and its
    simulations and generated files are those of the machine. -/
theorem reloads_flagged {v : Value} (hv : Sorts.plain.Fits v) {m : Machine}
    (hm : (Load.machine v .null).outcome.1 = .ok m) (hn : m.Nameable) :
    ∃ m', (Load.machine m.description .null).outcome.1 = .ok m' ∧
      m' = (m.mapActions Action.flagged).unlined ∧
      ((∀ a ∈ m.actions, a.name = .str emptyStackName → a.emptiesStack = true) →
        m' = m.unlined ∧
        (∀ {σ V : Type} (sim : Simulator σ V), sim.machine = m →
          Simulator.Agrees { sim with machine := m' } sim) ∧
        ∀ g o base, m'.generateWith g o base = m.generateWith g o base) := by
  have hfits := Load.fits_of_outcome hv hm
  have hreread := (Load.machine_reads (Load.wellFormed_of_outcome hm) hfits).outcome
  rw [Machine.reread_eq_flagged hfits hn] at hreread
  refine ⟨_, hreread, rfl, fun hflags => ?_⟩
  have hflagged : m.mapActions Action.flagged = m :=
    Machine.mapActions_eq_self fun a ha =>
      (hfits.of_mem_actions ha).flagged_eq_self (hflags a ha)
  rw [hflagged]
  refine ⟨rfl, ?_, m.generateWith_unlined⟩
  rintro σ V sim rfl
  exact sim.agrees_unlined

/-! ## A lamp -/

/-- The description of a lamp that is switched on by a push, and does something when it
    is dimmed. -/
def lamp (action : Value) : Value :=
  .object [("class", .str "Lamp"), ("start", .str "Room::Off"), ("maps", .list [.object [
    ("name", .str "Room"),
    ("states", .list [
      .object [("name", .str "Off"), ("transitions", .list [
        .object [("name", .str "press"), ("type", .str "push"), ("end_state", .str "nil"),
          ("push_state", .str "On")]])],
      .object [("name", .str "On"), ("transitions", .list [
        .object [("name", .str "dim"), ("end_state", .str "nil"),
          ("actions", .list [action])]])]])]])]

open Simulator in
/-- The lamp. -/
def lampMachine (dims : Action) : Machine :=
  { doorMachine "" with
    name := .str "Lamp"
    context := .str "Lamp"
    start := .str "Room::Off"
    maps := [{
      name := .str "Room"
      states := [doorState "Off" [deskTransition "press" .push "nil" "On" []],
        doorState "On" [deskTransition "dim" .set "nil" "" [dims]]]
      default? := none
      line := .int 0 }] }

theorem lamp_fits {action : Value} (h : Sorts.plain.FitsAction action) :
    Sorts.plain.Fits (lamp action) := by
  have hpress : Sorts.plain.FitsEntry (.object [("name", .str "press"), ("type", .str "push"),
      ("end_state", .str "nil"), ("push_state", .str "On")]) :=
    ⟨by simp [Sorts.text_str], by simp, by simp [Value.Each], by simp [Value.Each]⟩
  have hdim : Sorts.plain.FitsEntry (.object [("name", .str "dim"), ("end_state", .str "nil"),
      ("actions", .list [action])]) :=
    ⟨by simp [Sorts.text_str], by simp, by simp [Value.Each], by simpa [Value.Each] using h⟩
  have hstate : ∀ (name : String) (entry : Value), Sorts.plain.FitsEntry entry →
      Sorts.plain.FitsState (.object [("name", .str name), ("transitions", .list [entry])]) :=
    fun name entry hentry => ⟨by simp, by simp [Value.Each], by simp [Value.Each],
      by simpa [Value.Each] using hentry⟩
  have hmap : ∀ states : List Value, (∀ s ∈ states, Sorts.plain.FitsState s) →
      Sorts.plain.FitsMap (.object [("name", .str "Room"), ("states", .list states)]) :=
    fun states hstates => ⟨by simp [Sorts.text_str], by simpa [Value.Each] using hstates⟩
  refine ⟨by simp [lamp, Sorts.text_str], by simp [lamp, Value.Each], by simp [lamp, Value.Each], ?_⟩
  simpa [lamp, Value.Each] using hmap _ (by simp [hstate _ _ hpress, hstate _ _ hdim])

/-- A lamp that empties the stack when it is dimmed is the same lamp when it was loaded
    again. -/
theorem dimmed_lamp_reloads :
    let m := lampMachine ⟨.str "emptyStateStack", [], false, false, true, .int 0⟩
    Sorts.plain.Fits (lamp (.str "emptyStateStack()")) ∧
      (Load.machine (lamp (.str "emptyStateStack()")) .null).outcome.1 = .ok m ∧ m.Nameable ∧
      (∀ a ∈ m.actions, a.name = .str emptyStackName → a.emptiesStack = true) ∧
      (Load.machine m.description .null).outcome.1 = .ok m.unlined ∧
      ∀ g o base, m.unlined.generateWith g o base = m.generateWith g o base := by
  intro m
  have hfits : Sorts.plain.Fits (lamp (.str "emptyStateStack()")) := lamp_fits ⟨by simp, by simp⟩
  have hloads : (Load.machine (lamp (.str "emptyStateStack()")) .null).outcome.1 = .ok m := by rfl
  have hnameable : m.Nameable := by decide +kernel
  have hflags : ∀ a ∈ m.actions, a.name = .str emptyStackName → a.emptiesStack = true :=
    List.forall_mem_singleton.2 fun _ => rfl
  obtain ⟨m', hm', -, hsame⟩ := reloads_flagged hfits hloads hnameable
  obtain ⟨rfl, -, hgenerate⟩ := hsame hflags
  exact ⟨hfits, hloads, hnameable, hflags, hm', hgenerate⟩

open Simulator in
/-- If dimming the lamp assigns to a property with the name of the directive, the lamp that
    is loaded again empties the stack instead. -/
theorem assigned_lamp_empties_stack :
    let m := lampMachine ⟨.str "emptyStateStack", ["1"], true, false, false, .int 0⟩
    let m' := lampMachine ⟨.str "emptyStateStack", ["1"], true, false, true, .int 0⟩
    let dimmed (m : Machine) :=
      let sim := deskWith diary m 0
      ((sim.issue (.str "dim") []).on ((sim.issue (.str "press") []).on (sim.start []).2).2).2
    Sorts.plain.Fits (lamp (.str "emptyStateStack = 1")) ∧
      (Load.machine (lamp (.str "emptyStateStack = 1")) .null).outcome.1 = .ok m ∧ m.Nameable ∧
      (Load.machine m.description .null).outcome.1 = .ok m' ∧
      m.actions.map Action.emptiesStack = [false] ∧ m'.actions.map Action.emptiesStack = [true] ∧
      (dimmed m).context.stack = ["Room::Off"] ∧ (dimmed m').context.stack = [] := by
  intro m m' dimmed
  exact ⟨lamp_fits ⟨by simp, by simp⟩, rfl, by decide +kernel, rfl, rfl, rfl, by decide +kernel,
    by decide +kernel⟩

end StateMachine
