import StateMachine.Proofs.ModuleLayout
import StateMachine.Proofs.References

/-!
# The layout of generated modules

A machine is *tidy* (`Machine.Tidy`) if what it copies into a module is: its names
are names, its conditions and arguments single lines, its actions and imports plain
lines of code, and there is no further text to be copied. The class table of a tidy
machine that was found valid is tidy, whatever is traced, protected, locked or
listed (`Machine.Tidy.classTable`), and so the module generated for it is laid out
(`generated_module_is_laid_out`). The states that guards name need no condition of
their own: they are scoped names of states.
-/

namespace StateMachine

open Text

/-! ## Tidy machines -/

/-- What the guard copies into its lines is tidy. -/
structure Guard.Tidy (g : Guard) : Prop where
  condition : isSingleLine g.condition.text = true
  popTransition : g.popTransition.isSet = true → isName g.popTransition.text = true
  popArguments : isSingleLine g.popArguments.text = true
  actions : ∀ a ∈ g.actions, isPlainLine 0 (ClassTable.statement a) = true

/-- What the transition copies into its lines is tidy. -/
structure Transition.Tidy (t : Transition) : Prop where
  text : t.name.isText = true
  name : isName t.name.text = true
  parameters : ∀ q ∈ t.parameters, isName q.name.text = true
  guards : ∀ g ∈ t.guards, g.Tidy

/-- What the machine copies into a module is tidy. -/
structure Machine.Tidy (m : Machine) : Prop where
  context : isName m.context.text = true
  fsmClass : m.fsmClass.isSet = true → isName m.fsmClass.text = true
  source : m.source.text = ""
  imports : ∀ i ∈ m.imports, isPlainLine 0 (PythonModule.importStatement i.text) = true
  maps : ∀ map ∈ m.maps, isName map.name.text = true
  states : ∀ map ∈ m.maps, ∀ s ∈ map.allStates, isName s.name = true
  transitions : ∀ p ∈ m.allPlaces, ∀ t ∈ p.state.transitions, t.Tidy
  blocks : ∀ p ∈ m.allPlaces, ∀ as, p.state.entry = some as ∨ p.state.exit = some as →
    ∀ a ∈ as, isPlainLine 0 (ClassTable.statement a) = true

/-- What the options copy into the head of a module are single lines. -/
structure Options.Tidy (o : Options) : Prop where
  sourceFileName : isSingleLine o.sourceFileName.text = true
  appName : isSingleLine o.appName.text = true
  appVersion : isSingleLine o.appVersion.text = true

namespace ClassTable

variable {m : Machine} {o : Options} {p start : Place}

/-! ## Branches -/

theorem isSingleLine_reference {name : String} (h : isSingleLine name = true) :
    isSingleLine (reference name) = true :=
  isSingleLine_replace (isSingleLine_ofList (by decide)) h

theorem isSingleLine_scopedName (hm : m.Tidy) (hp : p ∈ m.places) :
    isSingleLine p.scopedName = true := by
  obtain ⟨hmap, hs⟩ := Machine.mem_places.1 hp
  have hname := isSingleLine_of_isName (hm.maps p.map hmap)
  have hstate := isSingleLine_of_isName (hm.states p.map hmap p.state (List.mem_append_right _ hs))
  rw [Place.scopedName, StateMap.scopedName, isSingleLine_append, isSingleLine_append, hname, hstate]
  decide

theorem isSingleLine_stateLabel (hm : m.Tidy) (hp : p ∈ m.allPlaces) :
    isSingleLine (stateLabel p.map p.state) = true := by
  obtain ⟨hmap, hs⟩ := Machine.mem_allPlaces.1 hp
  have hname := isSingleLine_of_isName (hm.maps p.map hmap)
  have hstate := isSingleLine_of_isName (hm.states p.map hmap p.state hs)
  rw [stateLabel, isSingleLine_append, isSingleLine_append, hname]
  split
  · decide
  · rw [hstate]
    decide

/-- A state found for a guard is referred to by a single line. -/
theorem isSingleLine_found (hm : m.Tidy) {map : StateMap} (hmap : map ∈ m.maps) {name : String}
    {q : Place} (hq : m.findState? name (some map) = some q) :
    isSingleLine (reference (scopeName name map.name.text)) = true := by
  rw [Machine.scopeName_of_findState? hq]
  refine isSingleLine_reference (isSingleLine_scopedName hm ?_)
  exact Machine.mem_places_of_findState? (by rintro _ ⟨⟩; exact hmap) hq

theorem isSingleLine_endState (hm : m.Tidy) (hmap : p.map ∈ m.maps) {t : Transition} {g : Guard}
    (hg : g.Valid m p.map) (index count : Nat) :
    isSingleLine (branch o p t g index count).endState = true := by
  have hempty : isSingleLine (reference "") = true := by decide
  change isSingleLine (if g.isLoopback then savedState else reference
    (if g.hasTarget then scopeValue g.endState p.map.name.text else .str "").text) = true
  split
  · exact isSingleLine_ofList (by decide)
  · next hloop =>
    split
    · next htarget =>
      -- the guard has an end state that the check found, as it is not nil
      rw [Guard.hasTarget, Bool.and_eq_true, Bool.and_eq_true, bne_iff_ne] at htarget
      obtain ⟨name, hname, hnil | ⟨q, hq⟩⟩ := hg.endState htarget.1.1
      · rw [hname, hnil] at htarget
        exact absurd htarget.2 (by decide)
      · rw [hname]
        exact isSingleLine_found hm hmap hq
    · exact hempty

theorem isSingleLine_pushState (hm : m.Tidy) (hmap : p.map ∈ m.maps) {t : Transition} {g : Guard}
    (hg : g.Valid m p.map) (index count : Nat) :
    isSingleLine (branch o p t g index count).pushState = true := by
  change isSingleLine (reference
    (if g.move == .push then scopeValue g.pushState p.map.name.text else .str "").text) = true
  split
  · next hmove =>
    obtain ⟨name, hname, q, hq⟩ := hg.pushState (beq_iff_eq.1 hmove)
    rw [hname]
    exact isSingleLine_found hm hmap hq
  · decide

/-- The branch of a valid guard is tidy. -/
theorem branch_tidy (hm : m.Tidy) (hp : p ∈ m.allPlaces) {t : Transition} (ht : t.Tidy) {g : Guard}
    (hg : g.Tidy) (hvalid : g.Valid m p.map) (index count : Nat) :
    (branch o p t g index count).Tidy := by
  obtain ⟨hmap, -⟩ := Machine.mem_allPlaces.1 hp
  have hlabel : isSingleLine (stateLabel p.map p.state ++ "." ++ t.name.text ++ "("
      ++ joined ", " (t.parameters.map fun q => q.name.text) ++ ")") = true := by
    have hparameters : isSingleLine (joined ", " (t.parameters.map fun q => q.name.text)) = true :=
      isSingleLine_joined (isSingleLine_ofList (by decide))
        (List.forall_mem_map.2 fun q hq => isSingleLine_of_isName (ht.parameters q hq))
    simp only [isSingleLine_append, isSingleLine_stateLabel hm hp, isSingleLine_of_isName ht.name,
      hparameters]
    decide
  constructor
  case condition =>
    exact isSingleLine_of_subset hg.condition fun c hc => by
      rw [branch, Guard.conditionText, trim, onChars, String.toList_ofList] at hc
      exact (isPart_trimBy _ _).subset hc
  case label => exact isSingleLine_escape hlabel
  case actions => exact List.forall_mem_map.2 hg.actions
  case endState => exact isSingleLine_endState hm hmap hvalid index count
  case pushState => exact isSingleLine_pushState hm hmap hvalid index count
  case popTransition =>
    have hname := hg.popTransition
    change isSingleLine g.popTransition.text = true
    rw [Guard.popTransition] at hname ⊢
    split
    · next hpops =>
      rw [if_pos hpops, Bool.and_eq_true, Bool.and_eq_true] at *
      exact isSingleLine_of_isName (hname hpops.1.2)
    · decide
  case popArguments =>
    change isSingleLine (if g.popTransition.isSet then g.popArguments else .str "").text = true
    split
    · exact hg.popArguments
    · decide
  case commits =>
    intro hprotected
    have hactions : g.hasActions = true := (Bool.and_eq_true_iff.1 hprotected).1
    refine ⟨?_, ?_⟩
    · change g.actions.map statement ≠ []
      simpa [Guard.hasActions] using hactions
    · change (g.move == .set && (g.hasActions || !g.isLoopback) || g.move == .push
        || g.move == .pop) = true
      rw [hactions]
      cases g.move <;> rfl
  case acts =>
    change (!g.isLoopback || g.hasActions || g.move == .push
      || (g.move == .set && g.isLoopback && !g.hasActions)) = true
    cases hmove : g.move with
    | pop => rw [Guard.isLoopback, hmove]; rfl
    | push => simp
    | set => cases g.isLoopback <;> cases g.hasActions <;> rfl

/-! ## Classes -/

theorem overload_tidy (hm : m.Tidy) (hvalid : m.Valid) (hp : p ∈ m.allPlaces) {t : Transition}
    (ht : t ∈ p.state.transitions) : (overload o p t).Tidy := by
  have htidy := hm.transitions p hp t ht
  refine ⟨List.forall_mem_map.2 htidy.parameters, fun b hb => ?_, ?_⟩
  · obtain ⟨g, hg, i, rfl⟩ := exists_guard_of_mem_branches hb
    have hg := Transition.mem_ordered.1 hg
    exact branch_tidy hm hp htidy (htidy.guards g hg)
      ((hvalid.transitions p hp t ht).guards g hg) i _
  · -- a transition that does not go on has a guard that is always taken
    change t.unconditional?.isNone = true ∨ branches o p t t.ordered.length 0 t.ordered ≠ []
    cases hfind : t.unconditional? with
    | none => exact .inl rfl
    | some g =>
      have hg : g ∈ t.ordered := Transition.mem_ordered.2 (List.mem_of_find?_eq_some hfind)
      obtain ⟨b, hb, -⟩ := exists_branch o p t t.ordered.length 0 hg
      exact .inr (List.ne_nil_of_mem hb)

theorem isLine_parentClass (hm : m.Tidy) (hmap : p.map ∈ m.maps) :
    isLine 0 (parentClass m p) = true := by
  rw [parentClass]
  split
  · exact isLine_append (isLine_of_isName hm.context) (isSingleLine_ofList (by decide))
  · exact isLine_append (isLine_append (isLine_of_isName (hm.maps p.map hmap))
      (isSingleLine_ofList (by decide))) (isSingleLine_ofList (by decide))

theorem methods_tidy (hm : m.Tidy) (hvalid : m.Valid) (hp : p ∈ m.allPlaces) :
    ∀ new ∈ methods m o p, new.Tidy := by
  intro new hnew
  obtain ⟨hmap, -⟩ := Machine.mem_allPlaces.1 hp
  obtain ⟨t, ht, hname⟩ := exists_transition_of_mem_methods hnew
  have hsingle : isSingleLine new.name.text = true := by
    rw [← hname]
    exact isSingleLine_of_isName (hm.transitions p hp t ht).name
  refine ⟨hsingle, ?_, fun v hv => ?_⟩
  · rw [parent_of_mem_methods hnew]
    exact isLine_append (isLine_append (isLine_parentClass hm hmap)
      (isSingleLine_ofList (by decide))) hsingle
  · obtain ⟨t, ht, rfl, -⟩ := exists_transition_of_mem_overloads hnew v hv
    exact overload_tidy hm hvalid hp ht

/-- The collected names of transitions are names. -/
theorem transitionNames_tidy (hm : m.Tidy) :
    ∀ n ∈ StateMachine.transitionNames (signatureUnion m.transitions),
      n.isText = true ∧ isName n.text = true := by
  intro n hn
  obtain ⟨-, q, hq, rfl⟩ := exists_of_mem_transitionNames hn
  obtain ⟨hp, ht⟩ := Machine.mem_transitions.1 (mem_of_mem_signatureUnion hq)
  have htidy := hm.transitions q.place hp q.transition ht
  exact ⟨htidy.text, htidy.name⟩

variable {names : List Value}

theorem reflection_tidy (hnames : ∀ n ∈ names, n.isText = true ∧ isName n.text = true)
    (map : StateMap) (s : State) :
    ∀ table ∈ reflection o names map s, ∀ e ∈ table, isSingleLine e.1.literal = true := by
  intro table htable e he
  rw [reflection] at htable
  split at htable
  · cases htable
    obtain ⟨n, hn, rfl⟩ := List.mem_map.1 he
    rcases List.mem_append.1 hn with hn | hn
    · obtain ⟨htext, hname⟩ := hnames n hn
      change isSingleLine n.literal = true
      rw [Value.eq_str_of_isText htext]
      exact isSingleLine_quoted (isSingleLine_of_isName hname)
    · rw [List.mem_singleton.1 hn]
      exact isSingleLine_quoted (isSingleLine_ofList (by decide))
  · cases htable

/-- The class of a state is tidy, under a tidy name. -/
theorem stateClass_tidy (hm : m.Tidy) (hvalid : m.Valid)
    (hnames : ∀ n ∈ names, n.isText = true ∧ isName n.text = true) {name : String}
    (hname : isSingleLine name = true) (hp : p ∈ m.allPlaces) :
    (stateClass m o names name p).Tidy := by
  obtain ⟨hmap, -⟩ := Machine.mem_allPlaces.1 hp
  have hblock : ∀ {actions : Option (List Action)}, (∀ as, actions = some as →
      ∀ a ∈ as, isPlainLine 0 (statement a) = true) → ∀ b ∈ actions.map actionBlock, b.Tidy := by
    intro actions h b hb
    obtain ⟨as, has, rfl⟩ := Option.map_eq_some_iff.1 hb
    exact List.forall_mem_map.2 (h as has)
  exact
    { name := hname
      parent := (isLine_iff.1 (isLine_parentClass hm hmap)).2
      reflection := reflection_tidy hnames p.map p.state
      entry := hblock fun as has => hm.blocks p hp as (.inl has)
      exit := hblock fun as has => hm.blocks p hp as (.inr has)
      methods := methods_tidy hm hvalid hp }

/-- So is the class that stands in for a Default State. -/
theorem bareClass_tidy (hm : m.Tidy)
    (hnames : ∀ n ∈ names, n.isText = true ∧ isName n.text = true) {map : StateMap}
    (hmap : map ∈ m.maps) {name : String} (hname : isSingleLine name = true) :
    (stateClass m o names name ⟨map, bareDefault⟩).Tidy where
  name := hname
  parent := (isLine_iff.1 (isLine_parentClass hm hmap)).2
  reflection := reflection_tidy hnames map bareDefault
  entry := fun _ h => by cases h
  exit := fun _ h => by cases h
  methods := List.forall_mem_nil _

theorem mapClasses_tidy (hm : m.Tidy) (hvalid : m.Valid)
    (hnames : ∀ n ∈ names, n.isText = true ∧ isName n.text = true) {map : StateMap}
    (hmap : map ∈ m.maps) (index : StateIndex) : (mapClasses m o names index map).Tidy := by
  have hmapName := isSingleLine_of_isName (hm.maps map hmap)
  have hstate : ∀ s ∈ map.states, (⟨map, s⟩ : Place) ∈ m.allPlaces ∧ isName s.name = true :=
    fun s hs => ⟨Machine.mem_allPlaces.2 ⟨hmap, List.mem_append_right _ hs⟩,
      hm.states map hmap s (List.mem_append_right _ hs)⟩
  have hdefaultName : isSingleLine (defaultClassName map) = true := by
    rw [defaultClassName, isSingleLine_append, isSingleLine_append, hmapName]
    decide
  have hstateName : ∀ s ∈ map.states, isSingleLine (stateClassName map s) = true := by
    intro s hs
    rw [stateClassName, isSingleLine_append, isSingleLine_append, hmapName,
      isSingleLine_of_isName (hstate s hs).2, isSingleLine_ofList (by decide)]
    rfl
  refine ⟨hmapName, List.forall_mem_cons.2 ⟨?_, List.forall_mem_map.2 fun s hs => ?_⟩,
    List.forall_mem_map.2 fun s hs => ?_⟩
  · cases hdefault : map.default? with
    | none => exact bareClass_tidy hm hnames hmap hdefaultName
    | some s =>
      refine stateClass_tidy hm hvalid hnames hdefaultName (Machine.mem_allPlaces.2 ⟨hmap, ?_⟩)
      simp [StateMap.allStates, hdefault]
  · exact stateClass_tidy hm hvalid hnames (hstateName s hs) (hstate s hs).1
  · have hlabel : isSingleLine (stateLabel map s) = true :=
      isSingleLine_stateLabel (p := ⟨map, s⟩) hm (hstate s hs).1
    exact ⟨(hstate s hs).2, hstateName s hs, hlabel⟩

end ClassTable

/-- The class table of a tidy and valid machine is tidy. -/
theorem Machine.Tidy.classTable {m : Machine} (hm : m.Tidy) (hvalid : m.Valid) (o : Options)
    {start : Place} (hstart : m.startPlace? = some start) : (m.classTable o start).Tidy where
  base := by
    change isSingleLine (m.context.text ++ "State") = true
    rw [isSingleLine_append, isSingleLine_of_isName hm.context]
    decide
  transitionNames := fun n hn =>
    isSingleLine_of_isName (ClassTable.transitionNames_tidy hm n hn).2
  maps := List.forall_mem_map.2 fun _ hmap => ClassTable.mapClasses_tidy hm hvalid
    (ClassTable.transitionNames_tidy hm) hmap m.index
  contextClass := by
    change isSingleLine (if m.fsmClass.isSet then m.fsmClass
      else .str (m.context.text ++ "Context")).text = true
    split
    · next hset => exact isSingleLine_of_isName (hm.fsmClass hset)
    · change isSingleLine (m.context.text ++ "Context") = true
      rw [isSingleLine_append, isSingleLine_of_isName hm.context]
      decide
  startState := ClassTable.isSingleLine_reference
    (ClassTable.isSingleLine_scopedName hm (Machine.mem_places_of_startPlace? hstart))
  states := List.forall_mem_map.2 fun _ hp =>
    ClassTable.isSingleLine_reference (ClassTable.isSingleLine_scopedName hm hp)

/-! ## Modules -/

namespace PythonModule

/-- The comments a file begins with. -/
def headComments (o : Options) : List String :=
  ["# ex: set ro:", "# DO NOT EDIT.",
    "# generated by " ++ o.appName.text ++ " " ++ o.appVersion.text]
    ++ when o.sourceFileName.isSet ["# from file : " ++ o.sourceFileName.text]

/-- The line is a single one, and a comment or empty. -/
def IsAside (line : String) : Prop :=
  isSingleLine line = true ∧ isCode line = false

theorem isAside_append {cs : List Char} (hcs : (cs.all fun c => !isBreak c) = true)
    (hcomment : cs.head? = some '#') {b : String} (hb : isSingleLine b = true) :
    IsAside (String.ofList cs ++ b) := by
  refine ⟨?_, ?_⟩
  · rw [isSingleLine_append, isSingleLine_ofList hcs, hb]
    rfl
  · rw [isCode, String.toList_append, String.toList_ofList, List.head?_append, hcomment]
    simp

theorem headComments_aside {o : Options} (ho : o.Tidy) : ∀ l ∈ headComments o, IsAside l := by
  have hblank : isSingleLine " " = true := isSingleLine_ofList (by decide)
  have hgenerator : IsAside ("# generated by " ++ o.appName.text ++ " " ++ o.appVersion.text) := by
    rw [String.append_assoc, String.append_assoc]
    refine isAside_append (by decide) (by decide) ?_
    rw [isSingleLine_append, isSingleLine_append, ho.appName, hblank, ho.appVersion]
    rfl
  have hfile : IsAside ("# from file : " ++ o.sourceFileName.text) :=
    isAside_append (by decide) (by decide) ho.sourceFileName
  intro l hl
  simp only [headComments, List.mem_append, List.mem_cons, List.not_mem_nil, or_false] at hl
  rcases hl with (rfl | rfl | rfl) | hl
  · exact ⟨isSingleLine_ofList (by decide), by decide⟩
  · exact ⟨isSingleLine_ofList (by decide), by decide⟩
  · exact hgenerator
  · rw [when] at hl
    split at hl
    · exact List.mem_singleton.1 hl ▸ hfile
    · cases hl

theorem fileTail_aside : ∀ l ∈ fileTail, IsAside l := by
  simp only [fileTail, List.forall_mem_cons]
  exact ⟨⟨by decide, by decide⟩, ⟨by decide, by decide⟩, ⟨by decide, by decide⟩,
    ⟨by decide, by decide⟩, List.forall_mem_nil _⟩

/-- The lines between the comments. -/
def codeLines (m : Machine) (o : Options) (start : Place) : List String :=
  "" :: m.imports.map (fun i => importStatement i.text)
    ++ ["import fsm_compiler.runtime.statemap as statemap", "", ""]
    ++ classLines (Style.ofOptions o) (m.classTable o start)

/-- Without a text to be copied, a module is its comments and its code. -/
theorem lines_eq {m : Machine} (hsource : m.source.text = "") (o : Options) (start : Place) :
    lines m o start = headComments o ++ codeLines m o start ++ fileTail := by
  have hempty : (onChars (trimBy (· == '\n')) "").isEmpty = true := by decide
  rw [lines, fileHead, hsource]
  simp only [hempty, Bool.not_true, headComments, codeLines, when, List.append_assoc,
    List.cons_append, List.nil_append, Bool.false_eq_true, if_false]

theorem codeLines_block {m : Machine} (hm : m.Tidy) (hvalid : m.Valid) (o : Options)
    {start : Place} (hstart : m.startPlace? = some start) : Block 0 (codeLines m o start) := by
  have himports : Block 0 (m.imports.map fun i => importStatement i.text) :=
    .of_lines (List.forall_mem_map.2 hm.imports)
  have hruntime : Block 0 ["import fsm_compiler.runtime.statemap as statemap", "", ""] :=
    .line (isPlainLine_ofList (by decide)) (.gap (.gap (.nil 0)))
  exact ((Block.gap himports).append hruntime).append (classLines_block (hm.classTable hvalid o hstart))

/-- The module of a tidy and valid machine is laid out. -/
theorem text_laidOut {m : Machine} (hm : m.Tidy) (hvalid : m.Valid) {o : Options} (ho : o.Tidy)
    {start : Place} (hstart : m.startPlace? = some start) : LaidOut (text m o start) := by
  have hblock := codeLines_block hm hvalid o hstart
  have hsingle : ∀ l ∈ lines m o start, isSingleLine l = true := by
    intro l hl
    rw [lines_eq hm.source, List.mem_append, List.mem_append] at hl
    rcases hl with (hl | hl) | hl
    · exact (headComments_aside ho l hl).1
    · exact (hblock.forall_lines l hl).1
    · exact (fileTail_aside l hl).1
  have haside : ∀ {ls : List String}, (∀ l ∈ ls, IsAside l) → ls.filter isCode = [] := by
    intro ls h
    refine List.filter_eq_nil_iff.2 fun l hl => ?_
    rw [(h l hl).2]
    exact Bool.false_ne_true
  rw [LaidOut, text, lines_unlines hsingle, lines_eq hm.source, List.filter_append,
    List.filter_append, haside (headComments_aside ho), haside fileTail_aside, List.append_nil]
  exact hblock.laidOut

end PythonModule

/-- The module of a tidy machine that was found valid is laid out, whatever the
    options ask for. It is what every file of code generated for the machine holds,
    and one is generated if the machine is made of texts and the options are fit for
    code. -/
theorem generated_module_is_laid_out {m : Machine} {target : Option Target}
    {source : Option Value} {w : Validation} (hvalidate : m.validate target source = .ok w)
    (hvalid : w.isValid = true) (hm : m.Tidy) {o : Options} (ho : o.Tidy) :
    ∃ start, m.startPlace? = some start ∧ LaidOut (PythonModule.text m o start) ∧
      ∀ base, (∀ file, m.generateWith .python o base = .ok file →
          file.content = PythonModule.text m o start) ∧
        (m.Writable → o.check .python = .ok () → ∃ file, m.generate .python o base = .ok file ∧
          file.content = PythonModule.text m o start) := by
  have hvalid := Machine.valid_of_validate hvalidate hvalid
  obtain ⟨start, hstart⟩ := hvalid.start
  refine ⟨start, hstart, PythonModule.text_laidOut hm hvalid ho hstart, fun base => ⟨?_, ?_⟩⟩
  · intro file hfile
    rw [Machine.generateWith_python hvalid hstart] at hfile
    split at hfile
    · cases hfile
    · cases hfile
      rfl
  · intro htext hcheck
    exact ⟨_, htext.generate hvalid hcheck hstart base, rfl⟩

namespace Simulator

theorem plainDesk_tidy : plainDesk.Tidy := by
  have hplaces : (plainDesk.allPlaces.all fun p =>
      (p.state.transitions.all fun t => t.name.isText && isName t.name.text
        && t.parameters.isEmpty && t.guards.all fun g => isSingleLine g.condition.text
          && (!g.popTransition.isSet || isName g.popTransition.text)
          && isSingleLine g.popArguments.text
          && g.actions.all fun a => isPlainLine 0 (ClassTable.statement a))
      && (p.state.entry.toList ++ p.state.exit.toList).all fun as =>
        as.all fun a => isPlainLine 0 (ClassTable.statement a)) = true := by decide +kernel
  have hmaps : (plainDesk.maps.all fun map => isName map.name.text
      && map.allStates.all fun s => isName s.name) = true := by decide +kernel
  simp only [List.all_eq_true, Bool.and_eq_true, Bool.or_eq_true, Bool.not_eq_true',
    List.isEmpty_iff, List.mem_append, Option.mem_toList] at hplaces hmaps
  constructor
  case context => decide
  case fsmClass => exact fun h => absurd h (by decide)
  case source => rfl
  case imports => exact List.forall_mem_nil _
  case maps => exact fun map hmap => (hmaps map hmap).1
  case states => exact fun map hmap => (hmaps map hmap).2
  case transitions =>
    intro p hp t ht
    obtain ⟨⟨⟨htext, hname⟩, hparameters⟩, hguards⟩ := (hplaces p hp).1 t ht
    refine ⟨htext, hname, by simp [hparameters], fun g hg => ?_⟩
    obtain ⟨⟨⟨hcondition, hpop⟩, harguments⟩, hactions⟩ := hguards g hg
    exact ⟨hcondition, fun hset => hpop.resolve_left (by simp [hset]), harguments, hactions⟩
  case blocks => exact fun p hp as has => (hplaces p hp).2 as has

/-- The desk with everything traced, locked and listed: the clerk rests in a protected
    branch, works in a class with entry and exit actions, and is asked in one without. -/
theorem desk_module_is_laid_out :
    (∃ w, plainDesk.validate none none = .ok w ∧ w.isValid = true) ∧ plainDesk.Tidy ∧
      ∃ start, plainDesk.startPlace? = some start ∧
        ∃ file, plainDesk.generate .python
            { debugLevel := .actions, sync := .bool true, reflect := .bool true } .null = .ok file ∧
          LaidOut file.content := by
  obtain ⟨w, hvalidate, hvalid⟩ := plainDesk_valid
  obtain ⟨start, hstart, hlaid, hfiles⟩ := generated_module_is_laid_out hvalidate hvalid
    plainDesk_tidy
    (o := { debugLevel := .actions, sync := .bool true, reflect := .bool true })
    ⟨by decide, by decide, by decide⟩
  obtain ⟨file, hfile, hcontent⟩ := (hfiles .null).2 plainDesk_writable rfl
  exact ⟨⟨w, hvalidate, hvalid⟩, plainDesk_tidy, start, hstart, file, hfile, hcontent ▸ hlaid⟩

end Simulator
end StateMachine
