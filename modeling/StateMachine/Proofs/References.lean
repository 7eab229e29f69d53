import StateMachine.Generate.File
import StateMachine.Proofs.Conformance
import StateMachine.Proofs.ContextMethods
import StateMachine.Proofs.Events
import StateMachine.Proofs.KnownStates

/-!
# References of a class table

The names that one part of a class table refers to are made up apart from the
parts they refer to: states by the plans of guards, the class above by the place
of a state, the owner by the texts of conditions, arguments and actions. A table
is *closed* (`ClassTable.Closed`) if each of them leads somewhere:

* a state that is set, pushed, started in or listed is an instance of a holder;
* the parent of a method is one that the class above has, of its own or from the
  base class, and the methods of a class have different names;
* a state that is saved is saved before it is cleared, and the owner is at hand
  wherever it is mentioned.

The table of a valid machine made of texts is closed, and its file is generated
(`generated_table_is_closed`).
-/

namespace StateMachine

/-! ## Texts -/

namespace Text

/-- A separator occurs in a text if it is a part of it. -/
theorem occursIn_iff {sep cs : List Char} (hsep : sep ≠ []) :
    occursIn sep cs = true ↔ sep <:+: cs := by
  constructor
  · intro h
    obtain ⟨⟨l, r⟩, hcut⟩ := Option.isSome_iff_exists.1 h
    exact ⟨l, r, (cutFirst_eq_some hcut).symm⟩
  · rintro ⟨l, r, rfl⟩
    exact isSome_cutFirst hsep l r

theorem isPart_trimBy (p : Char → Bool) (cs : List Char) : trimBy p cs <:+: cs := by
  have hfront : cs.dropWhile p <:+: cs := (List.dropWhile_suffix p).isInfix
  refine List.IsInfix.trans ?_ hfront
  rw [trimBy, dropEndWhile, ← List.reverse_infix, List.reverse_reverse]
  exact (List.dropWhile_suffix p).isInfix

/-- Trimming a text brings nothing new into it. -/
theorem contains_of_contains_trim {sep s : String} (hsep : sep ≠ "")
    (h : contains sep (trim s) = true) : contains sep s = true := by
  have hne : sep.toList ≠ [] := by simpa using hsep
  rw [contains, trim, onChars, String.toList_ofList, occursIn_iff hne] at h
  rw [contains, occursIn_iff hne]
  exact h.trans (isPart_trimBy isBlank s.toList)

theorem replaceAfter_of_notMem {c : Char} {old new cs : List Char} (h : c ∉ cs) :
    replaceAfter (c :: old) new 0 cs = cs := by
  induction cs with
  | nil => rfl
  | cons d cs ih =>
    obtain ⟨hd, hcs⟩ := not_or.1 (mt List.mem_cons.2 h)
    have hprefix : ¬(c :: old).isPrefixOf (d :: cs) = true := by simp [List.isPrefixOf, hd]
    rw [replaceAfter, if_neg hprefix, ih hcs]

/-- A text before which there is no occurrence is replaced where it stands. -/
theorem replaceAfter_append {c : Char} {old new l r : List Char} (hl : c ∉ l) :
    replaceAfter (c :: old) new 0 (l ++ c :: (old ++ r)) =
      l ++ new ++ replaceAfter (c :: old) new 0 r := by
  have hskip : ∀ passed rest, replaceAfter (c :: old) new passed.length (passed ++ rest) =
      replaceAfter (c :: old) new 0 rest := by
    intro passed rest
    induction passed with
    | nil => rfl
    | cons d passed ih => exact ih
  induction l with
  | nil =>
    have hprefix : (c :: old).isPrefixOf (c :: (old ++ r)) = true :=
      List.isPrefixOf_iff_prefix.2 (List.prefix_append (c :: old) r)
    rw [List.nil_append, replaceAfter, if_pos hprefix, List.length_cons, Nat.add_sub_cancel, hskip,
      List.nil_append]
  | cons d l ih =>
    obtain ⟨hd, hl⟩ := not_or.1 (mt List.mem_cons.2 hl)
    have hprefix : ¬(c :: old).isPrefixOf (d :: (l ++ c :: (old ++ r))) = true := by
      simp [List.isPrefixOf, hd]
    rw [List.cons_append, replaceAfter, if_neg hprefix, ih hl]
    rfl

end Text

/-- The names of the maps and of the real states hold no colon. -/
def Machine.NoColons (m : Machine) : Prop :=
  ∀ map ∈ m.maps, ':' ∉ map.name.text.toList ∧ ∀ s ∈ map.states, ':' ∉ s.name.toList

/-- A state is referred to as the instance of its name in the holder of its map. -/
theorem ClassTable.reference_scopedName {m : Machine} (hcolons : m.NoColons) {p : Place}
    (hp : p ∈ m.places) :
    reference p.scopedName = p.map.name.text ++ "." ++ p.state.name := by
  obtain ⟨hmap, hs⟩ := Machine.mem_places.1 hp
  obtain ⟨hmapName, hnames⟩ := hcolons p.map hmap
  have hmark : scopeMark.toList = [':', ':'] := rfl
  apply String.toList_inj.1
  rw [reference, withMark, Text.replace, Text.onChars, String.toList_ofList, Text.replaceAll,
    Place.scopedName, StateMap.scopedName]
  simp only [String.toList_append, hmark, List.append_assoc, List.cons_append, List.nil_append]
  -- only the mark is replaced: the state's name after it holds no other
  have hreplace : Text.replaceAfter [':', ':'] ['.'] 0
      (p.map.name.text.toList ++ ':' :: ([':'] ++ p.state.name.toList)) = _ :=
    Text.replaceAfter_append hmapName
  rw [Text.replaceAfter_of_notMem (hnames p.state hs)] at hreplace
  simpa using hreplace

/-! ## Writable machines -/

/-- Everything that generated code copies or compares is a text. -/
structure Machine.Writable (m : Machine) : Prop extends m.Textual where
  popArguments : ∀ p ∈ m.allPlaces, ∀ t ∈ p.state.transitions, ∀ g ∈ t.guards,
    g.popArguments.isText = true
  source : m.source.isText = true
  imports : ∀ name ∈ m.imports, name.isText = true

section Writable

variable {m : Machine} {t : Transition}

theorem Signature.comparableParts_of_isText {vs ws : List Value}
    (hvs : ∀ v ∈ vs, v.isText = true) (hws : ∀ w ∈ ws, w.isText = true) :
    comparableParts vs ws = true := by
  induction vs generalizing ws with
  | nil => cases ws <;> rfl
  | cons v vs ih =>
    cases ws with
    | nil => rfl
    | cons w ws =>
      obtain ⟨hv, hvs⟩ := List.forall_mem_cons.1 hvs
      obtain ⟨hw, hws⟩ := List.forall_mem_cons.1 hws
      rw [comparableParts]
      split
      · exact ih hvs hws
      · rw [Value.eq_str_of_isText hv, Value.eq_str_of_isText hw]
        rfl

theorem allComparable_of_isText {signatures : List Signature}
    (h : ∀ s ∈ signatures, ∀ v ∈ s.parts, v.isText = true) : allComparable signatures = true := by
  induction signatures with
  | nil => rfl
  | cons s rest ih =>
    obtain ⟨hs, hrest⟩ := List.forall_mem_cons.1 h
    rw [allComparable, ih hrest, Bool.and_true, List.all_eq_true]
    exact fun t ht => Signature.comparableParts_of_isText hs (hrest t ht)

/-- The parts of a textual signature are texts. -/
theorem Transition.Textual.parts (ht : t.Textual) :
    ∀ v ∈ t.signature.parts, v.isText = true := by
  simp only [Signature.parts, signature, List.mem_cons, List.mem_flatMap, List.mem_map]
  rintro v (rfl | ⟨_, ⟨q, hq, rfl⟩, rfl | rfl | hv⟩)
  · exact ht.name
  · exact (ht.parameters q hq).1
  · exact (ht.parameters q hq).2
  · cases hv

theorem Machine.Textual.unionMismatch? (h : m.Textual) : unionMismatch? m.transitions = none := by
  have hparts : ∀ s ∈ m.transitions.map (fun q => q.transition.signature),
      ∀ v ∈ s.parts, v.isText = true := by
    intro s hs
    obtain ⟨q, hq, rfl⟩ := List.mem_map.1 hs
    obtain ⟨hp, ht⟩ := Machine.mem_transitions.1 hq
    exact (h.transitions q.place hp q.transition ht).parts
  have hkeys : (m.transitions.map fun q => q.transition.signature).all Signature.isKey = true := by
    refine List.all_eq_true.2 fun s hs => List.all_eq_true.2 fun v hv => ?_
    rw [Value.eq_str_of_isText (hparts s hs v hv)]
    rfl
  rw [StateMachine.unionMismatch?]
  simp only [hkeys, allComparable_of_isText hparts, Bool.and_self, if_true]

/-- What a guard needs the owner for. -/
theorem Transition.guardUsesOwner_of_isText {g : Guard} (hcondition : g.condition.isText = true)
    (harguments : g.popArguments.isText = true) :
    guardUsesOwner g = .ok (g.hasActions || Text.contains ownerWord g.condition.text
      || Text.contains ownerWord g.popArguments.text) := by
  have hmentions : ∀ v : Value, v.isText = true →
      v.mentions ownerWord = .ok (Text.contains ownerWord v.text) := by
    intro v hv
    rw [Value.eq_str_of_isText hv]
    rfl
  rw [guardUsesOwner, hmentions _ hcondition, hmentions _ harguments]
  cases g.hasActions with
  | true => rfl
  | false => cases Text.contains ownerWord g.condition.text <;> rfl

/-- Branches need the owner if one of them does. -/
theorem Transition.branchesUseOwner_of_isText {gs : List Guard}
    (h : ∀ g ∈ gs, g.condition.isText = true ∧ g.popArguments.isText = true) :
    branchesUseOwner gs = .ok (gs.any fun g => g.hasActions
      || Text.contains ownerWord g.condition.text
      || Text.contains ownerWord g.popArguments.text) := by
  induction gs with
  | nil => rfl
  | cons g gs ih =>
    obtain ⟨hg, hgs⟩ := List.forall_mem_cons.1 h
    rw [branchesUseOwner, guardUsesOwner_of_isText hg.1 hg.2, List.any_cons, ih hgs]
    generalize (g.hasActions || _ || _) = uses
    cases uses <;> rfl

/-- The code of a textual guard can be generated. -/
theorem ClassTable.branchMismatch?_of_textual (ht : t.Textual) {g : Guard} (hg : g ∈ t.guards) :
    branchMismatch? t g = none := by
  obtain ⟨-, hend, hpush⟩ := ht.guards g hg
  have hparameters : (t.parameters.all fun q => q.name.isText) = true :=
    List.all_eq_true.2 fun q hq => (ht.parameters q hq).1
  simp [branchMismatch?, Guard.planMismatch?, referenceMismatch?, hend, hpush, hparameters,
    Validate.scopeMismatch?_of_isText]

/-- The code of textual transitions can be generated, whatever comes before them. -/
theorem ClassTable.transitionsMismatch?_of_textual {ts : List Transition}
    (htext : ∀ t ∈ ts, t.Textual)
    (harguments : ∀ t ∈ ts, ∀ g ∈ t.guards, g.popArguments.isText = true)
    (before : List Transition) : transitionsMismatch? before ts = none := by
  induction ts generalizing before with
  | nil => rfl
  | cons t ts ih =>
    obtain ⟨ht, htext⟩ := List.forall_mem_cons.1 htext
    obtain ⟨hargs, harguments⟩ := List.forall_mem_cons.1 harguments
    have hcondition : ∀ g ∈ t.guards, g.conditionMismatch? = none := by
      intro g hg
      rw [Guard.conditionMismatch?, Value.textMismatch?, if_pos (ht.guards g hg).1]
    have howner : ownerMismatch? before t = none := by
      rw [ownerMismatch?, Transition.usesOwner, Transition.branchesUseOwner_of_isText
        fun g hg => ⟨(ht.guards g hg).1, hargs g hg⟩, ite_self]
    have hunconditional : t.unconditionalMismatch? = none := by
      rw [Transition.unconditionalMismatch?]
      cases h : t.guards.find? fun g => !g.condition.isText || !g.hasCondition with
      | none => rfl
      | some g => exact hcondition g (List.mem_of_find?_eq_some h)
    have horder : t.orderMismatch? = none := List.findSome?_eq_none_iff.2 hcondition
    have hbranches : t.ordered.findSome? (branchMismatch? t) = none :=
      List.findSome?_eq_none_iff.2 fun g hg =>
        branchMismatch?_of_textual ht (Transition.mem_ordered.1 hg)
    rw [transitionsMismatch?, howner, hunconditional, horder, hbranches,
      ih htext harguments (before ++ [t])]
    rfl

/-- The classes of a writable machine can be generated. -/
theorem Machine.Writable.mismatch? (h : m.Writable) : ClassTable.mismatch? m = none := by
  have hplaces : (m.allPlaces.findSome? fun p =>
      ClassTable.transitionsMismatch? [] p.state.transitions) = none :=
    List.findSome?_eq_none_iff.2 fun p hp => ClassTable.transitionsMismatch?_of_textual
      (h.transitions p hp) (h.popArguments p hp) []
  have himports : (m.imports.findSome? fun name => name.textMismatch? "strip") = none := by
    refine List.findSome?_eq_none_iff.2 fun name hname => ?_
    rw [Value.textMismatch?, if_pos (h.imports name hname)]
  rw [ClassTable.mismatch?, h.toTextual.unionMismatch?, hplaces, Value.textMismatch?,
    if_pos h.source, himports]
  rfl

/-- A file of code made for a valid machine holds the module of the machine. -/
theorem Machine.generateWith_python (hvalid : m.Valid) {start : Place}
    (hstart : m.startPlace? = some start) (o : Options) (base : Value) :
    m.generateWith .python o base =
      match ClassTable.mismatch? m with
      | some e => .error (.mismatch e)
      | none => .ok ⟨Target.python.fileName (if base.isSet then base else m.name).text o.suffix,
          PythonModule.text m o start⟩ := by
  obtain ⟨hmap, hs⟩ := Machine.mem_places.1 (Machine.mem_places_of_startPlace? hstart)
  have hstates : m.hasStates = true := by
    refine List.any_eq_true.2 ⟨start.map, hmap, ?_⟩
    rw [Bool.not_eq_true', List.isEmpty_eq_false_iff]
    exact List.ne_nil_of_mem hs
  rw [generateWith, hstates, hvalid.startMismatch, hstart]
  rfl

/-- A file of code is generated for a writable, valid machine. -/
theorem Machine.Writable.generate (h : m.Writable) (hvalid : m.Valid) {o : Options}
    (ho : o.check .python = .ok ()) {start : Place} (hstart : m.startPlace? = some start)
    (base : Value) :
    m.generate .python o base = .ok
      ⟨Target.python.fileName (if base.isSet then base else m.name).text o.suffix,
        PythonModule.text m o start⟩ := by
  rw [Machine.generate, generatorFor, ho]
  change m.generateWith .python o base = _
  rw [generateWith_python hvalid hstart, h.mismatch?]

end Writable

/-! ## Closed tables -/

namespace ClassTable

variable (t : ClassTable)

/-- The reference is to an instance of the holder of a map. -/
def HasInstance (reference : String) : Prop :=
  ∃ map ∈ t.maps, ∃ i ∈ map.instances, reference = map.name ++ "." ++ i.name

/-- The base class has a method of the name. -/
def BaseDefines (name : String) : Prop :=
  name = defaultName ∨ ∃ n ∈ t.transitionNames, n.text = name

/-- There is a class that has a method of the name, of its own or from the base
    class. -/
def Provides (cls name : String) : Prop :=
  (cls = t.base ∧ t.BaseDefines name) ∨
    ∃ map ∈ t.maps, ∃ c ∈ map.classes, c.name = cls ∧
      ((∃ method ∈ c.methods, method.name.text = name) ∨ c.parent = t.base ∧ t.BaseDefines name)

end ClassTable

/-- Does the branch set a state? -/
def Branch.sets (b : Branch) : Bool :=
  b.plan.setsState || b.plan.setsBeforePush

/-- Does the code of the branch mention the owner? -/
def Branch.mentionsOwner (b : Branch) : Bool :=
  Text.contains Transition.ownerWord b.condition
    || Text.contains Transition.ownerWord b.plan.popArguments.text
    || b.actions.any (Text.contains Transition.ownerWord)

/-- The line that makes the owner known to a method. -/
def ownerLine : String := "    ctxt = fsm.get_owner()"

/-- The line that saves the current state. -/
def savingLine : String := ClassTable.savedState ++ " = fsm.get_state()"

/-- The states of the branch can be gone to. -/
structure Branch.Closed (t : ClassTable) (b : Branch) : Prop where
  endState : b.sets = true → b.endState ≠ ClassTable.savedState → t.HasInstance b.endState
  pushState : b.plan.pushes = true → t.HasInstance b.pushState
  /-- The state is saved first of all, and so before it is cleared. -/
  saved : b.sets = true → b.endState = ClassTable.savedState →
    ∀ s, ∃ rest, PythonModule.branchBody s b = savingLine :: rest

/-- The method is one that every state has, goes on to one that there is, and has
    the owner at hand where it is mentioned. -/
structure Method.Closed (t : ClassTable) (method : Method) : Prop where
  base : t.BaseDefines method.name.text
  parent : ∃ cls, method.parent = cls ++ "." ++ method.name.text ∧
    t.Provides cls method.name.text
  branches : ∀ v ∈ method.overloads, ∀ b ∈ v.branches, b.Closed t
  owner : (∃ v ∈ method.overloads, ∃ b ∈ v.branches, b.mentionsOwner = true) →
    ∀ s, ∃ rest, PythonModule.method s method =
      ("def " ++ method.name.text ++ "(self, fsm, *args):") :: ownerLine :: rest

/-- The code of entry or exit actions has the owner at hand where it is mentioned. -/
def ActionBlock.Closed (b : ActionBlock) : Prop :=
  b.actions.any (Text.contains Transition.ownerWord) = true →
    ∀ name, ∃ rest, PythonModule.actionMethod name b =
      ("def " ++ name ++ "(self, fsm):") :: ownerLine :: rest

/-- Everything the classes refer to is there. -/
structure ClassTable.Closed (t : ClassTable) : Prop where
  start : t.HasInstance t.startState
  states : ∀ r ∈ t.states, t.HasInstance r
  methods : ∀ map ∈ t.maps, ∀ c ∈ map.classes, ∀ method ∈ c.methods, method.Closed t
  distinct : ∀ map ∈ t.maps, ∀ c ∈ map.classes,
    (c.methods.map fun method => method.name.text).Nodup
  blocks : ∀ map ∈ t.maps, ∀ c ∈ map.classes, ∀ b, c.entry = some b ∨ c.exit = some b → b.Closed

namespace ClassTable

variable {m : Machine} {o : Options} {p start : Place}

/-! ## Methods -/

/-- What holds of single methods and is kept when they are joined holds of all the
    methods of a state. -/
theorem forall_methods {P : Method → Prop}
    (hmethod : ∀ t ∈ p.state.transitions, P (method m o p t))
    (hjoin : ∀ t ∈ p.state.transitions, ∀ old, P old → (old.name == t.name) = true →
      P { old with
        usesOwner := old.usesOwner || (method m o p t).usesOwner
        overloads := old.overloads ++ (method m o p t).overloads }) :
    ∀ new ∈ methods m o p, P new := by
  have hinsert : ∀ t ∈ p.state.transitions, ∀ ms, (∀ old ∈ ms, P old) →
      ∀ new ∈ insertMethod (method m o p t) ms, P new := by
    intro t ht ms hms
    induction ms with
    | nil => simpa [insertMethod] using hmethod t ht
    | cons old rest ih =>
      obtain ⟨hold, hrest⟩ := List.forall_mem_cons.1 hms
      rw [insertMethod]
      split
      · next hname => exact List.forall_mem_cons.2 ⟨hjoin t ht old hold hname, hrest⟩
      · exact List.forall_mem_cons.2 ⟨hold, ih hrest⟩
  exact List.foldlRecOn _ _ (by simp) fun ms hms t ht => hinsert t ht ms hms

/-- A method comes from transitions of its name. -/
theorem exists_transition_of_mem_methods {new : Method} (h : new ∈ methods m o p) :
    ∃ t ∈ p.state.transitions, t.name = new.name :=
  forall_methods (P := fun new => ∃ t ∈ p.state.transitions, t.name = new.name)
    (fun t ht => ⟨t, ht, rfl⟩) (fun _ _ _ hold _ => hold) new h

/-- An overload comes from a transition, and a method that needs the owner for one
    of its overloads knows it. -/
theorem exists_transition_of_mem_overloads {new : Method} (h : new ∈ methods m o p) :
    ∀ v ∈ new.overloads, ∃ t ∈ p.state.transitions, v = overload o p t ∧
      (t.usesOwner.toOption.getD false = true → new.usesOwner = true) := by
  refine forall_methods (P := fun new => ∀ v ∈ new.overloads, ∃ t ∈ p.state.transitions,
    v = overload o p t ∧ (t.usesOwner.toOption.getD false = true → new.usesOwner = true))
    (fun t ht v hv => ?_) (fun t ht old hold _ v hv => ?_) new h
  · exact ⟨t, ht, List.mem_singleton.1 hv, id⟩
  · rcases List.mem_append.1 hv with hv | hv
    · obtain ⟨t', ht', hv, howner⟩ := hold v hv
      exact ⟨t', ht', hv, fun h => by rw [howner h]; rfl⟩
    · refine ⟨t, ht, List.mem_singleton.1 hv, fun h => ?_⟩
      change (old.usesOwner || t.usesOwner.toOption.getD false) = true
      rw [h, Bool.or_true]

/-- The names of methods with one more: the new one's, unless it is there. -/
theorem nodup_insertMethod {new : Method} (hnew : new.name.isText = true) {ms : List Method}
    (hms : ∀ old ∈ ms, old.name.isText = true)
    (hdistinct : (ms.map fun m => m.name.text).Nodup) :
    ((insertMethod new ms).map fun m => m.name.text).Nodup ∧
      ∀ name ∈ (insertMethod new ms).map fun m => m.name.text,
        name = new.name.text ∨ name ∈ ms.map fun m => m.name.text := by
  induction ms with
  | nil => simp [insertMethod]
  | cons old rest ih =>
    obtain ⟨hold, hrest⟩ := List.forall_mem_cons.1 hms
    rw [List.map_cons, List.nodup_cons] at hdistinct
    obtain ⟨hnodup, hnames⟩ := ih hrest hdistinct.2
    rw [insertMethod]
    split
    · -- the method joins `old`, under its name
      rw [List.map_cons, List.nodup_cons]
      exact ⟨hdistinct, fun name hname => .inr hname⟩
    · next hother =>
      have hne : old.name.text ≠ new.name.text := by
        intro h
        apply hother
        rw [Value.eq_str_of_isText hold, Value.eq_str_of_isText hnew, h]
        exact Value.beq_str_iff.2 rfl
      rw [List.map_cons, List.nodup_cons]
      refine ⟨⟨fun hmem => ?_, hnodup⟩, fun name hname => ?_⟩
      · exact (hnames _ hmem).elim hne hdistinct.1
      · rcases List.mem_cons.1 hname with rfl | hname
        · exact .inr List.mem_cons_self
        · exact (hnames name hname).imp_right (List.mem_cons_of_mem _)

/-- The methods of a state have different names, if these are texts. -/
theorem nodup_methods (htext : ∀ t ∈ p.state.transitions, t.name.isText = true) :
    ((methods m o p).map fun m => m.name.text).Nodup := by
  have hfold : (∀ new ∈ methods m o p, new.name.isText = true) ∧
      ((methods m o p).map fun m => m.name.text).Nodup := by
    refine List.foldlRecOn (motive := fun ms : List Method =>
      (∀ new ∈ ms, new.name.isText = true) ∧ (ms.map fun new => new.name.text).Nodup) _ _
      ⟨List.forall_mem_nil _, List.nodup_nil⟩ ?_
    rintro ms ⟨hms, hdistinct⟩ t ht
    exact ⟨forall_insertMethod (P := fun name _ => name.isText = true) (htext t ht) hms,
      (nodup_insertMethod (htext t ht) hms hdistinct).1⟩
  exact hfold.2

/-! ## The table of a machine -/

/-- Every real state has an instance in the holder of its map. -/
theorem hasInstance_of_mem_places (hcolons : m.NoColons) (hp : p ∈ m.places) :
    (m.classTable o start).HasInstance (reference p.scopedName) := by
  obtain ⟨hmap, hs⟩ := Machine.mem_places.1 hp
  refine ⟨_, List.mem_map.2 ⟨p.map, hmap, rfl⟩, _, List.mem_map.2 ⟨p.state, hs, rfl⟩, ?_⟩
  exact reference_scopedName hcolons hp

/-- The saved state is none of the instances: these are referred to with a dot. -/
theorem not_hasInstance_savedState {t : ClassTable} : ¬t.HasInstance savedState := by
  rintro ⟨map, -, i, -, h⟩
  have hdot : '.' ∈ savedState.toList := by simp [h]
  exact absurd hdot (by decide)

/-- The base class has the methods of all states. -/
theorem baseDefines_of_mem_transitions (hvalid : m.Valid) (htext : m.Textual) {q : Placed}
    (hq : q ∈ m.transitions) : (m.classTable o start).BaseDefines q.transition.name.text := by
  obtain ⟨hp, ht⟩ := Machine.mem_transitions.1 hq
  have hname := Value.eq_str_of_isText (htext.transitions q.place hp q.transition ht).name
  by_cases hdefault : q.transition.name.text = defaultName
  · exact .inl hdefault
  · have hother : Value.str q.transition.name.text ≠ .str defaultName := by simpa using hdefault
    have hcollected := (any_transitionNames_iff (keyNames_transitions hvalid)).2
      ⟨hother, q, hq, Value.str_alike_iff.2 hname⟩
    obtain ⟨n, hn, hlike⟩ := List.any_eq_true.1 hcollected
    rw [Value.str_alike_iff] at hlike
    exact .inr ⟨n, hn, by rw [hlike]; rfl⟩

/-- The class above that of a state has the methods of the base class. -/
theorem provides_parentClass (hwf : m.WellFormed) (hp : p.map ∈ m.maps) {name : String}
    (hname : (m.classTable o start).BaseDefines name) :
    (m.classTable o start).Provides (parentClass m p) name := by
  rw [parentClass]
  split
  · exact .inl ⟨rfl, hname⟩
  · -- the default class comes first, and is directly below the base class
    have hparent : parentClass m (defaultPlace p.map) = baseName m := by
      rw [parentClass, isDefault_defaultPlace (hwf p.map hp), if_pos rfl]
    exact .inr ⟨_, List.mem_map_of_mem hp, _, List.mem_cons_self, rfl, .inr ⟨hparent, hname⟩⟩

theorem exists_guard_of_mem_branches {t : Transition} {count index : Nat} {gs : List Guard}
    {b : Branch} (hb : b ∈ branches o p t count index gs) :
    ∃ g ∈ gs, ∃ i, b = branch o p t g i count := by
  induction gs generalizing index with
  | nil => cases hb
  | cons g gs ih =>
    rcases List.mem_cons.1 hb with rfl | hb
    · exact ⟨g, List.mem_cons_self, index, rfl⟩
    · obtain ⟨g', hg', i, hi⟩ := ih hb
      exact ⟨g', List.mem_cons_of_mem _ hg', i, hi⟩

/-- The branch of a valid guard goes to states that there are. -/
theorem branch_closed (hwf : m.WellFormed) (hcolons : m.NoColons) (hp : p.map ∈ m.maps)
    {t : Transition} {g : Guard} (hg : g.Valid m p.map) (index count : Nat) :
    (branch o p t g index count).Closed (m.classTable o start) := by
  have hsets : (branch o p t g index count).sets = true →
      g.move ≠ .pop ∧ (g.hasActions = true ∨ g.isLoopback = false) := by
    change (g.move == .set && (g.hasActions || !g.isLoopback)
      || g.move == .push && (g.hasActions || !g.isLoopback)) = true → _
    cases g.move <;> simp
  have hendState : (branch o p t g index count).endState = if g.isLoopback then savedState
      else reference (g.plan p.map.name.text).endState.text := rfl
  have hleaving : (branch o p t g index count).sets = true → g.isLoopback = false →
      (m.classTable o start).HasInstance (branch o p t g index count).endState := by
    intro hset hleaves
    have hmove := (hsets hset).1
    have hnil : g.endState ≠ .str nilState := by
      intro h
      rw [Guard.isLoopback, Value.beq_str_iff.2 h, Bool.and_true] at hleaves
      exact hmove (by simpa using hleaves)
    obtain ⟨_, q, -, -, hq, hplan⟩ := hg.endState_plan hwf hp hmove hnil
    rw [hendState, hleaves, if_neg Bool.false_ne_true, hplan]
    exact hasInstance_of_mem_places hcolons hq
  refine ⟨fun hset hne => ?_, fun hpush => ?_, fun hset hsaved s => ?_⟩
  · -- a guard that goes elsewhere than to the saved state is no loopback
    refine hleaving hset (Bool.eq_false_iff.2 fun hloop => hne ?_)
    rw [hendState, if_pos hloop]
  · obtain ⟨_, q, -, -, hq, hplan⟩ := hg.pushState_plan hp (beq_iff_eq.1 hpush)
    change (m.classTable o start).HasInstance (reference (g.plan p.map.name.text).pushState.text)
    rw [hplan]
    exact hasInstance_of_mem_places hcolons hq
  · -- an instance is never called like the saved state, so the guard is a loopback
    have hloop : g.isLoopback = true := by
      by_contra h
      exact not_hasInstance_savedState (hsaved ▸ hleaving hset (Bool.eq_false_iff.2 h))
    have hsaves : (branch o p t g index count).plan.savesState = true := by
      change (g.isLoopback && g.hasActions) = true
      rw [hloop, ((hsets hset).2.resolve_right (by simp [hloop]))]
      rfl
    rw [PythonModule.branchBody, hsaves]
    exact ⟨_, rfl⟩

/-- A branch that mentions the owner is that of a guard that needs it. -/
theorem usesOwner_of_mentionsOwner {t : Transition} {g : Guard} {index count : Nat}
    (h : (branch o p t g index count).mentionsOwner = true) :
    (g.hasActions || Text.contains Transition.ownerWord g.condition.text
      || Text.contains Transition.ownerWord g.popArguments.text) = true := by
  rw [Branch.mentionsOwner, Bool.or_eq_true, Bool.or_eq_true] at h
  rcases h with (hcondition | harguments) | hactions
  · have := Text.contains_of_contains_trim (by decide) hcondition
    simp [this]
  · change Text.contains Transition.ownerWord
      (if g.popTransition.isSet then g.popArguments else .str "").text = true at harguments
    split at harguments
    · simp [harguments]
    · exact absurd harguments (by decide)
  · obtain ⟨line, hline, -⟩ := List.any_eq_true.1 hactions
    obtain ⟨a, ha, -⟩ := List.mem_map.1 hline
    have : g.hasActions = true := by
      rw [Guard.hasActions, Bool.not_eq_true', List.isEmpty_eq_false_iff]
      exact List.ne_nil_of_mem ha
    simp [this]

/-- The methods of a state are closed. -/
theorem methods_closed (hwf : m.WellFormed) (hvalid : m.Valid) (htext : m.Writable)
    (hcolons : m.NoColons) (hp : p ∈ m.allPlaces) :
    ∀ new ∈ methods m o p, new.Closed (m.classTable o start) := by
  intro new hnew
  obtain ⟨hmap, hstate⟩ := Machine.mem_allPlaces.1 hp
  have hbase : (m.classTable o start).BaseDefines new.name.text := by
    obtain ⟨t, ht, hname⟩ := exists_transition_of_mem_methods hnew
    rw [← hname]
    exact baseDefines_of_mem_transitions hvalid htext.toTextual
      (q := ⟨p, t⟩) (Machine.mem_transitions.2 ⟨hp, ht⟩)
  have hbranch : ∀ v ∈ new.overloads, ∀ b ∈ v.branches, ∃ t ∈ p.state.transitions, ∃ g ∈ t.guards,
      ∃ i count, b = branch o p t g i count ∧
        (t.usesOwner.toOption.getD false = true → new.usesOwner = true) := by
    intro v hv b hb
    obtain ⟨t, ht, rfl, howner⟩ := exists_transition_of_mem_overloads hnew v hv
    obtain ⟨g, hg, i, hbranch⟩ := exists_guard_of_mem_branches hb
    exact ⟨t, ht, g, Transition.mem_ordered.1 hg, i, _, hbranch, howner⟩
  refine ⟨hbase, ⟨_, parent_of_mem_methods hnew, provides_parentClass hwf hmap hbase⟩, ?_, ?_⟩
  · intro v hv b hb
    obtain ⟨t, ht, g, hg, i, count, rfl, -⟩ := hbranch v hv b hb
    exact branch_closed hwf hcolons hmap ((hvalid.transitions p hp t ht).guards g hg) i count
  · rintro ⟨v, hv, b, hb, hmentions⟩ s
    obtain ⟨t, ht, g, hg, i, count, rfl, howner⟩ := hbranch v hv b hb
    have huses : t.usesOwner.toOption.getD false = true := by
      rw [Transition.usesOwner, Transition.branchesUseOwner_of_isText fun g hg =>
        ⟨((htext.transitions p hp t ht).guards g hg).1, htext.popArguments p hp t ht g hg⟩]
      exact List.any_eq_true.2 ⟨g, hg, usesOwner_of_mentionsOwner hmentions⟩
    rw [PythonModule.method, howner huses]
    exact ⟨_, rfl⟩

/-- The code of actions that mentions the owner has an action that is no
    directive. -/
theorem actionBlock_closed (actions : List Action) : (actionBlock actions).Closed := by
  intro hmentions name
  obtain ⟨line, hline, hcontains⟩ := List.any_eq_true.1 hmentions
  obtain ⟨a, ha, rfl⟩ := List.mem_map.1 hline
  have howner : (actionBlock actions).usesOwner = true := by
    refine List.any_eq_true.2 ⟨a, ha, ?_⟩
    cases hempties : a.emptiesStack with
    | false => rfl
    | true =>
      -- the directive is a call without arguments
      rw [statement, hempties, if_pos rfl] at hcontains
      exact absurd hcontains (by decide)
  have hsome : (actionBlock actions).actions.isEmpty = false := by
    rw [List.isEmpty_eq_false_iff]
    exact List.ne_nil_of_mem hline
  rw [PythonModule.actionMethod, hsome, howner]
  exact ⟨_, rfl⟩

/-- A class of a map is that of one of its states, or stands in for the Default
    State that it does not have. -/
theorem exists_place_of_mem_classes {names : List Value} {index : StateIndex} {map : StateMap}
    {c : StateClass} (hc : c ∈ (mapClasses m o names index map).classes) :
    ∃ name s, (s ∈ map.allStates ∨ s = bareDefault) ∧ c = stateClass m o names name ⟨map, s⟩ := by
  rcases List.mem_cons.1 hc with rfl | hc
  · refine ⟨_, _, ?_, rfl⟩
    cases h : map.default? with
    | none => exact .inr rfl
    | some s => exact .inl (by simp [StateMap.allStates, h])
  · obtain ⟨s, hs, rfl⟩ := List.mem_map.1 hc
    exact ⟨_, s, .inl (List.mem_append_right _ hs), rfl⟩

end ClassTable

/-! ## Generated tables -/

/-- The file of a well-formed and valid machine made of texts, whose maps and states
    have no colons in their names, is generated under all options that are fit for
    code. It is written from the class table of the machine, and this is closed. -/
theorem generated_table_is_closed {m : Machine} (hwf : m.WellFormed) {target : Option Target}
    {source : Option Value} {w : Validation} (hvalidate : m.validate target source = .ok w)
    (hvalid : w.isValid = true) (htext : m.Writable) (hcolons : m.NoColons) {o : Options}
    (ho : o.check .python = .ok ()) (base : Value) :
    ∃ start, m.startPlace? = some start ∧
      m.generate .python o base = .ok
        ⟨Target.python.fileName (if base.isSet then base else m.name).text o.suffix,
          PythonModule.text m o start⟩ ∧
      (m.classTable o start).Closed := by
  have hvalid := Machine.valid_of_validate hvalidate hvalid
  obtain ⟨start, hstart⟩ := hvalid.start
  refine ⟨start, hstart, htext.generate hvalid ho hstart base, ?_⟩
  -- a class is that of a state of the machine, or has nothing in it
  have hclass : ∀ map ∈ (m.classTable o start).maps, ∀ c ∈ map.classes, ∃ p : Place,
      (p ∈ m.allPlaces ∨ p.state = ClassTable.bareDefault) ∧
        c.methods = ClassTable.methods m o p ∧
        c.entry = p.state.entry.map ClassTable.actionBlock ∧
        c.exit = p.state.exit.map ClassTable.actionBlock := by
    intro map hmap c hc
    obtain ⟨map, hmem, rfl⟩ := List.mem_map.1 hmap
    obtain ⟨_, s, hs, rfl⟩ := ClassTable.exists_place_of_mem_classes hc
    refine ⟨⟨map, s⟩, hs.imp_left fun hs => ?_, rfl, rfl, rfl⟩
    exact Machine.mem_allPlaces.2 ⟨hmem, hs⟩
  constructor
  · exact ClassTable.hasInstance_of_mem_places hcolons (Machine.mem_places_of_startPlace? hstart)
  · intro r hr
    obtain ⟨p, hp, rfl⟩ := List.mem_map.1 hr
    exact ClassTable.hasInstance_of_mem_places hcolons hp
  · intro map hmap c hc
    obtain ⟨p, hp | hbare, hmethods, -⟩ := hclass map hmap c hc
    · rw [hmethods]
      exact ClassTable.methods_closed hwf hvalid htext hcolons hp
    · rw [hmethods, ClassTable.methods, hbare]
      exact fun new hnew => by cases hnew
  · intro map hmap c hc
    obtain ⟨p, hp | hbare, hmethods, -⟩ := hclass map hmap c hc
    · rw [hmethods]
      exact ClassTable.nodup_methods fun t ht => (htext.transitions p hp t ht).name
    · rw [hmethods, ClassTable.methods, hbare]
      exact List.nodup_nil
  · intro map hmap c hc b hb
    obtain ⟨p, -, -, hentry, hexit⟩ := hclass map hmap c hc
    rw [hentry, hexit] at hb
    have hblock : ∀ actions : Option (List Action),
        actions.map ClassTable.actionBlock = some b → b.Closed := by
      intro actions h
      obtain ⟨as, -, rfl⟩ := Option.map_eq_some_iff.1 h
      exact ClassTable.actionBlock_closed as
    exact hb.elim (hblock _) (hblock _)

namespace Simulator

theorem plainDesk_writable : plainDesk.Writable := by
  have hall : (plainDesk.allPlaces.all fun p => p.state.transitions.all fun t => t.name.isText
      && t.parameters.isEmpty && t.guards.all fun g => g.condition.isText && g.endState.isText
        && g.pushState.isText && g.popArguments.isText) = true := by decide +kernel
  simp only [List.all_eq_true, Bool.and_eq_true, List.isEmpty_iff] at hall
  refine ⟨⟨rfl, fun p hp t ht => ?_⟩, fun p hp t ht g hg => ?_, rfl, List.forall_mem_nil _⟩
  · obtain ⟨⟨hname, hparameters⟩, hguards⟩ := hall p hp t ht
    refine ⟨hname, by simp [hparameters], fun g hg => ?_⟩
    obtain ⟨⟨⟨hcondition, hend⟩, hpush⟩, -⟩ := hguards g hg
    exact ⟨hcondition, hend, hpush⟩
  · exact ((hall p hp t ht).2 g hg).2

theorem plainDesk_noColons : plainDesk.NoColons := by
  have hall : (plainDesk.maps.all fun map => !map.name.text.toList.contains ':'
      && map.states.all fun s => !s.name.toList.contains ':') = true := by decide +kernel
  simpa [Machine.NoColons] using hall

/-- The desk has all kinds of references: its clerk rests without leaving the desk,
    works elsewhere, is called away and asked, and greets and takes notes. -/
theorem desk_table_is_closed :
    plainDesk.WellFormed ∧ (∃ w, plainDesk.validate none none = .ok w ∧ w.isValid = true) ∧
      plainDesk.Writable ∧ plainDesk.NoColons ∧
      ∃ start, plainDesk.startPlace? = some start ∧
        plainDesk.generate .python { reflect := .bool true } .null = .ok
          ⟨"Clerk_sm.py", PythonModule.text plainDesk { reflect := .bool true } start⟩ ∧
        (plainDesk.classTable { reflect := .bool true } start).Closed := by
  have hwf := Load.wellFormed_of_outcome plainDesk_loads
  obtain ⟨w, hvalidate, hvalid⟩ := plainDesk_valid
  refine ⟨hwf, ⟨w, hvalidate, hvalid⟩, plainDesk_writable, plainDesk_noColons, ?_⟩
  exact generated_table_is_closed hwf hvalidate hvalid plainDesk_writable plainDesk_noColons rfl
    .null

end Simulator
end StateMachine
