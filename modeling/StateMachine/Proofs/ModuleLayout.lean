import StateMachine.Generate.PythonModule
import StateMachine.Proofs.Layout

/-!
# The layout of a class table

The lines a class table is written down in are a block, if what is copied into them
is *tidy*: names are names, conditions and arguments are single lines, and
statements are plain lines of code. Each part of the table has its lemma, from the
trace of a message up to all classes (`classLines_block`). A part that would be an
empty block, such as a branch that changes nothing or a class without members, holds
a line for that (`branchBody_hasCode`, `stateClass_hasCode`).
-/

namespace StateMachine

open Text

/-! ## Tidy tables -/

/-- What the branch copies into its lines is tidy, and there is something in each of
    its blocks. -/
structure Branch.Tidy (b : Branch) : Prop where
  condition : isSingleLine b.condition = true
  label : isSingleLine b.label = true
  actions : ∀ a ∈ b.actions, isPlainLine 0 a = true
  endState : isSingleLine b.endState = true
  pushState : isSingleLine b.pushState = true
  popTransition : isSingleLine b.plan.popTransition.text = true
  popArguments : isSingleLine b.plan.popArguments.text = true
  /-- A branch that commits in any case has actions that may fail, and commits. -/
  commits : b.isProtected = true →
    b.actions ≠ [] ∧ (b.plan.setsState || b.plan.pushes || b.plan.pops) = true
  /-- A branch leaves, clears or pushes, or does nothing at all. -/
  acts : (b.plan.exitsCurrent || b.plan.clearsState || b.plan.pushes || b.plan.isNoop) = true

/-- The overload is made of tidy branches, or goes on to the class above. -/
structure Overload.Tidy (v : Overload) : Prop where
  parameters : ∀ q ∈ v.parameters, isName q = true
  branches : ∀ b ∈ v.branches, b.Tidy
  nonempty : v.fallsThrough = true ∨ v.branches ≠ []

/-- The method is made of tidy overloads. -/
structure Method.Tidy (m : Method) : Prop where
  name : isSingleLine m.name.text = true
  parent : isLine 0 m.parent = true
  overloads : ∀ v ∈ m.overloads, v.Tidy

/-- The actions are plain lines. -/
def ActionBlock.Tidy (b : ActionBlock) : Prop :=
  ∀ a ∈ b.actions, isPlainLine 0 a = true

/-- The class is made of tidy members. -/
structure StateClass.Tidy (c : StateClass) : Prop where
  name : isSingleLine c.name = true
  parent : isSingleLine c.parent = true
  reflection : ∀ table ∈ c.reflection, ∀ e ∈ table, isSingleLine e.1.literal = true
  entry : ∀ b ∈ c.entry, b.Tidy
  exit : ∀ b ∈ c.exit, b.Tidy
  methods : ∀ m ∈ c.methods, m.Tidy

/-- The instance is a name given to an instance of a class. -/
structure Instance.Tidy (i : Instance) : Prop where
  name : isName i.name = true
  className : isSingleLine i.className = true
  label : isSingleLine i.label = true

/-- The classes of the map are tidy. -/
structure MapClasses.Tidy (m : MapClasses) : Prop where
  name : isSingleLine m.name = true
  classes : ∀ c ∈ m.classes, c.Tidy
  instances : ∀ i ∈ m.instances, i.Tidy

/-- All classes are tidy. -/
structure ClassTable.Tidy (t : ClassTable) : Prop where
  base : isSingleLine t.base = true
  transitionNames : ∀ n ∈ t.transitionNames, isSingleLine n.text = true
  maps : ∀ m ∈ t.maps, m.Tidy
  contextClass : isSingleLine t.contextClass = true
  startState : isSingleLine t.startState = true
  states : ∀ r ∈ t.states, isSingleLine r = true

namespace PythonModule

variable {s : Style}

theorem when_block {depth : Nat} {c : Bool} {ls : List String} (h : c = true → Block depth ls) :
    Block depth (when c ls) := by
  rw [when]
  split
  · next hc => exact h hc
  · exact .nil depth

/-- A line that opens a block of plain lines. -/
theorem opening_lines {depth : Nat} {l first : String} {body : List String}
    (hl : isOpeningLine depth l = true) (hfirst : isPlainLine (depth + 1) first = true)
    (hbody : ∀ l ∈ body, isPlainLine (depth + 1) l = true) : Block depth (l :: first :: body) := by
  refine .opening hl (.line hfirst (.of_lines hbody)) (HasCode.of_cons ?_)
  exact ne_empty_of_isLine (Bool.and_eq_true_iff.1 hfirst).1

/-! ## Guards -/

theorem traceMessage_block {message : String} (h : isSingleLine message = true) :
    Block 0 (traceMessage message) :=
  opening_lines (isOpeningLine_ofList (by decide))
    (isPlainLine_append (isLine_append (isLine_ofList (by decide)) h) (by decide))
    (List.forall_mem_nil _)

theorem traceState_block {message : String} (h : isSingleLine message = true) :
    Block 0 (traceState message) :=
  opening_lines (isOpeningLine_ofList (by decide))
    (isPlainLine_append (isLine_append (isLine_ofList (by decide)) h) (by decide))
    (List.forall_mem_nil _)

theorem commitMove_block {b : Branch} (hb : b.Tidy) : Block 0 (commitMove b) := by
  have hset : Block 0 ["fsm.set_state(" ++ b.endState ++ ")"] :=
    .single (isPlainLine_append (isLine_append (isLine_ofList (by decide)) hb.endState) (by decide))
  rw [commitMove]
  split
  · exact hset
  · split
    · refine ((when_block fun _ => hset).append (when_block fun _ => ?_)).append ?_
      · exact .single (isPlainLine_ofList (by decide))
      · exact .single (isPlainLine_append
          (isLine_append (isLine_ofList (by decide)) hb.pushState) (by decide))
    · exact when_block fun _ => .single (isPlainLine_ofList (by decide))

theorem enter_block : Block 0 (enter s) :=
  ((when_block fun _ => traceState_block (isSingleLine_ofList (by decide))).append
    (.single (isPlainLine_ofList (by decide)))).append
    (when_block fun _ => traceState_block (isSingleLine_ofList (by decide)))

theorem commit_block {b : Branch} (hb : b.Tidy) : Block 0 (commit s b) := by
  have hmessage : isSingleLine ("EXIT TRANSITION : " ++ b.label) = true := by
    rw [isSingleLine_append, hb.label, isSingleLine_ofList (by decide)]
    rfl
  exact ((when_block fun _ => traceMessage_block hmessage).append (commitMove_block hb)).append
    (when_block fun _ => enter_block)

theorem leave_block : Block 0 (leave s) :=
  (((when_block fun _ => traceState_block (isSingleLine_ofList (by decide))).append
    (when_block fun _ => traceState_block (isSingleLine_ofList (by decide)))).append
    (.single (isPlainLine_ofList (by decide)))).append
    (when_block fun _ => traceState_block (isSingleLine_ofList (by decide)))

/-- Whatever is set, pushed or popped takes a line. -/
theorem commit_hasCode {b : Branch}
    (h : (b.plan.setsState || b.plan.pushes || b.plan.pops) = true) : HasCode (commit s b) := by
  refine HasCode.append_left (HasCode.append_right ?_)
  rw [commitMove]
  split
  · exact HasCode.of_cons (by simp)
  · split
    · exact HasCode.append_right (HasCode.of_cons (by simp))
    · have hpops : b.plan.pops = true := by simp_all
      rw [hpops]
      exact HasCode.of_cons (by simp)

theorem actAndCommit_block {b : Branch} (hb : b.Tidy) : Block 0 (actAndCommit s b) := by
  rw [actAndCommit]
  split
  · next hprotected =>
    obtain ⟨hactions, hcommits⟩ := hb.commits hprotected
    have htry : Block 0 ("try:" :: b.actions.map fun a => "    " ++ a) := by
      obtain ⟨a, as, has⟩ := List.exists_cons_of_ne_nil hactions
      have hall := hb.actions
      rw [has] at hall ⊢
      obtain ⟨ha, has⟩ := List.forall_mem_cons.1 hall
      refine opening_lines (isOpeningLine_ofList (by decide)) (isPlainLine_margin rfl ha) ?_
      exact List.forall_mem_map.2 fun a' ha' => isPlainLine_margin rfl (has a' ha')
    have hfinally : Block 0 ("finally:" :: nest 4 (commit s b)) :=
      .opening (isOpeningLine_ofList (by decide)) ((commit_block hb).nest 1)
        ((commit_block hb).hasCode_nest (commit_hasCode hcommits) 4)
    rw [List.append_assoc]
    exact htry.append hfinally
  · exact (Block.of_lines hb.actions).append (commit_block hb)

theorem branchBody_block {b : Branch} (hb : b.Tidy) : Block 0 (branchBody s b) := by
  have hmessage : isSingleLine ("ENTER TRANSITION: " ++ b.label) = true := by
    rw [isSingleLine_append, hb.label, isSingleLine_ofList (by decide)]
    rfl
  have hpop : isPlainLine 0 ("fsm." ++ b.plan.popTransition.text ++ "("
      ++ b.plan.popArguments.text ++ ")") = true :=
    isPlainLine_append (isLine_append (isLine_append (isLine_append (isLine_ofList (by decide))
      hb.popTransition) (isSingleLine_ofList (by decide))) hb.popArguments) (by decide)
  refine ((((((when_block fun _ => ?_).append (when_block fun _ => leave_block)).append
    (when_block fun _ => traceMessage_block hmessage)).append (when_block fun _ => ?_)).append
    (actAndCommit_block hb)).append (when_block fun _ => .single hpop)).append
    (when_block fun _ => ?_)
  · exact .single (isPlainLine_append (isLine_ofList (by decide)) (by decide))
  · exact .single (isPlainLine_ofList (by decide))
  · exact .single (isPlainLine_ofList (by decide))

theorem hasCode_when {c : Bool} {ls : List String} (hc : c = true) (h : HasCode ls) :
    HasCode (when c ls) := by
  rwa [when, if_pos hc]

/-- The body of a branch is never empty: one that neither leaves nor clears pushes, or
    changes nothing, and then something is traced or passed. -/
theorem branchBody_hasCode {b : Branch} (hb : b.Tidy) : HasCode (branchBody s b) := by
  have hacts := hb.acts
  rw [Bool.or_eq_true, Bool.or_eq_true, Bool.or_eq_true] at hacts
  rw [branchBody]
  rcases hacts with ((hexits | hclears) | hpushes) | hnoop
  · refine .append_left (.append_left (.append_left (.append_left (.append_left (.append_right ?_)))))
    exact hasCode_when hexits (.append_left (HasCode.append_right (HasCode.of_cons (by decide))))
  · refine .append_left (.append_left (.append_left (.append_right ?_)))
    exact hasCode_when hclears (HasCode.of_cons (by decide))
  · refine .append_left (.append_left (.append_right ?_))
    have hcommit : HasCode (commit s b) := commit_hasCode (by rw [hpushes]; simp)
    rw [actAndCommit]
    split
    · exact .append_left (.append_left (.append_left (HasCode.of_cons (by decide))))
    · exact .append_right hcommit
  · cases htrace : s.trace with
    | true =>
      refine .append_left (.append_left (.append_left (.append_left (.append_right ?_))))
      exact HasCode.of_cons (by decide)
    | false =>
      refine .append_right (hasCode_when ?_ (HasCode.of_cons (by decide)))
      rw [hnoop]
      rfl

theorem branch_block {b : Branch} (hb : b.Tidy) : Block 2 (branch s b) ∧ HasCode (branch s b) := by
  have hbody : Block 0 (branchBody s b) := branchBody_block hb
  have hcode : HasCode (branchBody s b) := branchBody_hasCode hb
  rw [branch]
  cases b.keyword with
  | none => exact ⟨hbody.nest 2, hbody.hasCode_nest hcode 8⟩
  | some k =>
    have hhead : isLine 0 (if k = .otherwise then k.word else k.word ++ " " ++ b.condition) =
        true := by
      have hword : isLine 0 k.word = true := by cases k <;> exact isLine_ofList (by decide)
      split
      · exact hword
      · exact isLine_append (isLine_append hword (isSingleLine_ofList (by decide))) hb.condition
    have hline : isOpeningLine 2 ("        "
        ++ (if k = .otherwise then k.word else k.word ++ " " ++ b.condition) ++ ":") = true :=
      isOpeningLine_append (isLine_margin rfl hhead) (by decide)
    refine ⟨.opening hline (hbody.nest 3) (hbody.hasCode_nest hcode 12), HasCode.of_cons ?_⟩
    exact ne_empty_of_isLine (Bool.and_eq_true_iff.1 hline).1

/-! ## Classes -/

/-- Names with commas between them are a line of code. -/
theorem isLine_joined {names : List String} (hne : names ≠ [])
    (h : ∀ n ∈ names, isName n = true) : isLine 0 (joined ", " names) = true := by
  obtain ⟨n, ns, rfl⟩ := List.exists_cons_of_ne_nil hne
  obtain ⟨hn, hns⟩ := List.forall_mem_cons.1 h
  have hline := isLine_of_isName hn
  rw [joined]
  cases ns with
  | nil => rwa [String.intercalate_singleton]
  | cons n' ns =>
    have hrest : isSingleLine (joined ", " (n' :: ns)) = true :=
      isSingleLine_joined (isSingleLine_ofList (by decide))
        fun n hn => isSingleLine_of_isName (hns n hn)
    rw [String.intercalate_cons_cons]
    exact isLine_append (isLine_append hline (isSingleLine_ofList (by decide))) hrest

theorem unpack_block {parameters : List String} (h : ∀ q ∈ parameters, isName q = true) :
    Block 2 (unpack parameters) := by
  refine when_block fun hsome => .single ?_
  have hcomma : isSingleLine (if parameters.length = 1 then "," else "") = true := by
    split <;> exact isSingleLine_ofList (by decide)
  refine isPlainLine_append (isLine_append (isLine_margin rfl ?_) hcomma) (by decide)
  exact isLine_joined (by simpa using hsome) h

theorem overload_block {parent : String} (hparent : isLine 0 parent = true) (isFirst : Bool)
    {v : Overload} (hv : v.Tidy) : Block 1 (overload s parent isFirst v) := by
  have hhead : isOpeningLine 1 ("    " ++ (if isFirst then "if" else "elif") ++ " len(args) == "
      ++ toString v.parameters.length ++ ":") = true := by
    refine isOpeningLine_append (isLine_append (isLine_append (isLine_margin rfl ?_)
      (isSingleLine_ofList (by decide))) (isSingleLine_nat _)) (by decide)
    cases isFirst <;> exact isLine_ofList (by decide)
  have helse : Block 2 ["        else:", "            " ++ parent ++ "(self, fsm, *args)"] :=
    opening_lines (isOpeningLine_ofList (by decide))
      (isPlainLine_append (isLine_margin rfl hparent) (by decide)) (List.forall_mem_nil _)
  have hbranches : Block 2 (v.branches.flatMap (branch s)) :=
    .flatMap fun b hb => (branch_block (hv.branches b hb)).1
  have hcode : HasCode (unpack v.parameters ++ v.branches.flatMap (branch s)
      ++ when v.fallsThrough ["        else:", "            " ++ parent ++ "(self, fsm, *args)"]) := by
    rcases hv.nonempty with hfalls | hsome
    · exact .append_right (hasCode_when hfalls (HasCode.of_cons (by decide)))
    · -- the first branch has a line
      obtain ⟨b, bs, hbs⟩ := List.exists_cons_of_ne_nil hsome
      have hb : b ∈ v.branches := hbs ▸ List.mem_cons_self
      rw [hbs, List.flatMap_cons]
      exact .append_left (.append_right (.append_left (branch_block (hv.branches b hb)).2))
  rw [overload, List.append_assoc, List.append_assoc, ← List.append_assoc (unpack _),
    List.singleton_append]
  exact .opening hhead (((unpack_block hv.parameters).append hbranches).append
    (when_block fun _ => helse)) hcode

theorem overloads_block {parent : String} (hparent : isLine 0 parent = true) {vs : List Overload}
    (hvs : ∀ v ∈ vs, v.Tidy) : Block 1 (overloads s parent vs) := by
  cases vs with
  | nil => exact .nil 1
  | cons v vs =>
    obtain ⟨hv, hvs⟩ := List.forall_mem_cons.1 hvs
    exact (overload_block hparent true hv).append
      (.flatMap fun v hv => overload_block hparent false (hvs v hv))

theorem method_block {m : Method} (hm : m.Tidy) : Block 0 (method s m) := by
  have hhead : isOpeningLine 0 ("def " ++ m.name.text ++ "(self, fsm, *args):") = true :=
    isOpeningLine_append (isLine_append (isLine_ofList (by decide)) hm.name) (by decide)
  have helse : Block 1 ["    else:", "        " ++ m.parent ++ "(self, fsm, *args)"] :=
    opening_lines (isOpeningLine_ofList (by decide))
      (isPlainLine_append (isLine_margin rfl hm.parent) (by decide)) (List.forall_mem_nil _)
  rw [method, List.append_assoc, List.append_assoc, ← List.append_assoc (when _ _),
    List.singleton_append]
  refine .opening hhead (((when_block fun _ => ?_).append
    (overloads_block hm.parent hm.overloads)).append helse) ?_
  · exact .single (isPlainLine_ofList (by decide))
  · exact HasCode.append_right (HasCode.of_cons (by decide))

theorem actionMethod_block {name : String} (hname : isSingleLine name = true) {b : ActionBlock}
    (hb : b.Tidy) : Block 0 (actionMethod name b) := by
  have hhead : isOpeningLine 0 ("def " ++ name ++ "(self, fsm):") = true :=
    isOpeningLine_append (isLine_append (isLine_ofList (by decide)) hname) (by decide)
  have hlines : ∀ l ∈ b.actions.map (fun a => "    " ++ a), isPlainLine 1 l = true :=
    List.forall_mem_map.2 fun a ha => isPlainLine_margin rfl (hb a ha)
  rw [actionMethod, List.singleton_append]
  split
  · exact opening_lines hhead (isPlainLine_ofList (by decide)) (List.forall_mem_nil _)
  · next hsome =>
    refine .opening hhead ((when_block fun _ => ?_).append (.of_lines hlines)) (.append_right ?_)
    · exact .single (isPlainLine_ofList (by decide))
    · obtain ⟨a, as, has⟩ := List.exists_cons_of_ne_nil (by simpa using hsome : b.actions ≠ [])
      rw [has]
      exact HasCode.of_cons (by simp)

theorem actionMember_block {name : String} (hname : isSingleLine name = true)
    {block : Option ActionBlock} (h : ∀ b ∈ block, b.Tidy) : Block 1 (actionMember name block) := by
  cases block with
  | none => exact .nil 1
  | some b => exact .gap ((actionMethod_block hname (h b rfl)).nest 1)

theorem actionMember_hasCode {name : String} (hname : isSingleLine name = true) {b : ActionBlock}
    (hb : b.Tidy) : HasCode (actionMember name (some b)) := by
  have hcode : HasCode (actionMethod name b) := HasCode.of_cons (by simp)
  obtain ⟨l, hl, hne⟩ := (actionMethod_block hname hb).hasCode_nest hcode 4
  exact ⟨l, List.mem_cons_of_mem _ hl, hne⟩

/-- A class that is not bare has a member, and a bare one passes. -/
theorem stateClass_hasCode {c : StateClass} (hc : c.Tidy) :
    HasCode ((c.reflection.map fun t => "    _transitions = " ++ tableText t).toList
      ++ actionMember "entry" c.entry ++ actionMember "exit" c.exit
      ++ c.methods.flatMap (fun m => "" :: nest 4 (method s m))
      ++ when (isBare c) ["    pass"]) := by
  cases hbare : isBare c with
  | true => exact HasCode.append_right (HasCode.of_cons (by decide))
  | false =>
    apply HasCode.append_left
    simp only [isBare, Bool.and_eq_false_iff, Option.isNone_eq_false_iff,
      Option.isSome_iff_exists, List.isEmpty_eq_false_iff] at hbare
    rcases hbare with ((⟨table, htable⟩ | ⟨b, hb⟩) | ⟨b, hb⟩) | hmethods
    · rw [htable]
      exact HasCode.append_left (HasCode.append_left (HasCode.append_left
        (HasCode.of_cons (by simp))))
    · have hname : isSingleLine "entry" = true := isSingleLine_ofList (by decide)
      rw [hb]
      exact HasCode.append_left (HasCode.append_left (HasCode.append_right
        (actionMember_hasCode hname (hc.entry b hb))))
    · have hname : isSingleLine "exit" = true := isSingleLine_ofList (by decide)
      rw [hb]
      exact HasCode.append_left (HasCode.append_right
        (actionMember_hasCode hname (hc.exit b hb)))
    · obtain ⟨m, ms, hms⟩ := List.exists_cons_of_ne_nil hmethods
      have hm : m.Tidy := hc.methods m (hms ▸ List.mem_cons_self)
      have hmethod : HasCode (method s m) := HasCode.of_cons (by simp)
      obtain ⟨l, hl, hne⟩ := (method_block hm).hasCode_nest hmethod 4
      rw [hms, List.flatMap_cons]
      exact HasCode.append_right (HasCode.append_left ⟨l, List.mem_cons_of_mem _ hl, hne⟩)

theorem stateClass_block {c : StateClass} (hc : c.Tidy) : Block 0 (stateClass s c) := by
  have hhead : isOpeningLine 0 ("class " ++ c.name ++ "(" ++ c.parent ++ "):") = true :=
    isOpeningLine_append (isLine_append (isLine_append (isLine_append (isLine_ofList (by decide))
      hc.name) (isSingleLine_ofList (by decide))) hc.parent) (by decide)
  have htable : ∀ table ∈ c.reflection,
      isPlainLine 1 ("    _transitions = " ++ tableText table) = true := by
    intro table htable
    have hentries : isSingleLine (joined ", " (table.map fun e =>
        e.1.literal ++ ": " ++ toString e.2)) = true := by
      refine isSingleLine_joined (isSingleLine_ofList (by decide))
        (List.forall_mem_map.2 fun e he => ?_)
      rw [isSingleLine_append, isSingleLine_append, hc.reflection table htable e he,
        isSingleLine_ofList (by decide), isSingleLine_nat]
      rfl
    rw [tableText, ← String.append_assoc, ← String.append_assoc]
    exact isPlainLine_append (isLine_append (isLine_append (isLine_ofList (by decide))
      (isSingleLine_ofList (by decide))) hentries) (by decide)
  have hbody : Block 1 ((c.reflection.map fun t => "    _transitions = " ++ tableText t).toList
      ++ actionMember "entry" c.entry ++ actionMember "exit" c.exit
      ++ c.methods.flatMap (fun m => "" :: nest 4 (method s m)) ++ when (isBare c) ["    pass"]) := by
    refine ((((Block.of_lines ?_).append
      (actionMember_block (isSingleLine_ofList (by decide)) hc.entry)).append
      (actionMember_block (isSingleLine_ofList (by decide)) hc.exit)).append
      (.flatMap fun m hm => .gap ((method_block (hc.methods m hm)).nest 1))).append
      (when_block fun _ => .single (isPlainLine_ofList (by decide)))
    intro l hl
    obtain ⟨table, hmem, rfl⟩ := Option.map_eq_some_iff.1 (Option.mem_toList.1 hl)
    exact htable table hmem
  exact .gap (.gap (.opening hhead hbody (stateClass_hasCode hc)))

theorem holder_block {m : MapClasses} (hm : m.Tidy) : Block 0 (holder m) := by
  have hhead : isOpeningLine 0 ("class " ++ m.name ++ "(object):") = true :=
    isOpeningLine_append (isLine_append (isLine_ofList (by decide)) hm.name) (by decide)
  have hinstances : ∀ l ∈ m.instances.map (fun i => "    " ++ i.name ++ " = " ++ i.className
      ++ "('" ++ i.label ++ "', " ++ toString i.id ++ ")"), isPlainLine 1 l = true := by
    refine List.forall_mem_map.2 fun i hi => ?_
    obtain ⟨hname, hclass, hlabel⟩ := hm.instances i hi
    exact isPlainLine_append (isLine_append (isLine_append (isLine_append (isLine_append
      (isLine_append (isLine_append (isLine_margin rfl (isLine_of_isName hname))
        (isSingleLine_ofList (by decide))) hclass) (isSingleLine_ofList (by decide))) hlabel)
      (isSingleLine_ofList (by decide))) (isSingleLine_int i.id)) (by decide)
  have hdefault : isPlainLine 1 ("    Default = " ++ m.name ++ "_Default('" ++ m.name
      ++ ".Default', -1)") = true :=
    isPlainLine_append (isLine_append (isLine_append (isLine_append (isLine_ofList (by decide))
      hm.name) (isSingleLine_ofList (by decide))) hm.name) (by decide)
  have hbody : Block 1 ("" :: m.instances.map (fun i => "    " ++ i.name ++ " = " ++ i.className
      ++ "('" ++ i.label ++ "', " ++ toString i.id ++ ")")
      ++ ["    Default = " ++ m.name ++ "_Default('" ++ m.name ++ ".Default', -1)"]) :=
    (Block.gap (.of_lines hinstances)).append (.single hdefault)
  exact .gap (.gap (.opening hhead hbody (HasCode.append_right (HasCode.of_cons (by simp)))))

theorem baseClass_block {t : ClassTable} (ht : t.Tidy) : Block 0 (baseClass s t) := by
  have hhead : isOpeningLine 0 ("class " ++ t.base ++ "(statemap.State):") = true :=
    isOpeningLine_append (isLine_append (isLine_ofList (by decide)) ht.base) (by decide)
  have hmethods : Block 1 (t.transitionNames.flatMap fun n =>
      ["", "    def " ++ n.text ++ "(self, fsm, *args):", "        self.Default(fsm)"]) := by
    refine .flatMap fun n hn => .gap (opening_lines ?_ ?_ (List.forall_mem_nil _))
    · exact isOpeningLine_append
        (isLine_append (isLine_ofList (by decide)) (ht.transitionNames n hn)) (by decide)
    · exact isPlainLine_ofList (by decide)
  have hmessage : isPlainLine 2 ("        msg = \"State: %s, Transition: %s\" % "
      ++ "(fsm.get_state().get_name(), fsm.get_transition())") = true :=
    isPlainLine_append (isLine_ofList (by decide)) (by decide)
  have hraise : isPlainLine 2 "        raise statemap.TransitionUndefinedException(msg)" = true :=
    isPlainLine_ofList (by decide)
  have htrace : Block 2 (nest 8 (traceMessage "TRANSITION   : Default")) :=
    (traceMessage_block (isSingleLine_ofList (by decide))).nest 2
  have hdefault : Block 1 ("    def Default(self, fsm):"
      :: (when s.trace (nest 8 (traceMessage "TRANSITION   : Default"))
        ++ ["        msg = \"State: %s, Transition: %s\" % "
            ++ "(fsm.get_state().get_name(), fsm.get_transition())",
          "        raise statemap.TransitionUndefinedException(msg)"])) :=
    .opening (isOpeningLine_ofList (by decide))
      ((when_block fun _ => htrace).append (.line hmessage (.single hraise)))
      (HasCode.append_right (HasCode.of_cons (by simp)))
  have hbody := hmethods.append (.gap hdefault)
  rw [baseClass]
  simp only [List.append_assoc, List.cons_append, List.nil_append]
  refine .opening hhead hbody (HasCode.append_right ⟨_, List.mem_cons_of_mem _ List.mem_cons_self, ?_⟩)
  decide

theorem passOn_block {name : String} (hname : isSingleLine name = true) : Block 0 (passOn name) := by
  have hset : isPlainLine 0 ("self.set_transition('" ++ name ++ "')") = true :=
    isPlainLine_append (isLine_append (isLine_ofList (by decide)) hname) (by decide)
  have hcall : isPlainLine 1 ("    self.get_state()." ++ name ++ "(self, *arglist)") = true :=
    isPlainLine_append (isLine_append (isLine_ofList (by decide)) hname) (by decide)
  have htry : Block 0 ["try:", "    self.get_state()." ++ name ++ "(self, *arglist)"] :=
    opening_lines (isOpeningLine_ofList (by decide)) hcall (List.forall_mem_nil _)
  have hfinally : Block 0 ["finally:", "    self.set_transition(None)"] :=
    opening_lines (isOpeningLine_ofList (by decide)) (isPlainLine_ofList (by decide))
      (List.forall_mem_nil _)
  exact .line hset (htry.append hfinally)

theorem contextMethod_block {name : String} (hname : isSingleLine name = true) :
    Block 1 (contextMethod s name) := by
  have hhead : isOpeningLine 1 ("    def " ++ name ++ "(self, *arglist):") = true :=
    isOpeningLine_append (isLine_append (isLine_ofList (by decide)) hname) (by decide)
  have hcode : HasCode (passOn name) := HasCode.of_cons (by simp)
  have hbody := passOn_block hname
  rw [contextMethod, List.cons_append, List.cons_append, List.nil_append]
  refine .gap (.opening hhead ?_ ?_)
  · split
    · exact .opening (isOpeningLine_ofList (by decide)) (hbody.nest 3) (hbody.hasCode_nest hcode 12)
    · exact hbody.nest 2
  · split
    · exact HasCode.of_cons (by decide)
    · exact hbody.hasCode_nest hcode 8

theorem contextClass_block {t : ClassTable} (ht : t.Tidy) : Block 0 (contextClass s t) := by
  have hhead : isOpeningLine 0 ("class " ++ t.contextClass ++ "(statemap.FSMContext):") = true :=
    isOpeningLine_append (isLine_append (isLine_ofList (by decide)) ht.contextClass) (by decide)
  have hinit : Block 1 ["    def __init__(self, owner):",
      "        statemap.FSMContext.__init__(self, " ++ t.startState ++ ", name='" ++ t.contextClass
        ++ "')", "        self._owner = owner"] := by
    refine opening_lines (isOpeningLine_ofList (by decide)) ?_
      (List.forall_mem_singleton.2 (isPlainLine_ofList (by decide)))
    exact isPlainLine_append (isLine_append (isLine_append (isLine_append
      (isLine_ofList (by decide)) ht.startState) (isSingleLine_ofList (by decide)))
      ht.contextClass) (by decide)
  have hmethods : Block 1 (t.transitionNames.flatMap fun n => contextMethod s n.text) :=
    .flatMap fun n hn => contextMethod_block (ht.transitionNames n hn)
  have howner : Block 1 ["", "    def get_owner(self):", "        return self._owner"] :=
    .gap (opening_lines (isOpeningLine_ofList (by decide)) (isPlainLine_ofList (by decide))
      (List.forall_mem_nil _))
  have hstates : Block 1 ["", "    def get_states(self):",
      "        return [" ++ joined ", " t.states ++ "]"] := by
    refine .gap (opening_lines (isOpeningLine_ofList (by decide)) ?_ (List.forall_mem_nil _))
    exact isPlainLine_append (isLine_append (isLine_ofList (by decide))
      (isSingleLine_joined (isSingleLine_ofList (by decide)) ht.states)) (by decide)
  have hbody := ((Block.gap hinit).append hmethods).append
    (howner.append (when_block (c := s.reflect) fun _ => hstates))
  rw [contextClass]
  simp only [List.append_assoc, List.cons_append, List.nil_append] at hbody ⊢
  refine .gap (.gap (.opening hhead hbody ⟨_, List.mem_cons_of_mem _ List.mem_cons_self, ?_⟩))
  decide

/-- The lines of the classes are a block. -/
theorem classLines_block {t : ClassTable} (ht : t.Tidy) : Block 0 (classLines s t) := by
  refine ((baseClass_block ht).append (.flatMap fun m hm => ?_)).append (contextClass_block ht)
  exact (Block.flatMap fun c hc => stateClass_block ((ht.maps m hm).classes c hc)).append
    (holder_block (ht.maps m hm))

end PythonModule
end StateMachine
