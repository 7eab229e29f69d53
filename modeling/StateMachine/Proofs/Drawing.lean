import Mathlib.Data.List.Induction
import Mathlib.Data.List.Nodup
import StateMachine.Generate.Diagram
import StateMachine.Proofs.Safety

/-!
# Drawings

The drawing of a machine is *closed*: whatever an edge leads from or to is a node
of the drawing. Nodes and edges are added one guard after the other; what is
added for a guard keeps a cluster closed (`Cluster.Closed.addArrow`), and so do
the entry arrows of the states that are pushed, which come last
(`Cluster.Closed.addEntry`).

An entry arrow goes where the *beginning* of the scoped name says, the text before
the first scope mark. This is the name of the state's map, unless that name holds
a scope mark or ends with a colon (`before_scoped_iff`) or is no text at all: there,
and nowhere else, a state that is pushed has no entry arrow in its own map
(`drawing_is_closed`, `ringing_phone_has_no_entry`).
-/

namespace StateMachine

/-! ## The beginning of a scoped name -/

namespace Text

/-- A text is cut at an occurrence of the separator no later than any other. -/
theorem length_le_of_cutFirst {sep : List Char} (hsep : sep ≠ []) (l r : List Char)
    {a b : List Char} (h : cutFirst sep (l ++ sep ++ r) = some (a, b)) : a.length ≤ l.length := by
  induction l generalizing a with
  | nil =>
    obtain ⟨c, cs, rfl⟩ := List.exists_cons_of_ne_nil hsep
    have hprefix : (c :: cs).isPrefixOf (c :: (cs ++ r)) = true :=
      List.isPrefixOf_iff_prefix.2 (List.prefix_append (c :: cs) r)
    rw [List.nil_append, List.cons_append, cutFirst, if_pos hprefix] at h
    cases h
    exact Nat.le_refl 0
  | cons c l ih =>
    rw [List.cons_append, List.cons_append, cutFirst] at h
    split at h
    · cases h
      exact Nat.zero_le _
    · obtain ⟨⟨a', b'⟩, hcut, hab⟩ := Option.map_eq_some_iff.1 h
      cases hab
      exact Nat.succ_le_succ (ih hcut)

/-- A text before a double colon is what that text is cut into, unless it holds a
    double colon itself, or makes one up with the colon it ends with. -/
theorem cutFirst_colons_iff (l r : List Char) :
    (∃ r', cutFirst [':', ':'] (l ++ [':', ':'] ++ r) = some (l, r')) ↔
      cutFirst [':', ':'] l = none ∧ l.getLast? ≠ some ':' := by
  constructor
  · rintro ⟨r', h⟩
    -- an earlier double colon would leave a shorter text before it
    have hearlier : ∀ x y : List Char, l ++ [':', ':'] ++ r = x ++ [':', ':'] ++ y →
        l.length ≤ x.length := by
      intro x y hxy
      rw [hxy] at h
      exact length_le_of_cutFirst (by simp) x y h
    constructor
    · rw [Option.eq_none_iff_forall_ne_some]
      rintro ⟨x, y⟩ hcut
      have hl := cutFirst_eq_some hcut
      have hle := hearlier x (y ++ [':', ':'] ++ r) (by simp [hl])
      rw [hl, List.length_append, List.length_append, List.length_cons] at hle
      omega
    · intro hlast
      obtain ⟨x, rfl⟩ := List.getLast?_eq_some_iff.1 hlast
      have hle := hearlier x (':' :: r) (by simp)
      rw [List.length_append, List.length_singleton] at hle
      omega
  · rintro ⟨hnone, hlast⟩
    refine ⟨r, ?_⟩
    induction l with
    | nil => simp [cutFirst]
    | cons c l ih =>
      rw [cutFirst] at hnone
      split at hnone
      · cases hnone
      next hprefix =>
      have hrest : cutFirst [':', ':'] l = none := by simpa using hnone
      have hlast' : l.getLast? ≠ some ':' := by
        intro h
        rw [List.getLast?_cons, h] at hlast
        exact hlast rfl
      have hskip : ¬[':', ':'].isPrefixOf (c :: (l ++ [':', ':'] ++ r)) = true := by
        -- the first two characters are in the text, or the first one is its last
        cases l with
        | nil =>
          have hc : c ≠ ':' := by
            rintro rfl
            exact hlast rfl
          simp [List.isPrefixOf, hc.symm]
        | cons d l => simpa [List.isPrefixOf] using hprefix
      rw [List.cons_append, List.cons_append, cutFirst, if_neg hskip, ih hrest hlast']
      rfl

end Text

/-- A scoped name begins with the name of its map, if this neither holds a scope mark
    nor ends with a colon. -/
theorem before_scoped_iff (a b : String) :
    Text.before scopeMark (a ++ scopeMark ++ b) = a ↔
      Text.contains scopeMark a = false ∧ a.toList.getLast? ≠ some ':' := by
  have hmark : scopeMark.toList = [':', ':'] := rfl
  rw [Text.contains, Text.occursIn, Option.isSome_eq_false_iff, Option.isNone_iff_eq_none, hmark,
    ← Text.cutFirst_colons_iff a.toList b.toList, Text.before, String.toList_append,
    String.toList_append, hmark]
  have hcolons : [':', ':'] ≠ [] := by simp
  obtain ⟨⟨x, y⟩, hcut⟩ := Option.isSome_iff_exists.1
    (Text.isSome_cutFirst hcolons a.toList b.toList)
  rw [hcut]
  simp [← String.toList_inj]

namespace Diagram

variable {m : Machine} {level : GraphLevel} {map : StateMap} {a : Arrow}

/-! ## Arrows -/

theorem mem_arrowsOf {source : Place} {s : State} :
    a ∈ arrowsOf level source s ↔ a.place = source ∧ a.transition ∈ s.transitions ∧
      a.guard ∈ a.transition.guards ∧ isDrawn level a.guard = true := by
  obtain ⟨p, t, g⟩ := a
  simp only [arrowsOf, List.mem_flatMap, List.mem_map, List.mem_filter, Transition.mem_ordered,
    Arrow.mk.injEq]
  constructor
  · rintro ⟨t', ht, g', ⟨hg, hdrawn⟩, rfl, rfl, rfl⟩
    exact ⟨rfl, ht, hg, hdrawn⟩
  · rintro ⟨rfl, ht, hg, hdrawn⟩
    exact ⟨t, ht, g, ⟨hg, hdrawn⟩, rfl, rfl, rfl⟩

/-- A guard is drawn as leaving a state if it is a guard of this state, or one of the
    Default State for a name that the state has no transition of. -/
theorem mem_arrows :
    a ∈ arrows level map ↔ a.place.map = map ∧ a.place.state ∈ map.states ∧
      a.guard ∈ a.transition.guards ∧ isDrawn level a.guard = true ∧
      (a.transition ∈ a.place.state.transitions ∨
        ∃ d, map.default? = some d ∧ a.transition ∈ d.transitions ∧
          a.place.state.named? a.transition.name = none) := by
  obtain ⟨⟨map', s⟩, t, g⟩ := a
  simp only [arrows, List.mem_append, List.mem_flatMap, inherited]
  constructor
  · rintro (⟨s', hs, ha⟩ | ⟨s', hs, ha⟩)
    · obtain ⟨hplace, ht, hg, hdrawn⟩ := mem_arrowsOf.1 ha
      cases hplace
      exact ⟨rfl, hs, hg, hdrawn, .inl ht⟩
    · cases hdefault : map.default? with
      | none => simp [hdefault] at ha
      | some d =>
        simp only [hdefault, List.mem_filter, Option.isNone_iff_eq_none] at ha
        obtain ⟨hplace, ht, hg, hdrawn⟩ := mem_arrowsOf.1 ha.1
        cases hplace
        exact ⟨rfl, hs, hg, hdrawn, .inr ⟨d, rfl, ht, ha.2⟩⟩
  · rintro ⟨rfl, hs, hg, hdrawn, ht | ⟨d, hdefault, ht, hnamed⟩⟩
    · exact .inl ⟨s, hs, mem_arrowsOf.2 ⟨rfl, ht, hg, hdrawn⟩⟩
    · refine .inr ⟨s, hs, ?_⟩
      simp only [hdefault, List.mem_filter, Option.isNone_iff_eq_none]
      exact ⟨mem_arrowsOf.2 ⟨rfl, ht, hg, hdrawn⟩, hnamed⟩

/-- The state that a drawn guard leaves is one of the machine. -/
theorem place_mem_places (hmap : map ∈ m.maps) (ha : a ∈ arrows level map) :
    a.place ∈ m.places := by
  obtain ⟨rfl, hs, -⟩ := mem_arrows.1 ha
  exact Machine.mem_places.2 ⟨hmap, hs⟩

/-- A drawn guard of a valid machine is valid. -/
theorem guard_valid (hvalid : m.Valid) (hmap : map ∈ m.maps) (ha : a ∈ arrows level map) :
    a.guard.Valid m map := by
  obtain ⟨rfl, hs, hg, -, ht | ⟨d, hdefault, ht, -⟩⟩ := mem_arrows.1 ha
  · have hplace : a.place ∈ m.allPlaces :=
      Machine.mem_allPlaces.2 ⟨hmap, List.mem_append_right _ hs⟩
    exact (hvalid.transitions _ hplace _ ht).guards _ hg
  · have hplace : (⟨a.place.map, d⟩ : Place) ∈ m.allPlaces :=
      Machine.mem_allPlaces.2 ⟨hmap, List.mem_append_left _ (by simp [hdefault])⟩
    exact (hvalid.transitions _ hplace _ ht).guards _ hg

/-- A guard that does not pop ends at the node of a state. -/
theorem exists_endNode (hwf : m.WellFormed) (hvalid : m.Valid) (hmap : map ∈ m.maps)
    (ha : a ∈ arrows level map) (hmove : a.guard.move ≠ .pop) :
    ∃ q ∈ m.places, a.endNode = q.scopedName := by
  have hg := guard_valid hvalid hmap ha
  have hplace := place_mem_places hmap ha
  obtain ⟨rfl, -⟩ := mem_arrows.1 ha
  rw [Arrow.endNode]
  split
  · exact ⟨a.place, hplace, rfl⟩
  · next hloop =>
    have hnil : a.guard.endState ≠ .str nilState := by
      intro h
      rw [Guard.isLoopback, h, bne_iff_ne.2 hmove] at hloop
      exact hloop rfl
    obtain ⟨-, q, -, -, hq, hplan⟩ := hg.endState_plan hwf hmap hmove hnil
    exact ⟨q, hq, by rw [Arrow.plan, hplan]; rfl⟩

/-- A guard that pushes leads to the node of a state. -/
theorem exists_pushNode (hvalid : m.Valid) (hmap : map ∈ m.maps) (ha : a ∈ arrows level map)
    (hmove : a.guard.move = .push) : ∃ q ∈ m.places, a.pushNode = q.scopedName := by
  have hg := guard_valid hvalid hmap ha
  obtain ⟨rfl, -⟩ := mem_arrows.1 ha
  obtain ⟨-, q, -, -, hq, hplan⟩ := hg.pushState_plan hmap hmove
  exact ⟨q, hq, by rw [Arrow.pushNode, Arrow.plan, hplan]; rfl⟩

/-! ## Closed clusters -/

namespace Cluster

variable {c : Cluster} {known : String → Prop} {id : String}

/-- The names of the nodes that are no states. -/
def extraIds (c : Cluster) : List String :=
  c.extraNodes.map DotNode.id

/-- The name is known, or that of a node of the cluster. -/
def Declares (known : String → Prop) (c : Cluster) (id : String) : Prop :=
  known id ∨ id ∈ c.extraIds

/-- The edges of the cluster lead from and to nodes, and the nodes that are no states
    have different names. -/
structure Closed (known : String → Prop) (c : Cluster) : Prop where
  edges : ∀ e ∈ c.edges ++ c.extraEdges, c.Declares known e.source ∧ c.Declares known e.target
  nodup : c.extraIds.Nodup

theorem hasNode_iff : c.hasNode id = true ↔ id ∈ c.extraIds := by
  simp [hasNode, extraIds]

/-- A further node, under a new name or one that is there. -/
theorem mem_addNode {n : DotNode} : id ∈ (c.addNode n).extraIds ↔ id ∈ c.extraIds ∨ id = n.id := by
  rw [addNode]
  split
  · next h =>
    constructor
    · exact .inl
    · rintro (h' | rfl)
      · exact h'
      · exact hasNode_iff.1 h
  · simp [extraIds]

theorem Declares.addNode (h : c.Declares known id) (n : DotNode) :
    (c.addNode n).Declares known id :=
  h.imp_right fun h => mem_addNode.2 (.inl h)

theorem Closed.addNode (h : c.Closed known) (n : DotNode) : (c.addNode n).Closed known where
  edges e he := by
    have hedges : (c.addNode n).edges ++ (c.addNode n).extraEdges = c.edges ++ c.extraEdges := by
      rw [Cluster.addNode]
      split <;> rfl
    rw [hedges] at he
    exact ⟨(h.edges e he).1.addNode n, (h.edges e he).2.addNode n⟩
  nodup := by
    rw [Cluster.addNode]
    split
    · exact h.nodup
    · next hnew =>
      rw [hasNode_iff] at hnew
      have hnodup := h.nodup
      rw [extraIds] at hnew hnodup ⊢
      rw [List.map_append]
      refine List.nodup_append.2 ⟨hnodup, by simp, ?_⟩
      rintro id hid _ hn rfl
      rw [List.mem_singleton.1 hn] at hid
      exact hnew hid

theorem Closed.addExtraEdge (h : c.Closed known) {e : Edge} (hsource : c.Declares known e.source)
    (htarget : c.Declares known e.target) : (c.addExtraEdge e).Closed known where
  edges e' he := by
    have he : e' ∈ c.edges ++ c.extraEdges ∨ e' = e := by
      simpa [Cluster.addExtraEdge, or_assoc] using he
    rcases he with he | rfl
    · exact h.edges e' he
    · exact ⟨hsource, htarget⟩
  nodup := h.nodup

theorem Closed.addEdge (h : c.Closed known) {e : Edge} (hsource : c.Declares known e.source)
    (htarget : c.Declares known e.target) :
    Closed known { c with edges := c.edges ++ [e] } where
  edges e' he := by
    have he : e' ∈ c.edges ++ c.extraEdges ∨ e' = e := by
      simp only [List.mem_append, List.mem_singleton] at he ⊢
      exact or_right_comm.1 he
    rcases he with he | rfl
    · exact h.edges e' he
    · exact ⟨hsource, htarget⟩
  nodup := h.nodup

/-- The composite node of a guard is there once it was added. -/
theorem Closed.addComposite (h : c.Closed known) (hend : known a.endNode) :
    (c.addComposite a).Closed known ∧ a.compositeNode ∈ (c.addComposite a).extraIds := by
  rw [Cluster.addComposite]
  split
  · next hnode => exact ⟨h, hasNode_iff.1 hnode⟩
  · refine ⟨(h.addNode _).addExtraEdge (.inr ?_) (.inl hend), ?_⟩ <;>
      exact mem_addNode.2 (.inr rfl)

/-- The pop node of a guard is there once it was added. -/
theorem Closed.addPop (h : c.Closed known) (level : GraphLevel) (a : Arrow) :
    (c.addPop level a).Closed known ∧ a.popNode level ∈ (c.addPop level a).extraIds := by
  rw [Cluster.addPop]
  dsimp only
  split
  · next hnode => exact ⟨h, hasNode_iff.1 hnode⟩
  · have hpop : a.popNode level ∈ ((c.addNode ⟨a.popNode level, "label=\"\" width=1"⟩).addNode
        (endNode a.place.map)).extraIds := mem_addNode.2 (.inl (mem_addNode.2 (.inr rfl)))
    refine ⟨((h.addNode _).addNode _).addExtraEdge (.inr hpop) (.inr ?_), hpop⟩
    exact mem_addNode.2 (.inr rfl)

/-- What is added for a guard leads from and to nodes. -/
theorem Closed.addArrow (h : c.Closed known) (hplace : known a.place.scopedName)
    (hend : a.guard.move ≠ .pop → known a.endNode) : (c.addArrow level a).Closed known := by
  rw [Cluster.addArrow]
  -- an edge leads to a state or to a node that was added just before
  cases hmove : a.guard.move with
  | set =>
    refine h.addEdge (.inl hplace) (.inl ?_)
    simpa [Arrow.edge, Arrow.target, hmove] using hend (by simp [hmove])
  | push =>
    obtain ⟨hc, hnode⟩ := h.addComposite (hend (by simp [hmove]))
    exact hc.addEdge (.inl hplace) (.inr (by simpa [Arrow.edge, Arrow.target, hmove] using hnode))
  | pop =>
    obtain ⟨hc, hnode⟩ := h.addPop level a
    exact hc.addEdge (.inl hplace) (.inr (by simpa [Arrow.edge, Arrow.target, hmove] using hnode))

/-- An entry arrow leads from a node to the state that is pushed. -/
theorem Closed.addEntry (h : c.Closed known) {pushed : String} (hpushed : known pushed) :
    (c.addEntry pushed).Closed known := by
  rw [Cluster.addEntry]
  split
  · exact (h.addNode _).addExtraEdge (.inr (mem_addNode.2 (.inr rfl))) (.inl hpushed)
  · exact h

end Cluster

/-! ## Entry arrows -/

/-- Does the edge lead into a map, to a state that is pushed? -/
def Edge.isEntry (e : Edge) : Bool :=
  e.attributes == "arrowtail=odot"

/-- The entry arrow of a state that is pushed. -/
def entryArrow (pushed : String) : Edge :=
  ⟨"push(" ++ pushed ++ ")", pushed, "arrowtail=odot"⟩

/-- The entry arrows of a cluster. -/
def Cluster.entries (c : Cluster) : List Edge :=
  (c.edges ++ c.extraEdges).filter Edge.isEntry

/-- The entry arrows of a cluster that lead to the node. -/
def Cluster.entriesTo (c : Cluster) (id : String) : List Edge :=
  c.entries.filter fun e => e.target == id

theorem labelled_ne (text : String) : labelled text ≠ "arrowtail=odot" := by
  intro h
  have hfirst := congrArg (fun s : String => s.toList.head?) h
  rw [labelled, String.toList_append, String.toList_append] at hfirst
  cases hfirst

theorem isEntry_edge (a : Arrow) : (a.edge level).isEntry = false :=
  beq_eq_false_iff_ne.2 (labelled_ne _)

/-- The cluster draws the map: its states, the guards `as` as edges, and an entry arrow for each
    state of `pushed` whose scoped name begins with the name of the map. -/
structure Cluster.Draws (level : GraphLevel) (map : StateMap) (as : List Arrow)
    (pushed : List String) (c : Cluster) : Prop where
  name : c.name = map.name
  states : c.states.map DotNode.id = map.states.map map.scopedName
  edges : c.edges = as.map (Arrow.edge level)
  extraEntries : c.extraEdges.filter Edge.isEntry =
    (pushed.filter fun p => map.name == .str (Text.before scopeMark p)).map entryArrow

namespace Cluster.Draws

variable {as : List Arrow} {pushed : List String} {c : Cluster}

theorem addNode (h : c.Draws level map as pushed) (n : DotNode) :
    (c.addNode n).Draws level map as pushed := by
  rw [Cluster.addNode]
  split
  · exact h
  · exact ⟨h.name, h.states, h.edges, h.extraEntries⟩

theorem addExtraEdge (h : c.Draws level map as pushed) {e : Edge} (he : e.isEntry = false) :
    (c.addExtraEdge e).Draws level map as pushed :=
  ⟨h.name, h.states, h.edges, by simpa [Cluster.addExtraEdge, he] using h.extraEntries⟩

theorem addEdge (h : c.Draws level map as pushed) (a : Arrow) :
    Draws level map (as ++ [a]) pushed { c with edges := c.edges ++ [a.edge level] } :=
  ⟨h.name, h.states, by rw [List.map_append, ← h.edges]; rfl, h.extraEntries⟩

/-- The nodes that a guard needs come with edges that are no entry arrows. -/
theorem addArrow (h : c.Draws level map as pushed) (a : Arrow) :
    (c.addArrow level a).Draws level map (as ++ [a]) pushed := by
  rw [Cluster.addArrow]
  refine addEdge ?_ a
  split
  · exact h
  · rw [Cluster.addComposite]
    split
    · exact h
    · exact (h.addNode _).addExtraEdge rfl
  · rw [Cluster.addPop]
    split
    · exact h
    · exact ((h.addNode _).addNode _).addExtraEdge (beq_eq_false_iff_ne.2 (labelled_ne _))

theorem addEntry (h : c.Draws level map as pushed) (p : String) :
    (c.addEntry p).Draws level map as (pushed ++ [p]) := by
  rw [Cluster.addEntry, h.name]
  split
  · next hname =>
    have hc := h.addNode ⟨"push(" ++ p ++ ")", "label=\"\" shape=plaintext"⟩
    refine ⟨hc.name, hc.states, hc.edges, ?_⟩
    rw [Cluster.addExtraEdge, List.filter_append, List.filter_append, List.map_append,
      hc.extraEntries,
      List.filter_cons_of_pos (p := fun p => map.name == .str (Text.before scopeMark p)) hname]
    rfl
  · next hname => exact ⟨h.name, h.states, h.edges, by simpa [hname] using h.extraEntries⟩

/-- A fold of arrows and one of entries draw them all. -/
theorem foldl_addArrow (h : c.Draws level map [] pushed) (as : List Arrow) :
    (as.foldl (Cluster.addArrow level) c).Draws level map as pushed := by
  induction as using List.reverseRecOn with
  | nil => exact h
  | append_singleton as a ih =>
    rw [List.foldl_append]
    exact ih.addArrow a

theorem foldl_addEntry (h : c.Draws level map as []) (pushed : List String) :
    (pushed.foldl Cluster.addEntry c).Draws level map as pushed := by
  induction pushed using List.reverseRecOn with
  | nil => exact h
  | append_singleton pushed p ih =>
    rw [List.foldl_append]
    exact ih.addEntry p

end Cluster.Draws

/-! ## The drawing of a map -/

/-- The drawing of a map, with the arrows of pushed states. -/
def drawing (level : GraphLevel) (m : Machine) (map : StateMap) : Cluster :=
  (pushedStates level m).foldl Cluster.addEntry (Cluster.ofMap level map)

theorem drawing_draws (level : GraphLevel) (m : Machine) (map : StateMap) :
    (drawing level m map).Draws level map (arrows level map) (pushedStates level m) := by
  refine Cluster.Draws.foldl_addEntry (Cluster.Draws.foldl_addArrow ⟨rfl, ?_, rfl, rfl⟩ _) _
  rw [List.map_map]
  rfl

/-- A drawn guard pushes the state. -/
def Pushed (level : GraphLevel) (m : Machine) (node : String) : Prop :=
  ∃ map ∈ m.maps, ∃ a ∈ arrows level map, a.guard.move = .push ∧ a.pushNode = node

/-- The states that are pushed are listed once. -/
theorem pushedStates_spec (level : GraphLevel) (m : Machine) :
    (∀ node, node ∈ pushedStates level m ↔ Pushed level m node) ∧
      (pushedStates level m).Nodup := by
  have hpushed : ∀ node, Pushed level m node ↔ ∃ a ∈ (m.maps.flatMap (arrows level)).filter
      fun a => a.guard.move == .push, a.pushNode = node := by
    intro node
    simp only [Pushed, List.mem_filter, List.mem_flatMap, beq_iff_eq]
    constructor
    · rintro ⟨map, hmap, a, ha, hmove, rfl⟩
      exact ⟨a, ⟨⟨map, hmap, ha⟩, hmove⟩, rfl⟩
    · rintro ⟨a, ⟨⟨map, hmap, ha⟩, hmove⟩, rfl⟩
      exact ⟨map, hmap, a, ha, hmove, rfl⟩
  simp only [hpushed, pushedStates]
  -- every guard adds its node, unless the node is there
  induction (m.maps.flatMap (arrows level)).filter fun a => a.guard.move == .push
    using List.reverseRecOn with
  | nil => simp
  | append_singleton as a ih =>
    obtain ⟨hmem, hnodup⟩ := ih
    have hstep : ∀ node, (∃ b ∈ as ++ [a], b.pushNode = node) ↔
        (∃ b ∈ as, b.pushNode = node) ∨ node = a.pushNode := by
      intro node
      simp only [List.mem_append, List.mem_singleton, or_and_right, exists_or, exists_eq_left]
      exact or_congr_right eq_comm
    rw [List.foldl_append, List.foldl_cons, List.foldl_nil]
    split
    · next hseen =>
      rw [List.contains_iff_mem] at hseen
      refine ⟨fun node => ?_, hnodup⟩
      rw [hstep, ← hmem]
      exact (or_iff_left_of_imp fun h => h ▸ hseen).symm
    · next hnew =>
      rw [List.contains_iff_mem] at hnew
      refine ⟨fun node => ?_, List.nodup_append.2 ⟨hnodup, by simp, ?_⟩⟩
      · rw [hstep, ← hmem, List.mem_append, List.mem_singleton]
      · rintro node hnode _ ha rfl
        rw [List.mem_singleton.1 ha] at hnode
        exact hnew hnode

/-- The entry arrows of a map are those of the pushed states whose scoped names begin with the
    name of the map. -/
theorem entries_drawing (level : GraphLevel) (m : Machine) (map : StateMap) :
    (drawing level m map).entries = ((pushedStates level m).filter
      fun p => map.name == .str (Text.before scopeMark p)).map entryArrow := by
  have hdraws := drawing_draws level m map
  have hedges : (drawing level m map).edges.filter Edge.isEntry = [] := by
    rw [hdraws.edges, List.filter_eq_nil_iff]
    intro e he
    obtain ⟨a, -, rfl⟩ := List.mem_map.1 he
    simp [isEntry_edge]
  rw [Cluster.entries, List.filter_append, hdraws.extraEntries, hedges, List.nil_append]

theorem entriesTo_drawing {node : String} (hnode : Pushed level m node) (map : StateMap) :
    (drawing level m map).entriesTo node =
      if map.name == .str (Text.before scopeMark node) then [entryArrow node] else [] := by
  obtain ⟨hmem, hnodup⟩ := pushedStates_spec level m
  -- of the pushed states, listed once, the node picks itself, and the map picks it or not
  have honce : (pushedStates level m).filter (fun p => p == node) = [node] := by
    rw [List.filter_beq, List.count_eq_one_of_mem hnodup ((hmem node).2 hnode), List.replicate_one]
  have hcomm : ((pushedStates level m).filter fun p =>
      map.name == .str (Text.before scopeMark p)).filter (fun p => p == node) =
      [node].filter fun p => map.name == .str (Text.before scopeMark p) := by
    rw [← honce, List.filter_comm]
  rw [Cluster.entriesTo, entries_drawing, List.filter_map]
  refine (congrArg (List.map entryArrow) hcomm).trans ?_
  rw [List.filter_cons, List.filter_nil]
  split <;> rfl

/-- The drawing of a map of a valid machine leads from and to states and nodes of its own. -/
theorem drawing_closed (hwf : m.WellFormed) (hvalid : m.Valid) (hmap : map ∈ m.maps) :
    (drawing level m map).Closed fun id => ∃ q ∈ m.places, id = q.scopedName := by
  -- the inner fold adds the guards of the map, the outer one the entry arrows
  refine List.foldlRecOn _ _ (List.foldlRecOn _ _ ⟨by simp, by simp [Cluster.extraIds]⟩ ?_) ?_
  · intro c hc a ha
    exact hc.addArrow ⟨a.place, place_mem_places hmap ha, rfl⟩ (exists_endNode hwf hvalid hmap ha)
  · intro c hc node hnode
    obtain ⟨map', hmap', a, ha, hmove, rfl⟩ := ((pushedStates_spec level m).1 node).1 hnode
    exact hc.addEntry (exists_pushNode hvalid hmap' ha hmove)

/-! ## The drawing of a machine -/

namespace Graph

/-- The names of all nodes. -/
def ids (g : Graph) : List String :=
  "%start" :: g.clusters.flatMap fun c => c.states.map DotNode.id ++ c.extraIds

/-- What the edges lead from and to. -/
def ends (g : Graph) : List (String × String) :=
  ("%start", g.start) :: g.clusters.flatMap fun c =>
    (c.edges ++ c.extraEdges).map fun e => (e.source, e.target)

/-- All edges lead from and to nodes, and the nodes of a cluster that are no states have
    different names. -/
structure Closed (g : Graph) : Prop where
  ends : ∀ e ∈ g.ends, e.1 ∈ g.ids ∧ e.2 ∈ g.ids
  nodup : ∀ c ∈ g.clusters, c.extraIds.Nodup

end Graph

theorem scopedName_mem_ids {q : Place} (hq : q ∈ m.places) (start : Place) :
    q.scopedName ∈ (graph level m start).ids := by
  obtain ⟨hmap, hs⟩ := Machine.mem_places.1 hq
  refine List.mem_cons_of_mem _ (List.mem_flatMap.2 ⟨_, List.mem_map.2 ⟨q.map, hmap, rfl⟩, ?_⟩)
  refine List.mem_append_left _ ?_
  rw [show (List.foldl _ _ _ : Cluster) = drawing level m q.map from rfl,
    (drawing_draws level m q.map).states]
  exact List.mem_map.2 ⟨q.state, hs, rfl⟩

theorem graph_closed (hwf : m.WellFormed) (hvalid : m.Valid) {start : Place}
    (hstart : start ∈ m.places) : (graph level m start).Closed where
  ends e he := by
    have hids : ∀ map ∈ m.maps, ∀ id, (drawing level m map).Declares
        (fun id => ∃ q ∈ m.places, id = q.scopedName) id → id ∈ (graph level m start).ids := by
      rintro map hmap id (⟨q, hq, rfl⟩ | hid)
      · exact scopedName_mem_ids hq start
      · exact List.mem_cons_of_mem _ (List.mem_flatMap.2
          ⟨_, List.mem_map.2 ⟨map, hmap, rfl⟩, List.mem_append_right _ hid⟩)
    rcases List.mem_cons.1 he with rfl | he
    · exact ⟨List.mem_cons_self, scopedName_mem_ids hstart start⟩
    · obtain ⟨c, hc, he⟩ := List.mem_flatMap.1 he
      obtain ⟨map, hmap, rfl⟩ := List.mem_map.1 hc
      obtain ⟨e', he', rfl⟩ := List.mem_map.1 he
      obtain ⟨hsource, htarget⟩ := (drawing_closed hwf hvalid hmap).edges e' he'
      exact ⟨hids map hmap _ hsource, hids map hmap _ htarget⟩
  nodup c hc := by
    obtain ⟨map, hmap, rfl⟩ := List.mem_map.1 hc
    exact (drawing_closed hwf hvalid hmap).nodup

/-- The drawing of a valid machine is closed on every level. Entry arrows are those of states
    that are pushed, and where maps have different names, such a state has one entry arrow,
    in the cluster of its map, exactly if the name of the map is a text that neither holds
    a scope mark nor ends with a colon. -/
theorem drawing_is_closed {m : Machine} (hwf : m.WellFormed) {target : Option Target}
    {source : Option Value} {w : Validation} (hvalidate : m.validate target source = .ok w)
    (hvalid : w.isValid = true) (hnames : (m.maps.map StateMap.name).Nodup) (level : GraphLevel) :
    ∃ start, m.startPlace? = some start ∧ (graph level m start).Closed ∧
      (graph level m start).clusters = m.maps.map (drawing level m) ∧
      (∀ map ∈ m.maps, ∀ e ∈ (drawing level m map).entries,
        ∃ q ∈ m.places, Pushed level m q.scopedName ∧ e = entryArrow q.scopedName) ∧
      ∀ q ∈ m.places, Pushed level m q.scopedName →
        ((drawing level m q.map).entriesTo q.scopedName = [entryArrow q.scopedName] ∧
            (∀ map ∈ m.maps, map ≠ q.map → (drawing level m map).entriesTo q.scopedName = []) ↔
          ∃ name, q.map.name = .str name ∧ Text.contains scopeMark name = false ∧
            name.toList.getLast? ≠ some ':') := by
  have hvalid := Machine.valid_of_validate hvalidate hvalid
  obtain ⟨start, hstart⟩ := hvalid.start
  refine ⟨start, hstart, graph_closed hwf hvalid (Machine.mem_places_of_startPlace? hstart), rfl,
    fun map hmap e he => ?_, fun q hq hpushed => ?_⟩
  · rw [entries_drawing] at he
    obtain ⟨node, hnode, rfl⟩ := List.mem_map.1 he
    have hpushed := ((pushedStates_spec level m).1 node).1 (List.mem_filter.1 hnode).1
    obtain ⟨map', hmap', a, ha, hmove, hnode⟩ := id hpushed
    obtain ⟨q, hq, hnode'⟩ := exists_pushNode hvalid hmap' ha hmove
    obtain rfl : q.scopedName = node := hnode'.symm.trans hnode
    exact ⟨q, hq, hpushed, rfl⟩
  · have hmap := (Machine.mem_places.1 hq).1
    have hscoped : q.scopedName = q.map.name.text ++ scopeMark ++ q.state.name := rfl
    constructor
    · rintro ⟨hown, -⟩
      rw [entriesTo_drawing hpushed] at hown
      split at hown
      · next hname =>
        -- the name of the map is the beginning of the scoped name it is in
        have hname := Value.beq_str_iff.1 hname
        have htext : q.map.name.text = Text.before scopeMark q.scopedName :=
          congrArg Value.text hname
        refine ⟨_, hname, (before_scoped_iff _ q.state.name).1 ?_⟩
        rw [← htext, ← hscoped, htext]
      · cases hown
    · rintro ⟨name, hname, hmark⟩
      have hbefore : Text.before scopeMark q.scopedName = name := by
        rw [hscoped, hname]
        exact (before_scoped_iff name q.state.name).2 hmark
      refine ⟨?_, fun map hmap' hne => ?_⟩
      · rw [entriesTo_drawing hpushed, hbefore, if_pos (Value.beq_str_iff.2 hname)]
      · rw [entriesTo_drawing hpushed, hbefore, if_neg]
        intro hname'
        exact hne (List.inj_on_of_nodup_map hnames hmap' hmap
          ((Value.beq_str_iff.1 hname').trans hname.symm))

open Simulator in
/-- The state of the door in which a question is answered has its entry arrow in the hall. -/
theorem door_question_has_entry :
    (doorMachine "False").WellFormed ∧
      (∃ w, (doorMachine "False").validate none none = .ok w ∧ w.isValid = true) ∧
      ((doorMachine "False").maps.map StateMap.name).Nodup ∧
      Pushed .names (doorMachine "False") "Hall::Asked" ∧
      (∃ start, (doorMachine "False").startPlace? = some start ∧
        (graph .names (doorMachine "False") start).Closed) ∧
      (drawing .names (doorMachine "False") (hall "False")).entriesTo "Hall::Asked" =
        [entryArrow "Hall::Asked"] := by
  have hwf := Load.wellFormed_of_outcome door_loads
  obtain ⟨w, hvalidate, hvalid⟩ := door_valid
  have hnames : ((doorMachine "False").maps.map StateMap.name).Nodup := by
    simp [doorMachine]
  have hpushed : Pushed .names (doorMachine "False") "Hall::Asked" :=
    ((pushedStates_spec _ _).1 _).1 (by decide +kernel)
  obtain ⟨start, hstart, hclosed, -, -, hentry⟩ :=
    drawing_is_closed hwf hvalidate hvalid hnames .names
  have hasked : (⟨hall "False", asked⟩ : Place) ∈ (doorMachine "False").places :=
    Machine.mem_places.2 ⟨by simp [doorMachine], by simp [hall]⟩
  have hown := (hentry _ hasked hpushed).2 ⟨"Hall", rfl, by decide +kernel, by decide +kernel⟩
  exact ⟨hwf, ⟨w, hvalidate, hvalid⟩, hnames, hpushed, ⟨start, hstart, hclosed⟩, hown.1⟩

/-- The description of a desk with a telephone, the map of which has a name that ends with
    a colon. -/
def phoneDesk : Value :=
  .object [("class", .str "Clerk"), ("start", .str "Desk::Free"), ("maps", .list [
    .object [("name", .str "Desk"), ("states", .list [
      .object [("name", .str "Free"), ("transitions", .list [
        .object [("name", .str "call"), ("type", .str "push"), ("end_state", .str "nil"),
          ("push_state", .str "Phone:::Ringing")]])]])],
    .object [("name", .str "Phone:"), ("states", .list [
      .object [("name", .str "Ringing"), ("transitions", .list [
        .object [("name", .str "hang"), ("type", .str "pop")]])]])]])]

open Simulator in
/-- The desk with a telephone. -/
def phoneMachine : Machine :=
  { doorMachine "" with
    name := .str "Clerk"
    context := .str "Clerk"
    start := .str "Desk::Free"
    maps := [
      { name := .str "Desk"
        states := [doorState "Free" [
          doorTransition "call" (doorGuard "" .push "nil" "Phone:::Ringing")]]
        default? := none
        line := .int 0 },
      { name := .str "Phone:"
        states := [doorState "Ringing" [doorTransition "hang" (doorGuard "" .pop "" "")]]
        default? := none
        line := .int 0 }] }

/-- The desk is found valid, its maps have different names, and no name holds a scope mark. The
    call pushes a state of the telephone, but there is no entry arrow in any map. -/
theorem ringing_phone_has_no_entry :
    (Load.machine phoneDesk .null).outcome.1 = .ok phoneMachine ∧
      (∃ w, phoneMachine.validate none none = .ok w ∧ w.isValid = true) ∧
      phoneMachine.maps.map StateMap.name = [.str "Desk", .str "Phone:"] ∧
      (∀ p ∈ phoneMachine.places, Text.contains scopeMark p.map.name.text = false ∧
        Text.contains scopeMark p.state.name = false) ∧
      Pushed .names phoneMachine "Phone:::Ringing" ∧
      phoneMachine.places.map Place.scopedName = ["Desk::Free", "Phone:::Ringing"] ∧
      phoneMachine.maps.map (fun map => (drawing .names phoneMachine map).entries.length) =
        [0, 0] :=
  ⟨rfl, Machine.exists_validation (by decide +kernel), rfl, by decide +kernel,
    ((pushedStates_spec _ _).1 _).1 (by decide +kernel), by decide +kernel, by decide +kernel⟩

end Diagram
end StateMachine
