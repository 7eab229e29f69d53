import Mathlib.Data.List.DropRight
import StateMachine.Proofs.Drawing
import StateMachine.Proofs.Escaping
import StateMachine.Proofs.GeneratedFiles

/-!
# Quoted texts

In a drawing texts stand between double quotes. A text can stand there if it can be
read with every double quote in it escaped (`Quotable`, `quotable_iff`).

The lines of a drawing are made of *pieces*: of layout, which has no double quotes,
and of quoted texts (`outline`, `map_lineOf_outline`). So the property of quoted texts
that a drawing needs is one of the texts that are put in it, node by node and edge by
edge (`drawing_quotes`).

The labels of states, guards and pops escape what they are made of and can always be
quoted. The names of nodes and clusters are not escaped: they are the names of maps and
states, and the beginnings of the scoped names of states that are pushed. A drawing is
quoted well exactly if these can be quoted as they are (`quoted_texts_are_well_formed_iff`,
`half_open_door_is_not_quoted_well`).
-/

namespace StateMachine

namespace Text

/-! ## Texts that can be quoted -/

/-- The number of backslashes a text ends with. -/
def endingBackslashes (cs : List Char) : Nat :=
  (cs.rtakeWhile fun c => c == backslash).length

/-- The text can stand between double quotes: before every double quote in it there is an
    odd number of backslashes, and there is none at its end. -/
structure Quotable (cs : List Char) : Prop where
  quotes : ∀ l r, cs = l ++ doubleQuote :: r → endingBackslashes l % 2 = 1
  ending : endingBackslashes cs % 2 = 0

theorem endingBackslashes_concat (cs : List Char) (c : Char) :
    endingBackslashes (cs ++ [c]) = if c = backslash then endingBackslashes cs + 1 else 0 := by
  rw [endingBackslashes, List.rtakeWhile_concat]
  simp only [beq_iff_eq]
  split
  · rw [List.length_append]
    rfl
  · rfl

/-- Backslashes are counted up to another character. -/
theorem endingBackslashes_append_cons {c : Char} (hc : c ≠ backslash) (l r : List Char) :
    endingBackslashes (l ++ c :: r) = endingBackslashes r := by
  induction r using List.reverseRecOn with
  | nil =>
    rw [endingBackslashes_concat, if_neg hc]
    rfl
  | append_singleton r d ih =>
    rw [← List.cons_append, ← List.append_assoc, endingBackslashes_concat,
      endingBackslashes_concat, ih]

/-- What comes after an even number of backslashes may come first. -/
theorem endingBackslashes_append {l : List Char} (hl : endingBackslashes l % 2 = 0)
    (r : List Char) : endingBackslashes (l ++ r) % 2 = endingBackslashes r % 2 := by
  induction r using List.reverseRecOn with
  | nil =>
    rw [List.append_nil, hl]
    rfl
  | append_singleton r d ih =>
    rw [← List.append_assoc, endingBackslashes_concat, endingBackslashes_concat]
    split
    · rw [Nat.add_mod, ih, ← Nat.add_mod]
    · rfl

namespace Quotable

variable {a b : List Char}

theorem append_iff (ha : Quotable a) : Quotable (a ++ b) ↔ Quotable b := by
  constructor
  · intro h
    refine ⟨fun l r hb => ?_, ?_⟩
    · rw [← endingBackslashes_append ha.ending]
      exact h.quotes (a ++ l) r (by rw [hb, List.append_assoc])
    · rw [← endingBackslashes_append ha.ending]
      exact h.ending
  · intro hb
    refine ⟨fun l r hquote => ?_, ?_⟩
    · -- the double quote is in the second text, or in the first one
      rcases List.append_eq_append_iff.1 hquote with ⟨l', rfl, hr⟩ | ⟨l', ha', hr⟩
      · rw [endingBackslashes_append ha.ending]
        exact hb.quotes l' r hr
      · cases l' with
        | nil =>
          have hfirst := hb.quotes [] r hr.symm
          cases hfirst
        | cons c l' =>
          cases hr
          exact ha.quotes l l' ha'
    · rw [endingBackslashes_append ha.ending, hb.ending]

theorem append (ha : Quotable a) (hb : Quotable b) : Quotable (a ++ b) :=
  ha.append_iff.2 hb

/-- The end of a quotable text, after a character that is no backslash. -/
theorem of_append_cons {c : Char} (hc : c ≠ backslash) (h : Quotable (a ++ c :: b)) :
    Quotable b where
  quotes l r hb := by
    rw [← endingBackslashes_append_cons hc a]
    exact h.quotes (a ++ c :: l) r (by rw [hb, List.append_assoc, List.cons_append])
  ending := by
    rw [← endingBackslashes_append_cons hc a, h.ending]

theorem nil : Quotable [] where
  quotes l r h := by simp at h
  ending := rfl

/-- A pair of a backslash and the character it escapes. -/
theorem pair (c : Char) : Quotable [backslash, c] where
  quotes l r h := by
    cases l with
    | nil => exact absurd h (by simp [backslash, doubleQuote])
    | cons d l =>
      obtain ⟨rfl, h⟩ := List.cons.inj h
      cases l with
      | nil => rfl
      | cons e l => simp at h
  ending := by
    rw [show [backslash, c] = [backslash] ++ [c] from rfl, endingBackslashes_concat]
    split <;> rfl

theorem singleton_iff {c : Char} : Quotable [c] ↔ c ≠ backslash ∧ c ≠ doubleQuote := by
  constructor
  · intro h
    constructor
    · rintro rfl
      exact absurd h.ending (by decide)
    · rintro rfl
      exact absurd (h.quotes [] [] rfl) (by decide)
  · rintro ⟨hback, hquote⟩
    refine ⟨fun l r h => ?_, ?_⟩
    · cases l with
      | nil => exact absurd (List.cons.inj h).1 hquote
      | cons d l => simp at h
    · rw [← List.nil_append [c], endingBackslashes_concat, if_neg hback]

end Quotable

/-- A text can be quoted if it can be read with every double quote escaped. -/
theorem quotable_iff {cs : List Char} : Quotable cs ↔
    ∃ gs, readGlyphs cs = some gs ∧ ∀ g ∈ gs, g.char = doubleQuote → g.isEscaped = true := by
  -- what is read first, a pair or a character by itself, has no say in what follows
  induction cs using readGlyphs.induct with
  | case1 => exact ⟨fun _ => ⟨[], rfl, List.forall_mem_nil _⟩, fun _ => .nil⟩
  | case2 =>
    refine ⟨fun h => absurd rfl (Quotable.singleton_iff.1 h).1, ?_⟩
    rintro ⟨gs, hgs, -⟩
    cases hgs
  | case3 d ds ih =>
    rw [show backslash :: d :: ds = [backslash, d] ++ ds from rfl,
      (Quotable.pair d).append_iff, ih, List.cons_append, List.singleton_append,
      readGlyphs_escaped]
    simp
  | case4 c cs hc ih =>
    rw [readGlyphs_cons hc]
    by_cases hquote : c = doubleQuote
    · subst hquote
      constructor
      · intro h
        exact absurd (h.quotes [] cs rfl) (by decide)
      · rintro ⟨gs, hgs, hall⟩
        obtain ⟨gs', -, rfl⟩ := Option.map_eq_some_iff.1 hgs
        exact absurd (hall _ List.mem_cons_self rfl) Bool.false_ne_true
    · rw [← List.singleton_append, (Quotable.singleton_iff.2 ⟨hc, hquote⟩).append_iff, ih]
      simp [hquote]

instance : DecidablePred Quotable := fun cs =>
  decidable_of_iff (((readGlyphs cs).any fun gs =>
    gs.all fun g => g.char != doubleQuote || g.isEscaped) = true) <| by
      rw [quotable_iff, Option.any_eq_true]
      refine exists_congr fun gs => and_congr_right fun _ => ?_
      simp [List.all_eq_true, or_iff_not_imp_left]

/-! ## Texts that are put together -/

theorem quotable_append {s t : String} (hs : Quotable s.toList) (ht : Quotable t.toList) :
    Quotable (s ++ t).toList := by
  rw [String.toList_append]
  exact hs.append ht

theorem quotable_join {ss : List String} (h : ∀ s ∈ ss, Quotable s.toList) :
    Quotable (String.join ss).toList := by
  induction ss with
  | nil => exact .nil
  | cons s ss ih =>
    rw [String.join_cons]
    exact quotable_append (h s List.mem_cons_self) (ih fun t ht => h t (List.mem_cons_of_mem s ht))

theorem quotable_joined {sep : String} (hsep : Quotable sep.toList) {ss : List String}
    (h : ∀ s ∈ ss, Quotable s.toList) : Quotable (joined sep ss).toList := by
  rw [joined]
  induction ss with
  | nil =>
    rw [String.intercalate_nil]
    exact .nil
  | cons s ss ih =>
    have hs := h s List.mem_cons_self
    have hss := ih fun t ht => h t (List.mem_cons_of_mem s ht)
    cases ss with
    | nil =>
      rw [String.intercalate_singleton]
      exact hs
    | cons t ss =>
      rw [String.intercalate_cons_cons]
      exact quotable_append (quotable_append hs hsep) hss

theorem quotable_flatMap {xs : List Char} (hback : backslash ∈ xs) (hquote : doubleQuote ∈ xs)
    (cs : List Char) : Quotable (cs.flatMap (escapedChar xs)) := by
  refine quotable_iff.2 ⟨_, readGlyphs_flatMap hback cs, fun g hg hchar => ?_⟩
  obtain ⟨c, -, rfl⟩ := List.mem_map.1 hg
  obtain rfl : c = doubleQuote := hchar
  exact decide_eq_true hquote

/-- An escaped text can be quoted. -/
theorem quotable_escape (s : String) : Quotable (escape s).toList := by
  rw [escape, onChars, String.toList_ofList, escapeChars_eq]
  exact quotable_flatMap (by decide) (by decide) _

theorem quotable_escapeRecord (s : String) : Quotable (escapeRecord s).toList := by
  rw [toList_escapeRecord]
  exact quotable_flatMap (by decide) (by decide) _

end Text

namespace Diagram

open Text

variable {m : Machine} {level : GraphLevel} {map : StateMap} {a : Arrow}

/-! ## Labels -/

/-- The label of a state can be quoted, whatever the texts in it. -/
theorem quotable_stateLabel (level : GraphLevel) (p : Place) :
    Quotable (stateLabel level p).toList := by
  have hsections : ∀ t ∈ sectionsOf level p, Quotable t.toList :=
    sectionsOf_of_append (P := fun t => Quotable t.toList) .nil (fun _ _ => quotable_append)
      quotable_escapeRecord (by decide +kernel)
  rw [stateLabel_eq]
  split
  · exact quotable_escapeRecord _
  · have hfields := quotable_joined (by decide +kernel : Quotable "|".toList)
      (List.forall_mem_cons.2 ⟨quotable_escapeRecord p.state.name, hsections⟩)
    exact quotable_append (quotable_append (by decide +kernel) hfields) (by decide +kernel)

theorem quotable_popText (level : GraphLevel) (g : Guard) (arguments : String) :
    Quotable (popText level g arguments).toList := by
  rw [popText]
  refine quotable_append (quotable_escape _) ?_
  split
  · exact quotable_append (by decide +kernel) (quotable_escape _)
  · exact .nil

theorem quotable_moveText (level : GraphLevel) (g : Guard) :
    Quotable (moveText level g).toList := by
  rw [moveText]
  split
  · exact .nil
  · exact quotable_append (quotable_append (by decide +kernel) (quotable_escape _))
      (by decide +kernel)
  · exact quotable_append (quotable_append (by decide +kernel) (quotable_popText ..))
      (by decide +kernel)

/-- The label of a guard can be quoted, whatever the texts in it. -/
theorem quotable_guardLabel (level : GraphLevel) (t : Transition) (g : Guard) :
    Quotable (guardLabel level t g).toList := by
  rw [guardLabel]
  refine quotable_append (quotable_append (quotable_append (quotable_append (quotable_append
    (quotable_escape _) ?_) ?_) (quotable_moveText level g)) ?_) (by decide +kernel)
  · split
    · refine quotable_append (quotable_append (by decide +kernel)
        (quotable_joined (by decide +kernel) ?_)) (by decide +kernel)
      intro s hs
      obtain ⟨p, -, rfl⟩ := List.mem_map.1 hs
      exact quotable_escape _
    · exact .nil
  · split
    · exact quotable_append (quotable_append (by decide +kernel) (quotable_escape _))
        (by decide +kernel)
    · exact .nil
  · split
    · refine quotable_append (by decide +kernel) (quotable_join ?_)
      intro s hs
      obtain ⟨a, -, rfl⟩ := List.mem_map.1 hs
      exact quotable_append (quotable_escape _) (by decide +kernel)
    · exact .nil

/-! ## Outlines -/

/-- A piece of a line of a drawing. -/
inductive Piece
  | layout (s : String)
  /-- A name that stands as it is. -/
  | name (s : String)
  /-- A text between double quotes. -/
  | quoted (s : String)

/-- A piece as it stands in its line. -/
def Piece.text : Piece → String
  | .layout s => s
  | .name s => s
  | .quoted s => "\"" ++ s ++ "\""

/-- The line made of these pieces. -/
def lineOf (ps : List Piece) : String :=
  String.join (ps.map Piece.text)

/-- A line of layout. -/
def plain (s : String) : List Piece :=
  [.layout s]

/-- Attributes: what stands between their first and their last double quote is quoted. -/
def attributePieces (attributes : String) : List Piece :=
  match Text.cutFirst [doubleQuote] attributes.toList with
  | none => [.layout attributes]
  | some (l, rest) =>
    match Text.cutLast [doubleQuote] rest with
    | none => [.layout attributes]
    | some (t, r) =>
      [.layout (String.ofList l), .quoted (String.ofList t), .layout (String.ofList r)]

/-- The pieces of the lines of a node. -/
def nodeOutline (n : DotNode) : List (List Piece) :=
  [[.layout "        ", .quoted n.id],
    .layout "            [" :: attributePieces n.attributes ++ plain "];"]

/-- The pieces of the lines of an edge. -/
def edgeOutline (e : Edge) : List (List Piece) :=
  [[.layout "        ", .quoted e.source, .layout " -> ", .quoted e.target],
    .layout "            [" :: attributePieces e.attributes ++ plain "];"]

/-- The pieces of the lines of a cluster. -/
def clusterOutline (c : Cluster) : List (List Piece) :=
  [[.layout "    subgraph cluster_", .name c.name.text, .layout " \x7b"], plain "",
    [.layout "        label=", .quoted c.name.text, .layout ";"], plain "",
    plain "        //", plain "        // States (Nodes)", plain "        //", plain ""]
    ++ (c.states ++ c.extraNodes).flatMap nodeOutline
    ++ [plain "", plain "        //", plain "        // Transitions (Edges)", plain "        //",
      plain ""]
    ++ (c.edges ++ c.extraEdges).flatMap edgeOutline
    ++ [plain "    \x7d", plain ""]

/-- The pieces of the lines of the graph of a machine. -/
def outline (m : Machine) (o : Options) (start : Place) : List (List Piece) :=
  let g := graph o.graphLevel m start
  [[.layout "// generated by ", .name o.appName.text, .layout " ", .name o.appVersion.text],
    [.layout "digraph ", .name m.name.text, .layout " \x7b"], plain "", plain "    node",
    plain "        [shape=Mrecord width=1.5];", plain ""]
    ++ g.clusters.flatMap clusterOutline
    ++ [[.layout "    ", .quoted "%start"],
      [.layout "        [label=", .quoted "",
        .layout " shape=circle style=filled fillcolor=black width=0.25];"],
      plain "",
      [.layout "    ", .quoted "%start", .layout " -> ", .quoted g.start], plain "\x7d"]

/-! ## Lines -/

theorem lineOf_append (ps qs : List Piece) : lineOf (ps ++ qs) = lineOf ps ++ lineOf qs := by
  rw [lineOf, List.map_append, String.join_append]
  rfl

theorem lineOf_cons (p : Piece) (ps : List Piece) : lineOf (p :: ps) = p.text ++ lineOf ps :=
  String.join_cons

theorem lineOf_nil : lineOf [] = "" :=
  rfl

theorem lineOf_plain (s : String) : lineOf (plain s) = s := by
  rw [plain, lineOf_cons, lineOf_nil, String.append_empty]
  rfl

theorem lineOf_attributePieces (s : String) : lineOf (attributePieces s) = s := by
  rw [attributePieces]
  split
  · exact lineOf_plain s
  next l rest hfirst =>
  split
  · exact lineOf_plain s
  next t r hlast =>
  have hquote : "\"".toList = [doubleQuote] := rfl
  rw [← String.toList_inj, Text.cutFirst_eq_some hfirst, Text.cutLast_eq_some hlast]
  simp [lineOf_cons, lineOf_nil, Piece.text, hquote]

theorem map_lineOf_nodeOutline (n : DotNode) : (nodeOutline n).map lineOf = nodeLines n := by
  simp [nodeOutline, nodeLines, lineOf_append, lineOf_cons, lineOf_nil, lineOf_plain,
    lineOf_attributePieces, Piece.text, ← String.append_assoc]

theorem map_lineOf_edgeOutline (e : Edge) : (edgeOutline e).map lineOf = edgeLines e := by
  have hends : lineOf [.layout "        ", .quoted e.source, .layout " -> ", .quoted e.target] =
      "        \"" ++ e.source ++ "\" -> \"" ++ e.target ++ "\"" := by
    rw [← String.toList_inj]
    simp [lineOf_cons, lineOf_nil, Piece.text]
  simp [edgeOutline, edgeLines, hends, lineOf_append, lineOf_cons, lineOf_plain,
    lineOf_attributePieces, Piece.text, ← String.append_assoc]

theorem map_lineOf_clusterOutline (c : Cluster) :
    (clusterOutline c).map lineOf = clusterLines c := by
  have hlabel : lineOf [.layout "        label=", .quoted c.name.text, .layout ";"] =
      "        label=\"" ++ c.name.text ++ "\";" := by
    rw [← String.toList_inj]
    simp [lineOf_cons, lineOf_nil, Piece.text]
  simp [clusterOutline, clusterLines, hlabel, lineOf_cons, lineOf_nil, lineOf_plain,
    List.map_flatMap, map_lineOf_nodeOutline, map_lineOf_edgeOutline, Piece.text,
    ← String.append_assoc]

/-- The lines of a graph are made of the pieces of its outline. -/
theorem map_lineOf_outline (m : Machine) (o : Options) (start : Place) :
    (outline m o start).map lineOf = lines m o start := by
  simp [outline, lines, lineOf_cons, lineOf_nil, lineOf_plain, List.map_flatMap,
    map_lineOf_clusterOutline, Piece.text, ← String.append_assoc]

/-! ## What is quoted -/

/-- The layout has no double quote, and a text that is quoted has the property. -/
def Piece.Fits (P : String → Prop) : Piece → Prop
  | .layout s => doubleQuote ∉ s.toList
  | .name _ => True
  | .quoted s => P s

/-- The attributes quote one text, which has the property, or none. -/
inductive Quotes (P : String → Prop) : String → Prop
  | label {t rest : String} : P t → doubleQuote ∉ rest.toList → Quotes P (labelled t ++ rest)
  | none {attributes : String} : doubleQuote ∉ attributes.toList → Quotes P attributes

/-- What is quoted for the node has the property. -/
structure NodeQuotes (P : String → Prop) (n : DotNode) : Prop where
  id : P n.id
  attributes : Quotes P n.attributes

/-- What is quoted for the edge has the property. -/
structure EdgeQuotes (P : String → Prop) (e : Edge) : Prop where
  source : P e.source
  target : P e.target
  attributes : Quotes P e.attributes

/-- What is quoted for the nodes and edges of the cluster has the property. -/
structure ClusterQuotes (P : String → Prop) (c : Cluster) : Prop where
  nodes : ∀ n ∈ c.states ++ c.extraNodes, NodeQuotes P n
  edges : ∀ e ∈ c.edges ++ c.extraEdges, EdgeQuotes P e

section Quotes

variable {P : String → Prop} {c : Cluster}

theorem Quotes.labelled {t : String} (ht : P t) : Quotes P (labelled t) := by
  have h := @Quotes.label P t "" ht (by decide)
  rwa [String.append_empty] at h

theorem Quotes.of_eq {s t : String} (rest : String) (hs : s = Diagram.labelled t ++ rest) (ht : P t)
    (hrest : doubleQuote ∉ rest.toList) : Quotes P s :=
  hs ▸ .label ht hrest

theorem fits_attributePieces {s : String} (h : Quotes P s) :
    ∀ x ∈ attributePieces s, x.Fits P := by
  cases h with
  | @label t rest ht hrest =>
    have hlabel : doubleQuote ∉ "label=".toList := by decide
    have hs : (Diagram.labelled t ++ rest).toList =
        "label=".toList ++ [doubleQuote] ++ (t.toList ++ [doubleQuote] ++ rest.toList) := by
      simp [Diagram.labelled, doubleQuote]
    have hfirst := Text.cutFirst_append [] hlabel (t.toList ++ [doubleQuote] ++ rest.toList)
    have hlast := Text.cutLast_append [] t.toList hrest
    rw [List.nil_append] at hlast
    simp only [attributePieces, hs, hfirst, hlast, String.ofList_toList, List.forall_mem_cons]
    exact ⟨hlabel, ht, hrest, List.forall_mem_nil _⟩
  | none hs =>
    have hcut : Text.cutFirst [doubleQuote] s.toList = none := by
      rw [Option.eq_none_iff_forall_ne_some]
      rintro ⟨l, r⟩ hcut
      exact hs (by simp [Text.cutFirst_eq_some hcut])
    simpa [attributePieces, hcut, Piece.Fits] using hs

/-- Every piece of the lines fits. -/
def OutlineFits (P : String → Prop) (lines : List (List Piece)) : Prop :=
  ∀ line ∈ lines, ∀ x ∈ line, x.Fits P

theorem OutlineFits.append {ls ms : List (List Piece)} (hl : OutlineFits P ls)
    (hm : OutlineFits P ms) : OutlineFits P (ls ++ ms) :=
  List.forall_mem_append.2 ⟨hl, hm⟩

theorem OutlineFits.flatMap {α : Type} {f : α → List (List Piece)} {as : List α}
    (h : ∀ a ∈ as, OutlineFits P (f a)) : OutlineFits P (as.flatMap f) :=
  List.forall_mem_flatMap.2 h

theorem fits_attributeLine {s : String} (h : Quotes P s) :
    ∀ x ∈ .layout "            [" :: attributePieces s ++ plain "];", x.Fits P :=
  List.forall_mem_append.2 ⟨List.forall_mem_cons.2 ⟨by simp [Piece.Fits, doubleQuote],
    fits_attributePieces h⟩, by simp [plain, Piece.Fits, doubleQuote]⟩

theorem fits_nodeOutline {n : DotNode} (h : NodeQuotes P n) : OutlineFits P (nodeOutline n) := by
  refine List.forall_mem_cons.2 ⟨?_, List.forall_mem_singleton.2 (fits_attributeLine h.attributes)⟩
  simp [Piece.Fits, doubleQuote, h.id]

theorem fits_edgeOutline {e : Edge} (h : EdgeQuotes P e) : OutlineFits P (edgeOutline e) := by
  refine List.forall_mem_cons.2 ⟨?_, List.forall_mem_singleton.2 (fits_attributeLine h.attributes)⟩
  simp [Piece.Fits, doubleQuote, h.source, h.target]

theorem fits_clusterOutline (h : ClusterQuotes P c) (hname : P c.name.text) :
    OutlineFits P (clusterOutline c) := by
  refine .append (.append (.append (.append ?_ ?_) ?_) ?_) ?_
  · simp [OutlineFits, plain, Piece.Fits, doubleQuote, hname]
  · exact .flatMap fun n hn => fits_nodeOutline (h.nodes n hn)
  · simp [OutlineFits, plain, Piece.Fits, doubleQuote]
  · exact .flatMap fun e he => fits_edgeOutline (h.edges e he)
  · simp [OutlineFits, plain, Piece.Fits, doubleQuote]

/-- What is quoted of a drawing is what is quoted of its clusters, and the start. -/
theorem fits_outline {o : Options} {start : Place} (hempty : P "") (hmark : P "%start")
    (hstart : P start.scopedName)
    (hclusters : ∀ c ∈ (graph o.graphLevel m start).clusters, P c.name.text ∧ ClusterQuotes P c) :
    OutlineFits P (outline m o start) := by
  refine .append (.append ?_ ?_) ?_
  · simp [OutlineFits, plain, Piece.Fits, doubleQuote]
  · exact .flatMap fun c hc => fits_clusterOutline (hclusters c hc).2 (hclusters c hc).1
  · have hgraph : P (graph o.graphLevel m start).start := hstart
    simp [OutlineFits, plain, Piece.Fits, doubleQuote, hempty, hmark, hgraph]

/-! ## What is quoted for an arrow -/

theorem ClusterQuotes.addNode (h : ClusterQuotes P c) {n : DotNode} (hn : NodeQuotes P n) :
    ClusterQuotes P (c.addNode n) := by
  rw [Cluster.addNode]
  split
  · exact h
  · refine ⟨?_, h.edges⟩
    rw [← List.append_assoc]
    exact List.forall_mem_append.2 ⟨h.nodes, List.forall_mem_singleton.2 hn⟩

theorem ClusterQuotes.addExtraEdge (h : ClusterQuotes P c) {e : Edge} (he : EdgeQuotes P e) :
    ClusterQuotes P (c.addExtraEdge e) := by
  refine ⟨h.nodes, ?_⟩
  rw [Cluster.addExtraEdge, ← List.append_assoc]
  exact List.forall_mem_append.2 ⟨h.edges, List.forall_mem_singleton.2 he⟩

/-- The texts that are quoted for a guard that is drawn. -/
def Arrow.quotedTexts (level : GraphLevel) (a : Arrow) : List String :=
  [a.place.scopedName, a.target level, guardLabel level a.transition a.guard] ++
    match a.guard.move with
    | .set => []
    | .push => [a.endNode, "\x7b" ++ a.pushMap ++ "|O-O\\r\x7d", "pop/"]
    | .pop => ["", (Cluster.endNode a.place.map).id, "pop(" ++ a.popNodeText level ++ ");\\l"]

/-- The texts that are quoted for the entry arrow of a state that is pushed. -/
def entryTexts (pushed : String) : List String :=
  ["push(" ++ pushed ++ ")", "", pushed]

theorem ClusterQuotes.addEdge (h : ClusterQuotes P c) {e : Edge} (he : EdgeQuotes P e) :
    ClusterQuotes P { c with edges := c.edges ++ [e] } := by
  refine ⟨h.nodes, fun e' he' => ?_⟩
  have he' : e' ∈ c.edges ++ c.extraEdges ∨ e' = e := by
    simp only [List.mem_append, List.mem_singleton] at he' ⊢
    exact or_right_comm.1 he'
  rcases he' with he' | rfl
  · exact h.edges e' he'
  · exact he

theorem ClusterQuotes.addComposite (h : ClusterQuotes P c) (hnode : P a.compositeNode)
    (hlabel : P ("\x7b" ++ a.pushMap ++ "|O-O\\r\x7d")) (hend : P a.endNode) (hpop : P "pop/") :
    ClusterQuotes P (c.addComposite a) := by
  rw [Cluster.addComposite]
  split
  · exact h
  · exact (h.addNode ⟨hnode, .labelled hlabel⟩).addExtraEdge
      ⟨hnode, hend, .of_eq "" rfl hpop (by decide)⟩

theorem ClusterQuotes.addPop (h : ClusterQuotes P c) (hnode : P (a.popNode level))
    (hempty : P "") (hend : P (Cluster.endNode a.place.map).id)
    (hlabel : P ("pop(" ++ a.popNodeText level ++ ");\\l")) :
    ClusterQuotes P (c.addPop level a) := by
  rw [Cluster.addPop]
  dsimp only
  split
  · exact h
  · have hpop : NodeQuotes P ⟨a.popNode level, "label=\"\" width=1"⟩ :=
      ⟨hnode, .of_eq " width=1" rfl hempty (by decide)⟩
    have hfinish : NodeQuotes P (Cluster.endNode a.place.map) :=
      ⟨hend, .of_eq
        " shape=doublecircle style=filled fillcolor=black width=0.15" rfl hempty (by decide)⟩
    exact ((h.addNode hpop).addNode hfinish).addExtraEdge ⟨hnode, hend, .labelled hlabel⟩

theorem ClusterQuotes.addArrow (h : ClusterQuotes P c) (ha : ∀ s ∈ a.quotedTexts level, P s) :
    ClusterQuotes P (c.addArrow level a) := by
  rw [Cluster.addArrow]
  rw [Arrow.quotedTexts, List.forall_mem_append] at ha
  obtain ⟨hedge, hmove⟩ := ha
  simp only [List.forall_mem_cons] at hedge
  obtain ⟨hsource, htarget, hlabel, -⟩ := hedge
  refine .addEdge ?_ ⟨hsource, htarget, .labelled hlabel⟩
  rw [Arrow.target] at htarget
  cases hm : a.guard.move with
  | set => exact h
  | push =>
    simp only [hm, List.forall_mem_cons] at hmove htarget
    exact h.addComposite htarget hmove.2.1 hmove.1 hmove.2.2.1
  | pop =>
    simp only [hm, List.forall_mem_cons] at hmove htarget
    exact h.addPop htarget hmove.1 hmove.2.1 hmove.2.2.1

theorem ClusterQuotes.addEntry (h : ClusterQuotes P c) {pushed : String}
    (hpushed : ∀ s ∈ entryTexts pushed, P s) : ClusterQuotes P (c.addEntry pushed) := by
  simp only [entryTexts, List.forall_mem_cons] at hpushed
  obtain ⟨hnode, hempty, hstate, -⟩ := hpushed
  have hdot : doubleQuote ∉ "arrowtail=odot".toList := by decide
  rw [Cluster.addEntry]
  split
  · refine (h.addNode ⟨hnode, ?_⟩).addExtraEdge ⟨hnode, hstate, .none hdot⟩
    exact .of_eq " shape=plaintext" rfl hempty (by decide)
  · exact h

/-- What is quoted in the drawing of a map is what is quoted for its states, for the guards
    that are drawn, and for the states that are pushed. -/
theorem drawing_quotes
    (hstates : ∀ s ∈ map.states, P (map.scopedName s) ∧ P (stateLabel level ⟨map, s⟩))
    (harrows : ∀ a ∈ arrows level map, ∀ s ∈ a.quotedTexts level, P s)
    (hentries : ∀ node ∈ pushedStates level m, ∀ s ∈ entryTexts node, P s) :
    ClusterQuotes P (drawing level m map) := by
  refine List.foldlRecOn _ _ (List.foldlRecOn _ _ ⟨?_, by simp⟩ ?_) ?_
  · rw [List.append_nil]
    refine List.forall_mem_map.2 fun s hs => ?_
    exact ⟨(hstates s hs).1, .labelled (hstates s hs).2⟩
  · exact fun c hc a ha => hc.addArrow (harrows a ha)
  · exact fun c hc node hnode => hc.addEntry (hentries node hnode)

end Quotes

/-! ## Drawings that are quoted well -/

/-- The texts between double quotes in the graph of a machine. -/
def quotedTexts (m : Machine) (o : Options) (start : Place) : List String :=
  (outline m o start).flatMap fun line => line.filterMap fun
    | .quoted s => some s
    | .layout _ => none
    | .name _ => none

theorem mem_quotedTexts {o : Options} {start : Place} {s : String} :
    s ∈ quotedTexts m o start ↔ ∃ line ∈ outline m o start, .quoted s ∈ line := by
  rw [quotedTexts, List.mem_flatMap]
  refine exists_congr fun line => and_congr_right fun _ => ?_
  rw [List.mem_filterMap]
  constructor
  · rintro ⟨x, hx, hs⟩
    cases x <;> cases hs
    exact hx
  · exact fun hs => ⟨_, hs, rfl⟩

/-- The names of maps and states can be quoted, and so can what the scoped name of a state that
    is pushed begins with. -/
structure NamesQuotable (level : GraphLevel) (m : Machine) : Prop where
  maps : ∀ map ∈ m.maps, Quotable map.name.text.toList
  states : ∀ p ∈ m.places, Quotable p.state.name.toList
  beginnings : ∀ node, Pushed level m node → Quotable (before scopeMark node).toList

instance (level : GraphLevel) (m : Machine) : Decidable (NamesQuotable level m) :=
  decidable_of_iff ((∀ map ∈ m.maps, Quotable map.name.text.toList) ∧
      (∀ p ∈ m.places, Quotable p.state.name.toList) ∧
      ∀ node ∈ pushedStates level m, Quotable (before scopeMark node).toList)
    ⟨fun ⟨hmaps, hstates, hbeginnings⟩ => ⟨hmaps, hstates, fun node hnode =>
        hbeginnings node (((pushedStates_spec level m).1 node).2 hnode)⟩,
      fun h => ⟨h.maps, h.states, fun node hnode =>
        h.beginnings node (((pushedStates_spec level m).1 node).1 hnode)⟩⟩

theorem quotable_scoped {a b : String} (ha : Quotable a.toList) (hb : Quotable b.toList) :
    Quotable (a ++ scopeMark ++ b).toList :=
  quotable_append (quotable_append ha (by decide +kernel)) hb

/-- What comes after a scope mark in a quotable text can be quoted alone. -/
theorem quotable_of_scoped {a b : String} (h : Quotable (a ++ scopeMark ++ b).toList) :
    Quotable b.toList := by
  have hmark : scopeMark.toList = [':', ':'] := rfl
  rw [String.toList_append, String.toList_append, hmark, List.append_assoc] at h
  have hcolon : ':' ≠ backslash := by decide
  exact Quotable.of_append_cons hcolon (a := []) (Quotable.of_append_cons hcolon h)

namespace NamesQuotable

theorem place (h : NamesQuotable level m) {p : Place} (hp : p ∈ m.places) :
    Quotable p.scopedName.toList :=
  quotable_scoped (h.maps _ (Machine.mem_places.1 hp).1) (h.states p hp)

/-- What is quoted for a guard that is drawn can be quoted. -/
theorem arrow (h : NamesQuotable level m) (hwf : m.WellFormed) (hvalid : m.Valid)
    (hmap : map ∈ m.maps) (ha : a ∈ arrows level map) :
    ∀ s ∈ a.quotedTexts level, Quotable s.toList := by
  have hplace := place_mem_places hmap ha
  have hname := h.maps _ (Machine.mem_places.1 hplace).1
  have hpop : Quotable (a.popNodeText level).toList := quotable_popText ..
  have hend : a.guard.move ≠ .pop → Quotable a.endNode.toList := by
    intro hmove
    obtain ⟨q, hq, hnode⟩ := exists_endNode hwf hvalid hmap ha hmove
    rw [hnode]
    exact h.place hq
  have hbeginning : a.guard.move = .push → Quotable a.pushMap.toList := fun hmove =>
    h.beginnings _ ⟨map, hmap, a, ha, hmove, rfl⟩
  -- its edge, and then what the kind of its move draws besides
  simp only [Arrow.quotedTexts, List.forall_mem_append, List.forall_mem_cons]
  refine ⟨⟨h.place hplace, ?_, quotable_guardLabel .., List.forall_mem_nil _⟩, ?_⟩
  · rw [Arrow.target]
    cases hmove : a.guard.move with
    | set => exact hend (by simp [hmove])
    | push => exact quotable_scoped (hend (by simp [hmove])) (hbeginning hmove)
    | pop =>
      refine quotable_append (quotable_append ?_ hpop) (by decide +kernel)
      exact quotable_append (quotable_append hname (by decide +kernel)) (by decide +kernel)
  · cases hmove : a.guard.move with
    | set => exact List.forall_mem_nil _
    | push =>
      have hlayout : Quotable "\x7b".toList := by decide +kernel
      simp only [List.forall_mem_cons]
      refine ⟨hend (by simp [hmove]), ?_, by decide +kernel, List.forall_mem_nil _⟩
      exact quotable_append (quotable_append hlayout (hbeginning hmove)) (by decide +kernel)
    | pop =>
      simp only [List.forall_mem_cons]
      refine ⟨.nil, quotable_scoped hname (by decide +kernel), ?_, List.forall_mem_nil _⟩
      exact quotable_append (quotable_append (by decide +kernel) hpop) (by decide +kernel)

end NamesQuotable

/-- The layout of a drawing has no double quotes. -/
theorem layout_has_no_quote (m : Machine) (o : Options) (start : Place) :
    ∀ line ∈ outline m o start, ∀ s, .layout s ∈ line → doubleQuote ∉ s.toList := by
  have hfits : OutlineFits (fun _ => True) (outline m o start) := by
    refine fits_outline trivial trivial trivial fun c hc => ⟨trivial, ?_⟩
    obtain ⟨map, -, rfl⟩ := List.mem_map.1 hc
    exact drawing_quotes (fun _ _ => ⟨trivial, trivial⟩) (fun _ _ _ _ => trivial)
      fun _ _ _ _ => trivial
  exact fun line hline s hs => hfits line hline _ hs

/-- Where all that is quoted in the clusters can be quoted, the names can. -/
theorem namesQuotable_of_clusters (h : ∀ map ∈ m.maps,
      ∀ line ∈ clusterOutline (drawing level m map), ∀ s, .quoted s ∈ line → Quotable s.toList) :
    NamesQuotable level m where
  maps map hmap := by
    have hdraws := drawing_draws level m map
    rw [← hdraws.name]
    -- the cluster of the map is labelled with its name
    refine h map hmap [.layout "        label=", .quoted (drawing level m map).name.text,
      .layout ";"] ?_ _ (by simp)
    simp [clusterOutline]
  states p hp := by
    obtain ⟨hmap, hs⟩ := Machine.mem_places.1 hp
    have hdraws := drawing_draws level m p.map
    have hid : p.scopedName ∈ (drawing level m p.map).states.map DotNode.id := by
      rw [hdraws.states]
      exact List.mem_map.2 ⟨p.state, hs, rfl⟩
    obtain ⟨n, hn, hid⟩ := List.mem_map.1 hid
    -- the node of a state is named after it
    have hscoped : Quotable p.scopedName.toList := by
      rw [← hid]
      refine h p.map hmap [.layout "        ", .quoted n.id] ?_ _ (by simp)
      simp only [clusterOutline, nodeOutline, List.mem_append, List.mem_flatMap]
      exact .inl (.inl (.inl (.inr ⟨n, .inl hn, List.mem_cons_self⟩)))
    exact quotable_of_scoped hscoped
  beginnings node hnode := by
    obtain ⟨map, hmap, a, ha, hmove, rfl⟩ := hnode
    have hdraws := drawing_draws level m map
    have hedge : a.edge level ∈ (drawing level m map).edges := by
      rw [hdraws.edges]
      exact List.mem_map_of_mem ha
    -- the edge of a push leads to a node whose name ends with the beginning
    have htarget : Quotable (a.edge level).target.toList := by
      refine h map hmap [.layout "        ", .quoted (a.edge level).source, .layout " -> ",
        .quoted (a.edge level).target] ?_ _ (by simp)
      simp only [clusterOutline, edgeOutline, List.mem_append, List.mem_flatMap]
      exact .inl (.inr ⟨_, .inl hedge, List.mem_cons_self⟩)
    rw [Arrow.edge, Arrow.target, hmove] at htarget
    exact quotable_of_scoped htarget

/-- What is quoted in the drawing of a valid machine can be quoted exactly if the names can. -/
theorem quotable_quotedTexts_iff (hwf : m.WellFormed) (hvalid : m.Valid) {o : Options}
    {start : Place} (hstart : start ∈ m.places) :
    (∀ s ∈ quotedTexts m o start, Quotable s.toList) ↔ NamesQuotable o.graphLevel m := by
  constructor
  · intro h
    refine namesQuotable_of_clusters fun map hmap line hline s hs => ?_
    refine h s (mem_quotedTexts.2 ⟨line, ?_, hs⟩)
    refine List.mem_append_left _ (List.mem_append_right _ (List.mem_flatMap.2 ⟨_, ?_, hline⟩))
    exact List.mem_map.2 ⟨map, hmap, rfl⟩
  · intro h s hs
    obtain ⟨line, hline, hs⟩ := mem_quotedTexts.1 hs
    have hfits : OutlineFits (fun s => Quotable s.toList) (outline m o start) := by
      refine fits_outline .nil (by decide +kernel) (h.place hstart) fun c hc => ?_
      obtain ⟨map, hmap, rfl⟩ := List.mem_map.1 hc
      have hname : (drawing o.graphLevel m map).name = map.name := (drawing_draws ..).name
      refine ⟨hname ▸ h.maps map hmap, drawing_quotes (fun s hs => ⟨?_, quotable_stateLabel ..⟩)
        (fun a ha => h.arrow hwf hvalid hmap ha) fun node hnode => ?_⟩
      · exact h.place (p := ⟨map, s⟩) (Machine.mem_places.2 ⟨hmap, hs⟩)
      · obtain ⟨map', hmap', a, ha, hmove, rfl⟩ := ((pushedStates_spec _ m).1 node).1 hnode
        obtain ⟨q, hq, hnode⟩ := exists_pushNode hvalid hmap' ha hmove
        have hstate : Quotable a.pushNode.toList := hnode ▸ h.place hq
        simp only [entryTexts, List.forall_mem_cons]
        exact ⟨quotable_append (quotable_append (by decide +kernel) hstate) (by decide +kernel),
          .nil, hstate, List.forall_mem_nil _⟩
    exact hfits line hline _ hs

/-- The graph of a valid machine is made of layout without double quotes, of names that stand as
    they are, and of texts between double quotes. Labels of states and guards can always be
    quoted: every double quote in them has an odd number of backslashes before it, and they do
    not end with one. All that is between double quotes can be quoted exactly if the names of
    maps and states can, and the beginnings of the scoped names of the states that are pushed. -/
theorem quoted_texts_are_well_formed_iff {m : Machine} (hwf : m.WellFormed)
    {target : Option Target} {source : Option Value} {w : Validation}
    (hvalidate : m.validate target source = .ok w) (hvalid : w.isValid = true) (o : Options) :
    ∃ start, m.startPlace? = some start ∧
      (∀ base f, m.generate .graph o base = .ok f →
        f.content = Text.unlines ((outline m o start).map lineOf)) ∧
      (∀ line ∈ outline m o start, ∀ s, .layout s ∈ line → doubleQuote ∉ s.toList) ∧
      (∀ p ∈ m.places, Quotable (stateLabel o.graphLevel p).toList) ∧
      (∀ map ∈ m.maps, ∀ a ∈ arrows o.graphLevel map,
        Quotable (guardLabel o.graphLevel a.transition a.guard).toList ∧
        Quotable (a.popNodeText o.graphLevel).toList) ∧
      ((∀ s ∈ quotedTexts m o start, Quotable s.toList) ↔ NamesQuotable o.graphLevel m) := by
  have hvalid := Machine.valid_of_validate hvalidate hvalid
  obtain ⟨start, hstart⟩ := hvalid.start
  refine ⟨start, hstart, fun base f hf => ?_, layout_has_no_quote m o start,
    fun p _ => quotable_stateLabel _ p,
    fun map _ a _ => ⟨quotable_guardLabel .., quotable_popText ..⟩,
    quotable_quotedTexts_iff hwf hvalid (Machine.mem_places_of_startPlace? hstart)⟩
  obtain ⟨g, start', hg, hstart', -, hcontent⟩ := Machine.generate_eq_ok hf
  cases hg
  rw [hstart] at hstart'
  cases hstart'
  rw [hcontent, map_lineOf_outline]
  rfl

open Simulator in
/-- The label of the guard by which the door is passed quotes a name, with the double quotes
    escaped. -/
theorem door_of_ann_is_quoted_well :
    (doorMachine "who == \"Ann\"").WellFormed ∧
      (∃ w, (doorMachine "who == \"Ann\"").validate none none = .ok w ∧ w.isValid = true) ∧
      ∃ start, (doorMachine "who == \"Ann\"").startPlace? = some start ∧
        "pass\\l[who == \\\"Ann\\\"]\\l" ∈
          quotedTexts (doorMachine "who == \"Ann\"") { graphLevel := .guards } start ∧
        ∀ s ∈ quotedTexts (doorMachine "who == \"Ann\"") { graphLevel := .guards } start,
          Quotable s.toList := by
  have hload : (Load.machine (door "who == \"Ann\"") .null).outcome.1 =
      .ok (doorMachine "who == \"Ann\"") := rfl
  have hwf := Load.wellFormed_of_outcome hload
  obtain ⟨w, hvalidate, hvalid⟩ : ∃ w, (doorMachine "who == \"Ann\"").validate none none = .ok w ∧
      w.isValid = true := Machine.exists_validation (by decide +kernel)
  obtain ⟨start, hstart, -, -, -, -, hquoted⟩ :=
    quoted_texts_are_well_formed_iff hwf hvalidate hvalid { graphLevel := .guards }
  have hlabel : (doorMachine "who == \"Ann\"").startPlace?.all (fun start =>
      decide ("pass\\l[who == \\\"Ann\\\"]\\l" ∈
        quotedTexts (doorMachine "who == \"Ann\"") { graphLevel := .guards } start)) = true := by
    decide +kernel
  rw [hstart, Option.all_some, decide_eq_true_iff] at hlabel
  exact ⟨hwf, ⟨w, hvalidate, hvalid⟩, start, hstart, hlabel, hquoted.2 (by decide +kernel)⟩

/-- The description of a door that is half open, as it is said. -/
def halfOpenDoor : Value :=
  .object [("class", .str "Door"), ("start", .str "Hall::Half \"open\""), ("maps", .list [.object [
    ("name", .str "Hall"), ("states", .list [.object [("name", .str "Half \"open\"")]])]])]

open Simulator in
/-- The door that is half open. -/
def halfOpenMachine : Machine :=
  { doorMachine "" with
    start := .str "Hall::Half \"open\""
    maps := [{
      name := .str "Hall"
      states := [doorState "Half \"open\"" []]
      default? := none
      line := .int 0 }] }

/-- The door that is half open is found valid. The label of its state has the double quotes
    escaped, but they stand as they are in the name of the node. -/
theorem half_open_door_is_not_quoted_well :
    (Load.machine halfOpenDoor .null).outcome.1 = .ok halfOpenMachine ∧
      (∃ w, halfOpenMachine.validate none none = .ok w ∧ w.isValid = true) ∧
      ∃ start, halfOpenMachine.startPlace? = some start ∧
        (∃ f, halfOpenMachine.generate .graph {} .null = .ok f) ∧
        ["Hall::Half \"open\"", "Half \\\"open\\\""] ⊆ quotedTexts halfOpenMachine {} start ∧
        Quotable "Half \\\"open\\\"".toList ∧ ¬Quotable "Hall::Half \"open\"".toList := by
  have hgenerate : (halfOpenMachine.generate .graph {} .null).toOption.isSome = true := by
    decide +kernel
  have hquoted : halfOpenMachine.startPlace?.any (fun start =>
      decide (["Hall::Half \"open\"", "Half \\\"open\\\""] ⊆
        quotedTexts halfOpenMachine {} start)) = true := by decide +kernel
  obtain ⟨start, hstart, hquoted⟩ := (Option.any_eq_true _ _).1 hquoted
  exact ⟨rfl, Machine.exists_validation (by decide +kernel), start, hstart,
    Machine.exists_file_of_isSome hgenerate, of_decide_eq_true hquoted, by decide +kernel,
    by decide +kernel⟩

end Diagram
end StateMachine
