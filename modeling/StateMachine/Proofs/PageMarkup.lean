import Mathlib.Data.List.Forall2
import StateMachine.Proofs.Dispatching
import StateMachine.Proofs.GeneratedFiles

/-!
# The markup of pages

The page of a machine is markup with texts of the machine in its *gaps*. Which
markup that is depends on the *shape* of the page alone (`PageShape`): the
numbers of its columns, rows, actions and guards, and which guards have
parameters or a condition. An *outline* is markup with gaps, and a text *fills*
an outline if it has some text, written as in markup, for every gap (`Fills`).

* Every page fills the outline of its shape (`fills_page`).
* A text written as in markup has no angle bracket (`count_escapeMarkup`), so a
  page has as many of them as its outline (`Fills.count_eq`), and pages of the
  same shape have the same number of them (`page_markup_of_shape`).
-/

namespace StateMachine.Page

/-! ## Shapes -/

/-- The shape of a guard in a cell. -/
structure EntryShape where
  /-- Are there parameters to be shown? -/
  parameters : Bool
  /-- Is there a condition to be shown? -/
  condition : Bool
  actions : Nat
  deriving DecidableEq

/-- The shape of a row. -/
structure RowShape where
  entry : Nat
  exit : Nat
  cells : List (List EntryShape)
  deriving DecidableEq

/-- The shape of a table. -/
structure TableShape where
  columns : Nat
  rows : List RowShape
  deriving DecidableEq

/-- The shape of a page. -/
abbrev PageShape := List TableShape

/-- The shape of a guard as it is listed. -/
def Entry.shape (e : Entry) : EntryShape :=
  ⟨!e.parameters.isEmpty, !e.condition.isEmpty, e.actions.length⟩

/-- The shape of the row of a state. -/
def Row.shape (r : Row) : RowShape :=
  ⟨r.entry.length, r.exit.length, r.cells.map fun entries => entries.map Entry.shape⟩

/-- The shape of the table of a map. -/
def Table.shape (t : Table) : TableShape :=
  ⟨t.columns.length, t.rows.map Row.shape⟩

/-- The shape of the page of a machine. -/
def shape (m : Machine) : PageShape :=
  m.maps.map fun map => (table map).shape

/-! ## Outlines -/

/-- Markup with gaps. -/
abbrev Outline := List (Option String)

/-- The text is the outline, with a text written as in markup in every gap. -/
inductive Fills : Outline → String → Prop
  | nil : Fills [] ""
  | markup (s : String) {o : Outline} {t : String} : Fills o t → Fills (some s :: o) (s ++ t)
  | gap (s : String) {o : Outline} {t : String} :
    Fills o t → Fills (none :: o) (Text.escapeMarkup s ++ t)

/-- The markup of an outline, without its gaps. -/
def Outline.markup (o : Outline) : String :=
  String.join (o.filterMap id)

theorem Outline.markup_some (s : String) (o : Outline) :
    Outline.markup (some s :: o) = s ++ o.markup :=
  String.join_cons

theorem Outline.markup_none (o : Outline) : Outline.markup (none :: o) = o.markup :=
  rfl

/-- A line without gaps. -/
def plain (s : String) : Outline :=
  [some s]

/-- A line with one gap. -/
def around (before after : String) : Outline :=
  [some before, none, some after]

/-- The outline of lines, each ended by a line break. -/
def unlined (lines : List Outline) : Outline :=
  lines.flatMap fun l => l ++ [some "\n"]

/-- The outline of a guard in a cell. -/
def EntryShape.outline (e : EntryShape) : List Outline :=
  (if e.parameters then [around "          (" ")<br>"] else [])
    ++ (if e.condition then [around "          [" "]<br>"] else [])
    ++ [around "          " "<br>",
      some "          <pre>\x7b " :: (List.replicate e.actions [none, some "; "]).flatten
        ++ [some "\x7d</pre>"]]

/-- The outline of actions on entry or exit. -/
def actionOutline (actions : Nat) : List Outline :=
  [plain "        <td>"] ++ List.replicate actions (around "          <pre>" ";</pre>")
    ++ [plain "        </td>"]

/-- The outline of a cell. -/
def cellOutline (entries : List EntryShape) : List Outline :=
  [plain "        <td>"] ++ entries.flatMap EntryShape.outline ++ [plain "        </td>"]

/-- The outline of a row. -/
def RowShape.outline (r : RowShape) : List Outline :=
  [plain "      <tr>", around "        <td>" "</td>"] ++ actionOutline r.entry
    ++ actionOutline r.exit ++ r.cells.flatMap cellOutline ++ [plain "      </tr>"]

/-- The outline of the head of a table. -/
def headOutline (columns : Nat) : List Outline :=
  [plain "    <table align=center border=3 cellspacing=2 cellpadding=2>",
    plain "      <caption align=\"top\">",
    around "        " " Finite State Machine",
    plain "      </caption>",
    plain "      <tr>",
    plain "        <th rowspan=2>State</th>",
    plain "        <th colspan=2>Actions</th>",
    plain ("        <th colspan=" ++ toString (columns + 1) ++ ">Transition</th>"),
    plain "      </tr>",
    plain "      <tr>",
    plain "        <th>Entry</th>",
    plain "        <th>Exit</th>"]
    ++ List.replicate columns (around "        <th>" "</th>")
    ++ [plain ("        <th><b>" ++ defaultName ++ "</b></th>"), plain "      </tr>"]

/-- The outline of a table. -/
def TableShape.outline (t : TableShape) : List Outline :=
  headOutline t.columns ++ t.rows.flatMap RowShape.outline
    ++ [plain "    </table>", plain "    <p>"]

/-- The outline of a page. -/
def PageShape.outline (p : PageShape) : Outline :=
  unlined ([plain "<html>",
    plain ("  <!-- generated by " ++ Options.default.appName.text ++ " "
      ++ Options.default.appVersion.text ++ " -->"),
    plain "  <head>", around "    <title>" "</title>", plain "  </head>", plain "",
    plain "  <body>"] ++ p.flatMap TableShape.outline ++ [plain "  </body>", plain "</html>"])

/-! ## Filling -/

namespace Fills

theorem append {o o' : Outline} {t t' : String} (h : Fills o t) (h' : Fills o' t') :
    Fills (o ++ o') (t ++ t') := by
  induction h with
  | nil => rwa [String.empty_append]
  | markup s _ ih => rw [String.append_assoc]; exact .markup s ih
  | gap s _ ih => rw [String.append_assoc]; exact .gap s ih

theorem plain (s : String) : Fills (plain s) s := by
  have h := Fills.markup s .nil
  rwa [String.append_empty] at h

theorem around (before s after : String) :
    Fills (around before after) (before ++ Text.escapeMarkup s ++ after) := by
  rw [String.append_assoc]
  exact .markup before (.gap s (.plain after))

/-- A text for each of several gaps, with the same markup after each. -/
theorem replicate {after : String} (ss : List String) :
    Fills (List.replicate ss.length [none, some after]).flatten
      (String.join (ss.map fun s => Text.escapeMarkup s ++ after)) := by
  induction ss with
  | nil => exact .nil
  | cons s ss ih =>
    rw [List.length_cons, List.replicate_succ, List.flatten_cons, List.map_cons, String.join_cons]
    exact .append (.gap s (.plain after)) ih

/-- Lines that fill their outlines make up a text that fills the outline of them
    all. -/
theorem unlines {os : List Outline} {ls : List String} (h : List.Forall₂ Fills os ls) :
    Fills (unlined os) (Text.unlines ls) := by
  induction h with
  | nil => exact .nil
  | cons hl _ ih =>
    rw [unlined, List.flatMap_cons, Text.unlines, List.map_cons, String.join_cons]
    exact .append (.append hl (.plain "\n")) ih

end Fills

/-- Outlines made for each item are filled by lines made for each item. -/
theorem forall₂_flatMap {α : Type} {f : α → List Outline} {g : α → List String}
    (h : ∀ a, List.Forall₂ Fills (f a) (g a)) (as : List α) :
    List.Forall₂ Fills (as.flatMap f) (as.flatMap g) := by
  induction as with
  | nil => exact .nil
  | cons a as ih =>
    rw [List.flatMap_cons, List.flatMap_cons]
    exact List.rel_append (h a) ih

/-- Lines with one gap each. -/
theorem forall₂_around (before after : String) (ss : List String) :
    List.Forall₂ Fills (List.replicate ss.length (around before after))
      (ss.map fun s => before ++ Text.escapeMarkup s ++ after) := by
  induction ss with
  | nil => exact .nil
  | cons s ss ih => exact .cons (.around before s after) ih

theorem fills_entry (e : Entry) : List.Forall₂ Fills e.shape.outline (entryLines e) := by
  have hparameters : List.Forall₂ Fills
      (if e.shape.parameters then [around "          (" ")<br>"] else [])
      (if e.parameters.isEmpty then []
        else ["          (" ++ Text.escapeMarkup e.parameters ++ ")<br>"]) := by
    cases h : e.parameters.isEmpty <;> simp only [Entry.shape, h]
    · exact .cons (.around _ _ _) .nil
    · exact .nil
  have hcondition : List.Forall₂ Fills
      (if e.shape.condition then [around "          [" "]<br>"] else [])
      (if e.condition.isEmpty then []
        else ["          [" ++ Text.escapeMarkup e.condition ++ "]<br>"]) := by
    cases h : e.condition.isEmpty <;> simp only [Entry.shape, h]
    · exact .cons (.around _ _ _) .nil
    · exact .nil
  rw [EntryShape.outline, entryLines]
  refine List.rel_append (List.rel_append hparameters hcondition)
    (.cons (.around _ _ _) (.cons ?_ .nil))
  exact .append (.append (.plain _) (.replicate e.actions)) (.plain _)

theorem fills_actions (actions : List String) :
    List.Forall₂ Fills (actionOutline actions.length) (actionLines actions) :=
  List.rel_append (List.rel_append (.cons (.plain _) .nil) (forall₂_around _ _ actions))
    (.cons (.plain _) .nil)

theorem fills_cell (entries : List Entry) :
    List.Forall₂ Fills (cellOutline (entries.map Entry.shape)) (cellLines entries) := by
  rw [cellOutline, cellLines, List.flatMap_map]
  exact List.rel_append (List.rel_append (.cons (.plain _) .nil)
    (forall₂_flatMap fills_entry entries)) (.cons (.plain _) .nil)

theorem fills_row (r : Row) : List.Forall₂ Fills r.shape.outline (rowLines r) := by
  have hcells : List.Forall₂ Fills (r.shape.cells.flatMap cellOutline)
      (r.cells.flatMap cellLines) := by
    rw [Row.shape, List.flatMap_map]
    exact forall₂_flatMap fills_cell r.cells
  exact List.rel_append (List.rel_append (List.rel_append (List.rel_append
    (.cons (.plain _) (.cons (.around _ _ _) .nil)) (fills_actions r.entry))
    (fills_actions r.exit)) hcells) (.cons (.plain _) .nil)

theorem fills_head (t : Table) :
    List.Forall₂ Fills (headOutline t.columns.length) (headLines t) := by
  refine List.rel_append (List.rel_append ?_ (forall₂_around _ _ t.columns)) ?_
  · exact .cons (.plain _) (.cons (.plain _) (.cons (.around _ _ _) (.cons (.plain _)
      (.cons (.plain _) (.cons (.plain _) (.cons (.plain _) (.cons (.plain _) (.cons (.plain _)
      (.cons (.plain _) (.cons (.plain _) (.cons (.plain _) .nil)))))))))))
  · exact .cons (.plain _) (.cons (.plain _) .nil)

theorem fills_table (t : Table) : List.Forall₂ Fills t.shape.outline (tableLines t) := by
  have hrows : List.Forall₂ Fills (t.shape.rows.flatMap RowShape.outline)
      (t.rows.flatMap rowLines) := by
    rw [Table.shape, List.flatMap_map]
    exact forall₂_flatMap fills_row t.rows
  exact List.rel_append (List.rel_append (fills_head t) hrows)
    (.cons (.plain _) (.cons (.plain _) .nil))

/-- The page of a machine, signed by the usual name and version, fills the outline
    of its shape. -/
theorem fills_page (m : Machine) {o : Options} (hname : o.appName = Options.default.appName)
    (hversion : o.appVersion = Options.default.appVersion) :
    Fills (shape m).outline (text m o) := by
  have htables : List.Forall₂ Fills ((shape m).flatMap TableShape.outline)
      ((m.maps.map table).flatMap tableLines) := by
    rw [shape, List.flatMap_map, List.flatMap_map]
    exact forall₂_flatMap (fun map => fills_table (table map)) m.maps
  refine .unlines (List.rel_append (List.rel_append ?_ htables) ?_)
  · rw [hname, hversion]
    exact .cons (.plain _) (.cons (.plain _) (.cons (.plain _) (.cons (.around _ _ _)
      (.cons (.plain _) (.cons (.plain _) (.cons (.plain _) .nil))))))
  · exact .cons (.plain _) (.cons (.plain _) .nil)

/-! ## Angle brackets -/

/-- No angle bracket is left in a text written as in markup. -/
theorem count_escapeMarkup {c : Char} (hc : c ∈ ['<', '>']) (s : String) :
    (Text.escapeMarkup s).toList.count c = 0 := by
  have hchar : ∀ d, c ∉ Text.markupChar d := by
    intro d
    -- an angle bracket is replaced itself, and is in no replacement
    rw [Text.markupChar]
    rcases List.mem_pair.1 hc with rfl | rfl <;> split_ifs <;>
      first | decide | simpa [eq_comm] using ‹_›
  rw [List.count_eq_zero, Text.escapeMarkup, Text.onChars, String.toList_ofList,
    Text.escapeMarkupChars, List.mem_flatMap]
  rintro ⟨d, -, hd⟩
  exact hchar d hd

/-- A text has the angle brackets of the outline it fills. -/
theorem Fills.count_eq {c : Char} (hc : c ∈ ['<', '>']) {o : Outline} {t : String}
    (h : Fills o t) : t.toList.count c = o.markup.toList.count c := by
  induction h with
  | nil => rfl
  | markup s _ ih =>
    rw [Outline.markup_some, String.toList_append, String.toList_append, List.count_append,
      List.count_append, ih]
  | gap s _ ih =>
    rw [Outline.markup_none, String.toList_append, List.count_append, count_escapeMarkup hc,
      Nat.zero_add, ih]

/-- A generated page is the page of its machine, which has no mismatch. -/
theorem page_of_generate {m : Machine} {o : Options} {base : Value} {f : OutputFile}
    (h : m.generate .table o base = .ok f) : mismatch? m = none ∧ f.content = text m o := by
  obtain ⟨g, start, hg, -, hmismatch, hcontent⟩ := Machine.generate_eq_ok h
  cases hg
  exact ⟨hmismatch, hcontent⟩

/-- The page generated for a machine, if it is signed by the usual name and version,
    is the markup that belongs to its shape, with texts in its gaps that are written
    as in markup. The angle brackets in it are those of this markup, so that there
    are as many of them in the page of any other machine of the same shape. -/
theorem page_markup_of_shape {m m' : Machine} {o o' : Options} {base base' : Value}
    {f f' : OutputFile} (hf : m.generate .table o base = .ok f)
    (hf' : m'.generate .table o' base' = .ok f')
    (hname : o.appName = Options.default.appName ∧ o'.appName = Options.default.appName)
    (hversion : o.appVersion = Options.default.appVersion ∧
      o'.appVersion = Options.default.appVersion) :
    Fills (shape m).outline f.content ∧
    ∀ c ∈ ['<', '>'], f.content.toList.count c = (shape m).outline.markup.toList.count c ∧
      (shape m' = shape m → f'.content.toList.count c = f.content.toList.count c) := by
  have hfills : Fills (shape m).outline f.content := by
    rw [(page_of_generate hf).2]
    exact fills_page m hname.1 hversion.1
  have hfills' : Fills (shape m').outline f'.content := by
    rw [(page_of_generate hf').2]
    exact fills_page m' hname.2 hversion.2
  refine ⟨hfills, fun c hc => ⟨hfills.count_eq hc, fun hshape => ?_⟩⟩
  rw [hfills'.count_eq hc, hshape, hfills.count_eq hc]

theorem exists_page_of_isSome {m : Machine}
    (h : (m.generate .table {} .null).toOption.isSome = true) :
    ∃ f, m.generate .table {} .null = .ok f :=
  Machine.exists_file_of_isSome h

/-- A single signature is its own union. -/
theorem signatureUnion_singleton (q : Placed) : signatureUnion [q] = [q] := by
  have hfirst : firstOfEach [q] = [q] := rfl
  rw [signatureUnion, hfirst]
  split
  · rfl
  · exact List.mergeSort_singleton q

/-- The map of a bell; everything that can be named is marked. -/
def tower (mark : String) : StateMap where
  name := .str (mark ++ "Tower")
  states := [{
    name := mark ++ "Still"
    entry := none
    exit := none
    transitions := [{
      name := .str (mark ++ "ring")
      parameters := [⟨.str (mark ++ "times"), .str "int", .int 0⟩]
      guards := [{
        condition := .str (mark ++ "times > 0")
        move := .set
        endState := .str (mark ++ "Still")
        pushState := .str ""
        actions := [⟨.str (mark ++ "swing"), [mark ++ "times"], false, false, false, .int 0⟩]
        popArguments := .str ""
        line := .int 0 }]
      line := .int 0 }]
    line := .int 0 }]
  default? := none
  line := .int 0

/-- A bell; everything that can be named is marked. -/
def markedBell (mark : String) : Machine :=
  { Simulator.doorMachine "" with
    name := .str (mark ++ "Bell")
    start := .str (mark ++ "Still")
    maps := [tower mark] }

/-- The page of a bell keeps its angle brackets when all names are marked by a tag. -/
theorem tagged_bell_page_has_same_markup :
    shape (markedBell "<b>") = shape (markedBell "") ∧
      ∃ f f', (markedBell "<b>").generate .table {} .null = .ok f ∧
        (markedBell "").generate .table {} .null = .ok f' ∧
        f.content.toList.count '<' = f'.content.toList.count '<' ∧
        f.content.toList.count '>' = f'.content.toList.count '>' := by
  have hunion : ∀ mark, signatureUnion (tower mark).transitions = (tower mark).transitions :=
    fun mark => signatureUnion_singleton _
  have hshape : shape (markedBell "<b>") = shape (markedBell "") := by
    simp only [shape, markedBell, List.map_cons, table, hunion]
    decide +kernel
  obtain ⟨f, hf⟩ := exists_page_of_isSome (m := markedBell "<b>") (by decide +kernel)
  obtain ⟨f', hf'⟩ := exists_page_of_isSome (m := markedBell "") (by decide +kernel)
  have h := (page_markup_of_shape hf' hf ⟨rfl, rfl⟩ ⟨rfl, rfl⟩).2
  exact ⟨hshape, f, f', hf, hf', (h '<' (by decide)).2 hshape, (h '>' (by decide)).2 hshape⟩

end StateMachine.Page
