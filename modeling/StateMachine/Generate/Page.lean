import StateMachine.Generate.Options
import StateMachine.Model.SignatureUnion
import StateMachine.Semantics.Plan
import StateMachine.Text.Escape

/-!
# Pages

A machine as an HTML page with one table per map. A row is a state, the Default
State last; a column is a transition name of the map, the name `Default` last.
A cell lists the guards of its state for its transition name in the order they
are tried, with their parameters, condition, target and actions.
-/

namespace StateMachine.Page

/-- A guard in a cell. -/
structure Entry where
  parameters : String
  condition : String
  target : String
  actions : List String

/-- The row of a state: a cell for each column, that of `Default` last. -/
structure Row where
  name : String
  entry : List String
  exit : List String
  cells : List (List Entry)

/-- The table of a map. -/
structure Table where
  name : String
  /-- The names of the columns before that of `Default`. -/
  columns : List String
  rows : List Row

/-! ## Tables -/

/-- What a row is called. -/
def rowName (s : State) : String :=
  if s.isDefault then defaultName else s.name

/-- Where a guard of a state leads to. -/
def target (s : State) (g : Guard) : String :=
  match g.move with
  | .pop =>
    "pop(" ++ Text.joined ", "
      ([g.popTransition.text, Text.trim g.popArguments.text].filter fun t => !t.isEmpty) ++ ")"
  | .push => "push(" ++ g.pushState.text ++ ")"
  | .set => if g.endState == .str nilState then rowName s else g.endState.text

/-- A guard as it is listed. -/
def entry (s : State) (t : Transition) (g : Guard) : Entry where
  parameters := t.parameterText
  condition := g.conditionText
  target := target s g
  actions := g.actions.map Action.text

/-- The cell of a state in the column of a transition name. -/
def cell (s : State) (name : Value) : List Entry :=
  (s.transitions.filter fun t => t.name.alike name).flatMap fun t => t.ordered.map (entry s t)

/-- The row of a state. -/
def row (columns : List Value) (s : State) : Row where
  name := rowName s
  entry := (s.entry.getD []).map Action.text
  exit := (s.exit.getD []).map Action.text
  cells := (columns ++ [Value.str defaultName]).map (cell s)

/-- The table of a map. -/
def table (map : StateMap) : Table :=
  let columns := transitionNames (signatureUnion map.transitions)
  { name := map.name.text
    columns := columns.map Value.text
    rows := (map.states ++ map.default?.toList).map (row columns) }

/-! ## Text -/

/-- A guard as text. -/
def entryLines (e : Entry) : List String :=
  (if e.parameters.isEmpty then []
    else ["          (" ++ Text.escapeMarkup e.parameters ++ ")<br>"])
    ++ (if e.condition.isEmpty then []
      else ["          [" ++ Text.escapeMarkup e.condition ++ "]<br>"])
    ++ ["          " ++ Text.escapeMarkup e.target ++ "<br>",
      "          <pre>\x7b " ++ String.join (e.actions.map fun a => Text.escapeMarkup a ++ "; ")
        ++ "\x7d</pre>"]

/-- The actions on entry or exit as text. -/
def actionLines (actions : List String) : List String :=
  ["        <td>"] ++ actions.map (fun a => "          <pre>" ++ Text.escapeMarkup a ++ ";</pre>")
    ++ ["        </td>"]

/-- A cell as text. -/
def cellLines (entries : List Entry) : List String :=
  ["        <td>"] ++ entries.flatMap entryLines ++ ["        </td>"]

/-- A row as text. -/
def rowLines (r : Row) : List String :=
  ["      <tr>", "        <td>" ++ Text.escapeMarkup r.name ++ "</td>"]
    ++ actionLines r.entry ++ actionLines r.exit ++ r.cells.flatMap cellLines ++ ["      </tr>"]

/-- The head of a table as text. -/
def headLines (t : Table) : List String :=
  ["    <table align=center border=3 cellspacing=2 cellpadding=2>",
    "      <caption align=\"top\">",
    "        " ++ Text.escapeMarkup t.name ++ " Finite State Machine",
    "      </caption>",
    "      <tr>",
    "        <th rowspan=2>State</th>",
    "        <th colspan=2>Actions</th>",
    "        <th colspan=" ++ toString (t.columns.length + 1) ++ ">Transition</th>",
    "      </tr>",
    "      <tr>",
    "        <th>Entry</th>",
    "        <th>Exit</th>"]
    ++ t.columns.map (fun c => "        <th>" ++ Text.escapeMarkup c ++ "</th>")
    ++ ["        <th><b>" ++ defaultName ++ "</b></th>", "      </tr>"]

/-- A table as text. -/
def tableLines (t : Table) : List String :=
  headLines t ++ t.rows.flatMap rowLines ++ ["    </table>", "    <p>"]

/-- The lines of the page of a machine. -/
def lines (m : Machine) (o : Options) : List String :=
  ["<html>",
    "  <!-- generated by " ++ o.appName.text ++ " " ++ o.appVersion.text ++ " -->",
    "  <head>",
    "    <title>" ++ Text.escapeMarkup m.name.text ++ "</title>",
    "  </head>",
    "",
    "  <body>"]
    ++ (m.maps.map table).flatMap tableLines
    ++ ["  </body>", "</html>"]

/-- The page of a machine. -/
def text (m : Machine) (o : Options) : String :=
  Text.unlines (lines m o)

/-! ## Mismatches -/

/-- The mismatch of listing a guard. -/
def entryMismatch? (t : Transition) (g : Guard) : Option Mismatch :=
  (if g.move == .pop then g.popArguments.textMismatch? "strip" else none)
    <|> (if g.popTransition.isText then none else some .unsupported)
    <|> t.parameterMismatch?

/-- The mismatch of listing a transition. -/
def transitionMismatch? (t : Transition) : Option Mismatch :=
  t.orderMismatch? <|> t.ordered.findSome? fun g => g.planMismatch? <|> entryMismatch? t g

/-- The mismatch of making the page of a machine. -/
def mismatch? (m : Machine) : Option Mismatch :=
  m.maps.findSome? fun map =>
    unionMismatch? map.transitions
      <|> map.transitions.findSome? fun p => transitionMismatch? p.transition

end StateMachine.Page
