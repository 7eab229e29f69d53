import StateMachine.Generate.Options
import StateMachine.Model.SignatureUnion
import StateMachine.Semantics.Plan
import StateMachine.Text.Blank
import StateMachine.Text.Escape

/-!
# Diagrams

A machine as a graph in the DOT language. A map is a cluster, a real state a
node named by its scoped name, a guard an edge. The transitions of a Default
State are drawn for every state of the map that has none of the same name.

Some nodes are no states: a push leads to a *composite* node, which stands for
the end state suspended while the pushed map runs, and a pop to a *pop* node,
which leads to the end node of its map. A state that is pushed gets an entry
arrow inside its own map.
-/

namespace StateMachine.Diagram

/-- A node: its name and what is written about it. -/
structure DotNode where
  id : String
  attributes : String

/-- An edge. -/
structure Edge where
  source : String
  target : String
  attributes : String

/-- The drawing of a map. -/
structure Cluster where
  name : Value
  states : List DotNode
  /-- The nodes that are no states. -/
  extraNodes : List DotNode
  edges : List Edge
  /-- The edges between other nodes than states. -/
  extraEdges : List Edge

/-- The drawing of a machine. -/
structure Graph where
  clusters : List Cluster
  start : String

/-! ## Labels -/

/-- An attribute in quotes. -/
def labelled (text : String) : String :=
  "label=\"" ++ text ++ "\""

/-- The section of a state's label with its entry or exit actions. -/
def section? (title : String) (actions : List Action) : Option String :=
  if actions.isEmpty then none
  else some (title ++ "/\\l" ++ String.join
    (actions.map fun a => Text.escapeRecord a.text ++ ";\\l"))

/-- The label of a state. -/
def stateLabel (level : GraphLevel) (p : Place) : String :=
  let name := Text.escapeRecord p.state.name
  let sections :=
    if level.showsGuards then
      (section? "Entry" (p.map.entryOf p.state)).toList
        ++ (section? "Exit" (p.map.exitOf p.state)).toList
    else []
  if sections.isEmpty then name
  else "\x7b" ++ Text.joined "|" (name :: sections) ++ "\x7d"

/-- What a pop is labelled with: the transition issued after it, and `arguments`
    where they are shown. -/
def popText (level : GraphLevel) (g : Guard) (arguments : String) : String :=
  Text.escape g.popTransition.text
    ++ (if level.showsGuards && g.popArguments.isSet then ", " ++ Text.escape arguments else "")

/-- The part of a label that tells the move. -/
def moveText (level : GraphLevel) (g : Guard) : String :=
  match g.move with
  | .set => ""
  | .push => "/\\lpush(" ++ Text.escape g.pushState.text ++ ")"
  | .pop => "/\\lpop(" ++ popText level g g.popArguments.text ++ ")"

/-- The label of a guard's edge. -/
def guardLabel (level : GraphLevel) (t : Transition) (g : Guard) : String :=
  Text.escape t.name.text
    ++ (if level.showsDetails && !t.parameters.isEmpty then
        "(" ++ Text.joined ", " (t.parameters.map fun p => Text.escape p.text) ++ ")"
      else "")
    ++ (if level.showsGuards && g.hasCondition then
        "\\l[" ++ Text.escape g.conditionText ++ "]"
      else "")
    ++ moveText level g
    ++ (if level.showsDetails && g.hasActions then
        "/\\l" ++ String.join (g.actions.map fun a => Text.escape a.text ++ ";\\l")
      else "")
    ++ "\\l"

/-! ## Edges -/

/-- A guard to be drawn as leaving a state. -/
structure Arrow where
  /-- The state it leaves. -/
  place : Place
  transition : Transition
  guard : Guard

/-- Is the guard drawn? Loopbacks that do nothing but stay are shown only with
    the conditions. -/
def isDrawn (level : GraphLevel) (g : Guard) : Bool :=
  !(g.isLoopback && g.move == .set && !level.showsGuards)

/-- The guards of a state that are drawn, as leaving `source`. -/
def arrowsOf (level : GraphLevel) (source : Place) (s : State) : List Arrow :=
  s.transitions.flatMap fun t =>
    (t.ordered.filter (isDrawn level)).map fun g => ⟨source, t, g⟩

/-- The guards of the Default State that a state inherits. -/
def inherited (level : GraphLevel) (p : Place) : List Arrow :=
  match p.map.default? with
  | some d => (arrowsOf level p d).filter fun a => (p.state.named? a.transition.name).isNone
  | none => []

/-- The guards drawn in a map: those of the real states, then the inherited
    ones. -/
def arrows (level : GraphLevel) (map : StateMap) : List Arrow :=
  map.states.flatMap (fun s => arrowsOf level ⟨map, s⟩ s)
    ++ map.states.flatMap fun s => inherited level ⟨map, s⟩

namespace Arrow

/-- The plan of the guard. -/
def plan (a : Arrow) : Plan :=
  a.guard.plan a.place.map.name.text

/-- The node of the state the guard leads to, before it pushes. -/
def endNode (a : Arrow) : String :=
  if a.guard.isLoopback then a.place.scopedName else a.plan.endState.text

/-- The node of the state the guard pushes. -/
def pushNode (a : Arrow) : String :=
  a.plan.pushState.text

/-- The map a pushed state belongs to. -/
def pushMap (a : Arrow) : String :=
  Text.before scopeMark a.pushNode

/-- The node a push leads to. -/
def compositeNode (a : Arrow) : String :=
  a.endNode ++ scopeMark ++ a.pushMap

/-- The text in a pop node. -/
def popNodeText (level : GraphLevel) (a : Arrow) : String :=
  popText level a.guard (Text.squeeze a.guard.popArguments.text)

/-- The node a pop leads to. -/
def popNode (level : GraphLevel) (a : Arrow) : String :=
  a.place.map.name.text ++ scopeMark ++ "pop(" ++ a.popNodeText level ++ ")"

/-- The node the edge leads to. -/
def target (level : GraphLevel) (a : Arrow) : String :=
  match a.guard.move with
  | .set => a.endNode
  | .push => a.compositeNode
  | .pop => a.popNode level

/-- The edge of a guard. -/
def edge (level : GraphLevel) (a : Arrow) : Edge :=
  ⟨a.place.scopedName, a.target level, labelled (guardLabel level a.transition a.guard)⟩

end Arrow

namespace Cluster

/-- Is there a node of this name that is no state? -/
def hasNode (c : Cluster) (id : String) : Bool :=
  c.extraNodes.any fun n => n.id == id

/-- The cluster with a further node, unless it has one of that name. -/
def addNode (c : Cluster) (n : DotNode) : Cluster :=
  if c.hasNode n.id then c else { c with extraNodes := c.extraNodes ++ [n] }

/-- The cluster with a further edge between other nodes than states. -/
def addExtraEdge (c : Cluster) (e : Edge) : Cluster :=
  { c with extraEdges := c.extraEdges ++ [e] }

/-- The end node of a map. -/
def endNode (map : StateMap) : DotNode where
  id := map.name.text ++ scopeMark ++ "%end"
  attributes := "label=\"\" shape=doublecircle style=filled fillcolor=black width=0.15"

/-- The cluster with the pop node of a guard. -/
def addPop (c : Cluster) (level : GraphLevel) (a : Arrow) : Cluster :=
  let id := a.popNode level
  if c.hasNode id then c
  else
    let finish := endNode a.place.map
    ((c.addNode ⟨id, "label=\"\" width=1"⟩).addNode finish).addExtraEdge
      ⟨id, finish.id, labelled ("pop(" ++ a.popNodeText level ++ ");\\l")⟩

/-- The cluster with the composite node of a guard. -/
def addComposite (c : Cluster) (a : Arrow) : Cluster :=
  let id := a.compositeNode
  if c.hasNode id then c
  else
    (c.addNode ⟨id, labelled ("\x7b" ++ a.pushMap ++ "|O-O\\r\x7d")⟩).addExtraEdge
      ⟨id, a.endNode, "label=\"pop/\""⟩

/-- The cluster with the edge of a guard and the nodes it needs. -/
def addArrow (level : GraphLevel) (c : Cluster) (a : Arrow) : Cluster :=
  let c :=
    match a.guard.move with
    | .set => c
    | .push => c.addComposite a
    | .pop => c.addPop level a
  { c with edges := c.edges ++ [a.edge level] }

/-- The drawing of a map, without the arrows of pushed states. -/
def ofMap (level : GraphLevel) (map : StateMap) : Cluster :=
  let states := map.states.map fun s =>
    (⟨map.scopedName s, labelled (stateLabel level ⟨map, s⟩)⟩ : DotNode)
  (arrows level map).foldl (addArrow level) ⟨map.name, states, [], [], []⟩

/-- The cluster with the entry arrow of a state that is pushed, if it is the
    cluster of the state's map. -/
def addEntry (c : Cluster) (pushed : String) : Cluster :=
  if c.name == .str (Text.before scopeMark pushed) then
    let id := "push(" ++ pushed ++ ")"
    (c.addNode ⟨id, "label=\"\" shape=plaintext"⟩).addExtraEdge ⟨id, pushed, "arrowtail=odot"⟩
  else c

end Cluster

/-- The states that are pushed, each once, in the order they first are. -/
def pushedStates (level : GraphLevel) (m : Machine) : List String :=
  ((m.maps.flatMap (arrows level)).filter fun a => a.guard.move == .push).foldl
    (fun seen a => if seen.contains a.pushNode then seen else seen ++ [a.pushNode]) []

/-- The drawing of a machine that starts in a place. -/
def graph (level : GraphLevel) (m : Machine) (start : Place) : Graph where
  clusters := m.maps.map fun map =>
    (pushedStates level m).foldl Cluster.addEntry (Cluster.ofMap level map)
  start := start.scopedName

/-! ## Text -/

/-- A node as text. -/
def nodeLines (n : DotNode) : List String :=
  ["        \"" ++ n.id ++ "\"", "            [" ++ n.attributes ++ "];"]

/-- An edge as text. -/
def edgeLines (e : Edge) : List String :=
  ["        \"" ++ e.source ++ "\" -> \"" ++ e.target ++ "\"",
    "            [" ++ e.attributes ++ "];"]

/-- A cluster as text. -/
def clusterLines (c : Cluster) : List String :=
  ["    subgraph cluster_" ++ c.name.text ++ " \x7b", "",
    "        label=\"" ++ c.name.text ++ "\";", "",
    "        //", "        // States (Nodes)", "        //", ""]
    ++ (c.states ++ c.extraNodes).flatMap nodeLines
    ++ ["", "        //", "        // Transitions (Edges)", "        //", ""]
    ++ (c.edges ++ c.extraEdges).flatMap edgeLines
    ++ ["    \x7d", ""]

/-- The lines of the graph of a machine. -/
def lines (m : Machine) (o : Options) (start : Place) : List String :=
  let g := graph o.graphLevel m start
  ["// generated by " ++ o.appName.text ++ " " ++ o.appVersion.text,
    "digraph " ++ m.name.text ++ " \x7b", "", "    node", "        [shape=Mrecord width=1.5];", ""]
    ++ g.clusters.flatMap clusterLines
    ++ ["    \"%start\"",
      "        [label=\"\" shape=circle style=filled fillcolor=black width=0.25];",
      "", "    \"%start\" -> \"" ++ g.start ++ "\"", "\x7d"]

/-- The graph of a machine that starts in a place. -/
def text (m : Machine) (o : Options) (start : Place) : String :=
  Text.unlines (lines m o start)

/-! ## Mismatches -/

/-- The mismatch of labelling an edge: what is escaped must be a text. -/
def labelMismatch? (level : GraphLevel) (t : Transition) (g : Guard) : Option Mismatch :=
  let needs (v : Value) : Option Mismatch := v.textMismatch? "replace"
  needs t.name
    <|> (if level.showsDetails then t.parameterMismatch? else none)
    <|> (if g.move == .push then needs g.pushState else none)
    <|> (if g.move == .pop then needs g.popTransition else none)
    <|> (if g.move == .pop && level.showsGuards && g.popArguments.isSet then needs g.popArguments
      else none)

/-- The mismatch of drawing a transition. -/
def transitionMismatch? (level : GraphLevel) (t : Transition) : Option Mismatch :=
  t.orderMismatch? <|> t.ordered.findSome? fun g =>
    g.planMismatch? <|> if isDrawn level g then labelMismatch? level t g else none

/-- The mismatch of drawing a machine. -/
def mismatch? (m : Machine) (o : Options) : Option Mismatch :=
  m.transitions.findSome? fun p => transitionMismatch? o.graphLevel p.transition

end StateMachine.Diagram
