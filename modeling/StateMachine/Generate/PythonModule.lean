import StateMachine.Generate.ClassTable
import StateMachine.Text.Blank
import StateMachine.Text.Lines

/-!
# Python modules

Writes a class table down as a Python module. A piece of code is a block of
lines; a block inside another is the same block nested. Two levels of tracing
can be written into it: states and transitions, and in addition the actions on
entry and exit.
-/

namespace StateMachine.PythonModule

/-- What is written beside the code of the class table. -/
structure Style where
  /-- Are states and transitions traced? -/
  trace : Bool
  /-- Are actions on entry and exit traced? -/
  traceActions : Bool
  /-- Are the tables of states and transitions written? -/
  reflect : Bool
  /-- Do the methods of the context class take its lock? -/
  sync : Bool

/-- The style asked for by the options. -/
def Style.ofOptions (o : Options) : Style where
  trace := o.debugLevel.tracesTransitions
  traceActions := o.debugLevel.tracesActions
  reflect := o.reflect.isSet
  sync := o.sync.isSet

/-- The lines, if the condition holds. -/
def when (condition : Bool) (lines : List String) : List String :=
  if condition then lines else []

/-- Traces a message. -/
def traceMessage (message : String) : List String :=
  ["if fsm.get_debug_flag():",
    "    fsm.get_debug_stream().write(\"" ++ message ++ "\\n\")"]

/-- Traces a message with the name of the current state. -/
def traceState (message : String) : List String :=
  ["if fsm.get_debug_flag():",
    "    fsm.get_debug_stream().write(\"" ++ message ++ "%s\\n\" % fsm.get_state().get_name())"]

/-! ## Guards -/

/-- Puts the next state in place. -/
def commitMove (b : Branch) : List String :=
  if b.plan.setsState then ["fsm.set_state(" ++ b.endState ++ ")"]
  else if b.plan.pushes then
    when b.plan.setsBeforePush ["fsm.set_state(" ++ b.endState ++ ")"]
      ++ when b.plan.entersBeforePush ["fsm.get_state().entry(fsm)"]
      ++ ["fsm.push_state(" ++ b.pushState ++ ")"]
  else when b.plan.pops ["fsm.pop_state()"]

/-- Enters the state arrived at. -/
def enter (s : Style) : List String :=
  when s.traceActions (traceState "BEFORE ENTRY    : ")
    ++ ["fsm.get_state().entry(fsm)"]
    ++ when s.traceActions (traceState "AFTER ENTRY     : ")

/-- Commits the next state. -/
def commit (s : Style) (b : Branch) : List String :=
  when s.trace (traceMessage ("EXIT TRANSITION : " ++ b.label))
    ++ commitMove b
    ++ when b.plan.entersNew (enter s)

/-- Leaves the current state. -/
def leave (s : Style) : List String :=
  when s.trace (traceState "LEAVING STATE   : ")
    ++ when s.traceActions (traceState "BEFORE EXIT     : ")
    ++ ["fsm.get_state().exit(fsm)"]
    ++ when s.traceActions (traceState "AFTER EXIT      : ")

/-- Runs the actions and commits the next state. -/
def actAndCommit (s : Style) (b : Branch) : List String :=
  if b.isProtected then
    ["try:"] ++ b.actions.map (fun a => "    " ++ a) ++ ["finally:"] ++ Text.nest 4 (commit s b)
  else b.actions ++ commit s b

/-- The body of a branch. -/
def branchBody (s : Style) (b : Branch) : List String :=
  when b.plan.savesState [ClassTable.savedState ++ " = fsm.get_state()"]
    ++ when b.plan.exitsCurrent (leave s)
    ++ when s.trace (traceMessage ("ENTER TRANSITION: " ++ b.label))
    ++ when b.plan.clearsState ["fsm.clear_state()"]
    ++ actAndCommit s b
    ++ when b.plan.popTransition.isSet
        ["fsm." ++ b.plan.popTransition.text ++ "(" ++ b.plan.popArguments.text ++ ")"]
    ++ when (b.plan.isNoop && !s.trace) ["pass"]

/-- A branch inside an overload. -/
def branch (s : Style) (b : Branch) : List String :=
  match b.keyword with
  | none => Text.nest 8 (branchBody s b)
  | some k =>
    let head := if k = .otherwise then k.word else k.word ++ " " ++ b.condition
    ("        " ++ head ++ ":") :: Text.nest 12 (branchBody s b)

/-! ## Classes -/

/-- Takes the arguments apart. -/
def unpack (parameters : List String) : List String :=
  when (!parameters.isEmpty)
    ["        " ++ Text.joined ", " parameters ++ (if parameters.length = 1 then "," else "")
      ++ " = args"]

/-- An overload of a method, the first one or a further one. -/
def overload (s : Style) (parent : String) (isFirst : Bool) (v : Overload) : List String :=
  ["    " ++ (if isFirst then "if" else "elif") ++ " len(args) == " ++ toString v.parameters.length
      ++ ":"]
    ++ unpack v.parameters
    ++ v.branches.flatMap (branch s)
    ++ when v.fallsThrough ["        else:", "            " ++ parent ++ "(self, fsm, *args)"]

/-- The overloads of a method. -/
def overloads (s : Style) (parent : String) : List Overload → List String
  | [] => []
  | v :: vs => overload s parent true v ++ vs.flatMap (overload s parent false)

/-- A method of a state's class. -/
def method (s : Style) (m : Method) : List String :=
  ["def " ++ m.name.text ++ "(self, fsm, *args):"]
    ++ when m.usesOwner ["    ctxt = fsm.get_owner()"]
    ++ overloads s m.parent m.overloads
    ++ ["    else:", "        " ++ m.parent ++ "(self, fsm, *args)"]

/-- The method for entry or exit actions. -/
def actionMethod (name : String) (b : ActionBlock) : List String :=
  ["def " ++ name ++ "(self, fsm):"]
    ++ (if b.actions.isEmpty then ["    pass"]
      else when b.usesOwner ["    ctxt = fsm.get_owner()"] ++ b.actions.map fun a => "    " ++ a)

/-- The method for entry or exit actions inside a class, where there are any. -/
def actionMember (name : String) (block : Option ActionBlock) : List String :=
  match block with
  | some b => "" :: Text.nest 4 (actionMethod name b)
  | none => []

/-- A reflection table. -/
def tableText (table : List (Value × Nat)) : String :=
  "\x7b" ++ Text.joined ", " (table.map fun e => e.1.literal ++ ": " ++ toString e.2) ++ "\x7d"

/-- Has the class nothing inside? -/
def isBare (c : StateClass) : Bool :=
  c.reflection.isNone && c.entry.isNone && c.exit.isNone && c.methods.isEmpty

/-- The class of a state. -/
def stateClass (s : Style) (c : StateClass) : List String :=
  ["", "", "class " ++ c.name ++ "(" ++ c.parent ++ "):"]
    ++ (c.reflection.map fun t => "    _transitions = " ++ tableText t).toList
    ++ actionMember "entry" c.entry
    ++ actionMember "exit" c.exit
    ++ c.methods.flatMap (fun m => "" :: Text.nest 4 (method s m))
    ++ when (isBare c) ["    pass"]

/-- The holder of a map's state instances. -/
def holder (m : MapClasses) : List String :=
  ["", "", "class " ++ m.name ++ "(object):", ""]
    ++ m.instances.map (fun i =>
      "    " ++ i.name ++ " = " ++ i.className ++ "('" ++ i.label ++ "', " ++ toString i.id ++ ")")
    ++ ["    Default = " ++ m.name ++ "_Default('" ++ m.name ++ ".Default', -1)"]

/-- The base class of all states. -/
def baseClass (s : Style) (t : ClassTable) : List String :=
  ["class " ++ t.base ++ "(statemap.State):"]
    ++ t.transitionNames.flatMap (fun n =>
      ["", "    def " ++ n.text ++ "(self, fsm, *args):", "        self.Default(fsm)"])
    ++ ["", "    def Default(self, fsm):"]
    ++ when s.trace (Text.nest 8 (traceMessage "TRANSITION   : Default"))
    ++ ["        msg = \"State: %s, Transition: %s\" % "
        ++ "(fsm.get_state().get_name(), fsm.get_transition())",
      "        raise statemap.TransitionUndefinedException(msg)"]

/-- Passes a transition on to the current state. -/
def passOn (name : String) : List String :=
  ["self.set_transition('" ++ name ++ "')",
    "try:",
    "    self.get_state()." ++ name ++ "(self, *arglist)",
    "finally:",
    "    self.set_transition(None)"]

/-- A method of the context class. -/
def contextMethod (s : Style) (name : String) : List String :=
  ["", "    def " ++ name ++ "(self, *arglist):"]
    ++ (if s.sync then "        with self.get_lock():" :: Text.nest 12 (passOn name)
      else Text.nest 8 (passOn name))

/-- The context class. -/
def contextClass (s : Style) (t : ClassTable) : List String :=
  ["", "", "class " ++ t.contextClass ++ "(statemap.FSMContext):", "",
    "    def __init__(self, owner):",
    "        statemap.FSMContext.__init__(self, " ++ t.startState ++ ", name='" ++ t.contextClass
      ++ "')",
    "        self._owner = owner"]
    ++ t.transitionNames.flatMap (fun n => contextMethod s n.text)
    ++ ["", "    def get_owner(self):", "        return self._owner"]
    ++ when s.reflect
      ["", "    def get_states(self):", "        return [" ++ Text.joined ", " t.states ++ "]"]

/-! ## The module -/

/-- An import as a statement. -/
def importStatement (name : String) : String :=
  let name := Text.trim name
  if "import ".isPrefixOf name || "from ".isPrefixOf name then name else "import " ++ name

/-- The head of the file: what generated it from what, the text to be copied and
    the imports. -/
def fileHead (m : Machine) (o : Options) : List String :=
  let source := Text.onChars (Text.trimBy (· == '\n')) m.source.text
  ["# ex: set ro:", "# DO NOT EDIT.",
    "# generated by " ++ o.appName.text ++ " " ++ o.appVersion.text]
    ++ when o.sourceFileName.isSet ["# from file : " ++ o.sourceFileName.text]
    ++ when (!source.isEmpty) ["", source]
    ++ [""]
    ++ m.imports.map (fun i => importStatement i.text)
    ++ ["import fsm_compiler.runtime.statemap as statemap", "", ""]

/-- The end of the file. -/
def fileTail : List String :=
  ["", "# Local variables:", "#  buffer-read-only: t", "# End:"]

/-- The lines of the classes. -/
def classLines (s : Style) (t : ClassTable) : List String :=
  baseClass s t
    ++ t.maps.flatMap (fun m => m.classes.flatMap (stateClass s) ++ holder m)
    ++ contextClass s t

/-- The lines of the module of a machine. -/
def lines (m : Machine) (o : Options) (start : Place) : List String :=
  fileHead m o ++ classLines (Style.ofOptions o) (m.classTable o start) ++ fileTail

/-- The module of a machine that starts in a place. -/
def text (m : Machine) (o : Options) (start : Place) : String :=
  Text.unlines (lines m o start)

end StateMachine.PythonModule
