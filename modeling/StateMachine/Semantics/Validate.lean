import StateMachine.Generate.Target
import StateMachine.Log
import StateMachine.Semantics.Walk

/-!
# Validation

The checks a machine has to pass before code is generated for it. All of them
are made on every part of the machine, in the order of the walk, and each
violation gives one *diagnostic*:

* the start state is given and is a real state; the owner's class is given, and
  the header where the target needs one;
* the guards of a transition have different conditions;
* a guard that sets or pushes ends in a real state or stays; it pushes a real
  state;
* for the target Tcl, the type of a parameter says how it is passed.

A machine is valid if no diagnostic is an error. A machine without maps gets a
warning.
-/

namespace StateMachine

/-- How bad a violation is. -/
inductive Severity
  | warning
  | error
  deriving DecidableEq

/-- The word for a severity. -/
def Severity.word : Severity → String
  | .warning => "warning"
  | .error => "error"

/-- A violation of a check. -/
structure Diagnostic where
  source : Value
  line : Value
  severity : Severity
  message : String

namespace Diagnostic

/-- A diagnostic as it is shown. -/
def text (d : Diagnostic) : String :=
  d.source.text ++ ":" ++ d.line.text ++ ": " ++ d.severity.word ++ " - " ++ d.message

/-- Is the diagnostic an error? -/
def isError (d : Diagnostic) : Bool :=
  d.severity == .error

end Diagnostic

/-- A violation before it is known which source it is in. -/
structure Violation where
  line : Value
  severity : Severity
  message : String

namespace Validate

/-- An error on a line. -/
def error (line : Value) (message : String) : Violation :=
  ⟨line, .error, message⟩

/-! ## The checks -/

/-- The start state is given and known. -/
def start (m : Machine) : List Violation :=
  if !m.start.isSet then [error (.int 0) "\"%start\" missing."]
  else if m.startPlace?.isNone then
    [error m.line ("Start state \"" ++ m.start.text ++ "\" is not a known state.")]
  else []

/-- The owner's class is given. -/
def context (m : Machine) : List Violation :=
  if m.context.isSet then [] else [error (.int 0) "\"%class\" missing."]

/-- The header is given where the target needs one. -/
def header (m : Machine) (target : Option Target) : List Violation :=
  if target.any Target.requiresHeader && !m.header.isSet then
    [error (.int 0) "\"%header\" missing."]
  else []

/-- There are maps. -/
def maps (m : Machine) : List Violation :=
  if m.maps.isEmpty then [⟨.int 0, .warning, "State machine has no maps."⟩] else []

/-- The guards whose condition, blanks around it aside, is that of a guard before
    them; `seen` holds the conditions of those before. -/
def repeated : List String → List Guard → List Guard
  | _, [] => []
  | seen, g :: gs =>
    let rest := repeated (g.conditionText :: seen) gs
    if seen.contains g.conditionText then g :: rest else rest

/-- The guards of a transition have different conditions. -/
def conditions (p : Place) (t : Transition) : List Violation :=
  (repeated [] t.guards).map fun g =>
    error g.line ("State " ++ p.scopedName ++ " has multiple transitions with same name (\""
      ++ t.name.text ++ "\") and guard (\"" ++ g.conditionText ++ "\").")

/-- Does a guard's state name mean a real state? -/
def isKnown (m : Machine) (map : StateMap) (name : String) : Bool :=
  (m.findState? name (some map)).isSome

/-- What a message on a guard begins with. -/
def guardHead (p : Place) (t : Transition) : String :=
  "State " ++ p.scopedName ++ " has transition " ++ t.name.text

/-- A guard that does not pop stays, or ends in a real state. -/
def endState (m : Machine) (p : Place) (t : Transition) (g : Guard) : List Violation :=
  let name := g.endState.text
  let head := guardHead p t ++ " with bad end state \"" ++ name ++ "\": "
  if g.move == .pop then []
  else if isDefaultName name then
    [error g.line (head ++ "may not transition to the default state.")]
  else if name != nilState && !isKnown m p.map name then
    [error g.line (head ++ "no such state as \"" ++ name ++ "\".")]
  else []

/-- A guard that pushes, pushes a real state. -/
def pushState (m : Machine) (p : Place) (t : Transition) (g : Guard) : List Violation :=
  let name := g.pushState.text
  let head := guardHead p t ++ " with bad push state \"" ++ name ++ "\": "
  if g.move != .push then []
  else if name == nilState then [error g.line (head ++ "may not push to nil state.")]
  else if isDefaultName name || !isKnown m p.map name then
    [error g.line (head ++ "no such state as \"" ++ name ++ "\".")]
  else []

/-- The ways a parameter can be passed in Tcl. -/
def passing : List String := ["value", "reference"]

/-- For the target Tcl, the type of a parameter says how it is passed. -/
def parameter (target : Option Target) (q : Parameter) : List Violation :=
  if target == some .tcl && !passing.any (fun w => q.type == .str w) then
    [error q.line ("Tcl parameter type not \"value\" or \"reference\" but \"" ++ q.type.text
      ++ "\".")]
  else []

/-! ## All of them -/

/-- The violations in a transition, after the check of its conditions. -/
def transition (m : Machine) (target : Option Target) (p : Place) (t : Transition) :
    List Violation :=
  t.parameters.flatMap (parameter target)
    ++ t.ordered.flatMap fun g => endState m p t g ++ pushState m p t g

/-- The violations in a state. -/
def state (m : Machine) (target : Option Target) (p : Place) : List Violation :=
  p.state.bySignature.flatMap (conditions p) ++ p.state.transitions.flatMap (transition m target p)

/-- The violations in a machine. -/
def violations (m : Machine) (target : Option Target) : List Violation :=
  start m ++ context m ++ header m target ++ maps m ++ m.allPlaces.flatMap (state m target)

/-! ## Mismatches -/

/-- A state name is compared with others only if it is a text. -/
def nameMismatch? (name : Value) : Option Mismatch :=
  name.textMismatch? "lower"

/-- The mismatch of checking a guard. -/
def guardMismatch? (g : Guard) : Option Mismatch :=
  g.planMismatch?
    <|> (if g.move != .pop then nameMismatch? g.endState else none)
    <|> (if g.move == .push then nameMismatch? g.pushState else none)

/-- The mismatch of comparing the conditions of a transition. -/
def conditionMismatch? (t : Transition) : Option Mismatch :=
  if t.guards.length < 2 then none else t.orderMismatch?

/-- The mismatch of checking a state. -/
def stateMismatch? (s : State) : Option Mismatch :=
  (if s.transitions.all fun t => t.signature.isKey then none else some .unsupported)
    <|> s.bySignature.findSome? conditionMismatch?
    <|> s.transitions.findSome? fun t => t.orderMismatch? <|> t.ordered.findSome? guardMismatch?

/-- The mismatch of checking a machine. -/
def mismatch? (m : Machine) : Option Mismatch :=
  m.startMismatch? <|> m.allPlaces.findSome? fun p => stateMismatch? p.state

end Validate

/-- The result of checking a machine. -/
structure Validation where
  diagnostics : List Diagnostic

namespace Validation

/-- The diagnostics that are errors. -/
def errors (v : Validation) : List Diagnostic :=
  v.diagnostics.filter Diagnostic.isError

/-- The diagnostics that are warnings. -/
def warnings (v : Validation) : List Diagnostic :=
  v.diagnostics.filter fun d => !d.isError

/-- Is the machine valid? -/
def isValid (v : Validation) : Bool :=
  v.errors.isEmpty

end Validation

namespace Machine

/-- Checks a machine for a target; `source` names it in the diagnostics. -/
def validation (m : Machine) (target : Option Target) (source : Value) : Validation :=
  ⟨(Validate.violations m target).map fun v => ⟨source, v.line, v.severity, v.message⟩⟩

/-- Checks a machine whose values need not be of the kinds the checks ask for. -/
def validate (m : Machine) (target : Option Target) (source : Option Value) :
    Except Mismatch Validation :=
  match Validate.mismatch? m with
  | some mismatch => .error mismatch
  | none => .ok (m.validation target (source.getD m.name))

/-- The report on a finished check. -/
def validationRecord (m : Machine) (v : Validation) : Record :=
  ⟨.debug, Topic.validator, "Validated '" ++ m.name.text ++ "': " ++ toString v.errors.length
    ++ " error(s), " ++ toString v.warnings.length ++ " warning(s)."⟩

end Machine
end StateMachine
