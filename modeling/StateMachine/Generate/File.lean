import StateMachine.Generate.Diagram
import StateMachine.Generate.Page
import StateMachine.Generate.PythonModule

/-!
# Generated files

The file generated for a machine and a target. The options are checked first,
then whether there is a generator for the target, then whether the machine has
states and starts in one of them.
-/

namespace StateMachine

/-- Why no file is generated. -/
inductive GenerateError
  | options (e : OptionError)
  /-- There is no generator for the target. -/
  | unavailable (t : Target)
  /-- The machine of this name has no states. -/
  | noStates (name : String)
  /-- This start state is not one of the states. -/
  | noStart (start : String)
  | mismatch (m : Mismatch)

/-- The wording of an error; a mismatch has none. -/
def GenerateError.message : GenerateError → String
  | .options e => e.message
  | .unavailable t => "Code generation for " ++ t.displayName ++ " is not available."
  | .noStates name => "Cannot generate code: FSM '" ++ name ++ "' defines no states."
  | .noStart start => "Cannot generate code: start state '" ++ start ++ "' is undefined."
  | .mismatch _ => ""

/-- A file to be written. -/
structure OutputFile where
  name : String
  content : String

/-- A generator of files. -/
inductive Generator
  | python
  | graph
  | table
  deriving DecidableEq

namespace Generator

/-- The generator for a target. -/
def ofTarget? : Target → Option Generator
  | .python => some .python
  | .graph => some .graph
  | .table => some .table
  | _ => none

/-- The target of a generator. -/
def target : Generator → Target
  | .python => .python
  | .graph => .graph
  | .table => .table

/-- The mismatch a generator ends in. -/
def mismatch? (g : Generator) (m : Machine) (o : Options) : Option Mismatch :=
  match g with
  | .python => ClassTable.mismatch? m
  | .graph => Diagram.mismatch? m o
  | .table => Page.mismatch? m

/-- The text generated for a machine that starts in a place. -/
def text (g : Generator) (m : Machine) (o : Options) (start : Place) : String :=
  match g with
  | .python => PythonModule.text m o start
  | .graph => Diagram.text m o start
  | .table => Page.text m o

end Generator

namespace Machine

/-- Has the machine a real state? -/
def hasStates (m : Machine) : Bool :=
  m.maps.any fun map => !map.states.isEmpty

/-- The generator for a target, if the options are fit for it. -/
def generatorFor (t : Target) (o : Options) : Except GenerateError Generator :=
  match o.check t with
  | .error e => .error (.options e)
  | .ok () =>
    match Generator.ofTarget? t with
    | some g => .ok g
    | none => .error (.unavailable t)

/-- The file a generator makes of a machine, named after `base` or, if that is
    not set, after the machine. -/
def generateWith (m : Machine) (g : Generator) (o : Options) (base : Value) :
    Except GenerateError OutputFile :=
  if !m.hasStates then .error (.noStates m.name.text)
  else
    match m.startMismatch? with
    | some e => .error (.mismatch e)
    | none =>
      match m.startPlace? with
      | none => .error (.noStart m.start.text)
      | some start =>
        match g.mismatch? m o with
        | some e => .error (.mismatch e)
        | none =>
          let base := if base.isSet then base else m.name
          .ok ⟨g.target.fileName base.text o.suffix, g.text m o start⟩

/-- The file generated for a machine and a target. -/
def generate (m : Machine) (t : Target) (o : Options) (base : Value) :
    Except GenerateError OutputFile :=
  match generatorFor t o with
  | .error e => .error e
  | .ok g => m.generateWith g o base

/-- The report on a generated file. -/
def generatedRecord (m : Machine) (t : Target) (f : OutputFile) : Record :=
  ⟨.info, Topic.generator,
    "Generated " ++ t.displayName ++ " code for '" ++ m.name.text ++ "' -> " ++ f.name⟩

end Machine
end StateMachine
