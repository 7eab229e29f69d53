import StateMachine.Document.Writer
import StateMachine.Export.Description
import StateMachine.Generate.File

/-!
# Exporters

An exporter writes a machine in another form, without regard to a target. It is
asked for by its name, in any case. There is one: it writes the description of
the machine as a JSON document.
-/

namespace StateMachine

/-- An exporter. -/
inductive Exporter
  | json
  deriving DecidableEq

namespace Exporter

/-- All exporters, sorted by name. -/
def all : List Exporter := [.json]

/-- The name an exporter is asked for by. -/
def name : Exporter → String
  | .json => "json"

/-- The files an exporter writes, as a choice of files names them. -/
def fileFilter : Exporter → String
  | .json => "JSON Files (*.json)"

/-- The version of an exporter. -/
def version : Exporter → String
  | .json => "1.0.0"

/-- The exporter of a name in any case. -/
def ofName? (name : String) : Option Exporter :=
  all.find? fun e => Text.lower e.name == Text.lower name

/-- The reports on the exporters that were found. -/
def foundRecords : List Record :=
  all.map fun e =>
    ⟨.info, Topic.exporters, "Successfully loaded exporter plugin: '" ++ e.name ++ "'"⟩

/-- The name of the exported file of a machine, if none is given. -/
def defaultBase (m : Machine) : Value :=
  if m.name.isSet then m.name else .str "fsm_model"

/-- The file an exporter makes of a machine, named after `base`. -/
def file (e : Exporter) (m : Machine) (base : Option Value) : OutputFile :=
  match e with
  | .json => ⟨(base.getD (defaultBase m)).text ++ ".json", m.description.render⟩

end Exporter
end StateMachine
