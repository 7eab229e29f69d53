/-!
# Log records

What the parts of the compiler report while they work. A record has a level, a
topic (the part that reports) and a message. A console shows the records from
a level on, one a line (or more, if the message has several).
-/

namespace StateMachine

/-- How serious a record is. -/
inductive Level
  | debug
  | info
  | warning
  | error
  | critical
  deriving DecidableEq

namespace Level

/-- The level as a number. -/
def number : Level → Nat
  | .debug => 10
  | .info => 20
  | .warning => 30
  | .error => 40
  | .critical => 50

/-- The level as it is shown. -/
def label : Level → String
  | .debug => "DEBUG"
  | .info => "INFO"
  | .warning => "WARNING"
  | .error => "ERROR"
  | .critical => "CRITICAL"

/-- All levels, the least serious first. -/
def all : List Level :=
  [.debug, .info, .warning, .error, .critical]

/-- The level of a name: that by which it is shown, or a shorter one. -/
def ofName? (name : String) : Option Level :=
  match name with
  | "WARN" => some .warning
  | "FATAL" => some .critical
  | name => all.find? fun l => l.label == name

end Level

/-- A report. -/
structure Record where
  level : Level
  topic : String
  message : String

namespace Topic

/-- The topic every other topic belongs to. -/
def root : String := "fsm_compiler"

/-- Reading descriptions. -/
def loader : String := "fsm_compiler.core.fsm_parser"

/-- Checking machines. -/
def validator : String := "fsm_compiler.core.fsm_validator"

/-- Checking options. -/
def options : String := "fsm_compiler.codegen.options"

/-- Generating files. -/
def generator : String := "fsm_compiler.codegen.base_generator"

/-- Finding exporters. -/
def exporters : String := "fsm_compiler.managers.plugin_manager"

/-- Setting up the console. -/
def console : String := "fsm_compiler.utils.logging_setup"

/-- The command line. -/
def commandLine : String := "fsm_compiler.cli"

end Topic

/-- A console that shows records from a level on. -/
structure Console where
  level : Level

namespace Console

/-- Does the topic belong to the compiler? -/
def isOwnTopic (topic : String) : Bool :=
  topic == Topic.root || (Topic.root ++ ".").isPrefixOf topic

/-- Is the record shown? -/
def shows (c : Console) (r : Record) : Bool :=
  isOwnTopic r.topic && c.level.number ≤ r.level.number

/-- A record as it is shown, after the mark of the time. -/
def line (time : String) (r : Record) : String :=
  let pad := String.ofList (List.replicate (7 - r.level.label.length) ' ')
  "[" ++ time ++ "] " ++ r.level.label ++ pad ++ " [" ++ r.topic ++ "] " ++ r.message ++ "\n"

/-- The report that the console is set up. -/
def announcement (c : Console) : Record :=
  let word :=
    match c.level with
    | .debug => "debug"
    | .info => "info"
    | .warning => "warning"
    | .error => "error"
    | .critical => "critical"
  ⟨.debug, Topic.console, "Console logging configured at level " ++ word ++ "."⟩

end Console
end StateMachine
