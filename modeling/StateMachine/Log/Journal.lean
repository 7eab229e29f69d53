import StateMachine.Expression.Template
import StateMachine.Log

/-!
# Journals

What consoles have shown. A journal keeps a sheet for every console that was
set up, in order; only the last one is in use, and it takes the records that
its console shows. Before any console is set up, records are lost.

A message is a template if values are given with it, and otherwise a plain
text. A message that the values do not fill exactly is lost.
-/

namespace StateMachine

/-- The consoles set up so far, and what each has shown. -/
structure Journal where
  /-- The console in use. -/
  console : Option Console := none
  /-- What the earlier consoles have shown. -/
  earlier : List String := []
  /-- What the console in use has shown. -/
  current : String := ""

namespace Journal

/-- The datum a message is filled with: a single table that is not empty fills it
    by the names of its entries, other values fill it one after the other. -/
def fillingOf : List Value → Datum
  | [.object (m :: ms)] => Datum.ofValue (.object (m :: ms))
  | values => .tuple .key (values.map Datum.ofValue)

/-- A message with its values. -/
def messageOf? (message : String) (values : List Value) : Option String :=
  if values.isEmpty then some message
  else (Template.fill message (fillingOf values)).toOption

/-- Is the console in use? -/
def isSetUp (j : Journal) : Bool :=
  j.console.isSome

/-- The number of the level from which records are shown. -/
def level (j : Journal) : Nat :=
  match j.console with
  | some c => c.level.number
  | none => 0

/-- All sheets, in order. -/
def sheets (j : Journal) : List String :=
  if j.isSetUp then j.earlier ++ [j.current] else j.earlier

/-- Takes a record, if the console in use shows it. -/
def add (j : Journal) (time : String) (r : Record) : Journal :=
  match j.console with
  | some c => if c.shows r then { j with current := j.current ++ Console.line time r } else j
  | none => j

/-- Sets up a console in place of the one in use; it announces itself. -/
def setUp (j : Journal) (time : String) (c : Console) : Journal :=
  add ⟨some c, j.sheets, ""⟩ time c.announcement

/-- Takes a message with its values. One without a level is lost. -/
def log (j : Journal) (time : String) (level : Option Level) (topic message : String)
    (values : List Value) : Journal :=
  match level, messageOf? message values with
  | some l, some m => j.add time ⟨l, topic, m⟩
  | _, _ => j

end Journal
end StateMachine
