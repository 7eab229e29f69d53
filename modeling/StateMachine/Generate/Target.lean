import StateMachine.Document.Literal
import StateMachine.Text.LowerCase

/-!
# Targets

What a machine can be compiled to: a programming language, a graph or a table.
A target is asked for by a word, has a name for messages, tells how the
generated file is named and whether it needs a header file beside it.
-/

namespace StateMachine

/-- What a machine is compiled to. -/
inductive Target
  | c
  | cPlusPlus
  | cSharp
  | graph
  | groovy
  | java
  | java7
  | javaScript
  | lua
  | objectiveC
  | perl
  | php
  | python
  | ruby
  | scala
  | table
  | tcl
  | visualBasic
  deriving DecidableEq

namespace Target

/-- All targets. -/
def all : List Target :=
  [.c, .cPlusPlus, .cSharp, .graph, .groovy, .java, .java7, .javaScript, .lua, .objectiveC, .perl,
    .php, .python, .ruby, .scala, .table, .tcl, .visualBasic]

/-- The word a target is asked for by. -/
def word : Target → String
  | .c => "c"
  | .cPlusPlus => "c++"
  | .cSharp => "csharp"
  | .graph => "graph"
  | .groovy => "groovy"
  | .java => "java"
  | .java7 => "java7"
  | .javaScript => "js"
  | .lua => "lua"
  | .objectiveC => "objc"
  | .perl => "perl"
  | .php => "php"
  | .python => "python"
  | .ruby => "ruby"
  | .scala => "scala"
  | .table => "table"
  | .tcl => "tcl"
  | .visualBasic => "vb"

/-- The name of a target in messages. -/
def displayName : Target → String
  | .c => "C"
  | .cPlusPlus => "C++"
  | .cSharp => "C#"
  | .graph => "-graph"
  | .groovy => "Groovy"
  | .java => "Java"
  | .java7 => "Java7"
  | .javaScript => "JavaScript"
  | .lua => "Lua"
  | .objectiveC => "Objective-C"
  | .perl => "Perl"
  | .php => "PHP"
  | .python => "Python"
  | .ruby => "Ruby"
  | .scala => "Scala"
  | .table => "-table"
  | .tcl => "[incr Tcl]"
  | .visualBasic => "VB.net"

/-- What follows the machine's name in the name of the generated file. -/
def fileMark : Target → String
  | .groovy => "Context"
  | .java => "Context"
  | .java7 => "Context"
  | .scala => "Context"
  | _ => "_sm"

/-- The usual suffix of the generated file. -/
def suffix : Target → String
  | .c => "c"
  | .cPlusPlus => "cpp"
  | .cSharp => "cs"
  | .graph => "dot"
  | .groovy => "groovy"
  | .java => "java"
  | .java7 => "java"
  | .javaScript => "js"
  | .lua => "lua"
  | .objectiveC => "m"
  | .perl => "pm"
  | .php => "php"
  | .python => "py"
  | .ruby => "rb"
  | .scala => "scala"
  | .table => "html"
  | .tcl => "tcl"
  | .visualBasic => "vb"

/-- Does the target need a header file? -/
def requiresHeader : Target → Bool
  | .c => true
  | .cPlusPlus => true
  | .objectiveC => true
  | _ => false

/-- The name of the file generated for a machine; a suffix that is set replaces
    the usual one. -/
def fileName (t : Target) (base : String) (suffix : Value) : String :=
  base ++ t.fileMark ++ "." ++ (if suffix.isSet then suffix.text else t.suffix)

/-- The target asked for by a word in any case, with any number of dashes in
    front. -/
def ofWord? (word : String) : Option Target :=
  let key := String.ofList ((Text.lower word).toList.dropWhile (· == '-'))
  all.find? fun t => t.word == key

end Target
end StateMachine
