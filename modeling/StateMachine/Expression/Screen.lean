import StateMachine.Text.Blank
import StateMachine.Text.Escape
import StateMachine.Text.Word

/-!
# The screen

A rough check of an expression before it is evaluated. It is made on the text
alone and stops three things, wherever they occur in it:

* *imports*: the word `import` with a blank after it, or `from`, a word and
  `import` with blanks between them;
* *hidden attributes*: a dot, two underscores and a letter or underscore;
* *calls* of a function that reaches outside, unless its name is one of the
  names known to the expression: the name, not part of a longer word and not
  after a dot, and an opening parenthesis, with blanks between them or not.

A pattern is looked for at every place of the text (`firstMatch`); it sees the
character before the place and the text from there on.
-/

namespace StateMachine.Screen

/-- What a pattern finds at the first place where it finds something. -/
def firstMatch {α : Type} (pattern : Option Char → List Char → Option α) :
    Option Char → List Char → Option α
  | before, [] => pattern before []
  | before, c :: cs => pattern before (c :: cs) <|> firstMatch pattern (some c) cs

/-- Does a pattern fit anywhere in a text? -/
def occurs (pattern : Option Char → List Char → Bool) (text : List Char) : Bool :=
  (firstMatch (fun before cs => if pattern before cs then some () else none) none text).isSome

/-- May a word begin after this character? -/
def isWordStart (before : Option Char) : Bool :=
  !before.any Text.isWordChar

/-- The text after a word it begins with. -/
def after? (word : List Char) (cs : List Char) : Option (List Char) :=
  if word.isPrefixOf cs then some (cs.drop word.length) else none

/-- Does the text begin with a blank? -/
def startsBlank (cs : List Char) : Bool :=
  cs.head?.any Text.isBlank

/-- The text after the blanks it begins with, if there are any. -/
def afterBlanks? (cs : List Char) : Option (List Char) :=
  if startsBlank cs then some (cs.dropWhile Text.isBlank) else none

/-- The text after the word characters it begins with, if there are any. -/
def afterWord? (cs : List Char) : Option (List Char) :=
  if cs.head?.any Text.isWordChar then some (cs.dropWhile Text.isWordChar) else none

/-- The word that imports. -/
def importWord : List Char := "import".toList

/-- The word that says where from. -/
def fromWord : List Char := "from".toList

/-- Is there the word `import` with a blank after it? -/
def importsHere (before : Option Char) (cs : List Char) : Bool :=
  isWordStart before && (after? importWord cs).any startsBlank

/-- Are there `from`, a word and `import`? -/
def importsFromHere (before : Option Char) (cs : List Char) : Bool :=
  isWordStart before &&
    ((((after? fromWord cs).bind afterBlanks?).bind afterWord?).bind afterBlanks?
      |>.bind (after? importWord)).any fun rest => !rest.head?.any Text.isWordChar

/-- May a hidden attribute begin with `c` after its two underscores? -/
def isAttributeChar (c : Char) : Bool :=
  c.isAlpha || c == '_'

/-- The name of the attribute asked for after a dot, if it is hidden, without its
    two underscores. -/
def hiddenHere (cs : List Char) : Option String :=
  (after? ".__".toList cs).bind fun rest =>
    let name := rest.takeWhile isAttributeChar
    if name.isEmpty then none else some (String.ofList name)

/-- The functions that reach outside. -/
def restricted : List String :=
  ["open", "eval", "exec", "exit", "quit", "input", "compile", "breakpoint", "__import__"]

/-- Is the function called here? -/
def callsHere (function : String) (before : Option Char) (cs : List Char) : Bool :=
  isWordStart before && before != some '.' &&
    (after? function.toList cs).any fun rest =>
      (rest.dropWhile Text.isBlank).head? == some '('

/-- Why an expression is stopped. -/
inductive Objection
  | imports
  | hidden (name : String)
  | call (function : String)
  deriving DecidableEq

/-- The wording of an objection. -/
def Objection.message : Objection → String
  | .imports => "Imports are not allowed in FSM actions/conditions."
  | .hidden name => "Access to the attribute '__" ++ name ++ "' is restricted."
  | .call function =>
    "Calling the function '" ++ function ++ "' is not allowed for security reasons."

/-- The objection to an expression, if there is one, given the names known to
    it. -/
def objection? (text : String) (known : List String) : Option Objection :=
  let cs := text.toList
  if occurs importsHere cs || occurs importsFromHere cs then some .imports
  else
    match firstMatch (fun _ cs => hiddenHere cs) none cs with
    | some name => some (.hidden name)
    | none =>
      (restricted.find? fun f => !known.contains f && occurs (callsHere f) cs).map .call

end StateMachine.Screen
