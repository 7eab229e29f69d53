import StateMachine.Load.Arguments
import StateMachine.Model.Action

/-!
# Actions in shorthand

An action may be written as a text: `name(argument, ...)`, `name = value` or
`name` alone, each with `::` in front if it is static. Blanks and semicolons
at the end do not count. The first of `=` and `(` decides between the first
two forms; a list of arguments must be closed at the very end.
-/

namespace StateMachine.Shorthand

/-- The text without the blanks around it and the semicolons at its end. -/
def body (s : String) : List Char :=
  Text.trimChars (Text.dropEndWhile (· == ';') (Text.trimChars s.toList))

/-- The body without the mark of a static action, and whether it had one. -/
def unmarked (cs : List Char) : Bool × List Char :=
  match cs with
  | ':' :: ':' :: rest => (true, rest)
  | _ => (false, cs)

/-- A name that is called. -/
def call (name : String) (arguments : List String) (static : Bool) : Action :=
  { name := .str name, arguments := arguments, property := false, static := static
    emptiesStack := name == emptyStackName, line := .int 0 }

/-- A property that is assigned to. -/
def assignment (name value : String) (static : Bool) : Action :=
  { name := .str name, arguments := [value], property := true, static := static
    emptiesStack := false, line := .int 0 }

/-- The text without its last character, if that is a closing parenthesis. -/
def unclosed? (cs : List Char) : Option (List Char) :=
  if cs.getLast? = some ')' then some cs.dropLast else none

/-- Is the first character that is one of `=` and `(` an `=`, not in front of
    everything else? -/
def isAssignment (cs : List Char) : Bool :=
  match cs.dropWhile fun c => c != '=' && c != '(' with
  | '=' :: _ => cs.head? != some '='
  | _ => false

/-- The action of a body; nothing if a list of arguments is not closed. -/
def ofBody (static : Bool) (cs : List Char) : Option Action :=
  if isAssignment cs then
    let name := cs.takeWhile (· != '=')
    let value := (cs.dropWhile (· != '=')).drop 1
    some (assignment (String.ofList (Text.trimChars name)) (String.ofList (Text.trimChars value))
      static)
  else
    match cs.dropWhile (· != '(') with
    | [] => some (call (String.ofList cs) [] static)
    | _ :: list =>
      (unclosed? list).map fun list =>
        let name := String.ofList (Text.trimChars (cs.takeWhile (· != '(')))
        call name (Arguments.split (String.ofList list)) static

/-- The action written by a text that is not blank. -/
def action? (s : String) : Option Action :=
  let (static, cs) := unmarked (body s)
  ofBody static cs

end StateMachine.Shorthand
