import StateMachine.Document.Value
import StateMachine.Text.Basic
import StateMachine.Text.Escape
import StateMachine.Text.Printable

/-!
# The text of a value

How a value is written inside a message or a generated text. A text stands for
itself; any other value is written as a *literal*: lists in square brackets,
objects in braces, and the texts inside them in quotes. Single quotes are
preferred, double quotes taken where only single ones occur inside. In quotes,
a character that is not printable is written by its code point.
-/

namespace StateMachine

namespace Text

/-- The lower-case hexadecimal digits of `n`, at least `width` of them. -/
def hexText (width n : Nat) : String :=
  let digits := Nat.toDigits 16 n
  String.ofList (List.replicate (width - digits.length) '0' ++ digits)

/-- How a character is written between the quotes `quote`. -/
def quotedChar (quote c : Char) : String :=
  let n := c.toNat
  if c = quote || c = backslash then String.ofList [backslash, c]
  else if c = '\n' then "\\n"
  else if c = '\r' then "\\r"
  else if c = '\t' then "\\t"
  else if isPrintable c then String.ofList [c]
  else if n < 0x100 then "\\x" ++ hexText 2 n
  else if n < 0x10000 then "\\u" ++ hexText 4 n
  else "\\U" ++ hexText 8 n

/-- The quotes a text is written between. -/
def quoteFor (s : String) : Char :=
  if s.toList.contains singleQuote && !s.toList.contains doubleQuote then doubleQuote
  else singleQuote

/-- A text between quotes. -/
def quoted (s : String) : String :=
  let quote := quoteFor s
  let mark := String.ofList [quote]
  mark ++ String.join (s.toList.map (quotedChar quote)) ++ mark

end Text

namespace Value

mutual

/-- A value written as a literal. -/
def literal : Value → String
  | .null => "None"
  | .bool b => if b then "True" else "False"
  | .int i => toString i
  | .float x => x.text
  | .str s => Text.quoted s
  | .list items => "[" ++ Text.joined ", " (literalItems items) ++ "]"
  | .object members => "\x7b" ++ Text.joined ", " (literalMembers members) ++ "\x7d"

/-- The items of a list as literals. -/
def literalItems : List Value → List String
  | [] => []
  | v :: vs => literal v :: literalItems vs

/-- The members of an object as literals. -/
def literalMembers : List (String × Value) → List String
  | [] => []
  | (k, v) :: ms => (Text.quoted k ++ ": " ++ literal v) :: literalMembers ms

end

/-- The text of a value: a text is its own, any other value is written as a
    literal. -/
def text : Value → String
  | .str s => s
  | v => literal v

end Value
end StateMachine
