import StateMachine.Document.Value
import StateMachine.Document.Literal
import StateMachine.Text.Basic
import StateMachine.Text.Escape

/-!
# Writing documents

Writes a value as the text of a JSON document: on one line (`Value.inline`),
or with one item or member a line, indented by four spaces a level
(`Value.render`). An empty list or object takes no line of its own. In a text
only the double quote, the backslash and the control characters below the
space are written as escapes.
-/

namespace StateMachine

namespace Writer

/-- How a character is written inside a text. -/
def charText (c : Char) : String :=
  if c = Text.doubleQuote || c = Text.backslash then String.ofList [Text.backslash, c]
  else if c = '\n' then "\\n"
  else if c = '\r' then "\\r"
  else if c = '\t' then "\\t"
  else if c.toNat = 0x08 then "\\b"
  else if c.toNat = 0x0c then "\\f"
  else if c.toNat < 0x20 then "\\u" ++ Text.hexText 4 c.toNat
  else String.ofList [c]

/-- A text between its quotes. -/
def textText (s : String) : String :=
  "\"" ++ String.join (s.toList.map charText) ++ "\""

/-- A value without parts. -/
def scalar : Value → String
  | .null => "null"
  | .bool b => if b then "true" else "false"
  | .int i => toString i
  | .float x => x.textWith "Infinity" "NaN"
  | .str s => textText s
  | _ => ""

/-- The parts of a list or object between its brackets, on one line. -/
def bracketInline (opening closing : String) (parts : List String) : String :=
  opening ++ Text.joined ", " parts ++ closing

/-- The parts of a list or object between its brackets, one a line; the
    brackets stand at `depth` levels. -/
def bracketLines (opening closing : String) (depth : Nat) (parts : List String) : String :=
  if parts.isEmpty then opening ++ closing
  else
    let outer := "\n" ++ Text.spaces (4 * depth)
    let inner := "\n" ++ Text.spaces (4 * (depth + 1))
    opening ++ inner ++ Text.joined ("," ++ inner) parts ++ outer ++ closing

mutual

/-- A value on one line. -/
def inlineValue : Value → String
  | .list items => bracketInline "[" "]" (inlineItems items)
  | .object members => bracketInline "\x7b" "\x7d" (inlineMembers members)
  | v => scalar v

/-- The items of a list, each on one line. -/
def inlineItems : List Value → List String
  | [] => []
  | v :: vs => inlineValue v :: inlineItems vs

/-- The members of an object, each on one line. -/
def inlineMembers : List (String × Value) → List String
  | [] => []
  | (k, v) :: ms => (textText k ++ ": " ++ inlineValue v) :: inlineMembers ms

end

mutual

/-- A value with one part a line, `depth` levels in. -/
def value (depth : Nat) : Value → String
  | .list vs => bracketLines "[" "]" depth (items (depth + 1) vs)
  | .object ms => bracketLines "\x7b" "\x7d" depth (members (depth + 1) ms)
  | v => scalar v

/-- The items of a list. -/
def items (depth : Nat) : List Value → List String
  | [] => []
  | v :: vs => value depth v :: items depth vs

/-- The members of an object. -/
def members (depth : Nat) : List (String × Value) → List String
  | [] => []
  | (k, v) :: ms => (textText k ++ ": " ++ value depth v) :: members depth ms

end

end Writer

/-- The text of a document on one line. -/
def Value.inline (v : Value) : String :=
  Writer.inlineValue v

/-- The text of a document with one part a line. -/
def Value.render (v : Value) : String :=
  Writer.value 0 v

end StateMachine
