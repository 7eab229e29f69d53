import StateMachine.Text.Blank
import StateMachine.Text.Escape

/-!
# Argument lists

The text of an argument list is cut at its *top-level* commas: those outside
every quoted text and outside every pair of brackets. A quoted text is closed
by the quote that opened it, unless a backslash stands before it. Brackets are
only counted, not matched, and a surplus of closing ones counts below zero.

The pieces are the arguments, without the blanks around them; a blank text
without a comma has no arguments.
-/

namespace StateMachine.Arguments

/-- What the text read so far leaves open. -/
structure Scan where
  /-- Opening brackets less closing ones. -/
  depth : Int
  /-- The quote of a text still open. -/
  quote : Option Char
  /-- Was the last character a backslash that protects the next one? -/
  escaped : Bool

/-- Nothing is open. -/
def Scan.start : Scan := ⟨0, none, false⟩

/-- Is a character read at `s` a top-level comma? -/
def Scan.isCut (s : Scan) (c : Char) : Bool :=
  s.quote.isNone && s.depth == 0 && c == ','

/-- What is open after one more character. -/
def Scan.step (s : Scan) (c : Char) : Scan :=
  match s.quote with
  | some q =>
    if s.escaped then { s with escaped := false }
    else if c = Text.backslash then { s with escaped := true }
    else if c = q then { s with quote := none }
    else s
  | none =>
    if c = Text.doubleQuote || c = Text.singleQuote then { s with quote := some c }
    else if c = '(' || c = '[' || c = '\x7b' then { s with depth := s.depth + 1 }
    else if c = ')' || c = ']' || c = '\x7d' then { s with depth := s.depth - 1 }
    else s

/-- The pieces between the top-level commas of a text read from `s` on. -/
def pieces : Scan → List Char → List (List Char)
  | _, [] => [[]]
  | s, c :: cs =>
    if s.isCut c then [] :: pieces s cs
    else
      match pieces (s.step c) cs with
      | [] => [[c]]
      | p :: ps => (c :: p) :: ps

/-- The arguments of a list. -/
def split (text : String) : List String :=
  match (pieces .start text.toList).map fun p => String.ofList (Text.trimChars p) with
  | [only] => if only.isEmpty then [] else [only]
  | arguments => arguments

end StateMachine.Arguments
