import StateMachine.Text.Basic

/-!
# Lines

A line ends at a line feed, a carriage return (with or without a line feed
after it), a vertical tab, a form feed, one of the first three information
separators, the next-line character or one of the two Unicode separators. A
break at the very end of a text opens no further line.

A *block* is a list of lines to be printed one below the other. Nesting a
block moves it to the right; a line holding breaks of its own becomes several
lines, and an empty line stays empty.
-/

namespace StateMachine.Text

/-- Does `c` end a line? -/
def isBreak (c : Char) : Bool :=
  let n := c.toNat
  (0x0a ≤ n && n ≤ 0x0d) || (0x1c ≤ n && n ≤ 0x1e) || n == 0x85 || n == 0x2028 || n == 0x2029

/-- The lines of a text, without their breaks. -/
def splitLines : List Char → List (List Char)
  | [] => []
  | '\r' :: '\n' :: cs => [] :: splitLines cs
  | c :: cs =>
    if isBreak c then [] :: splitLines cs
    else
      match splitLines cs with
      | [] => [[c]]
      | l :: ls => (c :: l) :: ls

/-- The lines printed for one line of a block. -/
def physicalLines (line : String) : List String :=
  (splitLines (line.toList ++ ['\n'])).map String.ofList

/-- A line moved right by `n` spaces; an empty one stays empty. -/
def indentLine (n : Nat) (line : String) : String :=
  if line.isEmpty then line else spaces n ++ line

/-- A block moved right by `n` spaces. -/
def nest (n : Nat) (block : List String) : List String :=
  (block.flatMap physicalLines).map (indentLine n)

end StateMachine.Text
