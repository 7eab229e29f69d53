import StateMachine.Text.Basic

/-!
# Blanks

The blank characters are those Unicode calls white space, together with the
four information separators. Names, conditions and arguments are read without
the blanks around them; a text of blanks only counts as no text at all.
-/

namespace StateMachine.Text

/-- Is `c` a blank? -/
def isBlank (c : Char) : Bool :=
  let n := c.toNat
  (0x09 ≤ n && n ≤ 0x0d) || (0x1c ≤ n && n ≤ 0x20) || n == 0x85 || n == 0xa0 || n == 0x1680
    || (0x2000 ≤ n && n ≤ 0x200a) || n == 0x2028 || n == 0x2029 || n == 0x202f || n == 0x205f
    || n == 0x3000

/-- The text without the blanks at its ends. -/
def trimChars (cs : List Char) : List Char :=
  trimBy isBlank cs

/-- The string without the blanks at its ends. -/
def trim (s : String) : String :=
  onChars trimChars s

/-- Does the string hold nothing but blanks? -/
def isBlankText (s : String) : Bool :=
  s.toList.all isBlank

/-- The words of a string, one space between them. -/
def squeeze (s : String) : String :=
  joined " " ((wordsBy isBlank s.toList).map String.ofList)

end StateMachine.Text
