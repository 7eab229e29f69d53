import StateMachine.Text.Basic

/-!
# Escaping

Three ways to write a text where some characters have a meaning of their own:

* inside a quoted string, a backslash or a double quote is *protected* by a
  backslash before it (`escape`);
* inside a field of a record label, braces, bars and angle brackets are
  protected as well (`escapeRecord`). Each character is protected in a pass of
  its own over the whole text, the backslash first, so that no later pass
  meets a backslash it would have to protect again;
* inside markup, the five characters markup is made of are written as
  references (`escapeMarkup`).
-/

namespace StateMachine.Text

/-- The backslash. -/
def backslash : Char := '\x5c'

/-- The double quote. -/
def doubleQuote : Char := '\x22'

/-- The single quote. -/
def singleQuote : Char := '\x27'

/-- A backslash is put before every `x` of the text. -/
def protect (x : Char) (cs : List Char) : List Char :=
  cs.flatMap fun c => if c = x then [backslash, c] else [c]

/-- The text as it is written between double quotes. -/
def escapeChars (cs : List Char) : List Char :=
  protect doubleQuote (protect backslash cs)

/-- The characters a record label is structured by. -/
def recordMarks : List Char :=
  ['\x7b', '\x7d', '|', '<', '>']

/-- The text as it is written inside a field of a record label. -/
def escapeRecordChars (cs : List Char) : List Char :=
  recordMarks.foldl (fun t x => protect x t) (escapeChars cs)

/-- How one character is written in markup. -/
def markupChar (c : Char) : List Char :=
  if c = '&' then "&amp;".toList
  else if c = '<' then "&lt;".toList
  else if c = '>' then "&gt;".toList
  else if c = singleQuote then "&#39;".toList
  else if c = doubleQuote then "&#34;".toList
  else [c]

/-- The text as it is written in markup. -/
def escapeMarkupChars (cs : List Char) : List Char :=
  cs.flatMap markupChar

/-- The string as it is written between double quotes. -/
def escape (s : String) : String :=
  onChars escapeChars s

/-- The string as it is written inside a field of a record label. -/
def escapeRecord (s : String) : String :=
  onChars escapeRecordChars s

/-- The string as it is written in markup. -/
def escapeMarkup (s : String) : String :=
  onChars escapeMarkupChars s

end StateMachine.Text
