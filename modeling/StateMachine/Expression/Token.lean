import StateMachine.Expression.Numeral
import StateMachine.Expression.Quotation
import StateMachine.Text.Name
import StateMachine.Text.NormalForm

/-!
# Tokens

An expression is read as a row of tokens: names, the reserved words, numbers,
quotations and marks (operators, brackets and punctuation). Blanks and comments
separate tokens.

A line break ends an expression, unless a bracket is open or a backslash stands
before it. A line that begins with more blanks than the ones before it is
*indented*; since an expression has no inner lines, this ends in a fault, but
first there is a token for it.

The scanner takes one token after the other off the text (`Scanner.next`) until
the text ends or cannot be read any further. Both are part of the result: what
cannot be read is only a fault if the expression goes on to there.
-/

namespace StateMachine

/-- A token of an expression. -/
inductive Token
  /-- A name in its normal form. -/
  | name (s : String)
  /-- A reserved word. -/
  | word (s : String)
  | number (n : Numeral)
  | text (q : Quotation)
  | mark (s : String)
  /-- A line break outside brackets. -/
  | lineEnd
  /-- A line is indented more than the one before it. -/
  | indent
  /-- A line is indented less than the one before it. -/
  | dedent
  /-- The end of the text. -/
  | finish
  deriving DecidableEq

/-- A token, the line it stands on, and the number of brackets open after it. -/
structure Lexeme where
  token : Token
  line : Nat
  depth : Nat
  /-- Did the token only end because the text did? -/
  meetsEnd : Bool

/-- Why a text cannot be read to its end. -/
structure Scan.Stop where
  /-- The fault, if the expression goes on to there. -/
  fault : GrammarFault
  /-- Is it also a fault if the expression is at fault before? -/
  isLoud : Bool
  /-- The last bracket that is open there, and its line. -/
  opening : Option (Char × Nat)

/-- What a text is read as: its tokens, the last one its end, unless there is
    something that cannot be read. -/
structure Scan where
  lexemes : Array Lexeme
  stop : Option Scan.Stop

/-- The words that are no names. -/
def Token.reserved : List String :=
  ["False", "None", "True", "and", "as", "assert", "async", "await", "break", "class", "continue",
    "def", "del", "elif", "else", "except", "finally", "for", "from", "global", "if", "import",
    "in", "is", "lambda", "nonlocal", "not", "or", "pass", "raise", "return", "try", "while",
    "with", "yield"]

/-- A text that is still to be read. -/
structure Scanner where
  rest : List Char
  /-- The line of the last character read. -/
  line : Nat := 0
  /-- Did this character end the line? -/
  lineEnded : Bool := true
  /-- Does a line begin, so that its blanks count? -/
  atStart : Bool := true
  /-- The open brackets, the last one first, and their lines. -/
  brackets : List (Char × Nat) := []
  /-- How far the lines around the current one are indented, with tabs up to the
      next eighth column and with tabs as single columns. The first line is not
      indented. -/
  indents : List (Nat × Nat) := []
  /-- The number of tokens still to be given for lines that are indented less. -/
  dedents : Nat := 0

/-- What the scanner finds next. -/
inductive Scanner.Finding
  | token (t : Token) (line : Nat) (s : Scanner)
  /-- Something that is no token. -/
  | nothing (s : Scanner)
  | stop (s : Scan.Stop)

namespace Scanner

/-- Reads a character that is the first of the rest. -/
def advance (s : Scanner) (c : Char) : Scanner :=
  { s with
    rest := s.rest.drop 1
    line := if s.lineEnded then s.line + 1 else s.line
    lineEnded := c == '\n' }

/-- Reads characters that the rest begins with. -/
def advanceBy (s : Scanner) (cs : List Char) : Scanner :=
  cs.foldl advance s

/-- Reads the characters before a rest. -/
def advanceTo (s : Scanner) (rest : List Char) : Scanner :=
  s.advanceBy (s.rest.take (s.rest.length - rest.length))

/-- Reads as long as a character satisfies `p`. -/
def skipWhile (s : Scanner) (p : Char → Bool) : Scanner :=
  s.advanceBy (s.rest.takeWhile p)

/-- Stops at the last character read, for a cause that counts in any case. -/
def halt (s : Scanner) (cause : GrammarCause) : Finding :=
  .stop ⟨⟨cause, s.line⟩, true, s.brackets.head?⟩

/-- Stops at the last character read, for a cause that only counts if the
    expression goes on to there. -/
def pause (s : Scanner) (cause : GrammarCause) : Finding :=
  .stop ⟨⟨cause, s.line⟩, false, s.brackets.head?⟩

/-- Gives a token whose characters were read. -/
def give (s : Scanner) (t : Token) : Finding :=
  .token t s.line s

/-- Stops at the end of the text, where more has to follow. -/
def pauseAtEnd (s : Scanner) : Finding :=
  match s.brackets with
  | [] => s.pause .earlyEnd
  | (c, line) :: _ => .stop ⟨⟨.unclosed c, line⟩, false, some (c, line)⟩

/-! ## Lines -/

/-- Is the character a blank inside a line? -/
def isSpace (c : Char) : Bool :=
  c == ' ' || c == '\t' || c.toNat == 0x0c

/-- The column after a character at the beginning of a line, with tabs up to the
    next multiple of `tab`. -/
def columnAfter (tab column : Nat) (c : Char) : Nat :=
  if c = ' ' then column + 1
  else if c = '\t' then (column / tab + 1) * tab
  else 0

/-- How far blanks indent a line, for both widths of tabs. -/
def columns (blanks : List Char) : Nat × Nat :=
  (blanks.foldl (columnAfter 8) 0, blanks.foldl (columnAfter 1) 0)

/-- Reads a backslash at the end of a line and begins the next one; the finding
    is why this cannot be done. -/
def joinLine (s : Scanner) : Except Finding Scanner :=
  let s := s.advance Text.backslash
  match s.rest with
  | '\n' :: rest =>
    let s := s.advance '\n'
    if rest.isEmpty then .error s.pauseAtEnd
    else .ok { s with line := s.line + 1, lineEnded := false }
  | c :: _ => .error ((s.advance c).pause .brokenLine)
  | [] => .error (s.pause .brokenLine)

/-- Reads the blanks a line begins with, and those of the lines it is joined to.
    Gives the columns of the first ones that indent it. -/
def lineStart : Nat → Nat × Nat → Scanner → Except Finding ((Nat × Nat) × Scanner)
  | 0, indent, s => .ok (indent, s)
  | fuel + 1, indent, s =>
    let blanks := s.rest.takeWhile isSpace
    let s := s.advanceBy blanks
    let indent := if indent.1 = 0 then columns blanks else indent
    if s.rest.head? = some Text.backslash then
      match s.joinLine with
      | .ok s => lineStart fuel (indent.1, indent.1) s
      | .error f => .error f
    else .ok (indent, s)

/-- The lines around that are indented less than `column`, and the number of those
    that are not. -/
def outer (column : Nat) : List (Nat × Nat) → List (Nat × Nat) × Nat
  | [] => ([], 0)
  | i :: is =>
    if column < i.1 then
      let (rest, n) := outer column is
      (rest, n + 1)
    else (i :: is, 0)

/-- How far the current line is indented. -/
def current (indents : List (Nat × Nat)) : Nat × Nat :=
  indents.head?.getD (0, 0)

/-- Begins a line that is indented by these columns. -/
def indentBy (s : Scanner) (indent : Nat × Nat) : Finding :=
  let here := current s.indents
  if indent.1 = here.1 then
    if indent.2 = here.2 then .nothing s else s.pause .mixedBlanks
  else if here.1 < indent.1 then
    if indent.2 ≤ here.2 then s.pause .mixedBlanks
    else { s with indents := indent :: s.indents }.give .indent
  else
    let (indents, n) := outer indent.1 s.indents
    let there := current indents
    if there.1 ≠ indent.1 then s.pause .badIndent
    else if there.2 ≠ indent.2 then s.pause .mixedBlanks
    else .nothing { s with indents := indents, dedents := n }

/-- Begins a line. A line that holds nothing, or only a comment, is not
    indented. -/
def beginLine (s : Scanner) : Finding :=
  match lineStart (s.rest.length + 1) (0, 0) { s with atStart := false } with
  | .error f => f
  | .ok (indent, s) =>
    match s.rest.head? with
    | some '#' =>
      -- the break after a comment on a line of its own is passed over as well
      let s := s.skipWhile (· != '\n')
      .nothing (if s.rest.isEmpty then s else { s.advance '\n' with atStart := true })
    | some '\n' => .nothing { s.advance '\n' with atStart := true }
    | _ => if s.brackets.isEmpty then s.indentBy indent else .nothing s

/-- Ends a line. -/
def endLine (s : Scanner) : Finding :=
  let s := { s.advance '\n' with atStart := true }
  if s.brackets.isEmpty then s.give .lineEnd else .nothing s

/-! ## Tokens -/

/-- May the character stand in a name, as far as is known before the whole name
    is? -/
def mayBeName (c : Char) : Bool :=
  c.isAlphanum || c == '_' || 0x80 ≤ c.toNat

/-- Reads a name or a reserved word. -/
def readName (s : Scanner) (word : List Char) : Finding :=
  let s := s.advanceBy word
  match Text.nameFault? word with
  | some c => s.halt (.strange c)
  | none =>
    let word := String.ofList word
    if Token.reserved.contains word then s.give (.word word)
    else s.give (.name (Text.normalForm word))

/-- Reads a number. -/
def readNumber (s : Scanner) : Finding :=
  match Numeral.read s.rest with
  | .ok (n, rest) => (s.advanceTo rest).give (.number n)
  | .error cause => (s.advanceBy (s.rest.take 1)).halt cause

/-- Reads a quotation with letters before it. -/
def readText (s : Scanner) (letters : List Char) (quote : Char) : Finding :=
  let s := s.advanceBy (letters ++ [quote])
  let triple := s.rest.take 2 = [quote, quote]
  let found :=
    if triple then Quotation.upToQuotes quote (s.rest.drop 2)
    else Quotation.upToQuote quote s.rest
  match found with
  | .ok (body, rest) =>
    .token (.text (Quotation.ofMark letters body)) s.line (s.advanceTo rest)
  | .error lines =>
    s.halt (if triple then .openBlock (s.line + lines) else .openText (s.line + lines))

/-- The marks of three characters. -/
def tripleMarks : List String :=
  ["**=", "//=", ">>=", "<<=", "..."]

/-- The marks of two characters. -/
def doubleMarks : List String :=
  ["!=", "%=", "&=", "**", "*=", "+=", "-=", "->", "//", "/=", ":=", "<<", "<=", "<>", "==", ">=",
    ">>", "@=", "^=", "|="]

/-- The greatest number of brackets that may be open. -/
def depthLimit : Nat := 200

/-- The bracket that a closing bracket closes. -/
def opening? (c : Char) : Option Char :=
  if c = ')' then some '('
  else if c = ']' then some '['
  else if c = '\x7d' then some '\x7b'
  else none

/-- Opens a bracket that was read. -/
def openBracket (s : Scanner) (c : Char) : Finding :=
  if depthLimit ≤ s.brackets.length then s.halt .tooNested
  else { s with brackets := (c, s.line) :: s.brackets }.give (.mark (String.ofList [c]))

/-- Closes a bracket by one that was read. -/
def closeBracket (s : Scanner) (c opening : Char) : Finding :=
  match s.brackets with
  | [] => s.halt (.unmatched c)
  | (o, line) :: rest =>
    let s := { s with brackets := rest }
    if o = opening then s.give (.mark (String.ofList [c]))
    else s.halt (.mismatched c o (if line = s.line then none else some line))

/-- Reads a mark. -/
def readMark (s : Scanner) (c : Char) : Finding :=
  let triple := s.rest.take 3
  let double := s.rest.take 2
  if tripleMarks.contains (String.ofList triple) then
    (s.advanceBy triple).give (.mark (String.ofList triple))
  else if doubleMarks.contains (String.ofList double) then
    (s.advanceBy double).give (.mark (String.ofList double))
  else
    let s := s.advance c
    if c = '(' || c = '[' || c = '\x7b' then s.openBracket c
    else
      match opening? c with
      | some o => s.closeBracket c o
      | none =>
        if Text.isPrintable c then s.give (.mark (String.ofList [c])) else s.halt (.strange c)

/-- Reads what begins with a character that is no blank. -/
def readToken (s : Scanner) (c : Char) : Finding :=
  let word := s.rest.takeWhile mayBeName
  let after := s.rest.drop word.length
  if c = '#' then .nothing (s.skipWhile (· != '\n'))
  else if c = '\n' then s.endLine
  else if c.isDigit || (c = '.' && (s.rest.drop 1).head?.any Char.isDigit) then s.readNumber
  else
    match after.head? with
    | some q =>
      if (q = Text.singleQuote || q = Text.doubleQuote) && Quotation.isMark word then
        s.readText word q
      else if mayBeName c then s.readName word
      else if c = Text.backslash then
        match s.joinLine with
        | .ok s => .nothing s
        | .error f => f
      else s.readMark c
    | none => s.readName word

/-- What comes next. -/
def next (s : Scanner) : Finding :=
  if s.atStart then s.beginLine
  else if 0 < s.dedents then { s with dedents := s.dedents - 1 }.give .dedent
  else
    let s := s.skipWhile isSpace
    match s.rest with
    | [] => if s.brackets.isEmpty then s.give .finish else s.pauseAtEnd
    | c :: _ => s.readToken c

/-- Does the end of a token only show in the character after it? -/
def isOpenEnded : Token → Bool
  | .name _ => true
  | .word _ => true
  | .number _ => true
  | .text q => q.body.isEmpty
  | .mark s => s.length < 3
  | _ => false

/-- Reads the whole text after the tokens that were read already. -/
def readAll : Nat → Scanner → Array Lexeme → Scan
  | 0, _, lexemes => ⟨lexemes, none⟩
  | fuel + 1, s, lexemes =>
    match s.next with
    | .stop stop => ⟨lexemes, some stop⟩
    | .nothing s => readAll fuel s lexemes
    | .token t line s =>
      let lexemes :=
        lexemes.push ⟨t, line, s.brackets.length, s.rest.isEmpty && isOpenEnded t⟩
      if t = .finish then ⟨lexemes, none⟩ else readAll fuel s lexemes

/-- One kind of line break for all of them. -/
def sameBreaks : List Char → List Char
  | '\r' :: '\n' :: cs => '\n' :: sameBreaks cs
  | '\r' :: cs => '\n' :: sameBreaks cs
  | c :: cs => c :: sameBreaks cs
  | [] => []

end Scanner

/-- What a text is read as. A character is looked at three times at most: for the
    beginning of its line, for a token, and for a token of its indentation. -/
def Scan.ofChars (cs : List Char) : Scan :=
  Scanner.readAll (3 * cs.length + 3) { rest := Scanner.sameBreaks cs } #[]

end StateMachine
