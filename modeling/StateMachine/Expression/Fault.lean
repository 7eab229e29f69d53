import StateMachine.Document.Literal
import StateMachine.Number.DigitLimit

/-!
# Faults of grammar

Why a text is no expression: a token that cannot be read, brackets that do not
fit, an indented line, or tokens that do not go together. Where the tokens show
what was meant, the fault says so.
-/

namespace StateMachine

/-- Why a text is no expression. -/
inductive GrammarCause
  /-- Something stands where it cannot stand. -/
  | unexpected
  /-- The text holds the null character. -/
  | nullCharacter
  /-- A quoted text does not end before this line does. -/
  | openText (line : Nat)
  /-- A text in triple quotes does not end before the last line. -/
  | openBlock (line : Nat)
  /-- A character is written by its number, which is cut short or too great. -/
  | badEscape (detail : String)
  /-- Bytes are written by what is no byte. -/
  | badBytes
  /-- Texts and bytes are joined. -/
  | mixedTexts
  /-- A closing bracket closes nothing. -/
  | unmatched (closing : Char)
  /-- A closing bracket closes a bracket of another shape, which may stand on
      another line. -/
  | mismatched (closing opening : Char) (line : Option Nat)
  /-- A bracket is not closed. -/
  | unclosed (opening : Char)
  /-- Too many brackets are open. -/
  | tooNested
  /-- A character that stands in no token. -/
  | strange (c : Char)
  /-- A number of some notation goes on as a word, or has no digits. -/
  | badNumber (kind : String)
  /-- A digit that the notation has not. -/
  | badDigit (digit : Char) (kind : String)
  | leadingZero
  /-- A number has too many digits. -/
  | tooLong (digits : Nat)
  /-- A backslash stands before something that does not end the line. -/
  | brokenLine
  /-- The text ends after a line that is to go on. -/
  | earlyEnd
  /-- A line is indented. -/
  | indented
  /-- A line is indented less, but not as much as an earlier one. -/
  | badIndent
  /-- Blanks and tabs are mixed, so that it is not clear how far a line is
      indented. -/
  | mixedBlanks
  /-- Two expressions stand side by side in brackets. -/
  | noComma
  /-- A choice lacks its second half. -/
  | noElse
  /-- An assignment to a name stands in place of a comparison. -/
  | assigned
  /-- An assignment to something else stands in place of a comparison. -/
  | assignedTo (what : String)
  /-- Something that is no name is assigned to. -/
  | namedTo (what : String)
  /-- Something that cannot be assigned to is assigned to. -/
  | badTarget (what : String)
  /-- An argument is assigned to. -/
  | assignedArgument
  /-- A function is called without brackets. -/
  | noBrackets (function : String)
  | badStar
  | badDoubleStar
  /-- A star stands before what has no elements. -/
  | loneStar
  /-- A walk over elements stands among other arguments without brackets. -/
  | bareWalk
  /-- Several elements are collected without brackets. -/
  | bareElements
  | starredElement
  | starredEntry
  | starredValue
  /-- An argument without a name after one with a name. -/
  | lateArgument
  /-- An argument without a name after a table of arguments. -/
  | lateUnpacked
  /-- A row of arguments after a table of arguments. -/
  | lateRow
  /-- The value of a key is missing. -/
  | noEntryValue
  /-- A key stands without its colon. -/
  | noColon
  /-- Two arguments have the same name. -/
  | repeatedArgument (name : String)
  /-- The parameters of a function without a name stand in brackets. -/
  | bracketedParameters
  /-- Something that only makes sense in a function stands outside one. -/
  | outsideFunction (word : String)
  deriving DecidableEq

/-- A cause, and the line it is found on. -/
structure GrammarFault where
  cause : GrammarCause
  line : Nat
  deriving DecidableEq

namespace GrammarCause

/-- A character between single quotes. -/
def inQuotes (c : Char) : String :=
  "'" ++ String.ofList [c] ++ "'"

/-- Upper-case hexadecimal digits, at least four. -/
def codePoint (c : Char) : String :=
  "U+" ++ (Text.hexText 4 c.toNat).map Char.toUpper

/-- The wording of a cause. -/
def message : GrammarCause → String
  | .unexpected => "invalid syntax"
  | .nullCharacter => "source code string cannot contain null bytes"
  | .openText line =>
    "unterminated string literal (detected at line " ++ toString line ++ ")"
  | .openBlock line =>
    "unterminated triple-quoted string literal (detected at line " ++ toString line ++ ")"
  | .badEscape detail => detail
  | .badBytes => "bytes can only contain ASCII literal characters"
  | .mixedTexts => "cannot mix bytes and nonbytes literals"
  | .unmatched closing => "unmatched " ++ inQuotes closing
  | .mismatched closing opening line =>
    "closing parenthesis " ++ inQuotes closing ++ " does not match opening parenthesis "
      ++ inQuotes opening ++ (line.map fun n => " on line " ++ toString n).getD ""
  | .unclosed opening => inQuotes opening ++ " was never closed"
  | .tooNested => "too many nested parentheses"
  | .strange c =>
    if Text.isPrintable c then "invalid character " ++ inQuotes c ++ " (" ++ codePoint c ++ ")"
    else "invalid non-printable character " ++ codePoint c
  | .badNumber kind => "invalid " ++ kind ++ " literal"
  | .badDigit digit kind => "invalid digit " ++ inQuotes digit ++ " in " ++ kind ++ " literal"
  | .leadingZero =>
    "leading zeros in decimal integer literals are not permitted; "
      ++ "use an 0o prefix for octal integers"
  | .tooLong digits =>
    DigitLimit.reading digits
      ++ " - Consider hexadecimal for huge integer literals to avoid decimal conversion limits."
  | .brokenLine => "unexpected character after line continuation character"
  | .earlyEnd => "unexpected EOF while parsing"
  | .indented => "unexpected indent"
  | .badIndent => "unindent does not match any outer indentation level"
  | .mixedBlanks => "inconsistent use of tabs and spaces in indentation"
  | .noComma => "invalid syntax. Perhaps you forgot a comma?"
  | .noElse => "expected 'else' after 'if' expression"
  | .assigned => "invalid syntax. Maybe you meant '==' or ':=' instead of '='?"
  | .assignedTo what =>
    "cannot assign to " ++ what ++ " here. Maybe you meant '==' instead of '='?"
  | .namedTo what => "cannot use assignment expressions with " ++ what
  | .badTarget what => "cannot assign to " ++ what
  | .assignedArgument =>
    "expression cannot contain assignment, perhaps you meant \"==\"?"
  | .noBrackets function =>
    "Missing parentheses in call to '" ++ function ++ "'. Did you mean " ++ function ++ "(...)?"
  | .badStar => "cannot use starred expression here"
  | .loneStar => "Invalid star expression"
  | .badDoubleStar => "cannot use double starred expression here"
  | .bareWalk => "Generator expression must be parenthesized"
  | .bareElements => "did you forget parentheses around the comprehension target?"
  | .starredElement => "iterable unpacking cannot be used in comprehension"
  | .starredEntry => "dict unpacking cannot be used in dict comprehension"
  | .starredValue => "cannot use a starred expression in a dictionary value"
  | .lateArgument => "positional argument follows keyword argument"
  | .lateUnpacked => "positional argument follows keyword argument unpacking"
  | .lateRow => "iterable argument unpacking follows keyword argument unpacking"
  | .noEntryValue => "expression expected after dictionary key and ':'"
  | .noColon => "':' expected after dictionary key"
  | .repeatedArgument name => "keyword argument repeated: " ++ name
  | .bracketedParameters => "Lambda expression parameters cannot be parenthesized"
  | .outsideFunction word => "'" ++ word ++ "' outside function"

/-- The kind of a cause. -/
def kind : GrammarCause → String
  | .nullCharacter => "ValueError"
  | .indented => "IndentationError"
  | .badIndent => "IndentationError"
  | .mixedBlanks => "TabError"
  | _ => "SyntaxError"

end GrammarCause

namespace GrammarFault

/-- The kind of a fault. -/
def kind (f : GrammarFault) : String :=
  f.cause.kind

/-- The wording of a fault: most say where it was found. -/
def message (f : GrammarFault) : String :=
  if f.cause = .nullCharacter then f.cause.message
  else f.cause.message ++ " (<string>, line " ++ toString f.line ++ ")"

end GrammarFault
end StateMachine
