import StateMachine.Document.NestingLimit
import StateMachine.Document.Value
import StateMachine.Number.DigitLimit
import StateMachine.Text.Escape

/-!
# Reading documents

Reads the text of a JSON document into a `Value`. Beside the numbers of JSON
the reader accepts the two infinities and the *not a number* as words. Of
members with the same name the last one counts, in the place of the first.

Text that is no document ends in a `ReadError`: what was expected, and where.
Inside the reader a place is the number of characters *left* from it to the
end of the text, which needs no counting along the way. The reader may be given
a limit on the digits of an integer; a longer one ends the reading as well.

A list and an object are read by a call for each of their values, so values
nest only as deep as there are *levels* of calls left (`NestingLimit`). Values
side by side need no level of their own: each of them, and the comma before
it, takes at least one character, so the length of the text bounds how many
there are.
-/

namespace StateMachine

/-- What is wrong with the text of a document. -/
inductive Complaint
  | expectsValue
  | expectsName
  | expectsColon
  | expectsComma
  | unterminated
  | controlCharacter
  | badEscape
  | badCodePoint
  | extraData
  | byteOrderMark
  deriving DecidableEq

/-- The wording of a complaint. -/
def Complaint.message : Complaint → String
  | .expectsValue => "Expecting value"
  | .expectsName => "Expecting property name enclosed in double quotes"
  | .expectsColon => "Expecting ':' delimiter"
  | .expectsComma => "Expecting ',' delimiter"
  | .unterminated => "Unterminated string starting at"
  | .controlCharacter => "Invalid control character at"
  | .badEscape => "Invalid \\escape"
  | .badCodePoint => "Invalid \\uXXXX escape"
  | .extraData => "Extra data"
  | .byteOrderMark => "Unexpected UTF-8 BOM (decode using utf-8-sig)"

/-- A complaint and its place: the position counts characters from zero, lines
    and columns count from one. -/
structure ReadError where
  complaint : Complaint
  line : Nat
  column : Nat
  position : Nat

/-- The wording of a read error. -/
def ReadError.message (e : ReadError) : String :=
  e.complaint.message ++ ": line " ++ toString e.line ++ " column " ++ toString e.column
    ++ " (char " ++ toString e.position ++ ")"

/-- Why a document is not read. -/
inductive ReadFault
  | complaint (e : ReadError)
  /-- An integer has too many digits. -/
  | tooLong (digits : Nat)
  /-- Values are nested too deep. -/
  | tooDeep

/-- The wording of a fault. -/
def ReadFault.message : ReadFault → String
  | .complaint e => e.message
  | .tooLong digits => DigitLimit.reading digits
  | .tooDeep => NestingLimit.wording

namespace Reader

/-- What ends the reading. -/
inductive Fault
  /-- A complaint, and the number of characters left at its place. -/
  | at (complaint : Complaint) (left : Nat)
  /-- An integer has too many digits. -/
  | tooLong (digits : Nat)
  /-- There are too few levels left. -/
  | tooDeep

/-- A part of the reader gives what it read and the text after it. -/
abbrev Part (α : Type) := List Char → Except Fault (α × List Char)

/-- A complaint about the place where `cs` is left. -/
def complain {α : Type} (what : Complaint) : Part α :=
  fun cs => .error (.at what cs.length)

/-- The fault, where a complaint is made with this many levels left. -/
def Fault.within (levels : Nat) : Fault → Fault
  | .at what left => if levels < NestingLimit.complaining then .tooDeep else .at what left
  | fault => fault

/-- Makes the complaints of a step on the spot. That a value is expected is the one
    complaint that is not made there, but when all levels are left again. -/
def onTheSpot {α : Type} (levels : Nat) (step : Except Fault α) : Except Fault α :=
  step.mapError (Fault.within levels)

/-- Blanks between the parts of a document. -/
def isSpace (c : Char) : Bool :=
  c == ' ' || c == '\t' || c == '\n' || c == '\r'

/-- Skips the blanks. -/
def skip (cs : List Char) : List Char :=
  cs.dropWhile isSpace

/-! ## Texts -/

/-- The value of a hexadecimal digit. -/
def hexValue? (c : Char) : Option Nat :=
  let n := c.toNat
  if 0x30 ≤ n && n ≤ 0x39 then some (n - 0x30)
  else if 0x41 ≤ n && n ≤ 0x46 then some (n - 0x37)
  else if 0x61 ≤ n && n ≤ 0x66 then some (n - 0x57)
  else none

/-- The code unit written by the four digits the text begins with. More text
    must follow them. -/
def codeUnit? (cs : List Char) : Option (Nat × List Char) :=
  match cs with
  | a :: b :: c :: d :: e :: rest => do
    let a ← hexValue? a
    let b ← hexValue? b
    let c ← hexValue? c
    let d ← hexValue? d
    return (a * 0x1000 + b * 0x100 + c * 0x10 + d, e :: rest)
  | _ => none

/-- Is the code unit the first half of a pair? -/
def isHighHalf (n : Nat) : Bool :=
  0xd800 ≤ n && n ≤ 0xdbff

/-- Is the code unit the second half of a pair? -/
def isLowHalf (n : Nat) : Bool :=
  0xdc00 ≤ n && n ≤ 0xdfff

/-- A character given by its code point; a half without its other half is
    replaced by the replacement character. -/
def ofCodePoint (n : Nat) : Char :=
  if isHighHalf n || isLowHalf n then Char.ofNat 0xfffd else Char.ofNat n

/-- Reads what follows `\u`, where `cs` begins with the `u`. -/
def readCodePoint : Part Char := fun cs =>
  match codeUnit? (cs.drop 1) with
  | none => complain .badCodePoint cs
  | some (n, rest) =>
    if isHighHalf n && 6 < rest.length then
      match rest with
      | '\\' :: 'u' :: more =>
        match codeUnit? more with
        | none => complain .badCodePoint ('u' :: more)
        | some (m, rest') =>
          if isLowHalf m then
            .ok (Char.ofNat (0x10000 + (n - 0xd800) * 0x400 + (m - 0xdc00)), rest')
          else .ok (ofCodePoint n, rest)
      | _ => .ok (ofCodePoint n, rest)
    else .ok (ofCodePoint n, rest)

/-- The character a backslash before `c` stands for. -/
def escaped? (c : Char) : Option Char :=
  if c = Text.doubleQuote || c = Text.backslash || c = '/' then some c
  else if c = 'b' then some '\x08'
  else if c = 'f' then some '\x0c'
  else if c = 'n' then some '\n'
  else if c = 'r' then some '\r'
  else if c = 't' then some '\t'
  else none

/-- Reads the characters of a text up to its closing quote. The text was opened
    with `opened` characters left; `fuel` bounds the number of characters. -/
def readChars (opened : Nat) : Nat → Part (List Char)
  | 0, _ => .error (.at .unterminated opened)
  | _ + 1, [] => .error (.at .unterminated opened)
  | fuel + 1, c :: rest =>
    if c = Text.doubleQuote then .ok ([], rest)
    else if c = Text.backslash then
      match rest with
      | [] => .error (.at .unterminated opened)
      | d :: more =>
        if d = 'u' then do
          let (x, rest') ← readCodePoint rest
          let (xs, rest'') ← readChars opened fuel rest'
          return (x :: xs, rest'')
        else
          match escaped? d with
          | none => complain .badEscape (c :: rest)
          | some x => do
            let (xs, rest') ← readChars opened fuel more
            return (x :: xs, rest')
    else if c.toNat < 0x20 then complain .controlCharacter (c :: rest)
    else do
      let (xs, rest') ← readChars opened fuel rest
      return (c :: xs, rest')

/-- Reads a text after its opening quote. -/
def readText : Part String := fun cs => do
  let (xs, rest) ← readChars (cs.length + 1) (cs.length + 1) cs
  return (String.ofList xs, rest)

/-! ## Numbers -/

/-- Is `c` one of the ten digits? -/
def isDigit (c : Char) : Bool :=
  '0' ≤ c && c ≤ '9'

/-- The number a list of digits writes. -/
def ofDigits (cs : List Char) : Nat :=
  cs.foldl (fun n c => n * 10 + (c.toNat - 0x30)) 0

/-- The digits before the point: a zero, or digits that begin with another. -/
def wholePart? (cs : List Char) : Option (List Char × List Char) :=
  match cs with
  | [] => none
  | c :: rest =>
    if c = '0' then some (['0'], rest)
    else if isDigit c then some (cs.takeWhile isDigit, cs.dropWhile isDigit)
    else none

/-- The digits after a point, where there are any. -/
def fractionPart (cs : List Char) : Option (List Char × List Char) :=
  match cs with
  | '.' :: d :: rest =>
    if isDigit d then some ((d :: rest).takeWhile isDigit, (d :: rest).dropWhile isDigit) else none
  | _ => none

/-- The exponent, where there is one. -/
def exponentPart (cs : List Char) : Option (Int × List Char) :=
  match cs with
  | e :: rest =>
    if e = 'e' || e = 'E' then
      let (negative, digits) :=
        match rest with
        | '+' :: more => (false, more)
        | '-' :: more => (true, more)
        | _ => (false, rest)
      let ds := digits.takeWhile isDigit
      if ds.isEmpty then none
      else
        let n : Int := ofDigits ds
        some (if negative then -n else n, digits.dropWhile isDigit)
    else none
  | [] => none

/-- A number as it is written. -/
structure Numeral where
  negative : Bool
  /-- The digits before the point. -/
  whole : List Char
  /-- The digits after the point, where there is one. -/
  fraction : Option (List Char)
  exponent : Option Int

/-- Reads a number as it is written. -/
def numeral? (cs : List Char) : Option (Numeral × List Char) := do
  let (negative, body) :=
    match cs with
    | '-' :: rest => (true, rest)
    | _ => (false, cs)
  let (whole, rest) ← wholePart? body
  let fraction := fractionPart rest
  let rest := (fraction.map (·.2)).getD rest
  let exponent := exponentPart rest
  let rest := (exponent.map (·.2)).getD rest
  return (⟨negative, whole, fraction.map (·.1), exponent.map (·.1)⟩, rest)

/-- The number a numeral stands for: an integer if it has neither a fraction nor
    an exponent. -/
def Numeral.value (n : Numeral) : Value :=
  if n.fraction.isNone && n.exponent.isNone then
    let i : Int := ofDigits n.whole
    .int (if n.negative then -i else i)
  else
    let places := n.fraction.getD []
    let scale := n.exponent.getD 0 - places.length
    .float (Binary64.ofDecimal n.negative (ofDigits (n.whole ++ places)) scale)

/-- Is the numeral an integer with more digits than the limit, if there is one? -/
def Numeral.isTooLong (limit : Option Nat) (n : Numeral) : Bool :=
  n.fraction.isNone && n.exponent.isNone && limit.any fun most => most < n.whole.length

/-- The words that stand for a value. -/
def words : List (String × Value) :=
  [("null", .null), ("true", .bool true), ("false", .bool false), ("NaN", .float .nan),
    ("Infinity", .float (.infinite false)), ("-Infinity", .float (.infinite true))]

/-- Reads a word or a number. The words for numbers are looked up. -/
def readScalar (limit : Option Nat) (levels : Nat) : Part Value := fun cs =>
  match words.find? fun w => w.1.toList.isPrefixOf cs with
  | some (w, .float x) =>
    if levels < NestingLimit.lookingUp then .error .tooDeep else .ok (.float x, cs.drop w.length)
  | some (w, v) => .ok (v, cs.drop w.length)
  | none =>
    match numeral? cs with
    | some (n, rest) =>
      if n.isTooLong limit then .error (.tooLong n.whole.length) else .ok (n.value, rest)
    | none => complain .expectsValue cs

/-! ## Values -/

/-- Reads parts with commas between them, up to and with the closing bracket. There are
    at most `bound` of them. -/
def readRow {α : Type} (close : Char) (part : Part α) (levels : Nat) :
    (bound : Nat) → Part (List α)
  | 0, cs => onTheSpot levels (complain .expectsComma cs)
  | bound + 1, cs => do
    let (a, rest) ← part cs
    let rest := skip rest
    if rest.head? = some close then return ([a], rest.tail)
    else if rest.head? = some ',' then
      let (as, after) ← readRow close part levels bound (skip rest.tail)
      return (a :: as, after)
    else onTheSpot levels (complain .expectsComma rest)

/-- Reads parts after an opening bracket, if there are any. -/
def readEnclosed {α : Type} (close : Char) (part : Part α) (levels : Nat) : Part (List α) :=
  fun cs =>
    let inside := skip cs
    if inside.head? = some close then .ok ([], inside.tail)
    else readRow close part levels (inside.length + 1) inside

/-- Reads a member of an object: its name, a colon, and its value by `read`. -/
def readMember (read : Part Value) (levels : Nat) : Part (String × Value)
  | '\x22' :: cs => do
    let (name, rest) ← onTheSpot levels (readText cs)
    match skip rest with
    | ':' :: more =>
      let (v, after) ← read (skip more)
      return ((name, v), after)
    | other => onTheSpot levels (complain .expectsColon other)
  | other => onTheSpot levels (complain .expectsName other)

/-- The object with these members, of which some may have the same name. -/
def objectOf (members : List (String × Value)) : Value :=
  .object (members.foldl (fun sofar m => Value.put m.1 m.2 sofar) [])

/-- Reads a value with this many levels left. -/
def readValue (limit : Option Nat) (levels : Nat) : Part Value := fun cs =>
  match cs with
  | '[' :: rest =>
    match levels with
    | 0 => .error .tooDeep
    | levels + 1 => do
      let (items, after) ← readEnclosed ']' (readValue limit levels) levels rest
      return (.list items, after)
  | '\x7b' :: rest =>
    match levels with
    | 0 => .error .tooDeep
    | levels + 1 => do
      let part := readMember (readValue limit levels) levels
      let (members, after) ← readEnclosed '\x7d' part levels rest
      return (objectOf members, after)
  | '\x22' :: rest => do
    let (s, after) ← onTheSpot levels (readText rest)
    return (.str s, after)
  | _ => readScalar limit levels cs

/-- Reads a whole document. -/
def document (limit : Option Nat) (levels : Nat) (cs : List Char) : Except Fault Value := do
  if cs.head? = some (Char.ofNat 0xfeff) then
    throw (.at .byteOrderMark cs.length)
  let (v, rest) ← readValue limit levels (skip cs)
  match skip rest with
  | [] => return v
  | extra => throw (.at .extraData extra.length)

/-- A complaint with its place in the text, where `left` characters are left. -/
def located (cs : List Char) (complaint : Complaint) (left : Nat) : ReadError :=
  let position := cs.length - left
  let before := cs.take position
  { complaint := complaint
    line := before.count '\n' + 1
    column := (before.reverse.takeWhile (· ≠ '\n')).length + 1
    position := position }

/-- The fault with its place in the text. -/
def Fault.inText (cs : List Char) : Fault → ReadFault
  | .at complaint left => .complaint (located cs complaint left)
  | .tooLong digits => .tooLong digits
  | .tooDeep => .tooDeep

end Reader

/-- Reads the text of a document with this many levels, and with or without a limit on
    the digits of an integer. -/
def Value.readWithin (limit : Option Nat) (levels : Nat) (cs : List Char) :
    Except ReadFault Value :=
  (Reader.document limit levels cs).mapError (Reader.Fault.inText cs)

/-- Reads the text of a document. -/
def Value.read (cs : List Char) : Except ReadFault Value :=
  Value.readWithin (some DigitLimit.digits) NestingLimit.levels cs

end StateMachine
