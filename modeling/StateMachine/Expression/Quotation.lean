import StateMachine.Expression.Fault

/-!
# Quotations

How a text is written in an expression: between single or double quotes, or
between three of them if it goes over several lines. A backslash and what
follows it stand for another character, unless the letter `r` before the
quotes says that they do not. Other letters before the quotes mark bytes and
texts to be filled in; what these hold is not looked into.

Quotations that follow one another are one text.
-/

namespace StateMachine

/-- A quotation: how it is to be read, and what stands between its quotes. -/
structure Quotation where
  /-- Do backslashes stand for themselves? -/
  raw : Bool
  bytes : Bool
  filled : Bool
  body : List Char
  deriving DecidableEq

namespace Quotation

/-- The letters that may stand before the quotes. -/
def letters : List String :=
  ["", "b", "br", "f", "fr", "r", "rb", "rf", "u"]

/-- May the word stand before quotes? -/
def isMark (word : List Char) : Bool :=
  letters.contains (String.ofList (word.map Char.toLower))

/-- The quotation with this mark and body. -/
def ofMark (word body : List Char) : Quotation :=
  let has (c : Char) : Bool := (word.map Char.toLower).contains c
  ⟨has 'r', has 'b', has 'f', body⟩

/-! ## Finding the end -/

/-- Puts characters in front of what was found. -/
def keep (cs : List Char) (found : Except Nat (List Char × List Char)) :
    Except Nat (List Char × List Char) :=
  found.map fun (body, rest) => (cs ++ body, rest)

/-- Counts a line if a character was its last one and another one follows. -/
def passLine (c : Char) (rest : List Char) (found : Except Nat (List Char × List Char)) :
    Except Nat (List Char × List Char) :=
  if c = '\n' && !rest.isEmpty then found.mapError (· + 1) else found

/-- What stands before the closing quote, and what follows it. If the text does
    not end, the number of lines it goes over. -/
def upToQuote (quote : Char) : List Char → Except Nat (List Char × List Char)
  | [] => .error 0
  | c :: cs =>
    if c = quote then .ok ([], cs)
    else if c = '\n' then .error 0
    else if c = Text.backslash then
      match cs with
      | [] => .error 0
      | d :: ds => passLine d ds (keep [c, d] (upToQuote quote ds))
    else keep [c] (upToQuote quote cs)

/-- What stands before three closing quotes, and what follows them. If the text
    does not end, the number of lines it goes over. -/
def upToQuotes (quote : Char) : List Char → Except Nat (List Char × List Char)
  | [] => .error 0
  | c :: cs =>
    if c = quote && cs.take 2 = [quote, quote] then .ok ([], cs.drop 2)
    else if c = Text.backslash then
      match cs with
      | [] => .error 0
      | d :: ds => passLine d ds (keep [c, d] (upToQuotes quote ds))
    else passLine c cs (keep [c] (upToQuotes quote cs))

/-! ## What a backslash stands for -/

/-- The room a character takes in the positions of faults: one beyond the basic
    ones is counted as it would be written by its number. -/
def width (c : Char) : Nat :=
  if c.toNat < 0x80 then 1 else 10

/-- The characters of single letters after a backslash. -/
def letterEscapes : List (Char × Nat) :=
  [('a', 7), ('b', 8), ('t', 9), ('n', 10), ('v', 11), ('f', 12), ('r', 13)]

/-- The notations of a character by its number: letter, number of digits, and
    name. -/
def numberEscapes : List (Char × Nat × String) :=
  [('x', 2, "\\xXX"), ('u', 4, "\\uXXXX"), ('U', 8, "\\UXXXXXXXX")]

/-- Is the character a hexadecimal digit? -/
def isHex (c : Char) : Bool :=
  c.isDigit || ('a' ≤ c.toLower && c.toLower ≤ 'f')

/-- The value of a hexadecimal digit. -/
def hexValue (c : Char) : Nat :=
  if c.isDigit then c.toNat - '0'.toNat else c.toLower.toNat - 'a'.toNat + 10

/-- The number written by digits of a base. -/
def valueOf (base : Nat) (ds : List Char) : Nat :=
  ds.foldl (fun n c => base * n + hexValue c) 0

/-- The wording of a fault of the characters from one position to another. -/
def escapeFault (first last : Nat) (detail : String) : String :=
  "(unicode error) 'unicodeescape' codec can't decode bytes in position " ++ toString first ++ "-"
    ++ toString last ++ ": " ++ detail

/-- The greatest number of a character. -/
def greatestCode : Nat := 0x10ffff

/-- A character written by its number, and how much of the text writes it. The
    backslash stands at the position `first`. -/
def numbered (first count : Nat) (name : String) (cs : List Char) :
    Except String (List Char × Nat) :=
  let ds := (cs.take count).takeWhile isHex
  let last := first + 1 + ds.length
  if ds.length < count then .error (escapeFault first last ("truncated " ++ name ++ " escape"))
  else if greatestCode < valueOf 16 ds then
    .error (escapeFault first last "illegal Unicode character")
  else .ok ([Char.ofNat (valueOf 16 ds)], count + 1)

/-- A character written by its name in braces; no names are known. -/
def nameFault (first : Nat) (cs : List Char) : String :=
  let malformed := "malformed \\N character escape"
  if cs.head? != some '\x7b' then escapeFault first (first + 1) malformed
  else
    let name := (cs.drop 1).takeWhile (· != '\x7d')
    let last := name.foldl (fun position c => position + width c) (first + 2)
    if name.length + 1 = cs.length then escapeFault first last malformed
    else if name.isEmpty then escapeFault first last malformed
    else escapeFault first (last + 1) "unknown Unicode character name"

/-- Is the character an octal digit? -/
def isOctal (c : Char) : Bool :=
  '0' ≤ c && c ≤ '7'

/-- What a backslash at a position and the characters after it stand for, and how
    many of them. -/
def escape (first : Nat) : List Char → Except String (List Char × Nat)
  | [] => .ok ([Text.backslash], 0)
  | c :: cs =>
    if c = '\n' then .ok ([], 1)
    else if c = Text.backslash || c = Text.singleQuote || c = Text.doubleQuote then .ok ([c], 1)
    else
      match letterEscapes.lookup c, numberEscapes.find? (·.1 = c) with
      | some n, _ => .ok ([Char.ofNat n], 1)
      | none, some (_, count, name) => numbered first count name cs
      | none, none =>
        if isOctal c then
          let ds := ((c :: cs).take 3).takeWhile isOctal
          .ok ([Char.ofNat (valueOf 8 ds)], ds.length)
        else if c = 'N' then .error (nameFault first cs)
        else .ok ([Text.backslash], 0)

/-- Replaces what begins with a backslash. The first `skip` characters were dealt
    with already; the others begin at a position. -/
def unescape : Nat → Nat → List Char → Except String (List Char)
  | _, _, [] => .ok []
  | skip + 1, position, c :: cs => unescape skip (position + width c) cs
  | 0, position, c :: cs =>
    if c = Text.backslash then do
      let (out, used) ← escape position cs
      let rest ← unescape used (position + 1) cs
      return out ++ rest
    else (unescape 0 (position + width c) cs).map (c :: ·)

/-! ## Meaning -/

/-- What quotations stand for. -/
inductive Meaning
  | text (s : String)
  | bytes
  | filled
  deriving DecidableEq

/-- The characters a quotation stands for. -/
def content (q : Quotation) : Except GrammarCause (List Char) :=
  if q.bytes then
    if q.body.all fun c => c.toNat < 0x80 then .ok [] else .error .badBytes
  else if q.raw || q.filled then .ok q.body
  else (unescape 0 0 q.body).mapError .badEscape

/-- The characters of quotations that follow one another; either all of them are
    bytes or none. -/
def contents (bytes : Bool) : List Quotation → Except GrammarCause (List Char)
  | [] => .ok []
  | q :: qs => do
    let cs ← q.content
    if q.bytes != bytes then .error .mixedTexts
    let rest ← contents bytes qs
    return cs ++ rest

/-- What quotations that follow one another stand for. -/
def meaning (qs : List Quotation) : Except GrammarCause Meaning := do
  let bytes := qs.head?.any (·.bytes)
  let cs ← contents bytes qs
  return if bytes then .bytes else if qs.any (·.filled) then .filled else .text (String.ofList cs)

end Quotation
end StateMachine
