import StateMachine.Expression.Fault

/-!
# Numerals

How a number is written in an expression: in decimal digits, with a fraction
and an exponent or without them, or in hexadecimal, octal or binary digits
after a zero and a letter. Single underscores may stand between digits. A
number must not go on as a word, except as one of the words that may stand
between two operands, such as `or`.
-/

namespace StateMachine

/-- A number as an expression writes it. -/
inductive Numeral
  | int (n : Nat)
  | float (x : Binary64)
  | imaginary
  /-- An integer with this many decimal digits, which are too many. -/
  | tooLong (digits : Nat)
  deriving DecidableEq

namespace Numeral

/-- May the character stand in a word? Letters of other scripts may as well, but
    do not count here. -/
def isWordChar (c : Char) : Bool :=
  c.isAlphanum || c == '_'

/-- The words a number may run into. -/
def joiners : List String :=
  ["and", "else", "for", "or", "not"]

/-- The beginnings of words a number may run into. -/
def joinerStarts : List String :=
  ["if", "in", "is"]

/-- Is there one of the words a number may run into? -/
def startsJoiner (cs : List Char) : Bool :=
  (joinerStarts.any fun w => w.toList.isPrefixOf cs) ||
    joiners.any fun w =>
      w.toList.isPrefixOf cs &&
        !(cs.drop w.length).head?.any fun c => isWordChar c || 0x80 ≤ c.toNat

/-- May a number in this notation end before these characters? -/
def checkEnd (kind : String) (rest : List Char) : Except GrammarCause Unit :=
  if startsJoiner rest then .ok ()
  else if rest.head?.any isWordChar then .error (.badNumber kind)
  else .ok ()

/-- The notations beside the decimal one. -/
inductive Radix
  | hexadecimal
  | octal
  | binary

/-- The name of a notation. -/
def Radix.name : Radix → String
  | .hexadecimal => "hexadecimal"
  | .octal => "octal"
  | .binary => "binary"

/-- The base of a notation. -/
def Radix.base : Radix → Nat
  | .hexadecimal => 16
  | .octal => 8
  | .binary => 2

/-- The notation a letter after a zero tells. -/
def Radix.ofLetter? (c : Char) : Option Radix :=
  if c = 'x' || c = 'X' then some .hexadecimal
  else if c = 'o' || c = 'O' then some .octal
  else if c = 'b' || c = 'B' then some .binary
  else none

/-- The value of a digit of any base up to sixteen. -/
def digitValue (c : Char) : Nat :=
  if c.isDigit then c.toNat - '0'.toNat else c.toLower.toNat - 'a'.toNat + 10

/-- Is the character a digit of the base? -/
def isDigitOf (base : Nat) (c : Char) : Bool :=
  (c.isDigit || ('a' ≤ c.toLower && c.toLower ≤ 'f')) && digitValue c < base

/-- The number written by digits of a base. -/
def ofDigits (base : Nat) (ds : List Char) : Nat :=
  ds.foldl (fun n c => base * n + digitValue c) 0

/-- The fault of a character that is no digit of the notation. -/
def wrongDigit (n : Radix) (rest : List Char) : GrammarCause :=
  match rest.head? with
  | some c => if c.isDigit then .badDigit c n.name else .badNumber n.name
  | none => .badNumber n.name

/-- Digits of a notation with single underscores between them, and what follows
    them. `due` tells whether a digit has to come first. -/
def digitsOf (n : Radix) (due : Bool) :
    List Char → Except GrammarCause (List Char × List Char)
  | [] => if due then .error (wrongDigit n []) else .ok ([], [])
  | c :: cs =>
    if isDigitOf n.base c then
      (digitsOf n false cs).map fun (ds, rest) => (c :: ds, rest)
    else if c = '_' && !due then digitsOf n true cs
    else if due then .error (wrongDigit n (c :: cs))
    else .ok ([], c :: cs)

/-- Reads the digits after a zero and the letter of a notation; an underscore may
    stand between the letter and the digits. -/
def readBased (n : Radix) (cs : List Char) : Except GrammarCause (Numeral × List Char) := do
  let (ds, rest) ← digitsOf n true (if cs.head? = some '_' then cs.drop 1 else cs)
  if rest.head?.any Char.isDigit then .error (wrongDigit n rest)
  checkEnd n.name rest
  return (.int (ofDigits n.base ds), rest)

/-- The name of the decimal notation. -/
def decimal : String := "decimal"

/-- Decimal digits with single underscores between them, and what follows them. -/
def decimals : List Char → Except GrammarCause (List Char × List Char)
  | [] => .ok ([], [])
  | c :: cs =>
    if c.isDigit then (decimals cs).map fun (ds, rest) => (c :: ds, rest)
    else if c = '_' then
      if cs.head?.any Char.isDigit then decimals cs else .error (.badNumber decimal)
    else .ok ([], c :: cs)

/-- Digits, if they come first, and what follows them. -/
def decimals? (cs : List Char) : Except GrammarCause (List Char × List Char) :=
  if cs.head?.any Char.isDigit then decimals cs else .ok ([], cs)

/-- The exponent after its letter, and what follows it; none if the letter begins
    a word. -/
def exponent? (cs : List Char) : Except GrammarCause (Option (Int × List Char)) :=
  match cs with
  | letter :: sign :: rest => do
    let signed := sign = '+' || sign = '-'
    if signed || sign.isDigit then
      let cs := if signed then rest else sign :: rest
      if !cs.head?.any Char.isDigit then .error (.badNumber decimal)
      let (ds, rest) ← decimals cs
      let n : Int := ofDigits 10 ds
      return some (if sign = '-' then -n else n, rest)
    else
      checkEnd decimal (letter :: sign :: rest)
      return none
  | cs => do
    checkEnd decimal cs
    return none

/-- The floating point number with these digits before and after its point. -/
def ofParts (whole places : List Char) (exponent : Int) : Numeral :=
  .float (Binary64.ofDecimal false (ofDigits 10 (whole ++ places)) (exponent - places.length))

/-- The integer of decimal digits. It must not begin with a zero, unless a word
    follows that begins like an exponent; then the number counts as one with a
    fraction. -/
def ofDecimals (ds : List Char) (beforeWord : Bool) : Except GrammarCause Numeral :=
  let nonzero := ds.any (· != '0')
  if ds.head? = some '0' && nonzero then
    if beforeWord then .ok (ofParts ds [] 0) else .error .leadingZero
  else if nonzero && DigitLimit.digits < ds.length then .ok (.tooLong ds.length)
  else .ok (.int (ofDigits 10 ds))

/-- Reads a decimal number. -/
def readDecimal (cs : List Char) : Except GrammarCause (Numeral × List Char) := do
  let (whole, rest) ← decimals? cs
  let pointed := rest.head? = some '.'
  let (places, rest) ← if pointed then decimals? (rest.drop 1) else .ok ([], rest)
  let marked := rest.head?.any fun c => c == 'e' || c == 'E'
  let power ← if marked then exponent? rest else .ok none
  let rest := (power.map (·.2)).getD rest
  if rest.head?.any fun c => c == 'j' || c == 'J' then
    checkEnd "imaginary" (rest.drop 1)
    return (.imaginary, rest.drop 1)
  let n ←
    if pointed || power.isSome then .ok (ofParts whole places ((power.map (·.1)).getD 0))
    else ofDecimals whole marked
  checkEnd decimal rest
  return (n, rest)

/-- Reads a number, which begins with a digit or with a point and a digit, and
    gives what follows it. -/
def read (cs : List Char) : Except GrammarCause (Numeral × List Char) :=
  match cs with
  | '0' :: letter :: rest =>
    match Radix.ofLetter? letter with
    | some n => readBased n rest
    | none => readDecimal cs
  | cs => readDecimal cs

end Numeral
end StateMachine
