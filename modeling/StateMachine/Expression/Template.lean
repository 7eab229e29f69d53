import StateMachine.Expression.Datum
import StateMachine.Expression.OperationFault
import StateMachine.Number.Arithmetic
import StateMachine.Number.Places

/-!
# Templates

A text with *places* to be filled with data. A place begins with a percent sign
and ends with a letter that says how its datum is written; between them may
stand the name of an entry of a table, flags, a width and a precision:

* `s`, `r` and `a` write any datum, as a text, as a literal, or as a literal of
  basic characters;
* `d`, `i` and `u` write integers, also those of numbers with a fraction cut
  off, `o`, `x` and `X` write integers in other bases;
* `e`, `f` and `g` write numbers with a number of digits;
* `c` writes a single character.

Two percent signs are one. The places are filled with the data of a tuple one
after the other; any other datum fills the only place. A table or list need not
be used.
-/

namespace StateMachine.Template

/-- What is left to fill places with. -/
structure Supply where
  /-- The data for the next places. -/
  rest : List Datum
  /-- The datum whose entries may be asked for by name. -/
  names : Option Datum

/-- What places are filled with, if a template is filled with a datum. -/
def Supply.of (v : Datum) : Supply :=
  match v with
  | .tuple _ items => ⟨items, none⟩
  | .list _ _ => ⟨[v], some v⟩
  | .table _ _ => ⟨[v], some v⟩
  | v => ⟨[v], none⟩

/-- Filling a template: takes data from the supply and may fail. -/
abbrev Fill (α : Type) := StateT Supply (Except OperationFault) α

/-- The datum for the next place. -/
def next : Fill Datum := do
  match (← get).rest with
  | [] => throw .tooFew
  | v :: vs =>
    modify fun s => { s with rest := vs }
    return v

/-- The number of characters there is no room for. -/
def roomLimit : Nat := Binary64.twoPow 36

/-- How a place is to be written. -/
structure Form where
  /-- Is it padded on the right? -/
  left : Bool := false
  /-- Is a plus sign written? -/
  plus : Bool := false
  /-- Is a blank written in place of a plus sign? -/
  blank : Bool := false
  /-- Is the longer form of a number written? -/
  long : Bool := false
  /-- Are numbers padded with zeros? -/
  zeros : Bool := false
  width : Nat := 0
  precision : Option Nat := none

/-- A flag added to a form. -/
def Form.flag? (f : Form) (c : Char) : Option Form :=
  match c with
  | '-' => some { f with left := true }
  | '+' => some { f with plus := true }
  | ' ' => some { f with blank := true }
  | '#' => some { f with long := true }
  | '0' => some { f with zeros := true }
  | _ => none

/-- Reads flags. -/
def flags (f : Form) : List Char → Form × List Char
  | [] => (f, [])
  | c :: cs =>
    match f.flag? c with
    | some g => flags g cs
    | none => (f, c :: cs)

/-- The number written by digits. -/
def ofDigits (ds : List Char) : Nat :=
  ds.foldl (fun n c => 10 * n + (c.toNat - '0'.toNat)) 0

/-- The greatest width. -/
def greatestWidth : Nat := 0x7fffffffffffffff

/-- The greatest precision. -/
def greatestPrecision : Nat := 0x7fffffff

/-- Reads a number that is not above the greatest one, or takes it from the supply
    where there is a star. -/
def quantity (greatest : Nat) (tooGreat tooGreatGiven : OperationFault) (cs : List Char) :
    Fill (Option Int × List Char) := do
  match cs with
  | '*' :: rest =>
    let v ← next
    match v.int? with
    | some i => if greatest < i.natAbs then throw tooGreatGiven else return (some i, rest)
    | none => throw .badWidth
  | cs =>
    let ds := cs.takeWhile Char.isDigit
    let n := ofDigits ds
    if greatest < n then throw tooGreat
    return (if ds.isEmpty then none else some n, cs.drop ds.length)

/-- Reads a width. A negative one pads on the right. -/
def readWidth (f : Form) (cs : List Char) : Fill (Form × List Char) := do
  let (n, rest) ← quantity greatestWidth .hugeWidth (.hugeQuantity "ssize_t") cs
  let n := n.getD 0
  return ({ f with width := n.natAbs, left := f.left || n < 0 }, rest)

/-- Reads a precision, if a point announces it. -/
def readPrecision (f : Form) (cs : List Char) : Fill (Form × List Char) :=
  match cs with
  | '.' :: rest => do
    let (n, rest) ← quantity greatestPrecision .hugePrecision (.hugeQuantity "int") rest
    return ({ f with precision := some (n.getD 0).toNat }, rest)
  | cs => return (f, cs)

/-- The name up to its closing bracket, and what follows it; brackets inside it
    come in pairs. -/
def placeName (depth : Nat) : List Char → Option (List Char × List Char)
  | [] => none
  | c :: cs =>
    if c = ')' && depth = 0 then some ([], cs)
    else
      let depth := if c = '(' then depth + 1 else if c = ')' then depth - 1 else depth
      (placeName depth cs).map fun (name, rest) => (c :: name, rest)

/-- The entry of a name. -/
def entryOf (names : Datum) (name : String) : Except OperationFault Datum :=
  match names with
  | .table _ entries =>
    match entries.find? fun e => e.1.same (.text .key name) with
    | some e => .ok e.2
    | none => .error (.noEntry (Text.quoted name))
  | v => .error (.badPlace v.kindName "str")

/-- Reads the name of an entry, if there is one; the entry is what fills the
    place. -/
def readName (cs : List Char) : Fill (List Char) :=
  match cs with
  | '(' :: rest => do
    match (← get).names with
    | none => throw .noNames
    | some names =>
      match placeName 0 rest with
      | none => throw .openPlaceName
      | some (name, rest) =>
        let v ← liftM (entryOf names (String.ofList name))
        modify fun s => { s with rest := [v] }
        return rest
  | cs => return cs

/-- Passes a letter for the size of a number, which says nothing. -/
def dropSize (cs : List Char) : List Char :=
  if cs.head?.any fun c => c == 'h' || c == 'l' || c == 'L' then cs.drop 1 else cs

/-! ## Writing -/

/-- A written datum, padded to a width. -/
def padded (f : Form) (cs : List Char) : List Char :=
  let pad := List.replicate (f.width - cs.length) ' '
  if f.left then cs ++ pad else pad ++ cs

/-- The sign a number is written with. -/
def signText (f : Form) (negative : Bool) : List Char :=
  if negative then ['-'] else if f.plus then ['+'] else if f.blank then [' '] else []

/-- A number with its sign, the letters that tell its base, and its digits, padded
    to a width. -/
def paddedNumber (f : Form) (negative : Bool) (base digits : List Char) : List Char :=
  let front := signText f negative ++ base
  if f.zeros then
    let zeros := List.replicate (f.width - front.length - digits.length) '0'
    if f.left then padded f (front ++ digits) else front ++ zeros ++ digits
  else padded f (front ++ digits)

/-- A text, cut to the precision. -/
def cut (f : Form) (s : String) : List Char :=
  padded f (match f.precision with
    | some n => s.toList.take n
    | none => s.toList)

/-- The text of a datum, unless it is too long. -/
def textOf (v : Datum) (text : Datum → String) : Except OperationFault String :=
  if v.isTooLong then .error .tooLong else .ok (text v)

/-- A character outside the basic ones, written by its number. -/
def basic (c : Char) : String :=
  let n := c.toNat
  if n < 0x80 then String.ofList [c]
  else if n < 0x100 then "\\x" ++ Text.hexText 2 n
  else if n < 0x10000 then "\\u" ++ Text.hexText 4 n
  else "\\U" ++ Text.hexText 8 n

/-- A datum as a literal of basic characters. -/
def basicLiteral (v : Datum) : String :=
  String.join (v.literal.toList.map basic)

/-- The integer of a number, its fraction cut off. -/
def truncated (c : Char) (v : Datum) : Except OperationFault Int :=
  match v.number? with
  | some (.int i) => .ok i
  | some (.float .nan) => .error (.integer .notANumber)
  | some (.float (.infinite _)) => .error (.integer .infinite)
  | some (.float x) => .ok (x.truncate?.getD 0)
  | none => .error (.notNumber (String.ofList [c]) v.kindName)

/-- Digits, at least as many as the precision says. -/
def precise (f : Form) (ds : List Char) : List Char :=
  List.replicate (f.precision.getD 0 - ds.length) '0' ++ ds

/-- Writes an integer in decimal digits. -/
def decimal (f : Form) (c : Char) (v : Datum) : Except OperationFault (List Char) := do
  let i ← truncated c v
  if DigitLimit.isExceeded i then .error .tooLong
  return paddedNumber f (i < 0) [] (precise f (Nat.toDigits 10 i.natAbs))

/-- Writes an integer in digits of another base. -/
def based (f : Form) (c : Char) (v : Datum) : Except OperationFault (List Char) :=
  match v.int? with
  | none => .error (.notInteger (String.ofList [c]) v.kindName)
  | some i =>
    let ds := Nat.toDigits (if c = 'o' then 8 else 16) i.natAbs
    let ds := if c = 'X' then ds.map Char.toUpper else ds
    .ok (paddedNumber f (i < 0) (if f.long then ['0', c] else []) (precise f ds))

/-- The number of a datum as a floating point number. -/
def real (v : Datum) : Except OperationFault Binary64 :=
  match v.number? with
  | some (.float x) => .ok x
  | some (.int i) =>
    match Binary64.ofInt i with
    | .infinite _ => .error .hugeInteger
    | x => .ok x
  | none => .error (.notReal v.kindName)

/-- The digits of a floating point number without its sign. -/
def realDigits (f : Form) (c : Char) : Binary64 → String
  | .nan => "nan"
  | .infinite _ => "inf"
  | .finite _ m e =>
    let places := f.precision.getD 6
    match c.toLower with
    | 'e' => Binary64.scientific places f.long m e
    | 'g' => Binary64.general places f.long m e
    | _ => Binary64.fixed places f.long m e

/-- Writes a number with a number of digits. -/
def realNumber (f : Form) (c : Char) (v : Datum) : Except OperationFault (List Char) := do
  let x ← real v
  let ds := (realDigits f c x).toList
  return paddedNumber f x.isNegative [] (if c.isUpper then ds.map Char.toUpper else ds)

/-- Writes a character. -/
def character (f : Form) (v : Datum) : Except OperationFault (List Char) :=
  match v, v.int? with
  | .text _ s, _ =>
    if s.length = 1 then .ok (padded f s.toList) else .error .notCharacter
  | _, some i =>
    if 0 ≤ i && i < 0x110000 then .ok (padded f [Char.ofNat i.toNat]) else .error .badCharacter
  | _, none => .error .notCharacter

/-- Writes a datum into a place that ends with a letter, found at an index. -/
def write (f : Form) (c : Char) (index : Nat) (v : Datum) : Except OperationFault (List Char) :=
  match c with
  | 's' => (textOf v Datum.shown).map (cut f)
  | 'r' => (textOf v Datum.literal).map (cut f)
  | 'a' => (textOf v basicLiteral).map (cut f)
  | 'd' => decimal f c v
  | 'i' => decimal f c v
  | 'u' => decimal f c v
  | 'o' => based f c v
  | 'x' => based f c v
  | 'X' => based f c v
  | 'e' => realNumber f c v
  | 'E' => realNumber f c v
  | 'f' => realNumber f c v
  | 'F' => realNumber f c v
  | 'g' => realNumber f c v
  | 'G' => realNumber f c v
  | 'c' => character f v
  | c => .error (.badConversion c index)

/-- Fills the place after a percent sign. `length` is that of the whole
    template. -/
def place (length : Nat) (cs : List Char) : Fill (List Char × List Char) := do
  let cs ← readName cs
  let (f, cs) := flags {} cs
  let (f, cs) ← readWidth f cs
  let (f, cs) ← readPrecision f cs
  match dropSize cs with
  | [] => throw .openPlace
  | '%' :: rest => return (['%'], rest)
  | c :: rest =>
    let v ← next
    if roomLimit ≤ f.width then throw .noMemory
    let written ← liftM (write f c (length - rest.length - 1) v)
    return (written, rest)

/-- Fills the places of a template from left to right. -/
def fillAll (length : Nat) : Nat → List Char → Fill (List Char)
  | 0, cs => return cs
  | _ + 1, [] => return []
  | fuel + 1, c :: cs =>
    if c = '%' then do
      let (written, rest) ← place length cs
      let filled ← fillAll length fuel rest
      return written ++ filled
    else do
      let filled ← fillAll length fuel cs
      return c :: filled

/-- Fills a template with a datum. -/
def fill (template : String) (v : Datum) : Except OperationFault String := do
  let cs := template.toList
  let (filled, left) ← (fillAll cs.length (cs.length + 1) cs).run (Supply.of v)
  if left.names.isNone && !left.rest.isEmpty then .error .unused
  return String.ofList filled

end StateMachine.Template
