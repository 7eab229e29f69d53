/-!
# Binary floating point

The numbers of the 64-bit binary format, kept as exact dyadic rationals: a
finite number is its sign and a mantissa times a power of two, where a nonzero
mantissa is odd, so that a number has one representation only. Beside them
stand the two infinities and the *not a number*.

* Reading (`Binary64.ofDecimal`) takes a decimal to the nearest number, a tie
  to the one whose last bit is zero.
* Writing (`Binary64.text`) takes the fewest digits that read back, and of
  those the nearest to the number. Numbers from a ten-thousandth up to
  `10 ^ 16` are written positionally, all others with an exponent of at least
  two digits.
-/

namespace StateMachine

/-- A number of the 64-bit binary format. -/
inductive Binary64
  /-- The mantissa times two to the exponent; a nonzero mantissa is odd. -/
  | finite (negative : Bool) (mantissa : Nat) (exponent : Int)
  | infinite (negative : Bool)
  | nan
  deriving DecidableEq

namespace Binary64

/-- The powers of two. -/
def twoPow (n : Nat) : Nat := Nat.pow 2 n

/-- The powers of ten. -/
def tenPow (n : Nat) : Nat := Nat.pow 10 n

/-- The least exponent of two a last bit may have. -/
def leastExponent : Int := -1074

/-- Halves an even number until it is odd, counting the halvings in the
    exponent. -/
def stripTwos : Nat → Nat → Int → Nat × Int
  | 0, m, e => (m, e)
  | fuel + 1, m, e => if m ≠ 0 ∧ m % 2 = 0 then stripTwos fuel (m / 2) (e + 1) else (m, e)

/-- The number `m * 2 ^ e`, which must be one of the format. -/
def ofDyadic (negative : Bool) (m : Nat) (e : Int) : Binary64 :=
  if m = 0 then .finite negative 0 0
  else
    let (m', e') := stripTwos m.log2 m e
    .finite negative m' e'

/-- `num / den` times `2 ^ (-e)`, as a quotient. -/
def scaled (num den : Nat) (e : Int) : Nat × Nat :=
  if 0 ≤ e then (num, den * twoPow e.toNat) else (num * twoPow (-e).toNat, den)

/-- The quotient rounded to the nearest integer, a tie to the even one. -/
def roundDiv (num den : Nat) : Nat :=
  let q := num / den
  let r := num % den
  if 2 * r < den then q else if den < 2 * r then q + 1 else if q % 2 = 0 then q else q + 1

/-- The exponent of the last bit of the number nearest to `num / den`. -/
def lastBit (num den : Nat) : Int :=
  let e : Int := (num.log2 : Int) - den.log2 - 52
  let (n, d) := scaled num den e
  max leastExponent (if n / d < twoPow 52 then e - 1 else e)

/-- The number nearest to `num / den`. -/
def ofRatio (negative : Bool) (num den : Nat) : Binary64 :=
  if num = 0 then .finite negative 0 0
  else
    let e := lastBit num den
    let (n, d) := scaled num den e
    let m := roundDiv n d
    if 1024 ≤ (m.log2 : Int) + e then .infinite negative else ofDyadic negative m e

/-- The number nearest to `digits * 10 ^ exponent`. -/
def ofDecimal (negative : Bool) (digits : Nat) (exponent : Int) : Binary64 :=
  let size : Int := (Nat.toDigits 10 digits).length + exponent
  if digits = 0 ∨ size < -400 then .finite negative 0 0
  else if 400 < size then .infinite negative
  else if 0 ≤ exponent then ofRatio negative (digits * tenPow exponent.toNat) 1
  else ofRatio negative digits (tenPow (-exponent).toNat)

/-- The integer a finite number is, if it is one. -/
def toInt? : Binary64 → Option Int
  | .finite negative m e =>
    if 0 ≤ e then
      let n : Int := (m * twoPow e.toNat : Nat)
      some (if negative then -n else n)
    else none
  | _ => none

/-- A finite number with its fraction cut off. -/
def truncate? : Binary64 → Option Int
  | .finite negative m e =>
    let n : Nat := if 0 ≤ e then m * twoPow e.toNat else m / twoPow (-e).toNat
    some (if negative then -n else n)
  | _ => none

/-- Is the number zero, of either sign? -/
def isZero : Binary64 → Bool
  | .finite _ 0 _ => true
  | _ => false

/-- A finite number as a fraction with a power of two below. -/
def fraction : Bool → Nat → Int → Int × Nat
  | negative, m, e =>
    let n : Nat := if 0 ≤ e then m * twoPow e.toNat else m
    (if negative then -n else n, if 0 ≤ e then 1 else twoPow (-e).toNat)

/-- Is the first number below the second? Nothing is below or above the *not a
    number*. -/
def lt : Binary64 → Binary64 → Bool
  | .nan, _ => false
  | _, .nan => false
  | .infinite a, .infinite b => a && !b
  | .infinite a, .finite .. => a
  | .finite .., .infinite b => !b
  | .finite a m e, .finite b n f =>
    let (p, q) := fraction a m e
    let (r, s) := fraction b n f
    p * s < r * q

/-- Is the number the integer `i`? -/
def isInt (i : Int) : Binary64 → Bool
  | .finite negative m e =>
    let (p, q) := fraction negative m e
    p == i * q
  | _ => false

/-- Are the numbers equal? The two zeros are, the *not a number* is not equal
    even to itself. -/
def same : Binary64 → Binary64 → Bool
  | .finite a m e, .finite b n f =>
    let (p, q) := fraction a m e
    let (r, s) := fraction b n f
    p * s == r * q
  | .infinite a, .infinite b => a == b
  | _, _ => false

/-- The number nearest to an integer. -/
def ofInt (i : Int) : Binary64 :=
  ofRatio (i < 0) i.natAbs 1

/-! ## Writing -/

/-- The decimals `digits * 10 ^ exponent`. -/
structure Decimal where
  digits : Nat
  exponent : Int

/-- `v < w` for fractions `v = a / b` and `w = c / d`. -/
def below (a b c d : Nat) : Bool :=
  a * d < c * b

/-- The decimal with last digit at `10 ^ e` that reads back as the number: of
    the two neighbours of `num / den` in that grid the nearer one that lies
    between the bounds, given over the denominator `4 * den`. The bounds
    themselves count when `closed`. -/
def hit? (num den lowNum highNum : Nat) (closed : Bool) (e : Int) : Option Decimal :=
  let up := if 0 ≤ e then tenPow e.toNat else 1
  let down := if 0 ≤ e then 1 else tenPow (-e).toNat
  let q := (num * down) / (den * up)
  let inside (k : Nat) : Bool :=
    let n := k * up
    if closed then !below n down lowNum (4 * den) && !below highNum (4 * den) n down
    else below lowNum (4 * den) n down && below n down highNum (4 * den)
  let lowGap := num * down - q * (den * up)
  let highGap := (q + 1) * (den * up) - num * down
  match inside q, inside (q + 1) with
  | true, true =>
    some ⟨if lowGap < highGap || (lowGap == highGap && q % 2 == 0) then q else q + 1, e⟩
  | true, false => some ⟨q, e⟩
  | false, true => some ⟨q + 1, e⟩
  | false, false => none

/-- The shortest decimal: the first hit from the coarsest grid on. -/
def firstHit (num den lowNum highNum : Nat) (closed : Bool) : Nat → Int → Decimal
  | 0, e => (hit? num den lowNum highNum closed e).getD ⟨0, 0⟩
  | grids + 1, e =>
    match hit? num den lowNum highNum closed e with
    | some d => d
    | none => firstHit num den lowNum highNum closed grids (e - 1)

/-- Strips the zeros a decimal ends with. -/
def stripTens : Nat → Decimal → Decimal
  | 0, d => d
  | fuel + 1, d =>
    if d.digits ≠ 0 ∧ d.digits % 10 = 0 then stripTens fuel ⟨d.digits / 10, d.exponent + 1⟩ else d

/-- The fewest digits that read back as the positive number `m * 2 ^ e`. -/
def shortest (m : Nat) (e : Int) : Decimal :=
  -- the number with all the bits the format gives it
  let shift : Nat := min (52 - m.log2) (e - leastExponent).toNat
  let mantissa := m * twoPow shift
  let bit := e - shift
  let (num, den) := scaled mantissa 1 (-bit)
  let unit := num / mantissa
  let halfBelow := if mantissa = twoPow 52 ∧ leastExponent < bit then unit else 2 * unit
  let top : Int := (Nat.toDigits 10 (num / den)).length
  let start := if num / den = 0 then 1 - ((Nat.toDigits 10 (den / num)).length : Int) + 1 else top
  stripTens 20
    (firstHit num den (4 * num - halfBelow) (4 * num + 2 * unit) (mantissa % 2 = 0) 20 start)

/-- An exponent with its sign and at least two digits. -/
def exponentText (e : Int) : String :=
  let digits := toString e.natAbs
  (if e < 0 then "-" else "+") ++ (if digits.length < 2 then "0" ++ digits else digits)

/-- A positive decimal in the notation described above. -/
def decimalText (d : Decimal) : String :=
  let ds := (toString d.digits).toList
  let point : Int := ds.length + d.exponent
  if -4 < point ∧ point ≤ 16 then
    if point ≤ 0 then "0." ++ String.ofList (List.replicate (-point).toNat '0' ++ ds)
    else if ds.length ≤ point.toNat then
      String.ofList (ds ++ List.replicate (point.toNat - ds.length) '0') ++ ".0"
    else String.ofList (ds.take point.toNat) ++ "." ++ String.ofList (ds.drop point.toNat)
  else
    let lead := String.ofList (ds.take 1)
    let tail := String.ofList (ds.drop 1)
    lead ++ (if tail.isEmpty then "" else "." ++ tail) ++ "e" ++ exponentText (point - 1)

/-- The text of a number, with the words given for the infinity and the *not a
    number*. -/
def textWith (infinity notANumber : String) : Binary64 → String
  | .nan => notANumber
  | .infinite negative => (if negative then "-" else "") ++ infinity
  | .finite negative m e =>
    (if negative then "-" else "") ++ (if m = 0 then "0.0" else decimalText (shortest m e))

/-- The text of a number in a message. -/
def text (x : Binary64) : String :=
  textWith "inf" "nan" x

end Binary64
end StateMachine
