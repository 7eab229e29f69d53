import StateMachine.Number.Binary64

/-!
# Arithmetic of floating point numbers

Every operation gives the number nearest to its exact result. A result of zero
has a sign: a sum has that of its summands if they agree, a product or quotient
that of its operands. Where there is no result it is *not a number*.

A remainder has the sign of the divisor, and a floored quotient belongs to it.
-/

namespace StateMachine.Binary64

/-- The number nearest to a fraction, with a sign for zero. -/
def ofFraction (negativeZero : Bool) (num : Int) (den : Nat) : Binary64 :=
  if num = 0 then .finite negativeZero 0 0 else ofRatio (num < 0) num.natAbs den

/-- Is the number below zero, or the zero below it? -/
def isNegative : Binary64 → Bool
  | .finite negative _ _ => negative
  | .infinite negative => negative
  | .nan => false

/-- The zero of a sign. -/
def zero (negative : Bool) : Binary64 :=
  .finite negative 0 0

/-- One. -/
def one : Binary64 :=
  .finite false 1 0

/-- The number with the other sign. -/
def neg : Binary64 → Binary64
  | .finite negative m e => .finite (!negative) m e
  | .infinite negative => .infinite (!negative)
  | .nan => .nan

/-- The number without its sign. -/
def abs : Binary64 → Binary64
  | .finite _ m e => .finite false m e
  | .infinite _ => .infinite false
  | .nan => .nan

/-- The sum of two numbers. -/
def add : Binary64 → Binary64 → Binary64
  | .nan, _ => .nan
  | _, .nan => .nan
  | .infinite a, .infinite b => if a = b then .infinite a else .nan
  | .infinite a, .finite .. => .infinite a
  | .finite .., .infinite b => .infinite b
  | .finite a m e, .finite b n f =>
    let (p, q) := fraction a m e
    let (r, s) := fraction b n f
    ofFraction (a && b) (p * s + r * q) (q * s)

/-- The difference of two numbers. -/
def sub (x y : Binary64) : Binary64 :=
  add x (neg y)

/-- The product of two numbers. -/
def mul : Binary64 → Binary64 → Binary64
  | .finite a m e, .finite b n f =>
    let (p, q) := fraction a m e
    let (r, s) := fraction b n f
    ofFraction (a != b) (p * r) (q * s)
  | .nan, _ => .nan
  | _, .nan => .nan
  | x, y => if x.isZero || y.isZero then .nan else .infinite (x.isNegative != y.isNegative)

/-- The quotient of two numbers, of which the second is not zero. -/
def div : Binary64 → Binary64 → Binary64
  | .finite a m e, .finite b n f =>
    let (p, q) := fraction a m e
    let (r, s) := fraction b n f
    if r = 0 then .nan
    else ofFraction (a != b) (if r < 0 then -(p * s) else p * s) (q * r.natAbs)
  | .finite a .., .infinite b => zero (a != b)
  | .infinite a, .finite b .. => .infinite (a != b)
  | _, _ => .nan

/-- A whole power of a number; one of zero has no exponent below zero. -/
def power (x : Binary64) (n : Int) : Binary64 :=
  let isOdd := n % 2 = 1
  match x with
  | .nan => .nan
  | .infinite a => if 0 < n then .infinite (a && isOdd) else zero (a && isOdd)
  | .finite a m e =>
    let (p, q) := fraction a m e
    if 0 ≤ n then ofFraction (a && isOdd) (Int.pow p n.toNat) (Nat.pow q n.toNat)
    else ofRatio (a && isOdd) (Nat.pow q n.natAbs) (Nat.pow p.natAbs n.natAbs)

/-- The remainder of the division without fraction, with the sign of the
    dividend. -/
def truncatedRem : Binary64 → Binary64 → Binary64
  | .finite a m e, .finite b n f =>
    let (p, q) := fraction a m e
    let (r, s) := fraction b n f
    if r = 0 then .nan
    else ofFraction a (Int.tmod (p * s) (r * q)) (q * s)
  | .finite a m e, .infinite _ => .finite a m e
  | _, _ => .nan

/-- The remainder with the sign of the divisor, and whether it was moved there. -/
def flooredRem (x y : Binary64) : Binary64 × Bool :=
  let r := truncatedRem x y
  if r.isZero then (zero y.isNegative, false)
  else if r = .nan then (r, false)
  else if r.isNegative != y.isNegative then (add r y, true)
  else (r, false)

/-- The remainder, with the sign of the divisor. -/
def mod (x y : Binary64) : Binary64 :=
  (flooredRem x y).1

/-- The greatest integral number that is not above a number. -/
def floor : Binary64 → Binary64
  | .finite negative m e =>
    let (p, q) := fraction negative m e
    ofFraction negative (p.fdiv q) 1
  | x => x

/-- The floored quotient. -/
def floorDiv (x y : Binary64) : Binary64 :=
  let q := div (sub x (truncatedRem x y)) y
  let q := if (flooredRem x y).2 then sub q one else q
  if q.isZero then zero (x.isNegative != y.isNegative)
  else
    let f := floor q
    if lt (div one (.finite false 1 1)) (sub q f) then add f one else f

end StateMachine.Binary64
