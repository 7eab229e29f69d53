import StateMachine.Number.Binary64

/-!
# A given number of places

Floating point numbers written with a given number of digits: after the point
(`fixed`), after the first digit and with an exponent (`scientific`), or in all
(`general`, in the shorter of both notations). The last digit is rounded to the
nearest, a tie to the even one.
-/

namespace StateMachine.Binary64

/-- A finite number without its sign as a quotient. -/
def ratio (m : Nat) (e : Int) : Nat × Nat :=
  scaled m 1 (-e)

/-- The digits of a number, at least `least` of them. -/
def paddedDigits (least n : Nat) : List Char :=
  let ds := Nat.toDigits 10 n
  List.replicate (least - ds.length) '0' ++ ds

/-- Digits with a point before the last `places` of them. A point without digits
    after it is only written if `pointed`. -/
def withPoint (places : Nat) (pointed : Bool) (ds : List Char) : String :=
  let whole := ds.take (ds.length - places)
  let rest := ds.drop (ds.length - places)
  String.ofList whole ++ (if places = 0 && !pointed then "" else ".") ++ String.ofList rest

/-- The number `m * 2 ^ e` with digits after the point. -/
def fixed (places : Nat) (pointed : Bool) (m : Nat) (e : Int) : String :=
  let (num, den) := ratio m e
  withPoint places pointed (paddedDigits (places + 1) (roundDiv (num * tenPow places) den))

/-- `num / den` over a power of ten, rounded. -/
def roundAt (num den : Nat) (power : Int) : Nat :=
  if 0 ≤ power then roundDiv num (den * tenPow power.toNat)
  else roundDiv (num * tenPow (-power).toNat) den

/-- The power of ten of the first digit of a positive quotient. -/
def firstPower (num den : Nat) : Int :=
  if den ≤ num then ((Nat.toDigits 10 (num / den)).length : Int) - 1
  else
    let n := (Nat.toDigits 10 (den / num)).length
    -- the quotient is between two powers of ten, or one of them
    if den ≤ num * tenPow (n - 1) then -((n : Int) - 1) else -(n : Int)

/-- The digits of a number, one and `places` more, and the power of ten of the
    first one. -/
def scientificDigits (places : Nat) (m : Nat) (e : Int) : List Char × Int :=
  if m = 0 then (List.replicate (places + 1) '0', 0)
  else
    let (num, den) := ratio m e
    let power := firstPower num den
    let n := roundAt num den (power - places)
    if tenPow (places + 1) ≤ n then (paddedDigits (places + 1) (n / 10), power + 1)
    else (paddedDigits (places + 1) n, power)

/-- The number `m * 2 ^ e` with digits after the first one, and an exponent. -/
def scientific (places : Nat) (pointed : Bool) (m : Nat) (e : Int) : String :=
  let (ds, power) := scientificDigits places m e
  withPoint places pointed ds ++ "e" ++ exponentText power

/-- Digits without the zeros they end with. -/
def withoutZeros (ds : List Char) : List Char :=
  (ds.reverse.dropWhile (· == '0')).reverse

/-- The number `m * 2 ^ e` with so many digits in all, zeros at its end only
    written if `pointed`. -/
def general (digits : Nat) (pointed : Bool) (m : Nat) (e : Int) : String :=
  let digits := max 1 digits
  let (ds, power) := scientificDigits (digits - 1) m e
  let kept := if pointed then ds else ds.take 1 ++ withoutZeros (ds.drop 1)
  if -4 ≤ power && power < digits then
    if power < 0 then
      let all := List.replicate (-power).toNat '0' ++ withoutZeros ds
      let all := if pointed then List.replicate (-power).toNat '0' ++ ds else all
      withPoint (all.length - 1) pointed all
    else
      let whole := power.toNat + 1
      let rest := if pointed then ds.drop whole else withoutZeros (ds.drop whole)
      withPoint rest.length pointed (ds.take whole ++ rest)
  else withPoint (kept.length - 1) pointed kept ++ "e" ++ exponentText power

end StateMachine.Binary64
