/-!
# Bits of integers

Integers as rows of bits that go on to the left without end: with zeros if the
integer is not negative, with ones if it is. The integer whose bits are all
flipped is one less than the one with the other sign, so an operation on
negative integers is one on the flipped bits.
-/

namespace StateMachine.Bits

/-- The number of bits of an integer without its sign. -/
def size (i : Int) : Nat :=
  if i = 0 then 0 else i.natAbs.log2 + 1

/-- The integer with all bits flipped. -/
def flipped (i : Int) : Int :=
  -i - 1

/-- The bits of a number that another one has not. -/
def without (m n : Nat) : Nat :=
  m ^^^ (m &&& n)

/-- The bits that both integers have. -/
def and (i j : Int) : Int :=
  match decide (0 ≤ i), decide (0 ≤ j) with
  | true, true => ((i.toNat &&& j.toNat : Nat) : Int)
  | true, false => (without i.toNat (flipped j).toNat : Int)
  | false, true => (without j.toNat (flipped i).toNat : Int)
  | false, false => flipped ((flipped i).toNat ||| (flipped j).toNat : Nat)

/-- The bits that one of the integers has. -/
def or (i j : Int) : Int :=
  flipped (and (flipped i) (flipped j))

/-- The bits that only one of the integers has. -/
def xor (i j : Int) : Int :=
  match decide (0 ≤ i), decide (0 ≤ j) with
  | true, true => ((i.toNat ^^^ j.toNat : Nat) : Int)
  | true, false => flipped (i.toNat ^^^ (flipped j).toNat : Nat)
  | false, true => flipped ((flipped i).toNat ^^^ j.toNat : Nat)
  | false, false => (((flipped i).toNat ^^^ (flipped j).toNat : Nat) : Int)

end StateMachine.Bits
