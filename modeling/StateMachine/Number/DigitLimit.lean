import StateMachine.Number.Binary64

/-!
# The limit on digits

Turning a long row of decimal digits into an integer, or an integer into its
digits, takes more than linear time. Integers with more digits than a limit are
therefore neither read from a text nor written as one; all else can be done
with them. Digits are counted as they are written, zeros in front included.
-/

namespace StateMachine.DigitLimit

/-- The greatest number of decimal digits. -/
def digits : Nat := 4300

/-- What the wordings of both faults begin and end with. -/
def wording (detail : String) : String :=
  "Exceeds the limit (" ++ toString digits ++ " digits) for integer string conversion" ++ detail
    ++ "; use sys.set_int_max_str_digits() to increase the limit"

/-- The wording of the fault of reading this many digits. -/
def reading (count : Nat) : String :=
  wording (": value has " ++ toString count ++ " digits")

/-- The wording of the fault of writing an integer. -/
def writing : String :=
  wording ""

/-- The least number with too many digits. -/
def bound : Nat := Binary64.tenPow digits

/-- Has the integer too many digits to be written? -/
def isExceeded (i : Int) : Bool :=
  bound ≤ i.natAbs

end StateMachine.DigitLimit
