import StateMachine.Document.Value
import StateMachine.Document.Literal
import StateMachine.Number.DigitLimit
import StateMachine.Text.Blank
import StateMachine.Text.Decimal

/-!
# Values as integers

The integer a value stands for, where a setting asks for one. A text may have
spaces around it, a sign, digits of any script and single underscores between
digits; a floating point number loses its fraction.
-/

namespace StateMachine

/-- Why a value stands for no integer. -/
inductive IntegerFault
  | badText (s : String)
  /-- A text has too many digits. -/
  | tooLong (digits : Nat)
  | notANumber
  | infinite
  /-- No value of this kind is an integer. -/
  | badKind (kind : String)
  deriving DecidableEq

/-- The number of characters after which a text quoted in a fault is cut off. -/
def IntegerFault.quoteLength : Nat := 200

/-- The wording of a fault. -/
def IntegerFault.message : IntegerFault → String
  | .badText s =>
    "invalid literal for int() with base 10: "
      ++ String.ofList ((Text.quoted s).toList.take quoteLength)
  | .tooLong digits => DigitLimit.reading digits
  | .notANumber => "cannot convert float NaN to integer"
  | .infinite => "cannot convert float infinity to integer"
  | .badKind kind =>
    "int() argument must be a string, a bytes-like object or a real number, not '" ++ kind ++ "'"

namespace Integer

/-- The digits of a row of digits with single underscores between them.
    `afterDigit` tells whether the character before was a digit. -/
def digits? : Bool → List Char → Option (List Nat)
  | afterDigit, [] => if afterDigit then some [] else none
  | afterDigit, c :: cs =>
    if c = '_' then if afterDigit then digits? false cs else none
    else
      match Text.digitValue? c with
      | some d => (digits? true cs).map (d :: ·)
      | none => none

/-- May the character stand in a row of digits? -/
def isDigitOrMark (c : Char) : Bool :=
  c == '_' || (Text.digitValue? c).isSome

/-- The number written by a row of digits and nothing else. A row that is too
    long is refused before it is known what follows it. -/
def unsigned (s : String) (cs : List Char) : Except IntegerFault Nat :=
  match digits? false (cs.takeWhile isDigitOrMark) with
  | none => .error (.badText s)
  | some ds =>
    if DigitLimit.digits < ds.length then .error (.tooLong ds.length)
    else if (cs.dropWhile isDigitOrMark).isEmpty then .ok (ds.foldl (fun n d => n * 10 + d) 0)
    else .error (.badText s)

/-- Is `c` a blank that may stand around an integer? The information separators
    may not. -/
def isSpace (c : Char) : Bool :=
  Text.isBlank c && !(0x1c ≤ c.toNat && c.toNat ≤ 0x1f)

/-- The integer a text writes. -/
def ofText (s : String) : Except IntegerFault Int :=
  match Text.trimBy isSpace s.toList with
  | '-' :: cs => (unsigned s cs).map fun n => -(n : Int)
  | '+' :: cs => (unsigned s cs).map fun n => (n : Int)
  | cs => (unsigned s cs).map fun n => (n : Int)

end Integer

/-- The integer a value stands for. -/
def Value.toInteger : Value → Except IntegerFault Int
  | .bool b => .ok (if b then 1 else 0)
  | .int i => .ok i
  | .float x =>
    match x with
    | .nan => .error .notANumber
    | .infinite _ => .error .infinite
    | x => .ok (x.truncate?.getD 0)
  | .str s => Integer.ofText s
  | v => .error (.badKind v.kindName)

end StateMachine
