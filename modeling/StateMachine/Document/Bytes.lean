/-!
# Reading text from bytes

A file is a list of bytes and holds text in UTF-8. The first byte of a
character tells how many follow and between which bounds the second one lies;
the others lie between `0x80` and `0xbf`. Bytes that are no text end in a
`Malformed`, which tells where and why.

The text of a file is read with every line break, `\r\n` or `\r`, as `\n`.
-/

namespace StateMachine.Bytes

/-- Why bytes are no text. -/
inductive Reason
  /-- No character begins with this byte. -/
  | startByte
  /-- The character is not continued as its first byte asks. -/
  | continuation
  /-- The bytes end inside a character. -/
  | endOfData
  deriving DecidableEq

/-- Where and why bytes are no text: the faulty bytes are those from `first` up
    to `last`, the first of them being `byte`. -/
structure Malformed where
  byte : UInt8
  first : Nat
  last : Nat
  reason : Reason

/-- The wording of a reason. -/
def Reason.message : Reason → String
  | .startByte => "invalid start byte"
  | .continuation => "invalid continuation byte"
  | .endOfData => "unexpected end of data"

/-- A byte as two hexadecimal digits. -/
def hexByte (b : UInt8) : String :=
  let digits := Nat.toDigits 16 b.toNat
  String.ofList (List.replicate (2 - digits.length) '0' ++ digits)

/-- The wording of a fault. -/
def Malformed.message (m : Malformed) : String :=
  let place :=
    if m.first = m.last then "byte 0x" ++ hexByte m.byte ++ " in position " ++ toString m.first
    else "bytes in position " ++ toString m.first ++ "-" ++ toString m.last
  "'utf-8' codec can't decode " ++ place ++ ": " ++ m.reason.message

/-- What the first byte of a character of several bytes asks for: the value of
    its own bits and the bounds of each byte to come. -/
def lead? (b : UInt8) : Option (Nat × List (Nat × Nat)) :=
  let n := b.toNat
  let tail := (0x80, 0xbf)
  if 0xc2 ≤ n ∧ n ≤ 0xdf then some (n - 0xc0, [tail])
  else if n = 0xe0 then some (0, [(0xa0, 0xbf), tail])
  else if n = 0xed then some (0xd, [(0x80, 0x9f), tail])
  else if 0xe1 ≤ n ∧ n ≤ 0xef then some (n - 0xe0, [tail, tail])
  else if n = 0xf0 then some (0, [(0x90, 0xbf), tail, tail])
  else if 0xf1 ≤ n ∧ n ≤ 0xf3 then some (n - 0xf0, [tail, tail, tail])
  else if n = 0xf4 then some (4, [(0x80, 0x8f), tail, tail])
  else none

/-- Reads the bytes of text. `pending` holds the character under way: its first
    byte and position, the bits read so far and the bounds of the bytes still
    to come; `at` is the position of the next byte. -/
def decodeFrom (pending : Option (UInt8 × Nat × Nat × List (Nat × Nat))) (position : Nat) :
    List UInt8 → Except Malformed (List Char)
  | [] =>
    match pending with
    | none => .ok []
    | some (b, start, _, _) => .error ⟨b, start, position - 1, .endOfData⟩
  | c :: rest =>
    match pending with
    | some (b, start, bits, bounds) =>
      match bounds with
      | (low, high) :: more =>
        if low ≤ c.toNat ∧ c.toNat ≤ high then
          let bits := bits * 64 + (c.toNat - 0x80)
          match more with
          | [] => (decodeFrom none (position + 1) rest).map (Char.ofNat bits :: ·)
          | _ => decodeFrom (some (b, start, bits, more)) (position + 1) rest
        else .error ⟨b, start, position - 1, .continuation⟩
      | [] => .error ⟨b, start, position - 1, .continuation⟩
    | none =>
      if c.toNat < 0x80 then (decodeFrom none (position + 1) rest).map (Char.ofNat c.toNat :: ·)
      else
        match lead? c with
        | some (bits, bounds) => decodeFrom (some (c, position, bits, bounds)) (position + 1) rest
        | none => .error ⟨c, position, position, .startByte⟩

/-- The characters the bytes stand for. -/
def decode (bytes : List UInt8) : Except Malformed (List Char) :=
  decodeFrom none 0 bytes

/-- Every line break becomes a line feed. -/
def plainBreaks : List Char → List Char
  | [] => []
  | '\r' :: '\n' :: cs => '\n' :: plainBreaks cs
  | '\r' :: cs => '\n' :: plainBreaks cs
  | c :: cs => c :: plainBreaks cs

/-- The text of a file. -/
def fileText (bytes : List UInt8) : Except Malformed (List Char) :=
  (decode bytes).map plainBreaks

end StateMachine.Bytes
