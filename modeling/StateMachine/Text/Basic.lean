/-!
# Text

Cutting, trimming and replacing in text. Every operation is defined on the
list of characters, where its laws are stated, and lifted to strings by
`onChars`. A *separator* is always a non-empty text; the occurrences of it
that matter are the first, the last, or all of them from left to right
without overlap.
-/

namespace StateMachine.Text

/-- Applies an operation on characters to a string. -/
def onChars (f : List Char → List Char) (s : String) : String :=
  String.ofList (f s.toList)

/-- The characters a text ends with, as long as they satisfy `p`, are dropped. -/
def dropEndWhile (p : Char → Bool) (cs : List Char) : List Char :=
  (cs.reverse.dropWhile p).reverse

/-- The characters satisfying `p` are dropped at both ends. -/
def trimBy (p : Char → Bool) (cs : List Char) : List Char :=
  dropEndWhile p (cs.dropWhile p)

/-- The text before and after the first occurrence of `sep`. -/
def cutFirst (sep : List Char) : List Char → Option (List Char × List Char)
  | [] => none
  | c :: cs =>
    if sep.isPrefixOf (c :: cs) then some ([], (c :: cs).drop sep.length)
    else (cutFirst sep cs).map fun r => (c :: r.1, r.2)

/-- The text before and after the last occurrence of `sep`. -/
def cutLast (sep : List Char) (cs : List Char) : Option (List Char × List Char) :=
  (cutFirst sep.reverse cs.reverse).map fun r => (r.2.reverse, r.1.reverse)

/-- Does `sep` occur in the text? -/
def occursIn (sep cs : List Char) : Bool :=
  (cutFirst sep cs).isSome

/-- Every occurrence of `old` becomes `new`; `skip` characters, the rest of an
    occurrence already replaced, are passed over. -/
def replaceAfter (old new : List Char) : Nat → List Char → List Char
  | _, [] => []
  | skip + 1, _ :: cs => replaceAfter old new skip cs
  | 0, c :: cs =>
    if old.isPrefixOf (c :: cs) then new ++ replaceAfter old new (old.length - 1) cs
    else c :: replaceAfter old new 0 cs

/-- Every occurrence of `old`, from left to right, becomes `new`. -/
def replaceAll (old new cs : List Char) : List Char :=
  replaceAfter old new 0 cs

/-- The pieces between runs of characters satisfying `p`; no piece is empty. -/
def wordsBy (p : Char → Bool) : List Char → List (List Char)
  | [] => []
  | c :: cs =>
    if p c then wordsBy p cs
    else
      match cs with
      | [] => [[c]]
      | d :: _ =>
        if p d then [c] :: wordsBy p cs
        else
          match wordsBy p cs with
          | [] => [[c]]
          | w :: ws => (c :: w) :: ws

/-- Does `s` contain `sep`? -/
def contains (sep s : String) : Bool :=
  occursIn sep.toList s.toList

/-- The text before and after the last occurrence of `sep` in `s`. -/
def cutLast? (sep s : String) : Option (String × String) :=
  (cutLast sep.toList s.toList).map fun r => (String.ofList r.1, String.ofList r.2)

/-- The text before the first occurrence of `sep`, or all of `s`. -/
def before (sep s : String) : String :=
  match cutFirst sep.toList s.toList with
  | some (l, _) => String.ofList l
  | none => s

/-- Every occurrence of `old` in `s` becomes `new`. -/
def replace (old new s : String) : String :=
  onChars (replaceAll old.toList new.toList) s

/-- A text made of `n` spaces. -/
def spaces (n : Nat) : String :=
  String.ofList (List.replicate n ' ')

/-- The texts, each ended by a line break. -/
def unlines (ls : List String) : String :=
  String.join (ls.map fun l => l ++ "\n")

/-- The texts with `sep` between them. -/
def joined (sep : String) (ls : List String) : String :=
  sep.intercalate ls

end StateMachine.Text
