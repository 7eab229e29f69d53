import Std.Data.HashMap
import StateMachine.Expression.Token
import StateMachine.Expression.Tree

/-!
# Parsing

A *parse* goes through the tokens of a scanned text from some place on. It finds
what it looks for and ends after it, or it does not find it; then something
else may be tried from the same place. It ends in a fault where there is
nothing to be tried any more.

Two things are kept in mind besides the place: how far the tokens were looked
at, because a generic fault is found at the last one, and what the rules of the
grammar found at the places where they were tried already, so that no rule is
tried twice at one place.

A text that is no expression is gone through a second time. Then the parse is
*advising*: rules that describe common mistakes are tried as well, and end in
a fault that says what was meant.
-/

namespace StateMachine

/-- The rules of the grammar whose findings are kept in mind. -/
inductive Rule
  | expression
  /-- An expression without any advice on it. -/
  | plainExpression
  | disjunction
  | conjunction
  | inversion
  | bitOr
  | factor
  /-- Something that can be assigned to. -/
  | target
  deriving DecidableEq, Hashable

/-- The state of a parse. -/
structure Parsing where
  /-- The number of the next token. -/
  place : Nat := 0
  /-- The number of tokens that were looked at. -/
  reached : Nat := 0
  advising : Bool := false
  /-- What rules found at places, and where it ends. -/
  known : Std.HashMap (Rule × Nat) (Option (Expr × Nat)) := {}

/-- A way through tokens. -/
abbrev Parse (α : Type) :=
  ReaderT Scan (OptionT (ExceptT GrammarFault (StateM Parsing))) α

namespace Parse

variable {α β : Type}

/-- Finds nothing. -/
def fail : Parse α :=
  failure

/-- Ends in a fault. -/
def blame (f : GrammarFault) : Parse α :=
  throwThe GrammarFault f

/-- Goes to a place. -/
def goTo (place : Nat) : Parse Unit :=
  modify fun s => { s with place := place }

/-- What a parse finds, if it finds anything; otherwise the place stays the
    same. -/
def attempt (p : Parse α) : Parse (Option α) := fun scan => OptionT.mk do
  let place := (← get).place
  match ← (p scan).run with
  | some a => return some (some a)
  | none =>
    modify fun s => { s with place := place }
    return some none

/-- What the first of several parses finds that finds anything. -/
def first : List (Parse α) → Parse α
  | [] => fail
  | p :: ps => do
    match ← attempt p with
    | some a => return a
    | none => first ps

/-- Would a parse find anything? The place stays the same. -/
def finds (p : Parse α) : Parse Bool := do
  let place := (← get).place
  let found ← attempt p
  goTo place
  return found.isSome

/-- Finds nothing where a parse would find something. -/
def notAhead (p : Parse α) : Parse Unit := do
  if ← finds p then fail

/-- Finds nothing where a parse would find nothing. -/
def ahead (p : Parse α) : Parse Unit := do
  if !(← finds p) then fail

/-- What a parse finds again and again, up to a number of times. -/
def upTo (p : Parse α) : Nat → Parse (List α)
  | 0 => return []
  | n + 1 => do
    match ← attempt p with
    | some a =>
      let rest ← upTo p n
      return a :: rest
    | none => return []

/-- What a parse finds again and again. -/
def many (p : Parse α) : Parse (List α) := do
  let scan ← read
  upTo p scan.lexemes.size

/-! ## Tokens -/

/-- The next token. Where the text cannot be read it ends in a fault. -/
def peek : Parse Lexeme := do
  let scan ← read
  let place := (← get).place
  modify fun s => { s with reached := max s.reached (place + 1) }
  match scan.lexemes[place]?, scan.stop with
  | some l, _ => return l
  | none, some stop => blame stop.fault
  | none, none => fail

/-- The line of the next token. -/
def line : Parse Nat := do
  let l ← peek
  return l.line

/-- The line of the last token looked at. -/
def lastLine : Parse Nat := do
  let scan ← read
  let reached := (← get).reached
  return (scan.lexemes[reached - 1]?.map Lexeme.line).getD 0

/-- The number of brackets open after the last token passed. -/
def lastDepth : Parse Nat := do
  let scan ← read
  let place := (← get).place
  return (scan.lexemes[place - 1]?.map Lexeme.depth).getD 0

/-- Passes the next token if `f` makes something of it. -/
def take? (f : Token → Option α) : Parse α := do
  let l ← peek
  match f l.token with
  | some a =>
    modify fun s => { s with place := s.place + 1 }
    return a
  | none => fail

/-- A certain token. -/
def token (t : Token) : Parse Unit :=
  take? fun u => if u = t then some () else none

/-- A mark. -/
def mark (s : String) : Parse Unit :=
  token (.mark s)

/-- A reserved word. -/
def word (s : String) : Parse Unit :=
  token (.word s)

/-- A name. -/
def name : Parse String :=
  take? fun
    | .name s => some s
    | _ => none

/-- A number. -/
def number : Parse Numeral :=
  take? fun
    | .number n => some n
    | _ => none

/-- A quotation. -/
def quotation : Parse Quotation :=
  take? fun
    | .text q => some q
    | _ => none

/-- Things with commas between them, one at least. -/
def separated (p : Parse α) : Parse (List α) := do
  let a ← p
  let rest ← many do
    mark ","
    p
  return a :: rest

/-- Passes a comma, if there is one. -/
def optionalComma : Parse Unit := do
  let _ ← attempt (mark ",")

/-! ## Rules -/

/-- Keeps in mind what a rule finds. -/
def remembered (rule : Rule) (p : Parse Expr) : Parse Expr := do
  let s ← get
  match s.known.get? (rule, s.place) with
  | some (some (e, place)) =>
    goTo place
    return e
  | some none => fail
  | none =>
    let found ← attempt p
    modify fun t =>
      { t with known := t.known.insert (rule, s.place) (found.map fun e => (e, t.place)) }
    match found with
    | some e => return e
    | none => fail

/-- A parse that is only tried when advice is given. -/
def whenAdvising (p : Parse α) : Parse α := do
  if (← get).advising then p else fail

/-- A parse during which no advice is given. -/
def quietly (p : Parse α) : Parse α := do
  let advising := (← get).advising
  modify fun s => { s with advising := false }
  let found ← attempt p
  modify fun s => { s with advising := advising }
  match found with
  | some a => return a
  | none => fail

/-- Descriptions of mistakes, each with its fault; it may turn out to be none.
    The first one that fits counts. -/
def advise : List (Parse (Option GrammarFault)) → Parse α
  | [] => fail
  | p :: ps => do
    match ← attempt p with
    | some (some f) => blame f
    | some none => fail
    | none => advise ps

/-- What a parse comes to from the beginning of a scanned text. -/
def runFrom (p : Parse α) (scan : Scan) (s : Parsing) :
    Except GrammarFault (Option α) × Parsing :=
  (p scan).run.run.run s

end Parse
end StateMachine
