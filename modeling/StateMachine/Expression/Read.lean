import StateMachine.Expression.Grammar
import StateMachine.Expression.Misuse

/-!
# Reading an expression

A text is read in two passes. The first one tells whether it is an expression.
If it is none, the second one tries the descriptions of common mistakes as
well. Where none of them fits, the fault is found at the last token the first
pass looked at.

A fault found among the tokens gives way to one that is found further on in
the text, where it cannot be read. An expression may still be at fault where a
word or a name is misused.
-/

namespace StateMachine.Expr

/-- How deep the rules may go for a number of tokens. -/
def depthFor (tokens : Nat) : Nat :=
  8 * (tokens + 1)

/-- What a pass comes to. -/
def pass (scan : Scan) (s : Parsing) : Except GrammarFault (Option Expr) × Parsing :=
  (Grammar.whole (Grammar.rule (depthFor scan.lexemes.size))).runFrom scan s

/-- The fault at the last token a pass looked at. -/
def generic (scan : Scan) (s : Parsing) : GrammarFault :=
  match scan.lexemes[s.reached - 1]? with
  | some l => ⟨if l.token = .indent then .indented else .unexpected, l.line⟩
  | none => ⟨.unexpected, 0⟩

/-- The fault that counts, given one among the tokens a pass looked at: what
    cannot be read after them counts before it. An open bracket counts only if it
    stands on an earlier line. -/
def weighed (scan : Scan) (s : Parsing) (f : GrammarFault) : GrammarFault :=
  match scan.stop with
  | none => f
  | some stop =>
    if scan.lexemes.size < s.reached then f
    else if stop.isLoud then stop.fault
    else
      match stop.opening with
      | none => f
      | some (c, line) =>
        let here := (scan.lexemes[s.reached - 1]?.map Lexeme.line).getD 0
        if line < here then ⟨.unclosed c, line⟩ else f

/-- The fault that counts, given one that a rule found. It does not give way if
    the end of the text was met. -/
def weighedAdvice (scan : Scan) (s : Parsing) (f : GrammarFault) : GrammarFault :=
  if scan.lexemes[s.reached - 1]?.any Lexeme.meetsEnd then f else weighed scan s f

/-- The fault of a text that is no expression, after the first pass. -/
def diagnose (scan : Scan) (s : Parsing) : GrammarFault :=
  let (result, t) := pass scan { reached := s.reached, advising := true }
  match result with
  | .error f => weighedAdvice scan t f
  | .ok _ =>
    let f := generic scan s
    if f.cause = .indented then f else weighed scan t f

/-- Is the character a blank that may stand before an expression? -/
def isLeading (c : Char) : Bool :=
  c == ' ' || c == '\t'

/-- An expression in which nothing is misused. -/
def checked (e : Expr) : Except GrammarFault Expr :=
  match e.misuse? with
  | some cause => .error ⟨cause, 1⟩
  | none => .ok e

/-- Reads an expression. -/
def read (text : String) : Except GrammarFault Expr :=
  let cs := text.toList
  if cs.any fun c => c.toNat = 0 then .error ⟨.nullCharacter, 0⟩
  else
    let scan := Scan.ofChars (cs.dropWhile isLeading)
    let (result, s) := pass scan {}
    match result with
    | .error f => .error (weighedAdvice scan s f)
    | .ok (some e) => checked e
    | .ok none => .error (diagnose scan s)

end StateMachine.Expr
