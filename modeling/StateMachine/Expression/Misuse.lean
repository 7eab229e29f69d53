import StateMachine.Expression.Fault
import StateMachine.Expression.Tree

/-!
# Misuse

What can be written by the rules of grammar, but still is no expression: two
arguments of the same name, a word that only makes sense in a function, and a
name that nothing can be assigned to.
-/

namespace StateMachine.Expr

/-- The first name of an argument that another has as well, or that nothing can be
    assigned to. -/
def namesMisuse? : List (Option String × Expr) → Option GrammarCause
  | [] => none
  | (none, _) :: rest => namesMisuse? rest
  | (some s, _) :: rest =>
    if s = fixedName then some (.badTarget s)
    else if rest.any fun e => e.1 == some s then some (.repeatedArgument s)
    else namesMisuse? rest

/-- The misuse that a construct is. -/
def constructMisuse? : Construct → Option GrammarCause
  | .yielding => some (.outsideFunction "yield")
  | .awaiting => some (.outsideFunction "await")
  | _ => none

mutual

/-- What is misused in an expression first. -/
def misuse? : Expr → Option GrammarCause
  | .constant _ => none
  | .name _ => none
  | .member e _ => misuse? e
  | .item e index => misuse? e <|> misuse? index
  | .slice low high step => optionMisuse? low <|> optionMisuse? high <|> optionMisuse? step
  | .call f args named =>
    misuse? f <|> namesMisuse? named <|> itemsMisuse? args <|> namedMisuse? named
  | .starred e => misuse? e
  | .list items => itemsMisuse? items
  | .tuple items => itemsMisuse? items
  | .table entries => entriesMisuse? entries
  | .sign _ e => misuse? e
  | .binary _ l r => misuse? l <|> misuse? r
  | .compare first rest => misuse? first <|> restMisuse? rest
  | .not e => misuse? e
  | .and l r => misuse? l <|> misuse? r
  | .or l r => misuse? l <|> misuse? r
  | .choose condition yes no => misuse? condition <|> misuse? yes <|> misuse? no
  | .assign s e => misuse? e <|> if s = fixedName then some (.badTarget s) else none
  | .other c => constructMisuse? c

/-- What is misused in a part that may be missing. -/
def optionMisuse? : Option Expr → Option GrammarCause
  | none => none
  | some e => misuse? e

/-- What is misused in a row. -/
def itemsMisuse? : List Expr → Option GrammarCause
  | [] => none
  | e :: es => misuse? e <|> itemsMisuse? es

/-- What is misused in arguments with names. -/
def namedMisuse? : List (Option String × Expr) → Option GrammarCause
  | [] => none
  | (_, e) :: es => misuse? e <|> namedMisuse? es

/-- What is misused in the entries of a table. -/
def entriesMisuse? : List (Option Expr × Expr) → Option GrammarCause
  | [] => none
  | (k, e) :: es => optionMisuse? k <|> misuse? e <|> entriesMisuse? es

/-- What is misused in the further comparisons of a chain. -/
def restMisuse? : List (CompareOp × Expr) → Option GrammarCause
  | [] => none
  | (_, e) :: es => misuse? e <|> restMisuse? es

end

end StateMachine.Expr
