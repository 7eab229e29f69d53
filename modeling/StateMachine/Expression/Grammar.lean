import StateMachine.Expression.Parse

/-!
# The grammar of expressions

From the loosest to the tightest binding: choices (`a if c else b`), `or`, `and`,
`not`, comparisons, operations on bits, shifts, sums, products, signs, powers,
and calls, items and attributes. A row of expressions with commas outside other
brackets is a tuple.

Every rule is given over the rules it goes back to (`Rules`); `rule` ties them
together. A rule passes a token before it comes back to itself, so a fixed
multiple of the number of tokens bounds how deep the rules go.

Beside the rules stand descriptions of common mistakes. They are tried only if
a text turned out to be no expression.
-/

namespace StateMachine.Grammar

open Parse

/-- The rules by their names. -/
abbrev Rules := Rule → Parse Expr

/-! ## Operands -/

/-- The value of quotations that follow one another. -/
def quotations : Parse Expr := do
  let q ← quotation
  let qs ← many quotation
  match Quotation.meaning (q :: qs) with
  | .ok (.text s) => return .constant (.text s)
  | .ok .bytes => return .other .bytes
  | .ok .filled => return .other .filledText
  | .error cause => blame ⟨cause, ← lastLine⟩

/-- The value of a number. -/
def numeral : Parse Expr := do
  let l ← line
  match ← number with
  | .int n => return .constant (.int n)
  | .float x => return .constant (.float x)
  | .imaginary => return .other .imaginary
  | .tooLong digits => blame ⟨.tooLong digits, l⟩

/-- The constants that are words. -/
def wordConstants : List (String × Constant) :=
  [("True", .bool true), ("False", .bool false), ("None", .none)]

/-- A constant that is a word. -/
def wordConstant : Parse Expr :=
  take? fun
    | .word s => (wordConstants.lookup s).map .constant
    | _ => none

/-- A value with a name: `name := value`. -/
def naming (rules : Rules) : Parse Expr := do
  let s ← name
  mark ":="
  let e ← rules .expression
  return .assign s e

/-- An expression that is not given a name. -/
def unnamed (rules : Rules) : Parse Expr := do
  let e ← rules .expression
  notAhead (mark ":=")
  return e

/-- Assignments that stand in place of comparisons. -/
def assignmentMistakes (rules : Rules) : List (Parse (Option GrammarFault)) := [
  do
    let l ← line
    let e ← rules .expression
    mark ":="
    let _ ← rules .expression
    return some ⟨.namedTo e.called, l⟩,
  do
    let l ← line
    let _ ← name
    mark "="
    let _ ← rules .bitOr
    notAhead (first [mark "=", mark ":="])
    return some ⟨.assigned, l⟩,
  do
    let l ← line
    notAhead (first [word "True", word "None", word "False"])
    let e ← rules .bitOr
    match e with
    | .list _ => fail
    | .tuple _ => fail
    | .other .generator => fail
    | e =>
      mark "="
      let _ ← rules .bitOr
      notAhead (first [mark "=", mark ":="])
      return some ⟨.assignedTo e.called, l⟩]

/-- An expression, with a name or without one. -/
def named (rules : Rules) : Parse Expr :=
  first [naming rules, whenAdvising (advise (assignmentMistakes rules)), unnamed rules]

/-- An expression whose elements take its place. After a star nothing else can be
    meant. -/
def starred (rules : Rules) : Parse Expr :=
  first [
    do
      mark "*"
      let e ← rules .expression
      return .starred e,
    do
      mark "*"
      blame ⟨.loneStar, ← lastLine⟩]

/-- An item of a display. -/
def displayItem (rules : Rules) : Parse Expr :=
  first [
    do
      mark "*"
      let e ← rules .bitOr
      return .starred e,
    named rules]

/-- The items of a display. -/
def displayItems (rules : Rules) : Parse (List Expr) := do
  let items ← separated (displayItem rules)
  optionalComma
  return items

/-- An item of a row. -/
def rowItem (rules : Rules) : Parse Expr :=
  first [
    do
      mark "*"
      let e ← rules .bitOr
      return .starred e,
    rules .expression]

/-- Items with commas between them are a tuple, notAhead there is only one and no
    comma. -/
def row (item : Parse Expr) : Parse Expr := do
  let e ← item
  let es ← many do
    mark ","
    item
  let comma ← attempt (mark ",")
  return if es.isEmpty && comma.isNone then e else .tuple (e :: es)

/-! ## Walks over elements -/

/-- The marks after which something assigned to goes on. -/
def targetGoesOn : Parse Unit :=
  first [mark "(", mark "[", mark "."]

/-- Something to be assigned to, or the rest of several things. -/
def starTarget (rules : Rules) : Parse Expr :=
  first [
    do
      mark "*"
      notAhead (mark "*")
      rules .target,
    rules .target]

/-- Things to be assigned to. -/
def starTargets (rules : Rules) : Parse Unit := do
  let _ ← separated (starTarget rules)
  optionalComma

/-- What cannot be assigned to in a walk. -/
def invalidTarget? : Expr → Option Expr
  | .compare first ((.isIn, _) :: _) =>
    match first with
    | .name _ => none
    | .member _ _ => none
    | .item _ _ => none
    | e => some e
  | .compare _ _ => none
  | .name _ => none
  | .member _ _ => none
  | .item _ _ => none
  | .list _ => none
  | .tuple _ => none
  | .starred _ => none
  | e => some e

/-- A walk over something that cannot be assigned to. -/
def walkMistakes (rules : Rules) : List (Parse (Option GrammarFault)) := [
  do
    let _ ← attempt (word "async")
    word "for"
    let l ← line
    let e ← row (rowItem rules)
    return (invalidTarget? e).map fun e => ⟨.badTarget e.called, l⟩]

/-- A walk: `for target in elements`, with conditions. Once its elements are
    announced nothing else can be meant. -/
def walk (rules : Rules) : Parse Unit := do
  let announced ← attempt do
    let _ ← attempt (word "async")
    word "for"
    starTargets rules
    word "in"
  match announced with
  | some _ =>
    let _ ← rules .disjunction
    let _ ← many do
      word "if"
      rules .disjunction
  | none => whenAdvising (advise (walkMistakes rules))

/-- One walk inside the other. -/
def walks (rules : Rules) : Parse Unit := do
  walk rules
  let _ ← many (walk rules)

/-- Mistakes in collecting what a walk finds. -/
def collectionMistakes (rules : Rules) : List (Parse (Option GrammarFault)) := [
  do
    first [mark "[", mark "(", mark "\x7b"]
    let l ← line
    let _ ← starred rules
    walks rules
    return some ⟨.starredElement, l⟩,
  do
    first [mark "[", mark "\x7b"]
    let l ← line
    let _ ← displayItem rules
    mark ","
    let _ ← displayItems rules
    walks rules
    return some ⟨.bareElements, l⟩,
  do
    first [mark "[", mark "\x7b"]
    let l ← line
    let _ ← displayItem rules
    mark ","
    walks rules
    return some ⟨.bareElements, l⟩]

/-- What a walk finds, collected between brackets. -/
def collection (rules : Rules) (opening closing : String) (element : Parse Expr)
    (c : Construct) : Parse Expr :=
  first [
    do
      mark opening
      let _ ← element
      walks rules
      mark closing
      return .other c,
    whenAdvising (advise (collectionMistakes rules))]

/-- What a walk finds, one after the other. -/
def generator (rules : Rules) : Parse Expr :=
  collection rules "(" ")" (first [naming rules, unnamed rules]) .generator

/-! ## Calls -/

/-- An argument of a call. -/
inductive Argument
  | positional (e : Expr)
  | named (name : String) (e : Expr)
  /-- A table of arguments with names. -/
  | table (e : Expr)

/-- The arguments without a name. -/
def positionals (args : List Argument) : List Expr :=
  args.filterMap fun
    | .positional e => some e
    | _ => none

/-- The arguments with a name and the tables of them. -/
def nameds (args : List Argument) : List (Option String × Expr) :=
  args.filterMap fun
    | .positional _ => none
    | .named s e => some (some s, e)
    | .table e => some (none, e)

/-- Mistakes in arguments with names. -/
def nameMistakes (rules : Rules) : List (Parse (Option GrammarFault)) := [
  do
    let l ← line
    let e ← wordConstant
    mark "="
    return some ⟨.badTarget e.called, l⟩,
  do
    let l ← line
    let _ ← name
    mark "="
    let _ ← rules .expression
    walks rules
    return some ⟨.assigned, l⟩,
  do
    let l ← line
    notAhead do
      let _ ← name
      mark "="
    let _ ← rules .expression
    mark "="
    return some ⟨.assignedArgument, l⟩]

/-- An argument with a name. -/
def namedArgument (rules : Rules) : Parse Argument :=
  first [
    whenAdvising (advise (nameMistakes rules)),
    do
      let s ← name
      mark "="
      let e ← rules .expression
      return .named s e]

/-- An argument with a name, or a row of arguments without. -/
def namedOrStarred (rules : Rules) : Parse Argument :=
  first [namedArgument rules, .positional <$> starred rules]

/-- An argument with a name, or a table of such arguments. -/
def namedOrTable (rules : Rules) : Parse Argument :=
  first [
    namedArgument rules,
    do
      mark "**"
      let e ← rules .expression
      return .table e]

/-- Arguments with names. -/
def namedArguments (rules : Rules) : Parse (List Argument) :=
  first [
    do
      let before ← separated (namedOrStarred rules)
      mark ","
      let after ← separated (namedOrTable rules)
      return before ++ after,
    separated (namedOrStarred rules),
    separated (namedOrTable rules)]

/-- An argument without a name. -/
def positional (rules : Rules) : Parse Argument :=
  first [
    .positional <$> starred rules,
    do
      let e ← first [naming rules, unnamed rules]
      notAhead (mark "=")
      return .positional e]

/-- Arguments, first those without names. -/
def argumentRow (rules : Rules) : Parse (List Argument) :=
  first [
    do
      let before ← separated (positional rules)
      let after ← attempt do
        mark ","
        namedArguments rules
      return before ++ after.getD [],
    namedArguments rules]

/-- A walk that stands among arguments. -/
def argumentWalk (rules : Rules) : Parse Unit := do
  let _ ← rules .expression
  walks rules

/-- Mistakes in arguments. -/
def argumentMistakes (rules : Rules) : List (Parse (Option GrammarFault)) := [
  do
    let _ ← first [
      do
        let _ ← separated (positional rules)
        mark ","
        namedArguments rules,
      namedArguments rules]
    let l ← line
    mark ","
    let _ ← separated do
      let e ← starred rules
      notAhead (mark "=")
      return e
    return some ⟨.lateRow, l⟩,
  do
    let l ← line
    argumentWalk rules
    mark ","
    let _ ← attempt (first [(fun _ => ()) <$> argumentRow rules, argumentWalk rules])
    return some ⟨.bareWalk, l⟩,
  do
    let l ← line
    let _ ← name
    mark "="
    argumentWalk rules
    return some ⟨.assigned, l⟩,
  do
    let l ← line
    let args ← argumentRow rules
    walks rules
    return if (positionals args).length ≤ 1 then none else some ⟨.bareWalk, l⟩,
  do
    let _ ← argumentRow rules
    mark ","
    let l ← line
    argumentWalk rules
    return some ⟨.bareWalk, l⟩,
  do
    let args ← argumentRow rules
    mark ","
    let _ ← argumentRow rules
    let unpacked := (nameds args).any (·.1.isNone)
    return some ⟨if unpacked then .lateUnpacked else .lateArgument, ← lastLine⟩]

/-- The arguments of a call, before its closing bracket. -/
def arguments (rules : Rules) : Parse (List Argument) :=
  first [
    do
      let args ← argumentRow rules
      optionalComma
      ahead (mark ")")
      return args,
    whenAdvising (advise (argumentMistakes rules))]

/-! ## Items -/

/-- A part of a sequence from one place to another, in steps. -/
def slice (rules : Rules) : Parse Expr := do
  let low ← attempt (rules .expression)
  mark ":"
  let high ← attempt (rules .expression)
  let step ← attempt do
    mark ":"
    attempt (rules .expression)
  return .slice low high (step.bind id)

/-- What stands between the brackets of an item. -/
def itemIndex (rules : Rules) : Parse Expr :=
  let one : Parse Expr := first [slice rules, named rules]
  first [
    do
      let e ← one
      notAhead (mark ",")
      return e,
    do
      let es ← separated (first [one, starred rules])
      optionalComma
      return .tuple es]

/-! ## Brackets -/

/-- A tuple in brackets. -/
def bracketedTuple (rules : Rules) : Parse Expr := do
  mark "("
  let items ← attempt do
    let e ← displayItem rules
    mark ","
    let es ← attempt (displayItems rules)
    return e :: es.getD []
  mark ")"
  return .tuple (items.getD [])

/-- What a function would give back. -/
def yielding (rules : Rules) : Parse Expr := do
  word "yield"
  let _ ← attempt (first [
    do
      word "from"
      rules .expression,
    row (rowItem rules)])
  return .other .yielding

/-- Stars that make no sense in brackets. -/
def groupMistakes (rules : Rules) : List (Parse (Option GrammarFault)) := [
  do
    mark "("
    let l ← line
    let _ ← starred rules
    mark ")"
    return some ⟨.badStar, l⟩,
  do
    mark "("
    let l ← line
    mark "**"
    let _ ← rules .expression
    mark ")"
    return some ⟨.badDoubleStar, l⟩]

/-- An expression in brackets. -/
def group (rules : Rules) : Parse Expr :=
  first [
    do
      mark "("
      let e ← first [yielding rules, named rules]
      mark ")"
      return e,
    whenAdvising (advise (groupMistakes rules))]

/-- A list. -/
def listDisplay (rules : Rules) : Parse Expr := do
  mark "["
  let items ← attempt (displayItems rules)
  mark "]"
  return .list (items.getD [])

/-- A key and its value. -/
def entry (rules : Rules) : Parse (Option Expr × Expr) := do
  let key ← rules .expression
  mark ":"
  let value ← rules .expression
  return (some key, value)

/-- A key and its value, or a table whose entries take their place. -/
def entryOrTable (rules : Rules) : Parse (Option Expr × Expr) :=
  first [
    do
      mark "**"
      let e ← rules .bitOr
      return (none, e),
    entry rules]

/-- A value with a star, or none, after a key. -/
def valueMistakes (rules : Rules) : List (Parse (Option GrammarFault)) := [
  do
    let _ ← rules .expression
    mark ":"
    let l ← line
    mark "*"
    let _ ← rules .bitOr
    return some ⟨.starredValue, l⟩,
  do
    let _ ← rules .expression
    let l ← line
    mark ":"
    ahead (first [mark "\x7d", mark ","])
    return some ⟨.noEntryValue, l⟩]

/-- Mistakes in an entry after others. -/
def entryMistakes (rules : Rules) : List (Parse (Option GrammarFault)) :=
  (do
    let l ← line
    let _ ← rules .expression
    notAhead (mark ":")
    return some ⟨.noColon, l⟩) :: valueMistakes rules

/-- Mistakes in the entries of a table. -/
def tableMistakes (rules : Rules) : List (Parse (Option GrammarFault)) :=
  (do
    let _ ← separated (entryOrTable rules)
    mark ","
    advise (entryMistakes rules)) :: valueMistakes rules

/-- A table. What can only be the beginning of a table is known for a mistake
    without any advice. -/
def tableDisplay (rules : Rules) : Parse Expr :=
  first [
    do
      mark "\x7b"
      let entries ← attempt do
        let entries ← separated (entryOrTable rules)
        optionalComma
        return entries
      mark "\x7d"
      return .table (entries.getD []),
    do
      mark "\x7b"
      advise (tableMistakes rules)]

/-- A set. -/
def setDisplay (rules : Rules) : Parse Expr := do
  mark "\x7b"
  let _ ← displayItems rules
  mark "\x7d"
  return .other .setDisplay

/-- A table whose entries are found in a walk. -/
def tableCollection (rules : Rules) : Parse Expr :=
  first [
    do
      mark "\x7b"
      let _ ← entry rules
      walks rules
      mark "\x7d"
      return .other .tableComprehension,
    whenAdvising (advise [
      do
        mark "\x7b"
        let l ← line
        mark "**"
        let _ ← rules .bitOr
        walks rules
        mark "\x7d"
        return some ⟨.starredEntry, l⟩])]

/-- What is in round brackets. -/
def rounds (rules : Rules) : Parse Expr := do
  ahead (mark "(")
  first [bracketedTuple rules, group rules, generator rules]

/-- What is in square brackets. -/
def squares (rules : Rules) : Parse Expr := do
  ahead (mark "[")
  first [listDisplay rules, collection rules "[" "]" (named rules) .listComprehension]

/-- What is in braces. -/
def braces (rules : Rules) : Parse Expr := do
  ahead (mark "\x7b")
  first [
    tableDisplay rules,
    setDisplay rules,
    tableCollection rules,
    collection rules "\x7b" "\x7d" (named rules) .setComprehension]

/-- An operand that nothing is done to. -/
def atom (rules : Rules) : Parse Expr :=
  first [
    .name <$> name,
    wordConstant,
    quotations,
    numeral,
    rounds rules,
    squares rules,
    braces rules,
    (fun _ => .constant .ellipsis) <$> mark "..."]

/-! ## Operations -/

/-- An attribute, a call or an item of what stands before it. -/
def trailer (rules : Rules) : Parse (Expr → Expr) :=
  first [
    do
      mark "."
      let s ← name
      return fun e => .member e s,
    do
      let g ← generator rules
      return fun e => .call e [g] [],
    do
      mark "("
      let args ← attempt (arguments rules)
      mark ")"
      let args := args.getD []
      return fun e => .call e (positionals args) (nameds args),
    do
      mark "["
      let index ← itemIndex rules
      mark "]"
      return fun e => .item e index]

/-- An operand with its attributes, calls and items. -/
def primary (rules : Rules) : Parse Expr := do
  let e ← atom rules
  let ts ← many (trailer rules)
  return ts.foldl (fun e t => t e) e

/-- An operand that may be waited for. -/
def awaited (rules : Rules) : Parse Expr :=
  first [
    do
      word "await"
      let _ ← primary rules
      return .other .awaiting,
    primary rules]

/-- A power. -/
def power (rules : Rules) : Parse Expr := do
  let e ← awaited rules
  let r ← attempt do
    mark "**"
    rules .factor
  return match r with
    | some r => .binary .power e r
    | none => e

/-- The signs. -/
def signs : List (String × Sign) :=
  [("+", .plus), ("-", .minus), ("~", .invert)]

/-- One of several marks, and what it stands for. -/
def oneOf {α : Type} (marks : List (String × α)) : Parse α :=
  take? fun
    | .mark s => marks.lookup s
    | _ => none

/-- An operand with signs or without. -/
def factor (rules : Rules) : Parse Expr :=
  first [
    do
      let s ← oneOf signs
      let e ← rules .factor
      return .sign s e,
    power rules]

/-- The operations on two operands, the loosest first. -/
def operations : List (List (String × BinaryOp)) := [
  [("|", .bitOr)],
  [("^", .bitXor)],
  [("&", .bitAnd)],
  [("<<", .shiftLeft), (">>", .shiftRight)],
  [("+", .add), ("-", .subtract)],
  [("*", .multiply), ("/", .divide), ("//", .floorDivide), ("%", .modulo), ("@", .product)]]

/-- Operands joined by operations; those of the first level bind the loosest. -/
def operation (operand : Parse Expr) : List (List (String × BinaryOp)) → Parse Expr
  | [] => operand
  | marks :: tighter => do
    let e ← operation operand tighter
    let rest ← many do
      let op ← oneOf marks
      let r ← operation operand tighter
      return (op, r)
    return rest.foldl (fun e (op, r) => .binary op e r) e

/-- The comparisons that are one mark. -/
def comparisonMarks : List (String × CompareOp) :=
  [("==", .eq), ("!=", .ne), ("<=", .le), ("<", .lt), (">=", .ge), (">", .gt)]

/-- A comparison. -/
def comparisonOp : Parse CompareOp :=
  first [
    oneOf comparisonMarks,
    do
      word "not"
      word "in"
      return .notIn,
    do
      word "in"
      return .isIn,
    do
      word "is"
      word "not"
      return .isNot,
    do
      word "is"
      return .is]

/-- A chain of comparisons. -/
def comparison (rules : Rules) : Parse Expr := do
  let e ← rules .bitOr
  let rest ← many do
    let op ← comparisonOp
    let r ← rules .bitOr
    return (op, r)
  return if rest.isEmpty then e else .compare e rest

/-- An operand with or without `not`. -/
def inversion (rules : Rules) : Parse Expr :=
  first [
    do
      word "not"
      let e ← rules .inversion
      return .not e,
    comparison rules]

/-- Operands with a word between them, joined from the right. -/
def joinedBy (joiner : String) (join : Expr → Expr → Expr) (operand : Parse Expr) :
    Parse Expr := do
  let e ← operand
  let rest ← many do
    word joiner
    operand
  match (e :: rest).reverse with
  | last :: before => return before.foldl (fun r l => join l r) last
  | [] => return e

/-! ## Expressions -/

/-- Functions that were once called without brackets. -/
def bareFunctions : List String :=
  ["print", "exec"]

/-- The words that are reserved in some places only; their beginnings count as
    well. -/
def softWords : List String :=
  ["_", "case", "match"]

/-- A name that is reserved in some places. -/
def softWord : Parse Unit :=
  take? fun
    | .name s =>
      if softWords.any fun w => s.toList.isPrefixOf w.toList then some () else none
    | _ => none

/-- Is the expression the name of a function that was once called without
    brackets? -/
def isBareFunction : Expr → Bool
  | .name s => bareFunctions.contains s
  | _ => false

/-- Two expressions side by side, and a choice without its second half. -/
def expressionMistakes (rules : Rules) : List (Parse (Option GrammarFault)) := [
  do
    notAhead (first [
      do
        let _ ← name
        let _ ← quotation,
      softWord])
    let l ← line
    let e ← rules .disjunction
    let _ ← rules .plainExpression
    let depth ← lastDepth
    return if isBareFunction e || depth = 0 then none else some ⟨.noComma, l⟩,
  do
    let l ← line
    let _ ← rules .disjunction
    word "if"
    let _ ← rules .disjunction
    notAhead (first [word "else", mark ":"])
    return some ⟨.noElse, l⟩]

/-- A function called without brackets. -/
def callMistakes (rules : Rules) : List (Parse (Option GrammarFault)) := [
  do
    let l ← line
    let s ← name
    notAhead (mark "(")
    let _ ← row (rowItem rules)
    return if bareFunctions.contains s then some ⟨.noBrackets s, l⟩ else none]

/-- A choice. -/
def choice (rules : Rules) : Parse Expr := do
  let yes ← rules .disjunction
  word "if"
  let condition ← rules .disjunction
  word "else"
  let no ← rules .expression
  return .choose condition yes no

/-- A parameter of a function without a name. -/
def parameter (rules : Rules) : Parse Unit :=
  first [
    do
      let _ ← name
      let _ ← attempt do
        mark "="
        rules .expression,
    mark "/",
    do
      mark "*"
      let _ ← attempt name,
    do
      mark "**"
      let _ ← name]

/-- Parameters in brackets. -/
def parameterMistakes : List (Parse (Option GrammarFault)) := [
  do
    let _ ← many do
      let _ ← name
      mark ","
    let l ← line
    mark "("
    let _ ← separated name
    optionalComma
    mark ")"
    return some ⟨.bracketedParameters, l⟩]

/-- A function without a name. -/
def lambda (rules : Rules) : Parse Expr := do
  word "lambda"
  let _ ← attempt (first [
    whenAdvising (advise parameterMistakes),
    do
      let _ ← separated (parameter rules)
      optionalComma])
  mark ":"
  let _ ← rules .expression
  return .other .lambda

/-- An expression, without any advice. -/
def plainExpression (rules : Rules) : Parse Expr :=
  first [choice rules, rules .disjunction, lambda rules]

/-- An expression. -/
def expression (rules : Rules) : Parse Expr :=
  first [
    whenAdvising (advise (expressionMistakes rules)),
    whenAdvising (advise (callMistakes rules)),
    plainExpression rules]

/-- An operand that something is done to before it is assigned to. -/
def targetBase (rules : Rules) : Parse Expr := do
  let e ← atom rules
  ahead targetGoesOn
  let ts ← many do
    let t ← trailer rules
    ahead targetGoesOn
    return t
  return ts.foldl (fun e t => t e) e

/-- Something that can be assigned to. -/
def target (rules : Rules) : Parse Expr :=
  first [
    do
      let e ← targetBase rules
      mark "."
      let s ← name
      notAhead targetGoesOn
      return .member e s,
    do
      let e ← targetBase rules
      mark "["
      let index ← itemIndex rules
      mark "]"
      notAhead targetGoesOn
      return .item e index,
    .name <$> name,
    do
      mark "("
      let e ← rules .target
      mark ")"
      return e,
    do
      mark "("
      let es ← attempt do
        let es ← separated (starTarget rules)
        optionalComma
        return es
      mark ")"
      return .tuple (es.getD []),
    do
      mark "["
      let es ← attempt do
        let es ← separated (starTarget rules)
        optionalComma
        return es
      mark "]"
      return .list (es.getD [])]

/-- What a rule says, over the rules it goes back to. -/
def body (rules : Rules) : Rule → Parse Expr
  | .expression => expression rules
  | .plainExpression => quietly (plainExpression rules)
  | .disjunction => joinedBy "or" .or (rules .conjunction)
  | .conjunction => joinedBy "and" .and (rules .inversion)
  | .inversion => inversion rules
  | .bitOr => operation (rules .factor) operations
  | .factor => factor rules
  | .target => target rules

/-- The rules, going down to a depth. -/
def rule : Nat → Rules
  | 0, _ => fail
  | depth + 1, r =>
    if r = .plainExpression then body (rule depth) r else remembered r (body (rule depth) r)

/-- A whole text: expressions with commas between them are a tuple. -/
def whole (rules : Rules) : Parse Expr := do
  let e ← row (rules .expression)
  let _ ← many (token .lineEnd)
  token .finish
  return e

end StateMachine.Grammar
