import StateMachine.Expression.Fold
import StateMachine.Expression.Read
import StateMachine.Simulate.Script

/-!
# Evaluation

Expressions are evaluated over the parameters, the owner (by the name `ctxt`),
the names around the machine and what every expression knows, in this order.
Operands are evaluated from left to right. An expression may give names to
values; they count as parameters from then on.
-/

namespace StateMachine

/-- A step of an evaluation, with the parameters and the names given so far. -/
abbrev Evaluation (α : Type) := StateT (Bindings Datum) (Run Script) α

namespace Evaluation

variable (issue : Issue Script Datum) (number : Nat)

/-- The result of an operation. -/
def result {α : Type} (r : Except OperationFault α) : Evaluation α :=
  liftM (Script.lift r)

/-- The identity of a new datum. -/
def fresh : Evaluation Identity :=
  liftM Script.fresh

/-- What a name means where no parameter has it. -/
def outerMeaning (name : String) : Run Script Datum := do
  if name = "ctxt" then return .owner
  match (← get).host.around? (.str name), Known.texts.lookup name, Known.find? name with
  | some v, _, _ => return v
  | none, some s, _ => return .text .word s
  | none, none, some s => return .known s
  | none, none, none => Script.lift (.error (.unbound name))

/-- What a name means in an expression. -/
def meaning (name : String) : Evaluation Datum := do
  match (← get).reverse.find? fun b => b.1 == .str name with
  | some b => return b.2
  | none => liftM (outerMeaning name)

/-- The elements of a datum that take its place in a row. -/
def spread (v : Datum) : Evaluation (List Datum) := do
  let serial ← liftM (Script.reserve (v.size?.getD 0))
  match v.elements serial with
  | .ok vs => return vs
  | .error _ => result (.error (.notUnpacked v.kindName))

/-- The value of a construct that is not evaluated further. -/
def construct (c : Construct) : Evaluation Datum := do
  let serial ← liftM (Script.reserve 1)
  match c with
  | .lambda => return .function (.unnamed serial)
  | .generator => return .sealed "generator" serial
  | .setDisplay => return .sealed "set" serial
  | .setComprehension => return .sealed "set" serial
  | .bytes => return .sealed "bytes" serial
  | .imaginary => return .sealed "complex" serial
  | c => result (.error (.unknown c.called))

/-- What is called, as messages on its arguments name it. -/
def called (f : Datum) : String :=
  match f with
  | .known name => if (Known.thing? name).isSome then f.shown else name ++ "()"
  | .function (.action name _) => name ++ "()"
  | .function (.around name) => name ++ "()"
  | f => f.shown

/-- The arguments of a call that are the elements of a datum. -/
def spreadArguments (f v : Datum) : Evaluation (List Datum) := do
  let serial ← liftM (Script.reserve (v.size?.getD 0))
  match v.elements serial with
  | .ok vs => return vs
  | .error _ => result (.error (.notArguments (called f) v.kindName))

/-- The entries of a table that gives arguments with names. -/
def tableArguments (f v : Datum) : Except OperationFault (List (Datum × Datum)) :=
  match v with
  | .table _ entries => .ok entries
  | v => .error (.notNamed (called f) v.kindName)

/-- Adds arguments with names to others. -/
def addNamed (f : Datum) (entries : List (Datum × Datum)) :
    List (Datum × Datum) → Except OperationFault (List (Datum × Datum))
  | [] => .ok entries
  | (k, v) :: rest =>
    if entries.any fun e => e.1.same k then .error (.sameName (called f) k.shown)
    else addNamed f (entries ++ [(k, v)]) rest

/-- The names of arguments, which have to be texts. -/
def namesOf : List (Datum × Datum) → Except OperationFault (List (String × Datum))
  | [] => .ok []
  | (.text _ s, v) :: rest => (namesOf rest).map ((s, v) :: ·)
  | _ :: _ => .error .badName

/-- The most entries of a table that are evaluated before they are put into it. -/
def entriesAtOnce : Nat := 17

/-- The entries of a table with others put in. -/
def putEntries (entries : List (Datum × Datum)) :
    List (Datum × Datum) → Except OperationFault (List (Datum × Datum))
  | [] => .ok entries
  | (k, v) :: rest =>
    match k.key with
    | .ok k => putEntries (Datum.putEntry k v entries) rest
    | .error f => .error f

mutual

/-- Evaluates an expression. -/
def eval : Expr → Evaluation Datum
  | .constant c => return Datum.ofConstant number c
  | .name s => meaning s
  | .member e s => do
    let v ← eval e
    liftM (Script.memberOf v s)
  | .item e (.slice low high step) => do
    let v ← eval e
    let low ← evalOption low
    let high ← evalOption high
    let step ← evalOption step
    result (Datum.part (← fresh) v low high step)
  | .item e index => do
    let v ← eval e
    let i ← eval index
    result (Datum.item (← fresh) v i)
  | .slice _ _ _ => result (.error (.unknown "slice"))
  | .call f [.starred e] named => do
    let g ← eval f
    let v ← eval e
    let entries ← evalNamed g [] named
    let vs ← spreadArguments g v
    liftM (Script.apply issue g vs (← result (namesOf entries)))
  | .call f args named => do
    let g ← eval f
    let vs ← evalItems args
    let entries ← evalNamed g [] named
    liftM (Script.apply issue g vs (← result (namesOf entries)))
  | .starred e => do
    let v ← eval e
    return .tuple (← fresh) (← spread v)
  | .list items => do
    let vs ← evalItems items
    return .list (← fresh) vs
  | .tuple items => do
    let vs ← evalItems items
    return .tuple (← fresh) vs
  | .table entries => do
    let vs ← evalEntries [] [] entries
    return .table (← fresh) vs
  | .sign s e => do
    let v ← eval e
    result (Datum.signed (← fresh) s v)
  | .binary op l r => do
    let v ← eval l
    let w ← eval r
    result (Datum.binary (← fresh) op v w)
  | .compare first rest => do
    let v ← eval first
    evalChain v rest
  | .not e => do
    let v ← eval e
    return .bool !v.isTrue
  | .and l r => do
    let v ← eval l
    if v.isTrue then eval r else return v
  | .or l r => do
    let v ← eval l
    if v.isTrue then return v else eval r
  | .choose condition yes no => do
    let v ← eval condition
    if v.isTrue then eval yes else eval no
  | .assign s e => do
    let v ← eval e
    modify fun bindings => bindings ++ [(.str s, v)]
    return v
  | .other c => construct c

/-- Evaluates a part of an expression that may be missing. -/
def evalOption : Option Expr → Evaluation (Option Datum)
  | none => return none
  | some e => do
    let v ← eval e
    return some v

/-- Evaluates expressions from left to right. The elements of some take their
    place. -/
def evalItems : List Expr → Evaluation (List Datum)
  | [] => return []
  | .starred e :: es => do
    let v ← eval e
    let vs ← spread v
    let ws ← evalItems es
    return vs ++ ws
  | e :: es => do
    let v ← eval e
    let vs ← evalItems es
    return v :: vs

/-- Evaluates arguments with names of a call of `f` and adds them to others. -/
def evalNamed (f : Datum) (done : List (Datum × Datum)) :
    List (Option String × Expr) → Evaluation (List (Datum × Datum))
  | [] => return done
  | (some s, e) :: es => do
    let v ← eval e
    let done ← result (addNamed f done [(.text .word s, v)])
    evalNamed f done es
  | (none, e) :: es => do
    let v ← eval e
    let entries ← result (tableArguments f v)
    let done ← result (addNamed f done entries)
    evalNamed f done es

/-- Evaluates keys and values and puts them into a table with some entries already;
    others are evaluated, but not yet put in. -/
def evalEntries (done waiting : List (Datum × Datum)) :
    List (Option Expr × Expr) → Evaluation (List (Datum × Datum))
  | [] => result (putEntries done waiting)
  | (some k, e) :: es => do
    let key ← eval k
    let v ← eval e
    let waiting := waiting ++ [(key, v)]
    if waiting.length < entriesAtOnce then evalEntries done waiting es
    else
      let done ← result (putEntries done waiting)
      evalEntries done [] es
  | (none, e) :: es => do
    let done ← result (putEntries done waiting)
    let v ← eval e
    match v with
    | .table _ entries => evalEntries (Datum.merged done entries) [] es
    | v => result (.error (.notTable v.kindName))

/-- Evaluates the further comparisons of a chain, up to the first that does not
    hold. -/
def evalChain (v : Datum) : List (CompareOp × Expr) → Evaluation Datum
  | [] => return .bool true
  | (op, e) :: rest => do
    let w ← eval e
    if ← result (Datum.compare op v w) then evalChain w rest else return .bool false

end

/-- Evaluates the text of an expression. -/
def ofText (issue : Issue Script Datum) (text : String) (bindings : Bindings Datum) :
    Run Script Datum :=
  match Expr.read text with
  | .error f => throw (.raised f.kind f.message)
  | .ok e => do
    let number ← Script.reserve 1
    let (v, _) ← (eval issue number e.folded).run bindings
    return v

end Evaluation

namespace Script

/-- The text a name has to be. -/
def nameText (name : Value) : Run Script String :=
  match name with
  | .str s => pure s
  | v => throw (.mismatch (.notName v.kindName))

/-- Assigns to a name around the machine or to an attribute of the owner. -/
def assign (static : Bool) (name : Value) (v : Datum) : Run Script Unit := do
  if static then
    Run.fit name.keyMismatch?
    Run.changeHost fun s => { s with around := putAround name v s.around }
  else
    let name ← nameText name
    Run.changeHost fun s => { s with attributes := put name v s.attributes }

/-- What an action's name means. -/
def member (static : Bool) (name : Value) : Run Script (Option Datum) := do
  let found ←
    if static then do
      Run.fit name.keyMismatch?
      pure ((← get).host.around? name)
    else do
      let name ← nameText name
      ownerMember name
  match found with
  | some .none => return none
  | found => return found

/-- The arguments a datum stands for. -/
def spread (v : Datum) : Run Script (List Datum) := do
  let serial ← reserve (v.size?.getD 0)
  lift (v.elements serial)

/-- A way to issue transitions that issues none. -/
def noIssue : Issue Script Datum := fun _ _ => throw .tooDeep

/-- Tells a listener of a change. -/
def notify (id : String) (change : Change String) : Run Script Unit := do
  let c := (← get).context
  Run.changeHost fun s => { s with told := s.told ++ [c.told id change] }
  match ((← get).host.listeners.lookup id).getD .nothing with
  | .nothing => pure ()
  | .fail => throw (.raised "RuntimeError" ("listener " ++ id))
  | .remove => Run.removeListener id
  | .peek =>
    let f ← memberOf .owner "peek"
    let _ ← apply noIssue f [] []

/-- The scripted host. -/
def host : Host Script Datum where
  ownerName := ownerName
  names s := s.around.filterMap fun a => a.1.str?
  evaluate := Evaluation.ofText
  isTrue := Datum.isTrue
  spread := spread
  assign := assign
  member := member
  call issue f args := do
    let _ ← apply issue f args []
  notify := notify

/-- Sets what a listener does; only the first time counts. -/
def settle (s : Script) (id : String) (next : Afterwards) : Script :=
  if (s.listeners.lookup id).isSome then s else { s with listeners := s.listeners ++ [(id, next)] }

/-- Sets an attribute of the owner. -/
def setAttribute (s : Script) (name : String) (v : Datum) : Script :=
  { s with attributes := put name v s.attributes }

/-- Removes an attribute of the owner, if it has it. -/
def removeAttribute? (s : Script) (name : String) : Option Script :=
  if (s.attributes.lookup name).isSome then
    some { s with attributes := s.attributes.filter fun a => a.1 != name }
  else none

/-- The script with no calls and nothing told. -/
def forget (s : Script) : Script :=
  { s with calls := [], told := [] }

end Script
end StateMachine
