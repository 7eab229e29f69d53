import StateMachine.Expression.Attribute
import StateMachine.Expression.Functions
import StateMachine.Simulate.Host

/-!
# Scripted hosts

A host to try a machine on. Its owner has attributes that can be set, and an
action of every other name, except for names that are said to be missing or
begin with an underscore. An action only keeps a record of its call, apart
from three:

* `fail` fails, with its arguments as the message;
* `issue` issues a transition and gives the state arrived at;
* `peek` keeps a second record: where the machine is.

An action gives the value the script lists for it, if there is one. The
functions around the machine keep a record as well. A listener keeps a record
of what it is told and may then fail, listen no more, or let the owner `peek`.
-/

namespace StateMachine

/-- A record of a call. -/
structure Call where
  name : String
  args : List Datum

/-- What a scripted listener does when it was told of a change. -/
inductive Afterwards
  | nothing
  | fail
  | remove
  | peek

/-- The state of a scripted host. -/
structure Script where
  /-- The attributes of the owner. -/
  attributes : List (String × Datum) := []
  /-- The names the owner has not. -/
  missing : List String := []
  /-- What the owner's actions give. -/
  returns : List (String × Datum) := []
  /-- The names around the machine; any value that can be a key serves as one. -/
  around : List (Value × Datum) := []
  /-- What the listeners do when they were told of a change. -/
  listeners : List (String × Afterwards) := []
  /-- The calls so far. -/
  calls : List Call := []
  /-- What the listeners were told so far. -/
  told : List Told := []
  /-- The next serial number of a datum. -/
  serial : Nat := 0

namespace Script

/-- The pairs with a value under a key: in the place the key has, or at the
    end. -/
def put (key : String) (v : Datum) : List (String × Datum) → List (String × Datum)
  | [] => [(key, v)]
  | (k, w) :: rest => if k = key then (k, v) :: rest else (k, w) :: put key v rest

/-- The names around a machine with a value under one: in the place it has, or at
    the end. -/
def putAround (name : Value) (v : Datum) : List (Value × Datum) → List (Value × Datum)
  | [] => [(name, v)]
  | (k, w) :: rest => if k.alike name then (k, v) :: rest else (k, w) :: putAround name v rest

/-- Document values by their names as new data. -/
def giveAll : List (String × Value) → StateM Nat (List (String × Datum))
  | [] => return []
  | (name, v) :: rest => do
    let d ← Datum.give v
    return (name, d) :: (← giveAll rest)

/-- A script with these attributes of the owner, values its actions give, values
    and functions around the machine, and names the owner has not. -/
def ofValues (attributes returns values : List (String × Value)) (functions missing : List String) :
    Script :=
  let ((attributes, returns, values), serial) := Id.run (StateT.run (do
    let attributes ← giveAll attributes
    let returns ← giveAll returns
    let values ← giveAll values
    return (attributes, returns, values)) 0)
  let around := values.map fun v => (Value.str v.1, v.2)
  let functions := functions.map fun f => (Value.str f, Datum.function (.around f))
  { attributes := attributes
    returns := returns
    missing := missing
    around := functions.foldl (fun around f => putAround f.1 f.2 around) around
    serial := serial }

/-- What a name around the machine means. -/
def around? (s : Script) (name : Value) : Option Datum :=
  (s.around.find? fun a => a.1.alike name).map (·.2)

/-- What the owner is called. -/
def ownerName : String := Datum.kindName .owner

/-- Raises the fault of an operation. -/
def lift {α : Type} (r : Except OperationFault α) : Run Script α :=
  match r with
  | .ok a => pure a
  | .error f => throw (.raised f.kind f.message)

/-- The first of some serial numbers, none of which is given again. -/
def reserve (count : Nat) : Run Script Nat := do
  let serial := (← get).host.serial
  Run.changeHost fun s => { s with serial := serial + count }
  return serial

/-- The identity of a new datum. -/
def fresh : Run Script Identity := do
  return .made (← reserve 1)

/-- Takes in document values as new data. -/
def receive (vs : List Value) : Run Script (List Datum) := do
  let (data, serial) := (Datum.giveItems vs).run (← get).host.serial
  Run.changeHost fun s => { s with serial := serial }
  return data

/-- Keeps a record of a call. -/
def record (name : String) (args : List Datum) : Run Script Unit :=
  Run.changeHost fun s => { s with calls := s.calls ++ [⟨name, args⟩] }

/-- Has the owner an action of this name? -/
def hasAction (s : Script) (name : String) : Bool :=
  name.toList.head? != some '_' && !s.missing.contains name

/-- What a name of the owner means: an attribute, or else an action. -/
def ownerMember (name : String) : Run Script (Option Datum) := do
  let s := (← get).host
  match s.attributes.lookup name with
  | some v => return some v
  | none =>
    if s.hasAction name then
      let serial ← reserve 1
      return some (.function (.action name serial))
    else return none

/-- The attribute of a datum. -/
def memberOf (v : Datum) (name : String) : Run Script Datum := do
  let found ←
    match v with
    | .owner => ownerMember name
    | v => do
      let serial ← reserve 1
      pure (v.attribute? serial name)
  match found with
  | some w => return w
  | none => lift (.error (v.noAttribute name))

/-- The message of a failure with these arguments. -/
def failureText : List Datum → String
  | [] => ""
  | [v] => v.shown
  | args => Datum.literal (.tuple (.constant 0) args)

/-- The wording of the fault of an `issue` without a transition. -/
def noTransition : String :=
  "FSMSimulator.issue() missing 1 required positional argument: 'transition_name'"

/-- The name of a state as a datum; equal ones are one. -/
def stateDatum (name : String) : Datum :=
  .text .key name

/-- Keeps a record of where the machine is. -/
def recordPlace : Run Script Unit := do
  let state ← Run.currentName
  let c := (← get).context
  record "=" [stateDatum state, .int .key c.depth, Datum.ofValue c.transition]

/-- Carries out an action of the owner. -/
def act (issue : Issue Script Datum) (name : String) (args : List Datum) : Run Script Datum := do
  record name args
  match name, args with
  | "fail", args => throw (.raised "RuntimeError" (failureText args))
  | "issue", [] => throw (.raised "TypeError" noTransition)
  | "issue", transition :: args =>
    let state ← issue transition.toValue args
    return stateDatum state
  | name, _ =>
    if name = "peek" then recordPlace
    return ((← get).host.returns.lookup name).getD .none

/-- The fault of arguments with names that a function does not take. -/
def unexpectedNames (function : String) (named : List (String × Datum)) : Fault :=
  .raised "TypeError" (function ++ "() got an unexpected keyword argument '"
    ++ (named.head?.map (·.1)).getD "" ++ "'")

/-- Calls something that is known, with arguments and arguments with names. -/
def applyKnown (name : String) (args : List Datum) (named : List (String × Datum)) :
    Run Script Datum := do
  let parts := args.foldl (fun n v => n + v.size?.getD 0) 0
  let serial ← reserve (1 + parts)
  lift (Datum.callKnown serial name args named)

/-- Calls a datum with arguments. -/
def applyPlain (issue : Issue Script Datum) (f : Datum) (args : List Datum) : Run Script Datum :=
  match f with
  | .function (.action name _) => act issue name args
  | .function (.around name) => do
    record ("::" ++ name) args
    return .none
  | .known name => applyKnown name args []
  | .function _ => lift (.error (.unknown "a function"))
  | v => lift (.error (.notCallable v.kindName))

/-- The datum whose key comes first by a comparison, beginning with `best` and its
    key. -/
def extremeBy (key : Datum → Run Script Datum) (op : CompareOp) (best bestKey : Datum) :
    List Datum → Run Script Datum
  | [] => return best
  | v :: vs => do
    let k ← key v
    if ← lift (Datum.order op k bestKey) then extremeBy key op v k vs
    else extremeBy key op best bestKey vs

/-- The greatest or least by the keys that a function gives. -/
def extremeByKey (key : Datum → Run Script Datum) (function : String) (op : CompareOp)
    (args : List Datum) (named : List (String × Datum)) : Run Script Datum := do
  let serial ← reserve ((args.headD .none).size?.getD 0)
  match ← lift (Datum.candidates serial function args named) with
  | [] => lift (Datum.extremeOfNone function named)
  | v :: vs => do
    let k ← key v
    extremeBy key op v k vs

/-- Calls a datum with arguments and arguments with names. -/
def apply (issue : Issue Script Datum) (f : Datum) (args : List Datum)
    (named : List (String × Datum)) : Run Script Datum :=
  if named.isEmpty then applyPlain issue f args
  else
    match f with
    | .function (.action name _) => throw (unexpectedNames name named)
    | .function (.around name) => throw (unexpectedNames name named)
    | .known name =>
      match Datum.extremeOp? name, named.lookup "key" with
      | some _, some .none => applyKnown name args named
      | some op, some key =>
        extremeByKey (fun v => applyPlain issue key [v]) name op args named
      | _, _ => applyKnown name args named
    | f => applyPlain issue f args

end Script
end StateMachine
