import StateMachine.Model.Machine

/-!
# State numbers

The real states of a machine are numbered from zero, map by map in the order
of declaration. A state is looked up by its scoped name; of several states
with the same scoped name the last one's number is found. Default States all
have the number minus one.
-/

namespace StateMachine

/-- The number of every Default State. -/
def defaultStateId : Int := -1

/-- The real states of a machine in the order of their numbers. -/
structure StateIndex where
  places : List Place

/-- Numbers the states of a machine. -/
def Machine.index (m : Machine) : StateIndex :=
  ⟨m.places⟩

namespace StateIndex

/-- The number of states. -/
def size (i : StateIndex) : Nat :=
  i.places.length

/-- Why a look-up of a number fails. -/
inductive Missing
  /-- No state has this scoped name. -/
  | name (scopedName : String)
  /-- No state has this number. -/
  | id (n : Value)
  /-- The value is no number of a state. -/
  | notNumber

/-- The wording of a failed look-up. -/
def Missing.message : Missing → String
  | .name scopedName => "State '" ++ scopedName ++ "' is not indexed."
  | .id n => "No state with id " ++ n.text ++ "."
  | .notNumber => "not the number of a state"

/-- The number of the last state with a scoped name. -/
def numberOf? (i : StateIndex) (scopedName : String) : Option Nat :=
  (i.places.reverse.findIdx? fun p => p.scopedName == scopedName).map fun k => i.size - 1 - k

/-- The number of a state, given by its name and scoped name. -/
def idOf (i : StateIndex) (name scopedName : String) : Except Missing Int :=
  if isDefaultName name then .ok defaultStateId
  else
    match i.numberOf? scopedName with
    | some n => .ok n
    | none => .error (.name scopedName)

/-- The number of a state of the machine. -/
def idAt (i : StateIndex) (p : Place) : Except Missing Int :=
  i.idOf p.state.name p.scopedName

/-- The state with a number. -/
def stateOf (i : StateIndex) (n : Int) : Except Missing Place :=
  if n < 0 then .error (.id (.int n))
  else
    match i.places[n.toNat]? with
    | some p => .ok p
    | none => .error (.id (.int n))

/-- The state with a number given by a value. A floating point number is out of
    the range of the numbers, or no number of a state. -/
def lookUp (i : StateIndex) (v : Value) : Except Missing Place :=
  match v with
  | .int n => i.stateOf n
  | .bool b => (i.stateOf (if b then 1 else 0)).mapError fun _ => .id v
  | .float _ =>
    if v.lt? (.int 0) == some true || (Value.int i.size).lt? v == some true
        || v == .int i.size then .error (.id v)
    else .error .notNumber
  | _ => .error .notNumber

end StateIndex
end StateMachine
