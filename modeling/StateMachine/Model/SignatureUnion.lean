import StateMachine.Model.Machine

/-!
# The union of signatures

The transitions of many states as one list without repetition: for each
signature the first transition that has it, sorted by signature. Signatures
are compared by name, then by the keys of the parameters one by one, a list
that ends first coming first. Where a name or type is the number that is none,
and so comes neither before nor after another, the outcome depends on which
signatures are compared; they are then inserted one by one (`inserted`).

Names and types that are no texts can make two signatures incomparable, and
lists or objects cannot be collected at all (`unionMismatch?`).
-/

namespace StateMachine

/-- A transition with the state that defines it. -/
structure Placed where
  place : Place
  transition : Transition

/-- A transition as it is referred to: by the scoped name of its state, its name
    and its parameters. -/
def Placed.label (p : Placed) : String :=
  p.place.scopedName ++ "." ++ p.transition.name.text ++ "(" ++ p.transition.parameterText ++ ")"

namespace Signature

/-- The parts of a signature in the order they are compared in. -/
def parts (s : Signature) : List Value :=
  s.name :: s.parameters.flatMap fun p => [p.1, p.2]

/-- The order of two lists of values: by the first place where they differ.
    Values that cannot be compared count as equal. -/
def compareParts : List Value → List Value → Ordering
  | [], [] => .eq
  | [], _ :: _ => .lt
  | _ :: _, [] => .gt
  | v :: vs, w :: ws =>
    if v.alike w then compareParts vs ws
    else
      match v.lt? w with
      | some true => .lt
      | some false => .gt
      | none => .eq

/-- Can the two lists of values be compared? -/
def comparableParts : List Value → List Value → Bool
  | v :: vs, w :: ws => if v.alike w then comparableParts vs ws else (v.lt? w).isSome
  | _, _ => true

/-- Does the first signature come before the second, or are they equal? -/
def le (a b : Signature) : Bool :=
  compareParts a.parts b.parts != .gt

/-- Does the first signature come before the second? -/
def lt (a b : Signature) : Bool :=
  compareParts a.parts b.parts == .lt

/-- Does the signature hold the number that is none? -/
def holdsNaN (s : Signature) : Bool :=
  s.parts.any Value.isNaN

/-- Can the signature be collected? -/
def isKey (s : Signature) : Bool :=
  s.parts.all Value.isKey

end Signature

/-! ## Insertion -/

section

variable {α : Type} (lt : α → α → Bool)

/-- The longest beginning in which no item comes before the one in front of it,
    and the rest. -/
def risingRun : α → List α → List α × List α
  | x, [] => ([x], [])
  | x, y :: ys =>
    if lt y x then ([x], y :: ys)
    else
      let (run, rest) := risingRun y ys
      (x :: run, rest)

/-- The longest beginning in which every item comes before the one in front of
    it, and the rest. -/
def fallingRun : α → List α → List α × List α
  | x, [] => ([x], [])
  | x, y :: ys =>
    if lt y x then
      let (run, rest) := fallingRun y ys
      (x :: run, rest)
    else ([x], y :: ys)

/-- The position of a new item among the items from `low` to `high`, found by
    halving; `fuel` bounds the number of steps. -/
def position (x : α) (items : List α) : Nat → Nat → Nat → Nat
  | 0, low, _ => low
  | fuel + 1, low, high =>
    if high ≤ low then low
    else
      let middle := (low + high) / 2
      match items[middle]? with
      | some y =>
        if lt x y then position x items fuel low middle
        else position x items fuel (middle + 1) high
      | none => low

/-- The items with a new one at its position. -/
def insertAtPosition (items : List α) (x : α) : List α :=
  let n := position lt x items (items.length + 1) 0 items.length
  items.take n ++ x :: items.drop n

/-- The items sorted: those after the run they begin with are inserted into it
    one by one. -/
def inserted (items : List α) : List α :=
  match items with
  | x :: y :: ys =>
    let (run, rest) :=
      if lt y x then
        let (run, rest) := fallingRun lt x (y :: ys)
        (run.reverse, rest)
      else risingRun lt x (y :: ys)
    rest.foldl (insertAtPosition lt) run
  | items => items

end

/-- The first transition of each signature, in the order they come in. -/
def firstOfEach : List Placed → List Placed
  | [] => []
  | p :: ps =>
    p :: (firstOfEach ps).filter fun q => !q.transition.signature.alike p.transition.signature

/-- The first transition of each signature, sorted by signature. -/
def signatureUnion (ps : List Placed) : List Placed :=
  let first := firstOfEach ps
  if first.any fun p => p.transition.signature.holdsNaN then
    inserted (fun a b => a.transition.signature.lt b.transition.signature) first
  else first.mergeSort fun a b => a.transition.signature.le b.transition.signature

/-- Can every signature be compared with those after it? -/
def allComparable : List Signature → Bool
  | [] => true
  | s :: rest => rest.all (fun t => Signature.comparableParts s.parts t.parts) && allComparable rest

/-- The mismatch of collecting and sorting signatures. -/
def unionMismatch? (ps : List Placed) : Option Mismatch :=
  let signatures := ps.map fun p => p.transition.signature
  if signatures.all Signature.isKey && allComparable signatures then none else some .unsupported

/-- The transitions of a state. -/
def Place.transitions (p : Place) : List Placed :=
  p.state.transitions.map fun t => ⟨p, t⟩

/-- The transitions of all states of a map, those of the Default State first. -/
def StateMap.transitions (m : StateMap) : List Placed :=
  m.allStates.flatMap fun s => Place.transitions ⟨m, s⟩

/-- The transitions of all states of a machine. -/
def Machine.transitions (m : Machine) : List Placed :=
  m.maps.flatMap StateMap.transitions

/-- The distinct transition names of a union other than `Default`, in order. -/
def transitionNames (union : List Placed) : List Value :=
  union.foldl (fun names p =>
    if p.transition.name == .str defaultName || names.any p.transition.name.alike then names
    else names ++ [p.transition.name]) []

end StateMachine
