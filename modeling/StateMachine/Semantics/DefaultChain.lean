import StateMachine.Model.SignatureUnion

/-!
# The default chain

Where a transition goes on when the state it was issued in does not handle it,
because it has no such transition or none of its guards holds:

* to the transition of the same name in the map's Default State;
* to the `Default` transition of the state itself;
* to the `Default` transition of the Default State;
* finally to the *system default*, which refuses the transition.

For a transition that is itself named `Default` only the last two remain.
-/

namespace StateMachine

/-- A step of the default chain. -/
inductive DefaultStep
  | mapTransition
  | stateDefault
  | mapDefault
  | systemDefault
  deriving DecidableEq

/-- The letter of a step. -/
def DefaultStep.letter : DefaultStep → String
  | .mapTransition => "a"
  | .stateDefault => "b"
  | .mapDefault => "c"
  | .systemDefault => "d"

/-- A candidate of the default chain, with the transition it tries. -/
structure DefaultLink where
  step : DefaultStep
  transition : Option Placed

/-- How the first step picks among the transitions of a name. -/
inductive Match
  | parameters (keys : List (Value × Value))
  | arity (n : Nat)
  | nameOnly

/-- The transition of the Default State that the first step tries. -/
def Match.find? (wanted : Match) (s : State) (name : Value) : Option Transition :=
  match wanted with
  | .parameters keys => s.find? name keys
  | .arity n => s.ofArity? name n
  | .nameOnly => s.named? name

namespace Place

/-- The Default State of the place's map, as a place. -/
def default? (p : Place) : Option Place :=
  p.map.default?.map fun s => ⟨p.map, s⟩

/-- A link to a transition of a state, if it has it. -/
def link (p : Place) (step : DefaultStep) (t : Option Transition) : List DefaultLink :=
  (t.map fun t => ⟨step, some ⟨p, t⟩⟩).toList

/-- The default chain of a transition issued in a state. `fromDefault` means that
    the Default State was tried already and did not handle it. -/
def defaultChain (p : Place) (name : Value) (wanted : Match) (fromDefault : Bool) :
    List DefaultLink :=
  let isDefault := name == .str defaultName
  let mapTransition :=
    match p.default? with
    | some d =>
      if isDefault || fromDefault then [] else d.link .mapTransition (wanted.find? d.state name)
    | none => []
  let stateDefault :=
    if isDefault then [] else p.link .stateDefault (p.state.find? (.str defaultName) [])
  let mapDefault :=
    match p.default? with
    | some d =>
      if isDefault && fromDefault then []
      else d.link .mapDefault (d.state.find? (.str defaultName) [])
    | none => []
  mapTransition ++ stateDefault ++ mapDefault ++ [⟨.systemDefault, none⟩]

end Place
end StateMachine
