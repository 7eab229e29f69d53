import StateMachine.Semantics.DefaultChain
import StateMachine.Semantics.Plan
import StateMachine.Simulate.Host

/-!
# Dispatch

What happens when a transition is issued. The first transition of the current
state with the right name and number of parameters is tried, then the default
chain. A transition is tried guard by guard: the first guard whose condition
holds is taken, as its plan says:

* the current state is exited, unless the guard is a loopback;
* the actions run, in transition if there are any;
* the next state is committed and entered, also if an action raised a fault,
  unless the simulator is told not to;
* after a pop a further transition may be issued.

Issuing a transition from inside a transition is left to a parameter `again`,
so that every definition but the last is free of recursion; `dispatch` allows
a given number of transitions inside one another.
-/

namespace StateMachine

/-- A machine with all it takes to simulate it. -/
structure Simulator (σ V : Type) where
  machine : Machine
  host : Host σ V
  /-- Is the next state left uncommitted when an action raises a fault? -/
  noCatch : Bool := false
  /-- The greatest depth of the state stack; a value that is not set allows any
      depth. -/
  stackSize : Value := .int 0
  /-- Are commits traced? -/
  debug : Value := .bool false

/-- The real state of a scoped name; of several the last one. -/
def Machine.stateNamed? (m : Machine) (scopedName : String) : Option Place :=
  m.places.reverse.find? fun p => p.scopedName == scopedName

/-- A way to dispatch a transition with arguments. -/
abbrev Dispatch (σ V : Type) := Value → List V → Run σ Unit

namespace Simulator

variable {σ V : Type} (sim : Simulator σ V) (again : Dispatch σ V)

/-- Issues a transition by a way to dispatch it: gives the state arrived at and
    the log of the step. -/
def issueBy (name : Value) (args : List V) : Run σ (String × List String) := do
  Run.clearLog
  again name args
  let state ← Run.currentName
  let log ← Run.takeLog
  return (state, log)

/-- The way a host issues transitions. -/
def issueInside : Issue σ V := fun name args => do
  let (state, _) ← issueBy again name args
  return state

/-! ## Expressions and actions -/

/-- The names an expression may use, beside that of the owner. -/
def knownNames (bindings : Bindings V) (host : σ) : List String :=
  bindings.filterMap (fun b => b.1.str?) ++ sim.host.names host

/-- Evaluates an expression, if the screen lets it pass. -/
def evaluate (expression : String) (bindings : Bindings V) : Run σ V := do
  let s ← get
  match Screen.objection? expression (sim.knownNames bindings s.host) with
  | some objection => throw (.stopped objection expression)
  | none =>
    tryCatch (sim.host.evaluate (issueInside again) expression bindings) fun f =>
      throw (f.inExpression expression)

/-- Evaluates expressions from left to right. -/
def evaluateAll (bindings : Bindings V) : List String → Run σ (List V)
  | [] => pure []
  | e :: es => do
    let v ← sim.evaluate again e bindings
    let vs ← evaluateAll bindings es
    return v :: vs

/-- The arguments written by the text of an argument list. -/
def argumentList (text : Value) (bindings : Bindings V) : Run σ (List V) :=
  match text with
  | .str t =>
    if Text.isBlankText t then pure []
    else do
      let v ← sim.evaluate again ("(" ++ t ++ ",)") bindings
      sim.host.spread v
  | v => throw (.mismatch (.notText v.kindName "strip"))

/-- Carries out an action. -/
def perform (bindings : Bindings V) (a : Action) : Run σ Unit := do
  Run.report ("Action: " ++ a.text)
  if a.emptiesStack then Run.changeContext Context.emptyStack
  else
    let values ← sim.evaluateAll again bindings a.arguments
    if a.property then
      match values with
      | [] => throw (.noValue a.name.text)
      | v :: _ => sim.host.assign a.static a.name v
    else
      match ← sim.host.member a.static a.name with
      | some f => sim.host.call (issueInside again) f values
      | none =>
        if a.static then throw (.noStaticAction a.name.text)
        else throw (.noAction sim.host.ownerName a.name.text)

/-- Carries out actions one by one, until one of them raises a fault. -/
def performAll (bindings : Bindings V) : List Action → Run σ Unit
  | [] => pure ()
  | a :: as => do
    sim.perform again bindings a
    performAll bindings as

/-! ## States -/

/-- The real state of a scoped name. -/
def place (scopedName : String) : Run σ Place :=
  match sim.machine.stateNamed? scopedName with
  | some p => pure p
  | none => throw (.noState scopedName)

/-- The scoped name of the real state a plan names. -/
def target (name : Value) : Run σ String :=
  match name with
  | .str scopedName => do
    let _ ← sim.place scopedName
    return scopedName
  | v => throw (.mismatch (.notKey v.kindName))

/-- Carries out the actions on entry or exit, if there are any. -/
def performBlock (headline : String) (actions : List Action) : Run σ Unit :=
  if actions.isEmpty then pure ()
  else do
    Run.report headline
    sim.performAll again [] actions

/-- Enters the current state. -/
def enter : Run σ Unit := do
  let name ← Run.current
  let p ← sim.place name
  sim.performBlock again ("Entry of state: " ++ name) (p.map.entryOf p.state)

/-- Exits the current state. -/
def leave : Run σ Unit := do
  let name ← Run.current
  let p ← sim.place name
  sim.performBlock again ("Exit of state: " ++ name) (p.map.exitOf p.state)

/-! ## Guards -/

/-- The state to be set: the one saved before a loopback, or the end state. -/
def destination (plan : Plan) (saved : Option String) : Run σ String :=
  match saved with
  | some name => pure name
  | none => sim.target plan.endState

/-- Sets the destination. -/
def setDestination (plan : Plan) (saved : Option String) : Run σ Unit := do
  let name ← sim.destination plan saved
  Run.attempt sim.host fun c => c.set (some name)

/-- Puts the next state in place and enters it. -/
def commit (plan : Plan) (saved : Option String) : Run σ Unit := do
  if plan.setsState then sim.setDestination plan saved
  else if plan.pushes then
    if plan.setsBeforePush then sim.setDestination plan saved
    if plan.entersBeforePush then sim.enter again
    let name ← sim.target plan.pushState
    Run.attempt sim.host fun c => c.push (some name)
  else if plan.pops then Run.attempt sim.host Context.pop
  if plan.entersNew then sim.enter again

/-- Runs the actions and commits the next state. -/
def actAndCommit (plan : Plan) (actions : List Action) (bindings : Bindings V)
    (saved : Option String) : Run σ Unit :=
  if plan.hasActions && !sim.noCatch then
    Run.ensure (sim.performAll again bindings actions) (sim.commit again plan saved)
  else do
    sim.performAll again bindings actions
    sim.commit again plan saved

/-- Issues the transition that follows a pop, if there is one. -/
def goOn (plan : Plan) (bindings : Bindings V) : Run σ Unit :=
  if plan.popTransition.isSet then do
    let args ← sim.argumentList again plan.popArguments bindings
    Run.report ("Re-issuing '" ++ plan.popTransition.text ++ "' after pop.")
    again plan.popTransition args
  else pure ()

/-- Takes a guard. -/
def take (plan : Plan) (actions : List Action) (bindings : Bindings V) : Run σ Unit := do
  let saved ← if plan.savesState then some <$> Run.current else pure none
  if plan.exitsCurrent then sim.leave again
  if plan.clearsState then Run.changeContext Context.clear
  sim.actAndCommit again plan actions bindings saved
  sim.goOn again plan bindings

/-- Does the condition of a guard hold? A guard without one always does. -/
def holds (bindings : Bindings V) (g : Guard) : Run σ Bool :=
  if g.hasCondition then do
    let v ← sim.evaluate again g.condition.text bindings
    return sim.host.isTrue v
  else return true

/-- What the log says of a guard that is taken. -/
def takenLine (t : Transition) (g : Guard) (state : String) : String :=
  "Transition '" ++ t.name.text ++ "' in " ++ state
    ++ (if g.hasCondition then " [" ++ g.condition.text ++ "]" else "")

/-- Takes the first of the guards that holds; tells whether there was one. -/
def tryGuards (p : Placed) (bindings : Bindings V) : List Guard → Run σ Bool
  | [] => return false
  | g :: gs => do
    if ← sim.holds again bindings g then
      let state ← Run.current
      Run.report (takenLine p.transition g state)
      Run.fit g.planMismatch?
      sim.take again (g.plan p.place.map.name.text) g.actions bindings
      return true
    else
      Run.report
        ("Guard [" ++ g.condition.text ++ "] of '" ++ p.transition.name.text ++ "' is false.")
      tryGuards p bindings gs

/-- The values of the parameters of a transition. -/
def bind (t : Transition) (args : List V) : Bindings V :=
  (t.parameters.map Parameter.name).zip args

/-- The mismatch of binding arguments to parameters. -/
def bindMismatch? (t : Transition) (args : List V) : Option Mismatch :=
  (bind t args).findSome? fun b => b.1.keyMismatch?

/-- Tries a transition; tells whether one of its guards was taken. -/
def tryTransition (p : Placed) (args : List V) : Run σ Bool := do
  Run.fit (bindMismatch? p.transition args)
  Run.fit p.transition.orderMismatch?
  sim.tryGuards again p (bind p.transition args) p.transition.ordered

/-! ## The default chain -/

/-- The arguments a link of the chain is tried with. -/
def linkArguments (step : DefaultStep) (args : List V) : List V :=
  if step = .mapTransition then args else []

/-- Tries the links of the default chain one by one; the last one refuses. -/
def tryLinks (state : String) (name : Value) (args : List V) : List DefaultLink → Run σ Unit
  | [] => throw (.refused state name.text)
  | link :: links =>
    match link.transition with
    | none => do
      Run.report ("No default handles '" ++ name.text ++ "' in state " ++ state ++ ".")
      throw (.refused state name.text)
    | some p =>
      let given := linkArguments link.step args
      if p.transition.arity != given.length then tryLinks state name args links
      else do
        if ← sim.tryTransition again p given then
          Run.report
            ("Default chain step '" ++ link.step.letter ++ "' handled '" ++ name.text ++ "'.")
        else tryLinks state name args links

/-- Tries the transition of the current state, then the default chain. -/
def handle (p : Place) (name : Value) (args : List V) : Run σ Unit := do
  let handled ←
    match p.state.ofArity? name args.length with
    | some t => sim.tryTransition again ⟨p, t⟩ args
    | none => pure false
  if handled then pure ()
  else
    sim.tryLinks again p.scopedName name args
      (p.defaultChain name (.arity args.length) false)

/-- Dispatches a transition. -/
def dispatchBy : Dispatch σ V := fun name args => do
  let state ← Run.current
  let p ← sim.place state
  Run.changeContext fun c => c.setTransition name
  Run.ensure (sim.handle again p name args)
    (Run.changeContext fun c => c.setTransition .null)

/-- Dispatches a transition, with at most `limit` transitions inside one
    another. -/
def dispatch (sim : Simulator σ V) : Nat → Dispatch σ V
  | 0 => fun _ _ => throw .tooDeep
  | limit + 1 => sim.dispatchBy (dispatch sim limit)

end Simulator
end StateMachine
