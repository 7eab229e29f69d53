import StateMachine.Model.State

/-!
# Guard plans

What taking a guard amounts to, step by step, whoever carries it out:

* a loopback with actions first saves the current state;
* unless the guard is a loopback, the current state is exited;
* a guard with actions clears the current state while they run;
* the next state is committed: set, pushed or popped;
* the state arrived at is entered, unless nothing was left;
* after a pop, a further transition may be issued.

The names of states are scoped by the map of the state the guard belongs to. A
name is a text, unless a description gives a list or an object that holds the
scope mark.
-/

namespace StateMachine

/-- The steps of a guard. -/
structure Plan where
  move : Move
  isLoopback : Bool
  hasActions : Bool
  /-- The current state is remembered before it is cleared. -/
  savesState : Bool
  exitsCurrent : Bool
  clearsState : Bool
  setsState : Bool
  /-- A push first goes to the end state. -/
  setsBeforePush : Bool
  /-- A push enters the end state before it goes on. -/
  entersBeforePush : Bool
  pushes : Bool
  pops : Bool
  entersNew : Bool
  /-- The scoped name of the end state; empty for a pop or a loopback. -/
  endState : Value
  /-- The scoped name of the state to push; empty unless the guard pushes. -/
  pushState : Value
  /-- The transition issued after a pop; empty if there is none. -/
  popTransition : Value
  /-- Its arguments. -/
  popArguments : Value

namespace Plan

/-- Does the guard change nothing at all? -/
def isNoop (p : Plan) : Bool :=
  p.move == .set && p.isLoopback && !p.hasActions

end Plan

namespace Guard

/-- Does the guard name an end state to go to? -/
def hasTarget (g : Guard) : Bool :=
  g.move != .pop && g.endState.isSet && !(g.endState == .str nilState)

/-- The plan of a guard of a state of the map `mapName`. -/
def plan (g : Guard) (mapName : String) : Plan where
  move := g.move
  isLoopback := g.isLoopback
  hasActions := g.hasActions
  savesState := g.isLoopback && g.hasActions
  exitsCurrent := !g.isLoopback
  clearsState := g.hasActions
  setsState := g.move == .set && (g.hasActions || !g.isLoopback)
  setsBeforePush := g.move == .push && (g.hasActions || !g.isLoopback)
  entersBeforePush := g.move == .push && !g.isLoopback
  pushes := g.move == .push
  pops := g.move == .pop
  entersNew := (g.move == .set && !g.isLoopback) || g.move == .push
  endState := if g.hasTarget then scopeValue g.endState mapName else .str ""
  pushState := if g.move == .push then scopeValue g.pushState mapName else .str ""
  popTransition := g.popTransition
  popArguments := if g.popTransition.isSet then g.popArguments else .str ""

/-- The mismatch of planning a guard. -/
def planMismatch? (g : Guard) : Option Mismatch :=
  (if g.hasTarget then scopeMismatch? g.endState else none)
    <|> (if g.move == .push then scopeMismatch? g.pushState else none)

end Guard

/-- Does every guard set the state to nil? -/
def allStay (guards : List Guard) : Bool :=
  guards.all fun g => g.move == .set && g.endState == .str nilState

end StateMachine
