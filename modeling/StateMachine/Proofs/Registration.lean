import StateMachine.Proofs.Along
import StateMachine.Proofs.Events

/-!
# Who listens

A listener is added to a simulation and to its context, and removed from both. A
reset makes a new context and registers there the listeners of the simulation.
So it should be those whose last call was to add them that are registered
(`Registration.LastAdded`).

But a listener that is added again while it is there already is kept twice by
the simulation and once by the context. When it is removed it is gone from the
context, but not from the simulation, and the next reset brings it back
(`Registration.Returned`).

* The calls that concern the listeners, by those who request something of the
  simulator and by the host meanwhile, make up a history (`Simulator.history`).
  Of the host it is asked only that it notes its own calls (`Host.Notes`).
* By its history, a listener is registered if and only if it was added last or has
  returned (`registered_iff_added_or_returned`). If none is added again before it
  is removed, none returns.
-/

namespace StateMachine

variable {σ V : Type}

/-! ## Histories -/

/-- A call that concerns the listeners. -/
inductive Registration
  | add (id : String)
  | remove (id : String)
  | reset
  deriving DecidableEq

namespace Registration

/-- The call was made when `P` was true of the history, and the listener has not been
    removed since. -/
def Since (id : String) (call : Registration) (P : List Registration → Prop)
    (history : List Registration) : Prop :=
  ∃ before after, history = before ++ call :: after ∧ .remove id ∉ after ∧ P before

/-- How many times a listener was added without having been removed. -/
def surplus (id : String) (history : List Registration) : Nat :=
  history.foldl (fun n call =>
    if call = .add id then n + 1 else if call = .remove id then n - 1 else n) 0

/-- The last call about the listener was to add it. -/
def LastAdded (id : String) (history : List Registration) : Prop :=
  Since id (.add id) (fun _ => True) history

/-- The listener was still to be removed when there was a reset, and has not been
    removed since. -/
def Returned (id : String) (history : List Registration) : Prop :=
  Since id .reset (fun before => 0 < surplus id before) history

/-- No listener is added again before it is removed. -/
def AddsOnce (history : List Registration) : Prop :=
  ∀ id before after, history = before ++ .add id :: after → ¬LastAdded id before

variable {id : String} {history : List Registration}

theorem since_append_singleton {call last : Registration} {P : List Registration → Prop} :
    Since id call P (history ++ [last]) ↔
      (last = call ∧ P history) ∨ (last ≠ .remove id ∧ Since id call P history) := by
  constructor
  · rintro ⟨before, after, hsplit, hafter, hP⟩
    rcases List.eq_nil_or_concat after with rfl | ⟨after', last', rfl⟩
    · obtain ⟨rfl, hlast⟩ := List.append_inj' hsplit rfl
      exact .inl ⟨(List.cons.inj hlast).1, hP⟩
    · rw [List.concat_eq_append, ← List.cons_append, ← List.append_assoc] at hsplit
      obtain ⟨rfl, hlast⟩ := List.append_inj' hsplit rfl
      obtain rfl := (List.cons.inj hlast).1
      simp only [List.concat_eq_append, List.mem_append, List.mem_singleton, not_or] at hafter
      exact .inr ⟨fun h => hafter.2 h.symm, before, after', rfl, hafter.1, hP⟩
  · rintro (⟨rfl, hP⟩ | ⟨hlast, before, after, rfl, hafter, hP⟩)
    · exact ⟨history, [], rfl, List.not_mem_nil, hP⟩
    · refine ⟨before, after ++ [last], by simp, ?_, hP⟩
      simpa [hafter] using fun h => hlast h.symm

theorem surplus_append_singleton (id : String) (history : List Registration)
    (last : Registration) :
    surplus id (history ++ [last]) =
      if last = .add id then surplus id history + 1
      else if last = .remove id then surplus id history - 1 else surplus id history := by
  rw [surplus, List.foldl_append]
  rfl

/-- While a listener is not removed, it is not less to be removed. -/
theorem surplus_le_append {after : List Registration} (h : .remove id ∉ after) :
    surplus id history ≤ surplus id (history ++ after) := by
  induction after generalizing history with
  | nil => simp
  | cons call after ih =>
    obtain ⟨hcall, hafter⟩ := not_or.1 (mt List.mem_cons.2 h)
    have hrest : surplus id (history ++ [call]) ≤ surplus id (history ++ [call] ++ after) :=
      ih hafter
    rw [surplus_append_singleton, if_neg (Ne.symm hcall)] at hrest
    rw [List.append_cons]
    refine Nat.le_trans ?_ hrest
    split <;> omega

/-- A listener that was added last, or has returned, is still to be removed. -/
theorem surplus_pos (h : LastAdded id history ∨ Returned id history) : 0 < surplus id history := by
  rcases h with ⟨before, after, rfl, hafter, -⟩ | ⟨before, after, rfl, hafter, hbefore⟩
  · have hadd : surplus id (before ++ [.add id]) = surplus id before + 1 := by
      rw [surplus_append_singleton, if_pos rfl]
    rw [List.append_cons]
    exact Nat.lt_of_lt_of_le (hadd ▸ Nat.succ_pos _) (surplus_le_append hafter)
  · exact Nat.lt_of_lt_of_le hbefore (surplus_le_append (by simpa using hafter))

/-- Where none is added again before it is removed, one that is still to be removed was
    added last. -/
theorem lastAdded_of_surplus_pos (h : AddsOnce history) (hpos : 0 < surplus id history) :
    LastAdded id history := by
  -- along the history, a listener is to be removed once at most, and then was added last
  have hgood : ∀ (after before : List Registration), AddsOnce (before ++ after) →
      surplus id before ≤ 1 ∧ (0 < surplus id before → LastAdded id before) →
      surplus id (before ++ after) ≤ 1 ∧
        (0 < surplus id (before ++ after) → LastAdded id (before ++ after)) := by
    intro after
    induction after with
    | nil => exact fun before _ hbefore => by simpa using hbefore
    | cons call after ih =>
      intro before honce hbefore
      rw [List.append_cons] at honce ⊢
      refine ih (before ++ [call]) honce ?_
      rw [LastAdded, since_append_singleton, surplus_append_singleton]
      have hadded : call = .add id → ¬LastAdded id before := by
        rintro rfl
        exact honce id before after (by simp)
      by_cases hadd : call = .add id
      · rw [if_pos hadd]
        have hnone := mt hbefore.2 (hadded hadd)
        exact ⟨by omega, fun _ => .inl ⟨hadd, trivial⟩⟩
      · rw [if_neg hadd]
        by_cases hremove : call = .remove id
        · rw [if_pos hremove]
          exact ⟨by omega, fun hpos => by omega⟩
        · rw [if_neg hremove]
          exact ⟨hbefore.1, fun hpos => .inr ⟨hremove, hbefore.2 hpos⟩⟩
  have hend := (hgood history [] h ⟨Nat.zero_le 1, fun hpos => absurd hpos (Nat.lt_irrefl 0)⟩).2
  exact hend hpos

end Registration

/-! ## Rosters -/

/-- The listeners of a simulation. -/
structure Roster where
  /-- Those that are registered again after a reset. -/
  kept : List String
  /-- Those registered in the context. -/
  registered : List String

/-- The listeners of a simulation. -/
def Simulation.roster (s : Simulation σ) : Roster :=
  ⟨s.listeners, s.context.listeners⟩

namespace Roster

/-- Registered listeners with one more; each is registered once only. -/
def enrol (ids : List String) (id : String) : List String :=
  if ids.contains id then ids else ids ++ [id]

/-- The listeners after a call. -/
def make (r : Roster) : Registration → Roster
  | .add id => ⟨r.kept ++ [id], enrol r.registered id⟩
  | .remove id => ⟨r.kept.erase id, r.registered.erase id⟩
  | .reset => ⟨r.kept, r.kept.foldl enrol []⟩

/-- The listeners after calls. -/
def after (r : Roster) (calls : List Registration) : Roster :=
  calls.foldl make r

theorem after_append (r : Roster) (calls calls' : List Registration) :
    r.after (calls ++ calls') = (r.after calls).after calls' :=
  List.foldl_append

theorem mem_enrol {ids : List String} {id id' : String} :
    id ∈ enrol ids id' ↔ id ∈ ids ∨ id = id' := by
  rw [enrol]
  split
  · next h =>
    have hid' : id' ∈ ids := by simpa using h
    exact ⟨.inl, fun h => h.elim (fun h => h) fun h => h ▸ hid'⟩
  · simp

theorem nodup_enrol {ids : List String} (h : ids.Nodup) (id : String) : (enrol ids id).Nodup := by
  rw [enrol]
  split
  · exact h
  · next hid =>
    refine List.nodup_append.2 ⟨h, by simp, fun id' hid' id'' hid'' => ?_⟩
    obtain rfl := List.mem_singleton.1 hid''
    rintro rfl
    exact hid (by simpa using hid')

theorem mem_foldl_enrol {ids ids' : List String} {id : String} :
    id ∈ ids'.foldl enrol ids ↔ id ∈ ids ∨ id ∈ ids' := by
  induction ids' generalizing ids with
  | nil => simp
  | cons id' ids' ih => rw [List.foldl_cons, ih, mem_enrol, List.mem_cons, or_assoc]

theorem nodup_foldl_enrol {ids ids' : List String} (h : ids.Nodup) :
    (ids'.foldl enrol ids).Nodup := by
  induction ids' generalizing ids with
  | nil => exact h
  | cons id' ids' ih => exact ih (nodup_enrol h id')

/-- The listeners are what the history of calls about them says. -/
structure Agrees (r : Roster) (history : List Registration) : Prop where
  kept : ∀ id, r.kept.count id = Registration.surplus id history
  nodup : r.registered.Nodup
  registered : ∀ id, id ∈ r.registered ↔
    Registration.LastAdded id history ∨ Registration.Returned id history

open Registration in
/-- A call changes the listeners as it continues the history. -/
theorem Agrees.make {r : Roster} {history : List Registration} (h : r.Agrees history)
    (call : Registration) : (r.make call).Agrees (history ++ [call]) := by
  cases call with
  | add id' =>
    refine ⟨fun id => ?_, nodup_enrol h.nodup id', fun id => ?_⟩
    · rw [surplus_append_singleton, ← h.kept]
      by_cases hid : id' = id <;> simp [Roster.make, hid]
    · have hmake : id ∈ (r.make (.add id')).registered ↔ id ∈ r.registered ∨ id = id' := mem_enrol
      simp only [hmake, h.registered, LastAdded, Returned, since_append_singleton]
      by_cases hid : id' = id <;> simp [hid, eq_comm]
  | remove id' =>
    refine ⟨fun id => ?_, h.nodup.erase id', fun id => ?_⟩
    · rw [surplus_append_singleton, ← h.kept]
      by_cases hid : id' = id <;> simp [Roster.make, hid, eq_comm]
    · have hmake : id ∈ (r.make (.remove id')).registered ↔ id ≠ id' ∧ id ∈ r.registered :=
        h.nodup.mem_erase_iff
      simp only [hmake, h.registered, LastAdded, Returned, since_append_singleton]
      by_cases hid : id' = id <;> simp [hid, eq_comm]
  | reset =>
    refine ⟨fun id => ?_, nodup_foldl_enrol List.nodup_nil, fun id => ?_⟩
    · rw [surplus_append_singleton, ← h.kept]
      simp [Roster.make]
    · have hmake : id ∈ (r.make .reset).registered ↔ 0 < surplus id history := by
        rw [← h.kept, List.count_pos_iff]
        simp [Roster.make, mem_foldl_enrol]
      rw [hmake, LastAdded, Returned, since_append_singleton, since_append_singleton]
      constructor
      · exact fun hpos => .inr (.inl ⟨rfl, hpos⟩)
      · rintro ((⟨hadd, -⟩ | ⟨-, hadded⟩) | (⟨-, hpos⟩ | ⟨-, hreturned⟩))
        · cases hadd
        · exact surplus_pos (.inl hadded)
        · exact hpos
        · exact surplus_pos (.inr hreturned)

theorem Agrees.after {r : Roster} {history : List Registration} (h : r.Agrees history)
    (calls : List Registration) : (r.after calls).Agrees (history ++ calls) := by
  induction calls generalizing r history with
  | nil => rwa [List.append_nil]
  | cons call calls ih =>
    rw [List.append_cons]
    exact ih (h.make call)

end Roster

/-! ## Calls -/

/-- What happened between two simulations to the listeners is accounted for by the
    calls that the host noted meanwhile. -/
def Accounts (calls : σ → List Registration) (s s' : Simulation σ) : Prop :=
  ∃ made, calls s'.host = calls s.host ++ made ∧ s'.roster = s.roster.after made

/-- The host notes the calls it makes that concern the listeners, and touches them by no
    other means. -/
structure Host.Notes (h : Host σ V) (calls : σ → List Registration) : Prop where
  evaluate : ∀ issue, (∀ name args, (issue name args).Along (Accounts calls)) →
    ∀ e b, (h.evaluate issue e b).Along (Accounts calls)
  call : ∀ issue, (∀ name args, (issue name args).Along (Accounts calls)) →
    ∀ f args, (h.call issue f args).Along (Accounts calls)
  spread : ∀ v, (h.spread v).Along (Accounts calls)
  assign : ∀ static name v, (h.assign static name v).Along (Accounts calls)
  member : ∀ static name, (h.member static name).Along (Accounts calls)
  notify : ∀ id change, (h.notify id change).Along (Accounts calls)

/-- A step that leaves the host and the listeners alone needs no account. -/
theorem Accounts.of_same {calls : σ → List Registration} {s s' : Simulation σ}
    (hlisteners : s'.listeners = s.listeners)
    (hcontext : s'.context.listeners = s.context.listeners) (hhost : s'.host = s.host) :
    Accounts calls s s' := by
  refine ⟨[], by rw [hhost, List.append_nil], ?_⟩
  rw [Simulation.roster, hlisteners, hcontext]
  rfl

theorem Accounts.trans {calls : σ → List Registration} {s s' s'' : Simulation σ}
    (h : Accounts calls s s') (h' : Accounts calls s' s'') : Accounts calls s s'' := by
  obtain ⟨made, hcalls, hroster⟩ := h
  obtain ⟨made', hcalls', hroster'⟩ := h'
  refine ⟨made ++ made', ?_, ?_⟩
  · rw [hcalls', hcalls, List.append_assoc]
  · rw [hroster', hroster, Roster.after_append]

theorem Host.Notes.admits {sim : Simulator σ V} {calls : σ → List Registration}
    (h : sim.host.Notes calls) : sim.Admits (Accounts calls) :=
  { h with
    refl := fun _ => .of_same rfl rfl rfl
    trans := .trans
    machine := .of_same }

theorem Context.listeners_addListener {S : Type} (c : Context S) (id : String) :
    (c.addListener id).listeners = Roster.enrol c.listeners id := by
  rw [addListener, Roster.enrol]
  split <;> rfl

theorem Context.listeners_foldl_addListener {S : Type} (c : Context S) (ids : List String) :
    (ids.foldl addListener c).listeners = ids.foldl Roster.enrol c.listeners := by
  induction ids generalizing c with
  | nil => rfl
  | cons id ids ih => rw [List.foldl_cons, List.foldl_cons, ih, listeners_addListener]

/-! ## Requests -/

/-- What may be requested of a simulator. -/
inductive Request (V : Type)
  | add (id : String)
  | remove (id : String)
  | issue (name : Value) (args : List V)
  | reset

/-- The call about the listeners that a request is. -/
def Request.registration? : Request V → Option Registration
  | .add id => some (.add id)
  | .remove id => some (.remove id)
  | .issue _ _ => none
  | .reset => some .reset

namespace Simulator

/-- Answers a request. -/
def answer (sim : Simulator σ V) : Request V → Run σ Unit
  | .add id => Run.addListener id
  | .remove id => Run.removeListener id
  | .issue name args => do
    let _ ← sim.issue name args
  | .reset => sim.reset

/-- The simulation after requests, whatever they came to. -/
def answered (sim : Simulator σ V) (s : Simulation σ) (requests : List (Request V)) :
    Simulation σ :=
  requests.foldl (fun s r => ((sim.answer r).on s).2) s

/-- The calls about the listeners while requests are answered: each request that is one,
    and then what the host noted meanwhile. -/
def history (sim : Simulator σ V) (calls : σ → List Registration) :
    Simulation σ → List (Request V) → List Registration
  | _, [] => []
  | s, r :: rs =>
    let s' := ((sim.answer r).on s).2
    r.registration?.toList ++ (calls s'.host).drop (calls s.host).length
      ++ sim.history calls s' rs

/-- A machine whose first reset raises no fault is started. -/
theorem start_eq_ok {sim : Simulator σ V} {host : σ}
    (h : (sim.reset.on (sim.blank host)).1.isOk = true) : (sim.start host).1 = .ok () := by
  obtain ⟨⟨⟩, hok⟩ := Run.exists_ok h
  exact congrArg Prod.fst hok

/-- A machine that was started has a start state. -/
theorem exists_start {sim : Simulator σ V} {host : σ} (h : (sim.start host).1 = .ok ()) :
    sim.machine.startMismatch? = none ∧ ∃ p, sim.machine.startPlace? = some p := by
  change (sim.reset.on (sim.blank host)).1 = .ok () at h
  rw [reset, Run.on_bind_ok Run.on_clearLog] at h
  cases hm : sim.machine.startMismatch? with
  | some m =>
    rw [hm, Run.fit_some, Run.on_bind_error (Run.on_throw _)] at h
    cases h
  | none =>
    rw [hm, Run.fit_none, pure_bind] at h
    cases hp : sim.machine.startPlace? with
    | some p => exact ⟨rfl, p, rfl⟩
    | none =>
      rw [hp] at h
      cases h

section Answers

variable {sim : Simulator σ V} {calls : σ → List Registration} (hhost : sim.host.Notes calls)
  (hmatch : sim.machine.startMismatch? = none)
  (hstart : ∃ p, sim.machine.startPlace? = some p)

include hhost hmatch hstart

/-- A request changes the listeners by the call that it is, and by those that the host
    notes. -/
theorem answer_accounts (s : Simulation σ) (r : Request V) :
    ∃ made, calls ((sim.answer r).on s).2.host = calls s.host ++ made ∧
      ((sim.answer r).on s).2.roster = s.roster.after (r.registration?.toList ++ made) := by
  have hadmits := hhost.admits
  cases r with
  | add id =>
    refine ⟨[], (List.append_nil _).symm, ?_⟩
    change Roster.mk _ (s.context.addListener id).listeners = _
    rw [Context.listeners_addListener]
    rfl
  | remove id => exact ⟨[], (List.append_nil _).symm, rfl⟩
  | issue name args =>
    exact hadmits.bind (hadmits.issue_along name args) (fun _ => hadmits.pure ()) s
  | reset =>
    obtain ⟨p, hp⟩ := hstart
    -- the new context has the listeners of the simulation, before the start state is entered
    have hreset : (sim.reset.on s).2 = ((do
        Run.report ("Entering start state: " ++ p.scopedName)
        sim.enterHere : Run σ Unit).on { s with
          log := [], context := sim.freshContext p.scopedName s.listeners }).2 := by
      rw [reset, Run.on_bind_ok Run.on_clearLog, hmatch, Run.fit_none, pure_bind, hp]
      rfl
    obtain ⟨made, hcalls, hroster⟩ := hadmits.bind
      (hadmits.report ("Entering start state: " ++ p.scopedName))
      (fun _ => hadmits.enterHere_along) { s with
        log := [], context := sim.freshContext p.scopedName s.listeners }
    rw [← hreset] at hcalls hroster
    refine ⟨made, hcalls, hroster.trans ?_⟩
    have hfresh : (sim.freshContext p.scopedName s.listeners).listeners =
        s.listeners.foldl Roster.enrol [] := Context.listeners_foldl_addListener _ _
    rw [Simulation.roster, hfresh]
    rfl

/-- The listeners are what the history of the calls about them says. -/
theorem agrees_answered {s : Simulation σ} {before : List Registration}
    (hs : s.roster.Agrees before) (requests : List (Request V)) :
    (sim.answered s requests).roster.Agrees (before ++ sim.history calls s requests) := by
  induction requests generalizing s before with
  | nil => simpa [answered, history] using hs
  | cons r rs ih =>
    obtain ⟨made, hcalls, hroster⟩ := answer_accounts hhost hmatch hstart s r
    have hmade : (calls ((sim.answer r).on s).2.host).drop (calls s.host).length = made := by
      rw [hcalls, List.drop_left]
    have hnext := hs.after (r.registration?.toList ++ made)
    rw [← hroster] at hnext
    have hrest := ih hnext
    rw [history, hmade, ← List.append_assoc]
    exact hrest

end Answers

/-- Who is registered in the context of a machine that was started, which is a reset,
    after whatever requests: those whose last call was to add them, and those who were
    added more often than removed and returned with a reset. Where no listener is added
    again before it is removed, it is those whose last call was to add them. -/
theorem registered_iff_added_or_returned (sim : Simulator σ V) {calls : σ → List Registration}
    (hhost : sim.host.Notes calls) {host : σ} (hstart : (sim.start host).1 = .ok ())
    (requests : List (Request V)) :
    let s := sim.answered (sim.blank host) (.reset :: requests)
    let history := sim.history calls (sim.blank host) (.reset :: requests)
    (∀ id, id ∈ s.context.listeners ↔
      Registration.LastAdded id history ∨ Registration.Returned id history) ∧
    (Registration.AddsOnce history → ∀ id,
      id ∈ s.context.listeners ↔ Registration.LastAdded id history) := by
  intro s history
  obtain ⟨hmatch, hplace⟩ := exists_start hstart
  have hblank : (sim.blank host).roster.Agrees [] := by
    refine ⟨fun _ => rfl, List.nodup_nil, fun id => ⟨nofun, ?_⟩⟩
    rintro (⟨before, after, hsplit, -⟩ | ⟨before, after, hsplit, -⟩) <;> simp at hsplit
  have hagrees := (agrees_answered hhost hmatch hplace hblank (.reset :: requests)).registered
  refine ⟨hagrees, fun honce id => (hagrees id).trans ⟨fun h => ?_, .inl⟩⟩
  exact Registration.lastAdded_of_surplus_pos honce (Registration.surplus_pos h)

/-- A host whose listeners leave when they are told of a change; it writes down that
    they do. -/
def leavers : Host (List Registration) String where
  ownerName := "Clerk"
  names _ := []
  evaluate _ e _ := pure e
  isTrue v := v == "True"
  spread _ := pure []
  assign _ _ _ := pure ()
  member _ name := pure (some name.text)
  call _ _ _ := pure ()
  notify id _ := do
    Run.removeListener id
    Run.changeHost (· ++ [.remove id])

theorem leavers_notes : leavers.Notes id := by
  have hnone : ∀ s : Simulation (List Registration), Accounts id s s := fun _ =>
    .of_same rfl rfl rfl
  exact {
    evaluate := fun _ _ _ _ => hnone
    call := fun _ _ _ _ => hnone
    spread := fun _ => hnone
    assign := fun _ _ _ => hnone
    member := fun _ _ => hnone
    notify := fun id _ _ => ⟨[.remove id], rfl, rfl⟩ }

/-- Two listeners are added, and one of them a second time. The change to work makes both
    leave, but only one of them is gone for good. -/
theorem one_of_two_returns :
    let sim := deskWith leavers plainDesk 0
    let requests : List (Request String) :=
      [.add "ear", .add "eye", .add "ear", .issue (.str "work") [], .reset]
    let calls : List Registration :=
      [.reset, .add "ear", .add "eye", .add "ear", .remove "ear", .remove "eye", .reset]
    leavers.Notes id ∧ (sim.start []).1 = .ok () ∧
      sim.history id (sim.blank []) (.reset :: requests) = calls ∧
      (sim.answered (sim.blank []) (.reset :: requests)).context.listeners = ["ear"] ∧
      ∀ id, id ∈ ["ear"] ↔ Registration.LastAdded id calls ∨ Registration.Returned id calls := by
  intro sim requests calls
  have hstart : (sim.start []).1 = .ok () := start_eq_ok (by decide +kernel)
  have hhistory : sim.history id (sim.blank []) (.reset :: requests) = calls := by decide +kernel
  have hlisteners : (sim.answered (sim.blank []) (.reset :: requests)).context.listeners =
      ["ear"] := by decide +kernel
  have hregistered := (registered_iff_added_or_returned sim leavers_notes hstart requests).1
  rw [hhistory, hlisteners] at hregistered
  exact ⟨leavers_notes, hstart, hhistory, hlisteners, hregistered⟩

/-- A listener that was added twice is registered again after it was removed and the
    machine started over, and it is told of the next change. -/
theorem removed_listener_told_again :
    let sim := plainClerk 0
    let s := sim.answered (sim.blank []) [.reset, .add "ear", .add "ear", .remove "ear", .reset]
    (sim.start []).1 = .ok () ∧
      ¬Registration.LastAdded "ear" [.reset, .add "ear", .add "ear", .remove "ear", .reset] ∧
      "ear" ∈ s.context.listeners ∧
      ((sim.issue (.str "work") []).on s).2.host =
        ["tidy", "greet", "ear: Desk::Free to Desk::Busy", "sign"] := by
  intro sim s
  refine ⟨start_eq_ok (by decide +kernel), ?_, by decide +kernel, by decide +kernel⟩
  -- the last of the calls about the listener is the removal
  rw [show [Registration.reset, .add "ear", .add "ear", .remove "ear", .reset] =
      [.reset, .add "ear", .add "ear"] ++ [.remove "ear"] ++ [.reset] from rfl,
    Registration.LastAdded, Registration.since_append_singleton,
    Registration.since_append_singleton]
  simp

end Simulator
end StateMachine
