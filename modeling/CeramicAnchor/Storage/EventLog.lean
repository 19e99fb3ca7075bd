import Mathlib.Data.List.Basic

/-
This file runs the calls of a contract that keeps a state and an event log.
-/

namespace CeramicAnchor.Storage

structure Ledger (State Event : Type) where
  state : State
  log : List Event

/-- The code works on the ledger until it returns or reverts. -/
abbrev ContractCode (State Event A : Type) := EStateM String (Ledger State Event) A

variable {State Event Input A View : Type}

namespace ContractCode

def require (condition : Bool) (message : String) : ContractCode State Event Unit :=
  if condition then pure () else throw message

def emit (event : Event) : ContractCode State Event Unit :=
  modify fun ledger => { ledger with log := ledger.log ++ [event] }

def read : ContractCode State Event State := do
  let ledger ← get
  pure ledger.state

def write (state : State) : ContractCode State Event Unit :=
    modify fun ledger => { ledger with state := state }

/-- A call into a library returns or reverts before it has written anything. -/
def external : Except String A → ContractCode State Event A
  | .ok value => pure value
  | .error message => throw message

/-- A reverted call has no effect. -/
def transact (code : ContractCode State Event Unit) (ledger : Ledger State Event) : Ledger State Event :=
  match code ledger with
  | .ok _ next => next
  | .error _ _ => ledger

theorem transact_ok {code : ContractCode State Event Unit} {ledger next : Ledger State Event}
    (returns : code ledger = .ok () next) : transact code ledger = next := by
  rw [transact, returns]

theorem transact_error {code : ContractCode State Event Unit} {ledger next : Ledger State Event}
    {message : String} (reverts : code ledger = .error message next) : transact code ledger = ledger := by
  rw [transact, reverts]

variable {rest : ContractCode State Event A} {ledger : Ledger State Event}

@[simp] theorem require_bind (condition : Bool) (message : String) :
    (require condition message >>= fun _ => rest) ledger =
      if condition = true then rest ledger else .error message ledger := by
  cases condition <;> rfl

@[simp] theorem emit_bind (event : Event) :
    (emit event >>= fun _ => rest) ledger = rest { ledger with log := ledger.log ++ [event] } := rfl

@[simp] theorem read_bind (next : State → ContractCode State Event A) :
    (read >>= next) ledger = next ledger.state ledger := rfl

@[simp] theorem write_bind (state : State) :
    (write state >>= fun _ => rest) ledger = rest { ledger with state := state } := rfl

@[simp] theorem pure_apply (value : A) :
  (pure value : ContractCode State Event A) ledger = .ok value ledger := rfl

end ContractCode

open ContractCode

section Runs

variable (code : Input → ContractCode State Event Unit)

/-- The transactions run one after another. -/
def runCalls (ledger : Ledger State Event) (inputs : List Input) : Ledger State Event :=
  inputs.foldl (fun current input => transact (code input) current) ledger

@[simp] theorem runCalls_nil (ledger : Ledger State Event) : runCalls code ledger [] = ledger := rfl

@[simp] theorem runCalls_cons (ledger : Ledger State Event) (input : Input) (inputs : List Input) :
    runCalls code ledger (input :: inputs) = runCalls code (transact (code input) ledger) inputs := rfl

theorem runCalls_append (ledger : Ledger State Event) (front back : List Input) :
    runCalls code ledger (front ++ back) = runCalls code (runCalls code ledger front) back :=
  List.foldl_append

/-- An event comes with the call that emitted it and the state that the call found. -/
structure Entry (State Input Event : Type) where
  before : State
  input : Input
  event : Event

/-- These are the events of the calls, in the order of the log. -/
def entries : Ledger State Event → List Input → List (Entry State Input Event)
  | _, [] => []
  | ledger, input :: rest =>
      let next := transact (code input) ledger
      (next.log.drop ledger.log.length).map (Entry.mk ledger.state input) ++ entries next rest

/-- A call that returns has appended its events to the log. -/
def Appends (code : ContractCode State Event Unit) : Prop :=
  ∀ ledger next, code ledger = .ok () next → ∃ events, next.log = ledger.log ++ events

variable {code}

theorem transact_log (appends : ∀ input, Appends (code input)) (input : Input) (ledger : Ledger State Event) :
    ∃ events, (transact (code input) ledger).log = ledger.log ++ events := by
  cases result : code input ledger with
  | ok value next =>
      rw [transact_ok result]
      exact appends input ledger next result
  | error message next =>
      rw [transact_error result]
      exact ⟨[], (List.append_nil _).symm⟩

/-- The log is the list of the events of all calls. -/
theorem runCalls_log (appends : ∀ input, Appends (code input)) (ledger : Ledger State Event)
    (inputs : List Input) :
    (runCalls code ledger inputs).log = ledger.log ++ (entries code ledger inputs).map Entry.event := by
  induction inputs generalizing ledger with
  | nil => exact (List.append_nil _).symm
  | cons input inputs ih =>
      obtain ⟨events, same⟩ := transact_log appends input ledger
      rw [runCalls_cons, ih, entries, same, List.drop_left, List.map_append, List.map_map, List.append_assoc]
      congr 2
      exact (List.map_id events).symm

/-- Each event was emitted by a call that returned. -/
theorem mem_entries {ledger : Ledger State Event} {inputs : List Input} {entry : Entry State Input Event}
    (member : entry ∈ entries code ledger inputs) : ∃ reached next, code entry.input reached = .ok () next ∧
      reached.state = entry.before ∧ entry.event ∈ next.log.drop reached.log.length := by
  induction inputs generalizing ledger with
  | nil => cases member
  | cons input inputs ih =>
      rcases List.mem_append.mp member with here | later
      · obtain ⟨event, emitted, rfl⟩ := List.mem_map.mp here
        cases result : code input ledger with
        | ok value next =>
            rw [transact_ok result] at emitted
            exact ⟨ledger, next, result, rfl, emitted⟩
        | error message next =>
            rw [transact_error result, List.drop_length] at emitted
            cases emitted
      · exact ih later

/-- A view that each call changes by its events is the fold of the log. -/
theorem runCalls_projected (view : State → View) (apply : View → Event → View)
    (sourced : ∀ input ledger next, code input ledger = .ok () next →
      ∃ events, next.log = ledger.log ++ events ∧ view next.state = events.foldl apply (view ledger.state))
    {start : View} (ledger : Ledger State Event)
    (initially : view ledger.state = ledger.log.foldl apply start)
    (inputs : List Input) : view (runCalls code ledger inputs).state =
      (runCalls code ledger inputs).log.foldl apply start := by
  induction inputs generalizing ledger with
  | nil => exact initially
  | cons input inputs ih =>
      rw [runCalls_cons]
      cases result : code input ledger with
      | ok value next =>
          obtain ⟨events, log, folded⟩ := sourced input ledger next result
          rw [transact_ok result]
          refine ih next ?_
          rw [folded, log, List.foldl_append, initially]
      | error message next =>
          rw [transact_error result]
          exact ih ledger initially

end Runs

end CeramicAnchor.Storage
