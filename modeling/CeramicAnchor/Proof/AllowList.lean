import CeramicAnchor.Construction.CeramicAnchorServiceV2
import Mathlib.Data.List.Induction

/-
This file proves that the allow list of the contract is the fold of its event log.
-/

namespace CeramicAnchor.CeramicAnchorServiceV2
open Storage Storage.ContractCode

variable {Owner : Type} {library : Ownable Owner}
    {ledger next : Ledger (CeramicAnchorServiceV2 Owner) CasEvent}

/-- The library lets only the owner pass its check. -/
def ChecksOwner (library : Ownable Owner) : Prop :=
  ∀ owner sender, library.checkOwner owner sender = .ok () → library.owner owner = sender

section Events

/-- The event says whether this service is allowed. -/
def Concerns (service : Address) : CasEvent → Bool
  | .DidAddCas added => added = service
  | .DidRemoveCas removed => removed = service
  | _ => false

/-- This is the last event that added or removed the service. -/
def latest (service : Address) (log : List CasEvent) : Option CasEvent :=
    (log.filter (Concerns service)).getLast?

def listen (allowList : Address → Bool) : CasEvent → Address → Bool
  | .DidAddCas service => Function.update allowList service true
  | .DidRemoveCas service => Function.update allowList service false
  | _ => allowList

/-- The fold of the events allows a service when its last event has added it. -/
theorem listen_latest (log : List CasEvent) (service : Address) :
    log.foldl listen (fun _ => false) service = true ↔ latest service log = some (.DidAddCas service) := by
  induction log using List.reverseRecOn with
  | nil => exact iff_of_false Bool.false_ne_true (by simp [latest])
  | append_singleton log event ih =>
      rw [List.foldl_append, List.foldl_cons, List.foldl_nil, latest, List.filter_append]
      cases event with
      | DidAddCas added =>
          by_cases same : added = service
          · subst same
            simp [listen, Concerns]
          · simpa [listen, latest, Concerns, same, Function.update_of_ne (Ne.symm same)] using ih
      | DidRemoveCas removed =>
          by_cases same : removed = service
          · subst same
            simp [listen, Concerns]
          · simpa [listen, latest, Concerns, same, Function.update_of_ne (Ne.symm same)] using ih
      | DidAnchor anchored root => simpa [listen, latest, Concerns] using ih
      | OwnershipTransferred previousOwner newOwner => simpa [listen, latest, Concerns] using ih

/-- The sender of the call may emit this event. -/
def Justified (library : Ownable Owner) (contract : CeramicAnchorServiceV2 Owner) (sender : Address) :
    CasEvent → Prop
  | .DidAddCas _ => sender = library.owner contract.ownable
  | .DidRemoveCas service => sender = library.owner contract.ownable ∨
      (sender = service ∧ contract.allowList service = true)
  | .DidAnchor service _ => sender = service ∧
      (service = library.owner contract.ownable ∨ contract.allowList service = true)
  | .OwnershipTransferred _ _ => True

end Events

section Calls

/-- A call that returns has appended justified events, and they say how the allow list has changed. -/
structure Emits (library : Ownable Owner) (sender : Address)
    (ledger next : Ledger (CeramicAnchorServiceV2 Owner) CasEvent) (events : List CasEvent) : Prop where
  log : next.log = ledger.log ++ events
  allowList : next.state.allowList = events.foldl listen ledger.state.allowList
  justified : ∀ event ∈ events, Justified library ledger.state sender event

theorem transfers_apply (transfers : List (Address × Address)) :
    transfers.forM (fun transfer => emit (.OwnershipTransferred transfer.1 transfer.2)) ledger =
      .ok () { ledger with
        log := ledger.log ++ transfers.map fun transfer => .OwnershipTransferred transfer.1 transfer.2 } := by
  induction transfers generalizing ledger with
  | nil => simp
  | cons transfer transfers ih =>
      change (emit (CasEvent.OwnershipTransferred transfer.1 transfer.2) >>= fun _ => transfers.forM _)
          ledger = _
      rw [emit_bind, ih]
      simp

theorem transfers_listen (allowList : Address → Bool) (transfers : List (Address × Address)) :
    (transfers.map fun transfer => CasEvent.OwnershipTransferred transfer.1 transfer.2).foldl listen
    allowList =
      allowList := by
  induction transfers with
  | nil => rfl
  | cons transfer transfers ih => exact ih

variable {sender : Address}

theorem external_bind {A B : Type} (result : Except String A)
    (rest : A → ContractCode (CeramicAnchorServiceV2 Owner) CasEvent B) :
    (external result >>= rest) ledger = match result with
      | .ok value => rest value ledger
      | .error message => .error message ledger := by
  cases result <;> rfl

/-- A body under the owner's check runs for the owner only. -/
theorem onlyOwner_apply (body : Body Owner Unit) : onlyOwner library sender body ledger =
    match library.checkOwner ledger.state.ownable sender with
    | .ok () => body ledger
    | .error message => .error message ledger := by
  rw [onlyOwner, read_bind, external_bind]
  cases library.checkOwner ledger.state.ownable sender <;> rfl

theorem onlyAllowed_apply (body : Body Owner Unit) : onlyAllowed library sender body ledger =
    if (ledger.state.allowList sender || sender == library.owner ledger.state.ownable) = true then body ledger
    else .error "Allow List: caller is not allowed" ledger := by
  rw [onlyAllowed, read_bind, require_bind]

theorem changeOwner_apply (change : Owner → Except String (Owner × List (Address × Address))) :
    changeOwner change ledger = match change ledger.state.ownable with
    | .ok (ownable, transfers) => .ok () ⟨{ ledger.state with ownable := ownable },
        ledger.log ++ transfers.map fun transfer => .OwnershipTransferred transfer.1 transfer.2⟩
    | .error message => .error message ledger := by
  rw [changeOwner, read_bind, external_bind]
  cases change ledger.state.ownable with
  | ok result => exact transfers_apply result.2
  | error message => rfl

/-- The call reverts before it has written anything, or it returns and has emitted justified events. -/
inductive Outcome (library : Ownable Owner) (sender : Address)
    (ledger : Ledger (CeramicAnchorServiceV2 Owner) CasEvent) :
    EStateM.Result String (Ledger (CeramicAnchorServiceV2 Owner) CasEvent) Unit → Prop where
  | reverts (message : String) : Outcome library sender ledger (.error message ledger)
  | returns {next : Ledger (CeramicAnchorServiceV2 Owner) CasEvent} {events : List CasEvent}
      (emits : Emits library sender ledger next events) : Outcome library sender ledger (.ok () next)

theorem changeOwner_outcome (change : Owner → Except String (Owner × List (Address × Address))) :
    Outcome library sender ledger (changeOwner change ledger) := by
  rw [changeOwner_apply]
  cases change ledger.state.ownable with
  | ok changed =>
      refine .returns ⟨rfl, (transfers_listen _ _).symm, fun event member => ?_⟩
      obtain ⟨transfer, _, rfl⟩ := List.mem_map.mp member
      trivial
  | error message => exact .reverts message

/-- Each call checks its sender before it writes. -/
theorem code_outcome (checks : ChecksOwner library) (transaction : Transaction)
    (ledger : Ledger (CeramicAnchorServiceV2 Owner) CasEvent) :
    Outcome library transaction.sender ledger (transaction.code library ledger) := by
  obtain ⟨sender, call⟩ := transaction
  cases call with
  | addCas service =>
      change Outcome library sender ledger (onlyOwner library sender _ ledger)
      rw [onlyOwner_apply]
      cases result : library.checkOwner ledger.state.ownable sender with
      | ok checked =>
          have emitted :
              ∀ event ∈ [CasEvent.DidAddCas service], Justified library ledger.state sender event :=
            List.forall_mem_singleton.mpr (checks _ _ result).symm
          exact .returns ⟨rfl, rfl, emitted⟩
      | error message => exact .reverts message
  | removeCas service =>
      change Outcome library sender ledger (removeCas library sender service ledger)
      rw [removeCas, read_bind, require_bind]
      split
      · next allowed =>
          simp only [Bool.or_eq_true, Bool.and_eq_true, beq_iff_eq] at allowed
          have emitted :
              ∀ event ∈ [CasEvent.DidRemoveCas service], Justified library ledger.state sender event := by
            rw [List.forall_mem_singleton]
            rcases allowed with owns | ⟨inList, same⟩
            · exact .inl owns.symm
            · exact .inr ⟨same, same ▸ inList⟩
          exact .returns ⟨rfl, rfl, emitted⟩
      · exact .reverts _
  | isServiceAllowed service =>
      exact .returns ⟨(List.append_nil _).symm, rfl, List.forall_mem_nil _⟩
  | anchorDagCbor root =>
      change Outcome library sender ledger (onlyAllowed library sender _ ledger)
      rw [onlyAllowed_apply]
      split
      · next allowed =>
          simp only [Bool.or_eq_true, beq_iff_eq] at allowed
          have emitted :
              ∀ event ∈ [CasEvent.DidAnchor sender root], Justified library ledger.state sender event :=
            List.forall_mem_singleton.mpr ⟨rfl, allowed.symm⟩
          exact .returns ⟨rfl, rfl, emitted⟩
      · exact .reverts _
  | transferOwnership newOwner =>
      exact changeOwner_outcome fun owner => library.transferOwnership owner sender newOwner
  | renounceOwnership => exact changeOwner_outcome fun owner => library.renounceOwnership owner sender

theorem code_emits (checks : ChecksOwner library) {transaction : Transaction}
    (returns : transaction.code library ledger = .ok () next) :
    ∃ events, Emits library transaction.sender ledger next events := by
  have outcome := code_outcome checks transaction ledger
  rw [returns] at outcome
  cases outcome with
  | returns emits => exact ⟨_, emits⟩

theorem code_reverts (checks : ChecksOwner library) {transaction : Transaction} {message : String}
    (reverts : transaction.code library ledger = .error message next) : next = ledger := by
  have outcome := code_outcome checks transaction ledger
  rw [reverts] at outcome
  cases outcome with
  | reverts => rfl

end Calls

section Runs

variable (library)

/-- The contract after these transactions. -/
def history (start : Ledger (CeramicAnchorServiceV2 Owner) CasEvent) (transactions : List Transaction) :
    Ledger (CeramicAnchorServiceV2 Owner) CasEvent :=
  runCalls (Transaction.code library) start transactions

variable {library}

/-- A service is allowed exactly when its latest event added it, each event was emitted by a sender who
may do so, and a call that reverts changes nothing. -/
theorem allowList_fold (checks : ChecksOwner library) (owner : Owner) (transfers : List (Address × Address))
    (transactions : List Transaction) :
    (∀ service, isServiceAllowed service (history library (deploy owner transfers) transactions) =
        .ok true (history library (deploy owner transfers) transactions) ↔
      latest service (history library (deploy owner transfers) transactions).log =
      some (.DidAddCas service)) ∧
    (history library (deploy owner transfers) transactions).log = (deploy owner transfers).log ++
      (entries (Transaction.code library) (deploy owner transfers) transactions).map Entry.event ∧
    (∀ entry ∈ entries (Transaction.code library) (deploy owner transfers) transactions,
      Justified library entry.before entry.input.sender entry.event) ∧
    ∀ front transaction back, transactions = front ++ transaction :: back →
      ∀ message next, transaction.code library (history library (deploy owner transfers) front) =
      .error message next →
        next = history library (deploy owner transfers) front ∧
          history library (deploy owner transfers) (front ++ [transaction]) =
            history library (deploy owner transfers) front := by
  have appends : ∀ transaction : Transaction, Appends (transaction.code library) := by
    intro transaction ledger next returns
    obtain ⟨events, emits⟩ := code_emits checks returns
    exact ⟨events, emits.log⟩
  have projected : (history library (deploy owner transfers) transactions).state.allowList =
      (history library (deploy owner transfers) transactions).log.foldl listen fun _ => false := by
    refine runCalls_projected CeramicAnchorServiceV2.allowList listen ?_ _
      (transfers_listen _ _).symm transactions
    intro transaction ledger next returns
    obtain ⟨events, emits⟩ := code_emits checks returns
    exact ⟨events, emits.log, emits.allowList⟩
  refine ⟨fun service => ?_, runCalls_log appends _ _, fun entry member => ?_, ?_⟩
  · rw [← listen_latest, ← projected]
    constructor
    · intro returns
      exact (EStateM.Result.ok.inj returns).1
    · intro allowed
      exact congrArg (EStateM.Result.ok · _) allowed
  · obtain ⟨reached, next, returns, same, emitted⟩ := mem_entries member
    obtain ⟨events, emits⟩ := code_emits checks returns
    rw [emits.log, List.drop_left] at emitted
    rw [← same]
    exact emits.justified entry.event emitted
  · rintro front transaction back rfl message next reverts
    refine ⟨code_reverts checks reverts, ?_⟩
    rw [history, runCalls_append]
    exact transact_error reverts

/-- The owner is one address, and the zero address owns nothing. -/
def addressOwnable : Ownable Address where
  owner owner := owner
  checkOwner owner sender := if owner = sender then .ok () else .error "Ownable: caller is not the owner"
  transferOwnership owner sender newOwner :=
    if owner ≠ sender then .error "Ownable: caller is not the owner"
    else if newOwner = 0 then .error "Ownable: new owner is the zero address"
    else .ok (newOwner, [(owner, newOwner)])
  renounceOwnership owner sender :=
    if owner ≠ sender then .error "Ownable: caller is not the owner" else .ok (0, [(owner, 0)])

theorem addressOwnable_checks : ChecksOwner addressOwnable := by
  intro owner sender checked
  by_contra other
  have refused : addressOwnable.checkOwner owner sender = .error "Ownable: caller is not the owner" :=
    if_neg other
  rw [refused] at checked
  cases checked

/-- A service is added, anchors, and removes itself, and then its call reverts. -/
def removal : List Transaction :=
  [⟨1, .addCas 2⟩, ⟨2, .anchorDagCbor 7⟩, ⟨1, .transferOwnership 3⟩, ⟨2, .removeCas 2⟩, ⟨2, .anchorDagCbor 7⟩]

theorem allowList_fold_removal : (history addressOwnable (deploy 1 [(0, 1)]) removal).log =
      [.OwnershipTransferred 0 1, .DidAddCas 2, .DidAnchor 2 7, .OwnershipTransferred 1 3, .DidRemoveCas 2] ∧
    isServiceAllowed 2 (history addressOwnable (deploy 1 [(0, 1)]) removal) ≠
      .ok true (history addressOwnable (deploy 1 [(0, 1)]) removal) := by
  have log : (history addressOwnable (deploy 1 [(0, 1)]) removal).log =
      [.OwnershipTransferred 0 1, .DidAddCas 2, .DidAnchor 2 7, .OwnershipTransferred 1 3,
        .DidRemoveCas 2] := by
    decide
  have fold := (allowList_fold addressOwnable_checks (1 : Address) [(0, 1)] removal).1 2
  refine ⟨log, fun allowed => ?_⟩
  have added := fold.mp allowed
  rw [log] at added
  exact absurd added (by decide)

end Runs

end CeramicAnchor.CeramicAnchorServiceV2
