import CeramicAnchor.Construction.TransactionRepository
import CeramicAnchor.Proof.GasPrice
import CeramicAnchor.Proof.LoneRequest

/-
This file proves that one worker at a time reads nonces and submits transactions.
-/

namespace CeramicAnchor
open Concurrency Storage Prog EthereumBlockchainService TransactionRepository

abbrev WorkerSetting (State : Type) := Setting (LockOp WorkerOp) (LockOp.Reply WorkerOp.Reply) Failure State

abbrev WorkerEvent (State : Type) := Event (LockOp WorkerOp) (LockOp.Reply WorkerOp.Reply) Failure State

section Calls

variable {State : Type} {setting : WorkerSetting State} {A : Type} {operation residue : WorkerCode A}
  {maxAttempts : Option Nat} {delayMS fuel attempt : Nat} {start last : State}
  {trace : List (WorkerEvent State)}

def WorkerEvent.granted : WorkerEvent State → Bool
  | ⟨.tryLock, _, .ok success, _⟩ => success
  | _ => false

def WorkerEvent.refused : WorkerEvent State → Bool
  | ⟨.tryLock, _, .ok success, _⟩ => !success
  | _ => false

/-- The call opens its transaction, tries the lock without success, or waits. -/
def WorkerEvent.Waits (event : WorkerEvent State) : Prop :=
  (event.op = .begin ∨ event.op = .tryLock ∨ ∃ milliseconds, event.op = .inner (.delay milliseconds)) ∧
    event.granted = false

def refusals (trace : List (WorkerEvent State)) : Nat := trace.countP WorkerEvent.refused

/-- A rejected call has used up its attempts, or something that it awaited was rejected. -/
def Excused (maxAttempts : Option Nat) (trace : List (WorkerEvent State)) (error : Failure) : Prop :=
  (∃ max ∈ maxAttempts, refusals trace = max ∧ error = failedToAcquire maxAttempts) ∨
    ∃ event ∈ trace, event.reply = .error error

/-- The call never gets the lock, so it does not run its operation and it returns nothing. -/
structure LockedOut (maxAttempts : Option Nat) (trace : List (WorkerEvent State))
    (residue : WorkerCode A) : Prop where
  waits : ∀ event ∈ trace, event.Waits ∨ event.op = .rollback
  bounded : ∀ max ∈ maxAttempts, refusals trace ≤ max
  unreturned : ∀ value, residue ≠ .done value
  excused : ∀ error, residue = .fail error → Excused maxAttempts trace error

/-- The transaction ends once, right after the operation, and a rejected operation rolls it back. -/
inductive Closes (outcome : WorkerCode A) : List (WorkerEvent State) → WorkerCode A → Prop where
  | opened {residue : WorkerCode A}
      (fails : ∀ error, outcome = .fail error → ∃ next, residue = .ask .rollback next) :
      Closes outcome [] residue
  | committed {event : WorkerEvent State} {residue : WorkerCode A} (value : A)
      (returned : outcome = .done value)
      (commits : event.op = .commit) (ends : residue = .done value ∨ ∃ error, residue = .fail error) :
      Closes outcome [event] residue
  | rolledBack {event : WorkerEvent State} (error : Failure) (rejected : outcome = .fail error)
      (rollsBack : event.op = .rollback) : Closes outcome [event] (.fail error)

/-- The call gets the lock within its attempts, runs its operation once and ends its transaction. -/
def RunsOnce (setting : WorkerSetting State) (operation : WorkerCode A) (maxAttempts : Option Nat)
    (trace : List (WorkerEvent State)) (residue : WorkerCode A) : Prop :=
  ∃ waiting before after running closing outcome reached,
    trace = waiting ++ ⟨.tryLock, before, .ok true, after⟩ :: (running ++ closing) ∧
    (∀ event ∈ waiting, event.Waits) ∧ (∀ max ∈ maxAttempts, refusals waiting < max) ∧
    Path setting operation after running outcome reached ∧ Closes outcome closing residue

/-- The loop has not got the lock. -/
structure Searching (maxAttempts : Option Nat) (attempt : Nat) (trace : List (WorkerEvent State))
    (residue : WorkerCode A) : Prop where
  waits : ∀ event ∈ trace, event.Waits
  bounded : ∀ max ∈ maxAttempts, attempt ≤ max + 1 → attempt + refusals trace ≤ max + 1
  unreturned : ∀ value, residue ≠ .done value
  excused : ∀ error, residue = .fail error →
    (∃ max ∈ maxAttempts, max < attempt + refusals trace ∧ error = failedToAcquire maxAttempts) ∨
      ∃ event ∈ trace, event.reply = .error error

/-- The loop goes on with its operation after the lock is granted. -/
def Entered (setting : WorkerSetting State) (operation : WorkerCode A) (maxAttempts : Option Nat)
    (attempt : Nat) (trace : List (WorkerEvent State)) (residue : WorkerCode A) (last : State) : Prop :=
  ∃ waiting before after running, trace = waiting ++ ⟨.tryLock, before, .ok true, after⟩ :: running ∧
    (∀ event ∈ waiting, event.Waits) ∧ (∀ max ∈ maxAttempts, attempt + refusals waiting ≤ max) ∧
    Path setting operation after running residue last

theorem refusals_cons (event : WorkerEvent State) (trace : List (WorkerEvent State)) :
    refusals (event :: trace) = (if event.refused then 1 else 0) + refusals trace := by
  unfold refusals
  rw [List.countP_cons, Nat.add_comm]

theorem refusals_append (front back : List (WorkerEvent State)) :
    refusals (front ++ back) = refusals front + refusals back := List.countP_append

/-- An event that is no refusal stands in front of the search. -/
theorem Searching.cons {event : WorkerEvent State} (search : Searching maxAttempts attempt trace residue)
    (waits : event.Waits) (kept : event.refused = false) :
    Searching maxAttempts attempt (event :: trace) residue where
  waits := List.forall_mem_cons.mpr ⟨waits, search.waits⟩
  bounded := by
    rw [refusals_cons, kept]
    simpa using search.bounded
  unreturned := search.unreturned
  excused error same := by
    rw [refusals_cons, kept]
    rcases search.excused error same with used | ⟨rejected, member, reply⟩
    · exact .inl (by simpa using used)
    · exact .inr ⟨rejected, List.mem_cons_of_mem _ member, reply⟩

/-- A refused attempt and a delay stand in front of the search. -/
theorem Searching.refused {before after : State} (permitted : ∀ max ∈ maxAttempts, attempt ≤ max)
    (search : Searching maxAttempts (attempt + 1) trace residue) :
    Searching maxAttempts attempt
    (⟨.tryLock, before, (Except.ok false : Except Failure Bool), after⟩ :: trace)
      residue where
  waits := List.forall_mem_cons.mpr ⟨⟨.inr (.inl rfl), rfl⟩, search.waits⟩
  bounded max member _ := by
    have bounded := search.bounded max member (by simpa using permitted max member)
    rw [refusals_cons]
    simp only [WorkerEvent.refused, Bool.not_false, if_true]
    omega
  unreturned := search.unreturned
  excused error same := by
    rw [refusals_cons]
    simp only [WorkerEvent.refused, Bool.not_false, if_true]
    rcases search.excused error same with ⟨max, member, used, gaveUp⟩ | ⟨rejected, member, reply⟩
    · exact .inl ⟨max, member, by omega, gaveUp⟩
    · exact .inr ⟨rejected, List.mem_cons_of_mem _ member, reply⟩

/-- The loop stops at an operation that has not been answered. -/
theorem Searching.pending {op : LockOp WorkerOp}
    {next : Except Failure (LockOp.Reply WorkerOp.Reply op) → WorkerCode A} :
    Searching maxAttempts attempt ([] : List (WorkerEvent State)) (.ask op next) where
  waits := by simp
  bounded _ _ reached := by simpa [refusals] using reached
  unreturned _ same := by cases same
  excused _ same := by cases same

/-- The rejection of an operation leaves the loop. -/
theorem Searching.rejected {event : WorkerEvent State} {error : Failure} (waits : event.Waits)
    (kept : event.refused = false) (reply : event.reply = .error error) :
    Searching maxAttempts attempt [event] (.fail error : WorkerCode A) where
  waits := by simpa using waits
  bounded _ _ reached := by simpa [refusals, kept] using reached
  unreturned _ same := by cases same
  excused _ same := by
    cases same
    exact .inr ⟨event, by simp, reply⟩

/-- A path of the loop searches for the lock, or it enters the operation once. -/
theorem acquireMutex_path
    (path : Path setting (acquireMutex maxAttempts delayMS operation fuel attempt) start trace
      residue last) :
    Searching maxAttempts attempt trace residue ∨
      Entered setting operation maxAttempts attempt trace residue last := by
  induction fuel generalizing attempt start trace with
  | zero =>
      cases path with
      | stop =>
          exact .inl ⟨by simp, fun _ _ reached => by simpa [refusals] using reached, by simp [acquireMutex],
          by simp [acquireMutex]⟩
  | succ fuel ih =>
      rw [acquireMutex] at path
      split at path
      · rename_i permitted
        rcases path.call_cases with ⟨rfl, rfl⟩ | ⟨before, success, after, rest, rfl, tried⟩ |
          ⟨before, error, rfl, rfl⟩
        · exact .inl .pending
        · cases success with
          | true => exact .inr ⟨[], before, after, rest, rfl, by simp, permitted, tried⟩
          | false =>
              rcases tried.call_cases with ⟨rfl, rfl⟩ | ⟨_, _, _, later, rfl, waited⟩ | ⟨_, error, rfl, rfl⟩
              · exact .inl (.refused permitted .pending)
              · rcases ih waited with search | ⟨waiting, first, second, running, rfl, waits, bounded, inside⟩
                · exact .inl (.refused permitted (search.cons ⟨.inr (.inr ⟨_, rfl⟩), rfl⟩ rfl))
                · refine .inr ⟨_ :: _ :: waiting, first, second, running, rfl, ?_, ?_, inside⟩
                  · exact List.forall_mem_cons.mpr ⟨⟨.inr (.inl rfl), rfl⟩,
                      List.forall_mem_cons.mpr ⟨⟨.inr (.inr ⟨_, rfl⟩), rfl⟩, waits⟩⟩
                  · intro max member
                    have reached := bounded max member
                    simp only [refusals_cons, WorkerEvent.refused, Bool.not_false, if_true,
                      Bool.false_eq_true, if_false]
                    omega
              · exact .inl (.refused permitted (.rejected ⟨.inr (.inr ⟨_, rfl⟩), rfl⟩ rfl rfl))
        · exact .inl (.rejected ⟨.inr (.inl rfl), rfl⟩ rfl rfl)
      · rename_i exhausted
        cases path with
        | stop =>
            obtain ⟨max, member, beyond⟩ : ∃ max ∈ maxAttempts, max < attempt := by simpa using exhausted
            refine .inl ⟨by simp, fun _ _ reached => by simpa [refusals] using reached, ?_, ?_⟩
            · intro _ same
              cases same
            · intro _ same
              cases same
              exact .inl ⟨max, member, by simpa [refusals] using beyond, rfl⟩

theorem unrefused {event : WorkerEvent State} (other : event.op ≠ .tryLock) : event.refused = false := by
  obtain ⟨op, before, reply, after⟩ := event
  cases op with
  | tryLock => exact absurd rfl other
  | _ => rfl

theorem ungranted {event : WorkerEvent State} (other : event.op ≠ .tryLock) : event.granted = false := by
  obtain ⟨op, before, reply, after⟩ := event
  cases op with
  | tryLock => exact absurd rfl other
  | _ => rfl

/-- A call is locked out when its loop is left without the lock. -/
theorem Searching.lockedOut {event : WorkerEvent State} {front back : List (WorkerEvent State)}
    {inner : WorkerCode A} (search : Searching maxAttempts 1 front inner) (begun : event.op = .begin)
    (rollsBack : ∀ last ∈ back, last.op = .rollback) (unreturned : ∀ value, residue ≠ .done value)
    (rethrown : ∀ error, residue = .fail error → inner = .fail error) :
    LockedOut maxAttempts (event :: (front ++ back)) residue := by
  have first : event.refused = false := unrefused (by simp [begun])
  have closing : refusals back = 0 := by
    refine List.countP_eq_zero.mpr fun last member => ?_
    simp [@unrefused _ last (by simp [rollsBack last member])]
  have same : refusals (event :: (front ++ back)) = refusals front := by
    rw [refusals_cons, first, refusals_append, closing]
    simp
  have bounded : ∀ max ∈ maxAttempts, refusals front ≤ max := by
    intro max member
    have within := search.bounded max member (by omega)
    omega
  refine ⟨?_, by rwa [same], unreturned, fun error rejected => ?_⟩
  · intro other member
    rcases List.mem_cons.mp member with rfl | member
    · exact .inl ⟨.inl begun, ungranted (by simp [begun])⟩
    · rcases List.mem_append.mp member with member | member
      · exact .inl (search.waits other member)
      · exact .inr (rollsBack other member)
  · rcases search.excused error
        (rethrown error rejected) with ⟨max, member, used, gaveUp⟩ | ⟨failed, member, reply⟩
    · have within := bounded max member
      exact .inl ⟨max, member, by omega, gaveUp⟩
    · exact .inr ⟨failed, by simp [member], reply⟩

/-- The call enters its operation once, and then it ends its transaction. -/
theorem Entered.runsOnce {event : WorkerEvent State} {front closing : List (WorkerEvent State)}
    {outcome : WorkerCode A} (entered : Entered setting operation maxAttempts 1 front outcome last)
    (begun : event.op = .begin) (closes : Closes outcome closing residue) :
    RunsOnce setting operation maxAttempts (event :: (front ++ closing)) residue := by
  obtain ⟨waiting, before, after, running, rfl, waits, bounded, inside⟩ := entered
  refine ⟨event :: waiting, before, after, running, closing, outcome, last, by simp, ?_, ?_, inside, closes⟩
  · exact List.forall_mem_cons.mpr ⟨⟨.inl begun, ungranted (by simp [begun])⟩, waits⟩
  · intro max member
    have within := bounded max member
    rw [refusals_cons, unrefused (by simp [begun])]
    simp only [Bool.false_eq_true, if_false]
    omega

/-- A rejected call is about to roll back, or it has rolled back and rethrows. -/
theorem rollback_path {error : Failure}
    (path : Path setting (do
      let _ ← (call (LockOp.rollback : LockOp WorkerOp)).attempt
      throw error : WorkerCode A) start trace residue last) :
    (trace = [] ∧ ∃ next, residue = .ask .rollback next) ∨
      ∃ event, trace = [event] ∧ event.op = .rollback ∧ residue = .fail error := by
  change Path setting (.ask .rollback fun reply => _) start trace residue last at path
  cases path with
  | stop => exact .inl ⟨rfl, _, rfl⟩
  | @perform _ _ reply _ before after _ _ _ others performed rest =>
      cases reply with
      | ok _ =>
          cases rest with
          | stop => exact .inr ⟨_, rfl, rfl, rfl⟩
      | error _ =>
          cases rest with
          | stop => exact .inr ⟨_, rfl, rfl, rfl⟩

/-- The call runs its operation at most once, and not at all when it has used up its attempts. -/
theorem withTransactionMutex_path
    (path : Path setting (withTransactionMutex operation maxAttempts delayMS fuel) start trace residue last) :
    LockedOut maxAttempts trace residue ∨ RunsOnce setting operation maxAttempts trace residue := by
  rcases path.call_cases with ⟨rfl, rfl⟩ | ⟨before, _, after, rest, rfl, begun⟩ | ⟨before, error, rfl, rfl⟩
  · refine .inl ⟨by simp, by simp [refusals], ?_, ?_⟩ <;> exact fun _ same => by cases same
  · rcases begun.bind_cases with ⟨pending, guarded, rfl⟩ | ⟨value, front, back, middle, rfl, guarded,
        committing⟩
    · rcases guarded.handle_cases with ⟨inner, searched, rfl⟩ | ⟨error, front, back, middle, rfl,
          searched, handling⟩
      -- The loop or its operation goes on, or it has just ended.
      · rw [← List.append_nil rest]
        rcases acquireMutex_path searched with search | entered
        · refine .inl (search.lockedOut rfl (by simp) ?_ ?_)
          · intro value same
            cases inner with
            | done value => exact search.unreturned value rfl
            | _ => cases same
          · intro error same
            cases inner with
            | done value => exact absurd rfl (search.unreturned value)
            | _ => cases same
        · refine .inr (entered.runsOnce rfl (.opened ?_))
          rintro error rfl
          exact ⟨_, rfl⟩
      -- The loop or its operation is rejected, and the handler rolls back.
      · rcases acquireMutex_path searched with search | entered
        · rcases rollback_path handling with ⟨rfl, next, rfl⟩ | ⟨event, rfl, rollsBack, rfl⟩
          · refine .inl (search.lockedOut rfl (by simp) ?_ ?_) <;> exact fun _ same => by cases same
          · refine .inl (search.lockedOut rfl (by simpa using rollsBack) (fun _ same => by cases same) ?_)
            intro _ same
            cases same
            rfl
        · rcases rollback_path handling with ⟨rfl, next, rfl⟩ | ⟨event, rfl, rollsBack, rfl⟩
          · exact .inr (entered.runsOnce rfl (.opened fun _ _ => ⟨_, rfl⟩))
          · exact .inr (entered.runsOnce rfl (.rolledBack error rfl rollsBack))
    · rcases guarded.handle_cases with ⟨inner, searched, same⟩ | ⟨error, _, back', _, rfl, searched, handling⟩
      -- The operation returns its value, and the commit follows.
      · obtain rfl : inner = .done value := by
          cases inner <;> cases same
          rfl
        rcases acquireMutex_path searched with search | entered
        · exact absurd rfl (search.unreturned value)
        · rcases committing.call_cases with ⟨rfl, rfl⟩ | ⟨_, _, _, rest, rfl, returns⟩ | ⟨_, error, rfl, rfl⟩
          · refine .inr (entered.runsOnce rfl (.opened ?_))
            intro _ same
            cases same
          · cases returns with
            | stop => exact .inr (entered.runsOnce rfl (.committed value rfl rfl (.inl rfl)))
          · exact .inr (entered.runsOnce rfl (.committed value rfl rfl (.inr ⟨error, rfl⟩)))
      · rcases rollback_path handling with ⟨_, next, same⟩ | ⟨_, _, _, same⟩ <;> cases same
  · refine .inl ⟨fun event member => ?_, by simp [refusals, WorkerEvent.refused],
      (fun _ same => by cases same), ?_⟩
    · rw [List.mem_singleton.mp member]
      exact .inl ⟨.inl rfl, rfl⟩
    · intro _ same
      cases same
      exact .inr ⟨_, List.mem_singleton_self _, rfl⟩

end Calls

section Locking

/-- The operations of the Ethereum node need the lock. -/
def WorkerOp.Critical (op : WorkerOp) : Prop := ∃ ethereumOp, op = .ethereum ethereumOp

/-- The operation of the lock is one of the Ethereum node. -/
def CriticalOp (op : LockOp WorkerOp) : Prop := ∃ ethereumOp, op = .inner (.ethereum ethereumOp)

theorem ethereumCode_confined {A : Type} (program : EthereumCode A) :
    (ethereumCode program).Confined CriticalOp := by
  induction program with
  | done value => trivial
  | fail error => trivial
  | halted => trivial
  | ask op next ih =>
      rw [ethereumCode]
      refine ⟨⟨op, rfl⟩, fun reply => ?_⟩
      cases reply with
      | ok answer => exact ih answer
      | error failure => trivial

theorem submit_confined (service : EthereumBlockchainService) (formats : EthereumFormats) (root : Cid) :
    (submit service formats root).Confined CriticalOp := by
  refine confined_bind (ethereumCode_confined _) fun sent => ?_
  cases sent with
  | ok transaction => trivial
  | error error => trivial

variable {A : Type} {operation : WorkerCode A} {maxAttempts : Option Nat} {delayMS fuel attempt : Nat}

/-- The loop neither commits nor rolls back. -/
theorem acquireMutex_confined (confined : operation.Confined CriticalOp) :
    (acquireMutex maxAttempts delayMS operation fuel attempt).Confined fun op => ¬ op.Ends := by
  induction fuel generalizing attempt with
  | zero => trivial
  | succ fuel ih =>
      rw [acquireMutex]
      split
      · refine confined_bind (confined_call _ (by simp [LockOp.Ends])) fun success => ?_
        cases success with
        | true =>
            refine confined_mono confined fun op critical => ?_
            obtain ⟨ethereumOp, rfl⟩ := critical
            simp [LockOp.Ends]
        | false => exact confined_bind (confined_call _ (by simp [LockOp.Ends])) fun _ => ih
      · trivial

/-- Nothing of the Ethereum node follows the end of the transaction. -/
theorem withTransactionMutex_leads (confined : operation.Confined CriticalOp) :
    (withTransactionMutex operation maxAttempts delayMS fuel).Leads fun op _ rest =>
      op.Ends → rest.Confined fun later => ¬ CriticalOp later := by
  refine leads_bind (leads_call LockOp.begin (fun _ ends => ?_) fun _ _ => trivial) fun _ => ?_
  · simp [LockOp.Ends] at ends
  · refine leads_bind (leads_handle ?_ fun error => ?_) fun value => ?_
    · exact leads_confined (acquireMutex_confined confined) fun _ _ _ inside ends => absurd ends inside
    · refine leads_bind
        (leads_handle (leads_bind (leads_call LockOp.rollback ?_ ?_) fun _ => trivial) fun _ => trivial)
        fun _ => trivial
      · exact fun _ _ => trivial
      · exact fun _ _ => trivial
    · exact leads_bind (leads_call LockOp.commit (fun _ _ => trivial) fun _ _ => trivial) fun _ => trivial

variable {B : Type} {entry : Nat → WorkerCode B → Prop} {thread : Nat} {mutex : Mutex}

/-- The loop tries the lock in the open transaction, and the operation runs with the lock. -/
theorem acquireMutex_locked (confined : operation.Confined CriticalOp)
    (opened : mutex.sessions thread = .opened) :
    Sat ((locking entry WorkerOp.Critical).setting thread) (Locked WorkerOp.Critical thread) (fun _ _ => True)
      (fun _ _ => True) (acquireMutex maxAttempts delayMS operation fuel attempt) mutex := by
  have stays : ∀ {first second : Mutex}, first.KeepsAway thread second → first.sessions thread = .opened →
      second.sessions thread = .opened := fun others opened => (others (by simp [opened])).1.trans opened
  induction fuel generalizing attempt mutex with
  | zero => trivial
  | succ fuel ih =>
      rw [acquireMutex]
      split
      · refine sat_bind (fun success reached => reached.sessions thread = .opened ∧
          (success = true → reached.holder = some thread)) (sat_call LockOp.tryLock ?_ ?_) ?_
        · intro before others success after performed
          have still := stays others opened
          cases success with
          | true =>
              obtain ⟨_, rfl⟩ : before.Grants thread ∧ after = before.granted thread := performed
              exact ⟨still, by simp [Mutex.granted, still]⟩
          | false =>
              obtain ⟨_, rfl⟩ : ¬ before.Grants thread ∧ after = before := performed
              exact ⟨still, still, by simp⟩
        · exact fun before others _ _ _ => ⟨stays others opened, trivial⟩
        · rintro success reached ⟨still, held⟩
          cases success with
          | true =>
              refine sat_results
                (sat_keeps (fun mutex => mutex.sessions thread = .opened ∧ mutex.holder = some thread)
                confined ?_ ?_ ⟨still, held rfl⟩) (fun _ _ _ => trivial)
                fun _ _ _ => trivial
              · rintro first second others ⟨opened, held⟩
                obtain ⟨session, holds⟩ := others (by simp [opened])
                exact ⟨session.trans opened, holds.mpr held⟩
              · rintro _ ⟨ethereumOp, rfl⟩ before reply after performed held
                obtain rfl : after = before := performed
                exact ⟨fun _ => held, held⟩
          | false =>
              refine sat_bind (fun _ reached => reached.sessions thread = .opened)
                (sat_call (LockOp.inner (WorkerOp.delay delayMS)) ?_ ?_) fun _ reached opened => ih opened
              · intro before others _ after performed
                obtain rfl : after = before := performed
                exact ⟨fun critical => by simp [WorkerOp.Critical] at critical, stays others still⟩
              · exact fun _ _ _ _ _ => ⟨fun critical => by simp [WorkerOp.Critical] at critical, trivial⟩
      · trivial

/-- The call opens its transaction first, and its operation runs with the lock. -/
theorem withTransactionMutex_locked (confined : operation.Confined CriticalOp) :
    Sat ((locking entry WorkerOp.Critical).setting thread) (Locked WorkerOp.Critical thread) (fun _ _ => True)
      (fun _ _ => True) (withTransactionMutex operation maxAttempts delayMS fuel) mutex := by
  refine sat_bind (fun _ reached => reached.sessions thread = .opened) (sat_call LockOp.begin ?_ ?_)
    fun _ reached opened => ?_
  · intro before _ _ after performed
    obtain rfl : after = before.enter thread .opened := performed
    exact ⟨trivial, Function.update_self _ _ _⟩
  · exact fun _ _ _ _ _ => ⟨trivial, trivial⟩
  · refine sat_bind (fun _ _ => True) (sat_handle (fun _ _ => True) (acquireMutex_locked confined opened)
      fun error reached _ => ?_) fun value reached _ => ?_
    · refine sat_bind (fun _ _ => True) (sat_attempt_settled _ (sat_call LockOp.rollback ?_ ?_))
        fun _ _ _ => trivial
      · exact fun _ _ _ _ _ => ⟨trivial, trivial⟩
      · exact fun _ _ _ _ _ => ⟨trivial, trivial⟩
    · refine sat_bind (fun _ _ => True) (sat_call LockOp.commit ?_ ?_) fun _ _ _ => trivial
      · exact fun _ _ _ _ _ => ⟨trivial, trivial⟩
      · exact fun _ _ _ _ _ => ⟨trivial, trivial⟩

end Locking

section Workers

/-- The operation hands the root of the tree to the Ethereum service. -/
def WorldOp.Submits (op : WorldOp) : Prop := ∃ root, op = .sendTransaction root

namespace AnchorService

variable (service : AnchorService) (formats : Formats)

/-- A batch submits its root once. -/
theorem anchorCandidates_submits (fuel : Nat) (candidates : List Candidate) :
    (anchorCandidates service formats fuel candidates).Leads fun op _ rest =>
      op.Submits → rest.Confined fun later => ¬ later.Submits := by
  have quiet : ∀ op : WorldOp, op.Quiet → ¬ op.Submits := by
    rintro op quiet ⟨root, rfl⟩
    exact quiet
  have early : (buildMerkleTree candidates).Confined fun op => ¬ op.Submits :=
    confined_handle (confined_call (WorldOp.buildMerkleTree candidates) (by simp [WorldOp.Submits]))
    fun _ => trivial
  refine leads_bind (leads_confined early fun _ _ _ other submits => absurd submits other)
    fun merkleTree => ?_
  refine leads_once fun tx => ?_
  refine confined_bind (confined_mono (service.createAnchorCommits_quiet _ _ _ _) quiet) fun stored => ?_
  refine confined_bind (confined_mono (service.importCAR_quiet stored.2) quiet) fun _ => ?_
  refine confined_bind (confined_call (WorldOp.storeCarFile _ stored.2) (by simp [WorldOp.Submits]))
    fun _ => ?_
  refine confined_bind (confined_mono (storeWitnessCARs_quiet stored.2 stored.1) quiet) fun _ => ?_
  refine confined_bind (persistAnchorResult_confined ?_ (fun _ => ?_) ?_ fuel) fun _ => trivial
  all_goals simp [WorldOp.Submits]

end AnchorService

namespace Worker

variable (worker : Worker)

theorem implementation_other {op : WorldOp} (other : ¬ op.Submits) :
    worker.implementation op = call (LockOp.inner (WorkerOp.world op)) := by
  cases op with
  | sendTransaction root => exact absurd ⟨root, rfl⟩ other
  | _ => rfl

/-- The worker follows the discipline of the lock. -/
theorem anchorCandidates_locked {entry : Nat → WorkerCode AnchorSummary → Prop} (thread : Nat)
    (mutex : Mutex) : (locking entry WorkerOp.Critical).Safe thread worker.anchorCandidates mutex := by
  refine sat_implement_each (fun op first => ?_) _ mutex
  by_cases submits : op.Submits
  · obtain ⟨root, rfl⟩ := submits
    exact withTransactionMutex_locked (submit_confined _ _ _)
  · rw [worker.implementation_other submits]
    have outside : ¬ (WorkerOp.world op).Critical := by simp [WorkerOp.Critical]
    refine sat_call (LockOp.inner (WorkerOp.world op)) ?_ ?_
    · exact fun _ _ _ _ _ => ⟨fun critical => absurd critical outside, trivial⟩
    · exact fun _ _ _ _ _ => ⟨fun critical => absurd critical outside, trivial⟩

/-- The worker awaits nothing of the Ethereum node after the end of its transaction. -/
theorem anchorCandidates_leads : worker.anchorCandidates.Leads fun op _ rest =>
    op.Ends → rest.Confined fun later => ¬ CriticalOp later := by
  refine leads_implement (fun op => ?_) (fun op other => ?_)
    (worker.service.anchorCandidates_submits worker.formats worker.fuel worker.candidates)
  · by_cases submits : op.Submits
    · obtain ⟨root, rfl⟩ := submits
      exact withTransactionMutex_leads (submit_confined _ _ _)
    · rw [worker.implementation_other submits]
      have plain :
          Confined (fun low : LockOp WorkerOp => ¬ low.Ends) (call (LockOp.inner (WorkerOp.world op)) :
          WorkerCode op.Reply) := confined_call _ (by simp [LockOp.Ends])
      exact leads_confined plain fun _ _ _ inside ends => absurd ends inside
  · rw [worker.implementation_other other]
    exact confined_call _ (by simp [LockOp.Ends, CriticalOp])

end Worker

abbrev WorkerPool := Pool (LockOp WorkerOp) (LockOp.Reply WorkerOp.Reply) Failure AnchorSummary Mutex

abbrev WorkerRecord := Record (LockOp WorkerOp) (LockOp.Reply WorkerOp.Reply) Failure Mutex

/-- A worker that has ended its transaction is done with the Ethereum node. -/
theorem ended_uncritical {front back : List WorkerRecord} {record : WorkerRecord} {last : WorkerPool}
    (run : Run workerSystem (.idle Mutex.free) (front ++ record :: back) last) (ends : record.2.op.Ends) :
    ∀ later ∈ back, later.1 = record.1 → ¬ CriticalOp later.2.op := by
  rintro ⟨thread, event⟩ member (rfl : thread = record.1)
  have own : event ∈ eventsOf record.1 back := mem_eventsOf.mpr member
  have idle : (Pool.idle Mutex.free : WorkerPool).threads record.1 = none := rfl
  obtain ⟨program, start, residue, ended, ⟨worker, rfl⟩, path⟩ := run.acting idle (by simp)
  rw [eventsOf_split] at path
  obtain ⟨rest, outside, later⟩ := path_cut path worker.anchorCandidates_leads
  exact later.confined (outside ends) event own

def ReadsNonce (op : LockOp WorkerOp) : Prop :=
    ∃ address, op = .inner (.ethereum (.getTransactionCount address))

def SendsTransaction (op : LockOp WorkerOp) : Prop :=
    ∃ txData, op = .inner (.ethereum (.sendTransaction txData))

/-- Workers exclude each other from the Ethereum node, run their operation at most once and give the
mutex back. -/
theorem submission_exclusive :
    (∀ {front middle back : List WorkerRecord} {first second : WorkerRecord} {last : WorkerPool},
      Run workerSystem (.idle Mutex.free) (front ++ first :: (middle ++ second :: back)) last →
      ReadsNonce first.2.op → ReadsNonce second.2.op ∨ SendsTransaction second.2.op → first.1 ≠ second.1 →
      ∃ early ended late, middle = early ++ ended :: late ∧ ended.1 = first.1 ∧ ended.2.op.Ends ∧
        ∀ later ∈ late ++ second :: back, later.1 = first.1 → ¬ CriticalOp later.2.op) ∧
    (∀ {State A : Type} {setting : WorkerSetting State} {operation residue : WorkerCode A}
      {maxAttempts : Option Nat} {delayMS fuel : Nat} {start last : State} {trace : List (WorkerEvent State)},
      Path setting (withTransactionMutex operation maxAttempts delayMS fuel) start trace residue last →
      LockedOut maxAttempts trace residue ∨ RunsOnce setting operation maxAttempts trace residue) ∧
    (∀ {front middle : List WorkerRecord} {thread : Nat} {before after : Mutex} {closing : WorkerEvent Mutex}
      {last : WorkerPool},
      Run workerSystem (.idle Mutex.free)
        (front ++ (thread, ⟨.tryLock, before, .ok true, after⟩) :: (middle ++ [(thread, closing)])) last →
      (∀ record ∈ middle, record.1 = thread → ¬ record.2.op.Ends) → closing.op.Ends →
      ∀ {waiting : Nat} {next : Except Failure Bool → WorkerCode AnchorSummary},
        last.threads waiting = some (.ask .tryLock next) →
        ∃ reached, Reaches workerSystem last reached ∧ reached.threads waiting = some (next (.ok true)) ∧
          reached.world.holder = some waiting) := by
  have entries : ∀ (thread : Nat) (program : WorkerCode AnchorSummary) (mutex : Mutex),
      mutex.sessions thread = .idle → (∃ worker : Worker, program = worker.anchorCandidates) →
      (locking (fun _ program => ∃ worker : Worker, program = worker.anchorCandidates) WorkerOp.Critical).Safe
        thread program mutex := by
    rintro thread program mutex _ ⟨worker, rfl⟩
    exact worker.anchorCandidates_locked thread mutex
  refine ⟨?_, withTransactionMutex_path, ?_⟩
  · rintro front middle back first second last run ⟨address, reads⟩ submits different
    have critical : CriticalOp second.2.op := by
      rcases submits with ⟨address', reads'⟩ | ⟨txData, sends⟩
      · exact ⟨_, reads'⟩
      · exact ⟨_, sends⟩
    obtain ⟨op, inner⟩ := critical
    obtain ⟨ended, member, same, ends⟩ := Run.exclusive entries run reads inner ⟨_, rfl⟩ ⟨_, rfl⟩ different
    obtain ⟨early, late, rfl⟩ := List.append_of_mem member
    refine ⟨early, ended, late, rfl, same, ends, ?_⟩
    have cut : Run workerSystem (.idle Mutex.free)
        ((front ++ first :: early) ++ ended :: (late ++ second :: back)) last := by simpa using run
    exact same ▸ ended_uncritical cut ends
  · intro front middle thread before after closing last run goesOn ends waiting next current
    exact Run.reacquired entries run goesOn ends current

def mutexWorker : Worker := ⟨loneWorker, loneFormats, mainService, mainFormats, [], 1⟩

/-- A worker opens its transaction. -/
def opening (thread : Nat) (mutex : Mutex) : List (WorkerEvent Mutex) :=
  [⟨.inner (.world (.buildMerkleTree [])), mutex, .ok loneTree, mutex⟩,
    ⟨.begin, mutex, .ok (), mutex.enter thread .opened⟩]

def grant (thread : Nat) (mutex : Mutex) : WorkerEvent Mutex :=
  ⟨.tryLock, mutex.enter thread .opened, .ok true, (mutex.enter thread .opened).granted thread⟩

def rejectedNonce (thread : Nat) (mutex : Mutex) : WorkerEvent Mutex :=
  let locked := (mutex.enter thread .opened).granted thread
  ⟨.inner (.ethereum (.getTransactionCount "wallet")), locked, .ok (.error (.thrown "no nonce")), locked⟩

def closing (thread : Nat) (mutex : Mutex) : WorkerEvent Mutex :=
  let locked := (mutex.enter thread .opened).granted thread
  ⟨.rollback, locked, .ok (), locked.ended thread⟩

theorem opening_path (thread : Nat) (mutex : Mutex) : ∃ next : Except Failure Bool → WorkerCode AnchorSummary,
    Path (workerSystem.undisturbed thread) mutexWorker.anchorCandidates mutex (opening thread mutex)
      (.ask .tryLock next) (mutex.enter thread .opened) := by
  apply Exists.intro
  apply Path.reply (workerSystem.undisturbed thread)
    (LockOp.inner (WorkerOp.world (WorldOp.buildMerkleTree []))) (.ok loneTree)
  · exact rfl
  apply Path.reply (workerSystem.undisturbed thread) LockOp.begin (.ok ())
  · exact rfl
  exact .stop _ _

/-- The operation of the worker fails at its nonce. -/
theorem rejected_path (thread : Nat) (mutex : Mutex) (free : mutex.holder = none) :
    Path (workerSystem.undisturbed thread) mutexWorker.anchorCandidates mutex
      (opening thread mutex ++ [grant thread mutex, rejectedNonce thread mutex, closing thread mutex])
      (.fail (.thrown "no nonce")) (((mutex.enter thread .opened).granted thread).ended thread) := by
  apply Path.reply (workerSystem.undisturbed thread)
    (LockOp.inner (WorkerOp.world (WorldOp.buildMerkleTree []))) (.ok loneTree)
  · exact rfl
  apply Path.reply (workerSystem.undisturbed thread) LockOp.begin (.ok ())
  · exact rfl
  apply Path.reply (workerSystem.undisturbed thread) LockOp.tryLock (Except.ok true : Except Failure Bool)
  · exact ⟨.inl free, rfl⟩
  apply Path.reply (workerSystem.undisturbed thread)
    (LockOp.inner (WorkerOp.ethereum (EthereumOp.getTransactionCount "wallet")))
    (.ok (.error (.thrown "no nonce")))
  · exact rfl
  apply Path.reply (workerSystem.undisturbed thread) LockOp.rollback (.ok ())
  · exact rfl
  exact .stop _ _

def leave (thread : Nat) (mutex : Mutex) : Mutex := ((mutex.enter thread .opened).granted thread).ended thread

theorem leave_holder (thread : Nat) (mutex : Mutex) : (leave thread mutex).holder = none := by
  simp [leave, Mutex.ended, Mutex.granted, Mutex.enter]

/-- A waiting worker gets the mutex after the operation of another one has failed, and their calls do
not overlap. -/
theorem submission_exclusive_failed :
    (∃ early ended late,
      [(0, closing 0 Mutex.free)] ++ (opening 1 (leave 0 Mutex.free)).map (fun event => (1, event)) ++
        [(1, grant 1 (leave 0 Mutex.free))] = early ++ ended :: late ∧ (ended : WorkerRecord).1 = 0 ∧
        ended.2.op.Ends) ∧
      ∃ (trace : List WorkerRecord) (last reached : WorkerPool),
      Run workerSystem (.idle Mutex.free) trace last ∧
        Reaches workerSystem last reached ∧ reached.world.holder = some 1 := by
  have works : ∀ thread, workerSystem.entry thread mutexWorker.anchorCandidates := fun _ => ⟨mutexWorker, rfl⟩
  constructor
  · have first :=
      Run.whole (.refl (.idle Mutex.free : WorkerPool)) (by rfl) (works 0) (rejected_path 0 Mutex.free rfl)
    have second :=
      Run.whole first (by rfl) (works 1) (rejected_path 1 (leave 0 Mutex.free) (leave_holder 0 _))
    obtain ⟨last, run⟩ : ∃ last, Run workerSystem (.idle Mutex.free)
        ((opening 0 Mutex.free).map (fun event => (0, event)) ++
          [(0, grant 0 Mutex.free)] ++ (0, rejectedNonce 0 Mutex.free) :: (([(0, closing 0 Mutex.free)] ++
          (opening 1 (leave 0 Mutex.free)).map
          (fun event => (1, event)) ++ [(1, grant 1 (leave 0 Mutex.free))]) ++
          (1, rejectedNonce 1 (leave 0 Mutex.free)) :: [(1, closing 1 (leave 0 Mutex.free))])) last :=
      ⟨_, by simpa using second⟩
    obtain ⟨early, ended, late, split, same, ends, _⟩ :=
      submission_exclusive.1 run ⟨"wallet", rfl⟩ (.inl ⟨"wallet", rfl⟩) (by decide)
    exact ⟨early, ended, late, split, same, ends⟩
  · obtain ⟨next, opens⟩ := opening_path 1 Mutex.free
    have first := Run.whole (.refl (.idle Mutex.free : WorkerPool)) (by rfl) (works 1) opens
    have second := Run.whole first (by rfl) (works 0) (rejected_path 0 (Mutex.free.enter 1 .opened) rfl)
    obtain ⟨last, run, waits⟩ : ∃ last : WorkerPool, Run workerSystem (.idle Mutex.free)
        (((opening 1 Mutex.free).map (fun event => (1, event)) ++
          (opening 0 (Mutex.free.enter 1 .opened)).map (fun event => (0, event))) ++
          (0, grant 0 (Mutex.free.enter 1 .opened)) :: ([(0, rejectedNonce 0 (Mutex.free.enter 1 .opened))] ++
            [(0, closing 0 (Mutex.free.enter 1 .opened))])) last ∧
        last.threads 1 = some (.ask .tryLock next) := ⟨_, by simpa using second, rfl⟩
    obtain ⟨reached, path, _, held⟩ :=
      submission_exclusive.2.2 run (by simp [rejectedNonce, LockOp.Ends]) (.inr rfl) waits
    exact ⟨_, _, reached, run, path, held⟩

end Workers

end CeramicAnchor
