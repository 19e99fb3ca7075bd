import CeramicAnchor.Concurrency.Mutex
import CeramicAnchor.Concurrency.Refinement
import CeramicAnchor.Construction.AnchorService
import CeramicAnchor.Construction.EthereumBlockchainService

/-
This file translates the transaction mutex, under which the workers send the transactions of their batches.
-/

namespace CeramicAnchor
open Concurrency Storage EthereumBlockchainService

/-- A worker awaits the operations of its batch, the Ethereum node and a timer. -/
inductive WorkerOp where
  | world (op : WorldOp)
  | ethereum (op : EthereumOp)
  | delay (milliseconds : Nat)

/-- The rejection of the node is part of its answer. -/
abbrev WorkerOp.Reply : WorkerOp → Type
  | .world op => op.Reply
  | .ethereum op => Except EthereumError op.Reply
  | .delay _ => Unit

abbrev WorkerCode (A : Type) := Prog (LockOp WorkerOp) (LockOp.Reply WorkerOp.Reply) Failure A

def whenAnswered {A B : Type} (next : Except EthereumError A → WorkerCode B) :
    Except Failure (Except EthereumError A) → WorkerCode B
  | .ok answer => next answer
  | .error failure => .fail failure

/-- The worker awaits the node for each operation of the Ethereum service. -/
def ethereumCode {A : Type} : EthereumCode A → WorkerCode (Except EthereumError A)
  | .done value => .done (.ok value)
  | .fail error => .done (.error error)
  | .halted => .halted
  | .ask op next => .ask (.inner (.ethereum op)) (whenAnswered fun answer => ethereumCode (next answer))

def submit (service : EthereumBlockchainService) (formats : EthereumFormats) (root : Cid) :
    WorkerCode Transaction := do
  let sent ← ethereumCode (sendTransaction service formats root)
  match sent with
  | .ok transaction => pure transaction
  | .error error => throw (.thrown error.message)

namespace TransactionRepository

/-- Without a bound the number of attempts is infinite. -/
def failedToAcquire (maxAttempts : Option Nat) : Failure :=
  let tries := match maxAttempts with
    | some max => toString max
    | none => "Infinity"
  .thrown s!"Failed to acquire transaction mutex after {tries} tries"

/-- The loop tries the advisory lock of the transaction until it gets it or has no attempt left. -/
def acquireMutex {A : Type} (maxAttempts : Option Nat) (delayMS : Nat) (operation : WorkerCode A) :
    (fuel attempt : Nat) → WorkerCode A
  | 0, _ => .halted
  | fuel + 1, attempt =>
      if ∀ max ∈ maxAttempts, attempt ≤ max then do
        let success : Bool ← Prog.call LockOp.tryLock
        if success then operation
        else do
          Prog.call (LockOp.inner (WorkerOp.delay delayMS))
          acquireMutex maxAttempts delayMS operation fuel (attempt + 1)
      else throw (failedToAcquire maxAttempts)

/-- A rejected operation rolls the transaction of the mutex back, and the rejection goes on. -/
def withTransactionMutex {A : Type} (operation : WorkerCode A) (maxAttempts : Option Nat)
    (delayMS fuel : Nat) :
    WorkerCode A := do
  Prog.call LockOp.begin
  let value ← tryCatch (acquireMutex maxAttempts delayMS operation fuel 1) fun error => do
    let _ ← (Prog.call LockOp.rollback).attempt
    throw error
  Prog.call LockOp.commit
  pure value

end TransactionRepository

/-- A worker has its services and a batch of candidates. -/
structure Worker where
  service : AnchorService
  formats : Formats
  ethereum : EthereumBlockchainService
  ethereumFormats : EthereumFormats
  candidates : List Candidate
  fuel : Nat

namespace Worker

variable (worker : Worker)

/-- The worker waits for the mutex as long as it takes. -/
def implementation : (op : WorldOp) → WorkerCode op.Reply
  | .sendTransaction root => TransactionRepository.withTransactionMutex
      (submit worker.ethereum worker.ethereumFormats root) none 5000 worker.fuel
  | op => Prog.call (LockOp.inner (WorkerOp.world op))

def anchorCandidates : WorkerCode AnchorSummary :=
  (worker.service.anchorCandidates worker.formats worker.fuel worker.candidates).implement
    worker.implementation

end Worker

/-- Any number of workers anchor batches on one database, whose other answers are left open. -/
def workerSystem : System (LockOp WorkerOp) (LockOp.Reply WorkerOp.Reply) Failure AnchorSummary Mutex :=
  lockSystem WorkerOp.Reply Failure fun _ program => ∃ worker : Worker, program = worker.anchorCandidates

end CeramicAnchor
