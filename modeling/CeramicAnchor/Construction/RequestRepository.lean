import CeramicAnchor.Construction.Models
import CeramicAnchor.Storage.Execution
import Mathlib.Data.List.Dedup
import Mathlib.Data.List.Sort

/-
This file translates the transactions of the request repository.
-/

namespace CeramicAnchor
open Concurrency Storage

/-- This is the time that a request can remain processing before being retried. -/
def PROCESSING_TIMEOUT : Int := 1000 * 60 * 60 * 3

structure RequestRepository where
  maxAnchoringDelayMS : Int
  readyRetryIntervalMS : Int

abbrev RequestBody (A : Type) := Body Request String requestColumns A

namespace RequestRepository

/-- A request is anchored when it is pending, or when its processing has timed out. -/
def findRequestsToAnchor (now : Int) (request : Request) : Bool :=
  request.status = .PENDING ∨
    (request.status = .PROCESSING ∧ request.updatedAt < now - PROCESSING_TIMEOUT)

def minCreatedAt (requests : List Request) (streamId : String) : Int :=
  (((requests.filter fun request => request.streamId = streamId).map Request.createdAt).min?).getD 0

/-- Each stream comes with the earliest creation time of its requests, and the earliest stream comes first. -/
def groupByStream (requests : List Request) : List (String × Int) :=
  let groups := (requests.map Request.streamId).dedup.map fun streamId =>
    (streamId, minCreatedAt requests streamId)
  groups.insertionSort fun first second => first.2 ≤ second.2

/-- A batch of streams is returned when it is large enough or when its first stream is expired. -/
def chooseStreams (maxStreamLimit minStreamLimit : Nat) (anchoringDeadline : Int)
    (requests : List Request) : List String :=
  let groups := groupByStream requests
  let streamsToAnchor := if maxStreamLimit ≠ 0 then groups.take maxStreamLimit else groups
  match streamsToAnchor with
  | [] => []
  | firstStreamToAnchor :: _ =>
      let enoughStreams := minStreamLimit ≤ streamsToAnchor.length
      let earliestIsExpired := firstStreamToAnchor.2 < anchoringDeadline
      if ¬ enoughStreams ∧ ¬ earliestIsExpired then [] else streamsToAnchor.map Prod.fst

def findStreamsToAnchor (maxStreamLimit minStreamLimit : Nat) (anchoringDeadline now : Int) :
    RequestBody (List String) := do
  let requests : List Request ← Prog.call (Statement.select (findRequestsToAnchor now))
  pure (chooseStreams maxStreamLimit minStreamLimit anchoringDeadline requests)

def findRequestsToAnchorForStreams (streamIds : List String) (now : Int) :
    RequestBody (List Request) := do
  let requests : List Request ← Prog.call
    (Statement.select fun request => findRequestsToAnchor now request ∧ request.streamId ∈ streamIds)
  pure (requests.insertionSort fun first second => first.createdAt ≤ second.createdAt)

def findByStatus (status : RequestStatus) : RequestBody (List Request) := do
  let requests : List Request ← Prog.call (Statement.select fun request => request.status = status)
  pure (requests.insertionSort fun first second => first.updatedAt ≤ second.updatedAt)

/-- The rows are written by id, with no condition on their current status. -/
def updateRequests (fields : RequestUpdateFields) (requests : List Request) : RequestBody Nat := do
  let updatedAt : Int ← Prog.call Statement.clock
  let ids := requests.map Request.id
  Prog.call (Statement.update ids (fields.edit updatedAt))

/-- The update throws when it does not find all of its requests. -/
def updateAll (status : RequestStatus) (name : String) (requests : List Request) :
    RequestBody (List Request) := do
  let updatedCount ← updateRequests ⟨none, some status, none⟩ requests
  if updatedCount ≠ requests.length then
    throw (.thrown (s!"A problem occured when updated requests to {name}. " ++
      s!"Only {updatedCount}/{requests.length} requests were updated"))
  else
    pure requests

def markReady (maxStreamLimit minStreamLimit : Nat) (anchoringDeadline now : Int) :
    RequestBody (List Request) := do
  let streamIds ← findStreamsToAnchor maxStreamLimit minStreamLimit anchoringDeadline now
  if streamIds.length = 0 then
    pure []
  else
    let requests ← findRequestsToAnchorForStreams streamIds now
    if requests.length = 0 then
      pure []
    else
      updateAll .READY "READY" requests

def markAsProcessing : RequestBody (List Request) := do
  let requests ← findByStatus .READY
  if requests.length = 0 then
    pure []
  else
    updateAll .PROCESSING "PROCESSING" requests

def refreshReady (readyRetryIntervalMS : Int) : RequestBody Nat := do
  let readyRequests ← findByStatus .READY
  let now : Int ← Prog.call Statement.clock
  let readyDeadline := now - readyRetryIntervalMS
  match readyRequests with
  | [] => pure 0
  | earliest :: _ =>
      if readyDeadline < earliest.updatedAt then
        pure 0
      else
        updateRequests ⟨none, some .READY, none⟩ readyRequests

end RequestRepository

/-- These are the transactions of the repository, with the values that their operations have computed. -/
inductive RequestTransaction where
  | markReady (maxStreamLimit minStreamLimit : Nat) (anchoringDeadline now : Int)
  | refreshReady (readyRetryIntervalMS : Int)
  | markAsProcessing

def RequestTransaction.Result : RequestTransaction → Type
  | .markReady _ _ _ _ => List Request
  | .refreshReady _ => Nat
  | .markAsProcessing => List Request

def RequestTransaction.body : (transaction : RequestTransaction) → RequestBody transaction.Result
  | .markReady maxStreamLimit minStreamLimit anchoringDeadline now =>
      RequestRepository.markReady maxStreamLimit minStreamLimit anchoringDeadline now
  | .refreshReady readyRetryIntervalMS => RequestRepository.refreshReady readyRetryIntervalMS
  | .markAsProcessing => RequestRepository.markAsProcessing

section Operations

variable {Op : Type} {Reply : Op → Type} {A : Type}

/-- A client offers the clock, a delay and the transactions to the code. -/
structure Client (Op : Type) (Reply : Op → Type) where
  now : Prog Op Reply Failure Int
  delay : Nat → Prog Op Reply Failure Unit
  transaction : (transaction : RequestTransaction) → Prog Op Reply Failure transaction.Result

/-- This is the client of one connection. -/
def connectionClient : Client (RowOp Request String requestColumns) RowOp.Reply where
  now := Prog.call RowOp.clock
  delay milliseconds := Prog.call (RowOp.sleep milliseconds)
  transaction transaction := runTransaction transaction.body

namespace RequestRepository

/-- A serialization conflict is retried after a delay, and any other rejection goes on. -/
def onConflict (delay : Nat → Prog Op Reply Failure Unit) (again : Prog Op Reply Failure A) :
    Failure → Prog Op Reply Failure A
  | .serialization => do
      delay 100
      again
  | error => throw error

variable (repository : RequestRepository) (client : Client Op Reply)

/-- The first argument bounds the retries that the run still makes. -/
def findAndMarkReady : Nat → Nat → Nat → Prog Op Reply Failure (List Request)
  | 0, _, _ => .halted
  | fuel + 1, maxStreamLimit, minStreamLimit => do
      let now ← client.now
      let anchoringDeadline := now - repository.maxAnchoringDelayMS
      tryCatch (client.transaction (.markReady maxStreamLimit minStreamLimit anchoringDeadline now))
        (onConflict client.delay (findAndMarkReady fuel maxStreamLimit minStreamLimit))

def updateExpiringReadyRequests : Nat → Prog Op Reply Failure Nat
  | 0 => .halted
  | fuel + 1 =>
      tryCatch (client.transaction (.refreshReady repository.readyRetryIntervalMS))
        (onConflict client.delay (updateExpiringReadyRequests fuel))

def findAndMarkAsProcessing : Nat → Prog Op Reply Failure (List Request)
  | 0 => .halted
  | fuel + 1 =>
      tryCatch (client.transaction .markAsProcessing)
        (onConflict client.delay (findAndMarkAsProcessing fuel))

/-- The claim keeps the time of the last update. -/
def claimEdit : RequestEdit where
  apply request := { request with status := .PROCESSING }
  keeps := by simp

/-- The sub-select picks its ids before the update locks their rows. -/
def batchProcessing (maxStreamLimit : Nat) : Connection Request String requestColumns (List Request) := do
  Prog.call (RowOp.begin .readCommitted)
  let ready : List Request ← Prog.call (RowOp.select fun request => request.status = .READY)
  let chosen := if 0 < maxStreamLimit then ready.take maxStreamLimit else ready
  let returned ← lockAll claimEdit (chosen.map Request.id)
  Prog.call RowOp.commit
  pure returned

/-- A table with one request that is ready to be claimed. -/
def oneReady : RequestTable :=
  ⟨[⟨"1", .READY, "bafy1", "k2t6", "", false, 0, 0, 0, none⟩], by decide⟩

end RequestRepository

end Operations

end CeramicAnchor
