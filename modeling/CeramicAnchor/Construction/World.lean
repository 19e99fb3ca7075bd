import CeramicAnchor.Concurrency.Pool
import CeramicAnchor.Construction.MerkleCar
import CeramicAnchor.Construction.RequestRepository

/-
This file gives the shared state of all processes and the meaning of each of their awaited operations.
-/

namespace CeramicAnchor
open Concurrency Storage

/-- The code has not yet given the new request an id and dates. -/
structure NewRequest where
  status : RequestStatus
  cid : String
  streamId : String
  message : String
  pinned : Bool
  timestamp : Int
  origin : Option String

def NewRequest.stored (request : NewRequest) (id : String) (now : Int) : Request :=
  ⟨id, request.status, request.cid, request.streamId, request.message, request.pinned, now, now,
    request.timestamp, request.origin⟩

/-- The operation that moved a request to PROCESSING. -/
inductive Claimant where
  | batchProcessing
  | findAndMarkAsProcessing
  deriving DecidableEq

/-- The latest move of a request to PROCESSING. -/
structure Claim where
  time : Int
  claimant : Claimant
  thread : Nat
  deriving DecidableEq

/-- The history remembers what no operation reads. -/
structure History where
  claimed : String → Option Claim
  creating : List (Nat × Request)
  reverted : List String

/-- A transaction sees the table of its start. -/
structure OpenTransaction where
  snapshot : RequestTable
  began : Int

structure World where
  requests : RequestTable
  anchors : AnchorTable
  merkleCars : Cid → Option Car
  witnessCars : Cid → Option Car
  ledger : List (Nat × Cid)
  published : List RequestQMessage
  transactions : Nat → Option OpenTransaction
  clock : Int
  history : History

def World.empty (clock : Int) : World :=
  ⟨.empty, .empty, fun _ => none, fun _ => none, [], [], fun _ => none, clock, ⟨fun _ => none, [], []⟩⟩

/-- These are the operations that the code awaits. -/
inductive WorldOp where
  | now
  | sleep (milliseconds : Nat)
  | aborted
  | insertRequest (request : NewRequest)
  | markReplaced (origin : Option String) (streamId cid : String)
  | findByCid (cid : String)
  | replicaFindByCid (cid : String)
  | selectByIds (ids : List String)
  | countByStatus (status : RequestStatus)
  | updateRequests (fields : RequestUpdateFields) (updatedAt : Int) (ids : List String)
  | selectReady (maxStreamLimit : Nat)
  | claim (ids : List String)
  | begin
  | commit (transaction : RequestTransaction)
  | persist (anchors : List FreshAnchor) (acceptedRequests : List Request)
  | findAnchors (requestIds : List String)
  | receiveMessage
  | ack (message : AnchorBatchQMessage)
  | nack (message : AnchorBatchQMessage)
  | sendMessage (message : RequestQMessage)
  | buildMerkleTree (candidates : List Candidate)
  | sendTransaction (root : Cid)
  | importCAR (car : Car)
  | storeRecord (record : Ipld)
  | publishAnchorCommit (anchorCid streamId : Cid)
  | storeCarFile (anchorProofCid : Cid) (car : Car)
  | storeWitness (anchorCommitCid : Cid) (car : Car)
  | presentBody (request : Request)
  | emitAnchorEvent

abbrev WorldOp.Reply : WorldOp → Type
  | .now => Int
  | .sleep _ => Unit
  | .aborted => Bool
  | .insertRequest _ => Option Request
  | .markReplaced _ _ _ => Nat
  | .findByCid _ => Option Request
  | .replicaFindByCid _ => Option Request
  | .selectByIds _ => List Request
  | .countByStatus _ => Nat
  | .updateRequests _ _ _ => Nat
  | .selectReady _ => List String
  | .claim _ => List Request
  | .begin => Unit
  | .commit transaction => transaction.Result
  | .persist _ _ => Nat
  | .findAnchors _ => List FreshAnchor
  | .receiveMessage => Option AnchorBatchQMessage
  | .ack _ => Unit
  | .nack _ => Unit
  | .sendMessage _ => Unit
  | .buildMerkleTree _ => MerkleCAR
  | .sendTransaction _ => Transaction
  | .importCAR _ => Unit
  | .storeRecord _ => Unit
  | .publishAnchorCommit _ _ => Unit
  | .storeCarFile _ _ => Unit
  | .storeWitness _ _ => Unit
  | .presentBody _ => Unit
  | .emitAnchorEvent => Unit

abbrev Code (A : Type) := Prog WorldOp WorldOp.Reply Failure A

/-- The accepted requests become COMPLETED. -/
def persistRequests (acceptedRequests : List Request) : RequestBody Nat :=
  RequestRepository.updateRequests
    ⟨some "CID successfully anchored.", some .COMPLETED, some true⟩ acceptedRequests

def replacedEdit (cid : String) : RequestEdit where
  apply request := { request with status := .REPLACED, message := s!"Replaced by {cid}" }
  keeps := by simp

/-- The requests of one stream and one origin. -/
def Request.InGroup (origin : Option String) (streamId : String) (request : Request) : Prop :=
  request.origin = origin ∧ request.streamId = streamId

instance (origin : Option String) (streamId : String) (request : Request) :
    Decidable (request.InGroup origin streamId) := inferInstanceAs (Decidable (_ ∧ _))

/-- An insert that ignores conflicts adds the anchors of the requests that have none. -/
def createAnchors (anchors : AnchorTable) : List FreshAnchor → AnchorTable
  | [] => anchors
  | anchor :: rest =>
      if fresh : ∀ old ∈ anchors.rows, old.requestId ≠ anchor.requestId then
        createAnchors (anchors.insert anchor (by simpa using fresh)) rest
      else createAnchors anchors rest

namespace History

/-- These requests went from another status to PROCESSING at this time. -/
def claim (history : History) (before after : RequestTable) (time : Int) (claimant : Claimant)
    (thread : Nat) : History :=
  { history with claimed := fun id => match before.lookup Request.id id, after.lookup Request.id id with
      | some old, some new =>
          if old.status ≠ .PROCESSING ∧ new.status = .PROCESSING then some ⟨time, claimant, thread⟩
          else history.claimed id
      | _, _ => history.claimed id }

/-- A failed batch sets its requests back and gives up its own claims. -/
def revert (history : History) (thread : Nat) (ids : List String) : History :=
  { history with
    claimed := fun id =>
      if id ∈ ids ∧ (history.claimed id).map Claim.thread = some thread then none else history.claimed id
    reverted := ids ++ history.reverted }

def insert (history : History) (thread : Nat) (request : Request) : History :=
  { history with creating := (thread, request) :: history.creating }

/-- The statement ends the creation of its request, and it settles the group of the request. -/
def replace (history : History) (requests : RequestTable) (origin : Option String) (streamId cid : String) :
    History :=
  { history with
    creating := history.creating.filter fun entry =>
      ¬ (entry.2.cid = cid ∧ entry.2.InGroup origin streamId)
    reverted := history.reverted.filter fun id =>
      ∀ request ∈ requests.rows, request.id = id → ¬ request.InGroup origin streamId }

end History

/-- A committed transaction evaluated its body on its snapshot and found its rows unchanged. -/
structure World.Committed {A : Type} (world : World) (thread : Nat) (body : RequestBody A) (value : A)
    (requests : RequestTable) : Prop where
  exists_ : ∃ transaction last, world.transactions thread = some transaction ∧
    Evaluates Request.id transaction.snapshot transaction.began body value last ∧
    last.clock ≤ world.clock ∧
    CommitsSnapshot Request.id transaction.snapshot world.requests last.pending requests

def World.closeTransaction (world : World) (thread : Nat) : World :=
  { world with transactions := Function.update world.transactions thread none }

/-- The operation resolves with a value. -/
def WorldOp.Resolves (formats : Formats) (thread : Nat) : (op : WorldOp) → World → op.Reply → World → Prop
  | .now, world, (time : Int), next => time = world.clock ∧ next = world
  | .insertRequest request, world, (created : Option Request), next =>
      ((∃ old ∈ world.requests.rows, old.cid = request.cid) ∧ created = none ∧ next = world) ∨
      (∃ id fresh, created = some (request.stored id world.clock) ∧
        next = { world with
          requests := world.requests.insert (request.stored id world.clock) fresh
          history := world.history.insert thread (request.stored id world.clock) })
  | .markReplaced origin streamId cid, world, (count : Nat), next =>
      ∃ ordered : List Request,
        ordered.Perm (world.requests.rows.filter fun request =>
          request.InGroup origin streamId ∧ request.status = .PENDING) ∧
        ordered.Pairwise (fun first second => second.timestamp ≤ first.timestamp) ∧
        count = (ordered.drop 1).length ∧
        next = { world with
          requests := world.requests.update (fun request => request.id ∈ (ordered.drop 1).map Request.id)
            (replacedEdit cid)
          history := world.history.replace world.requests origin streamId cid }
  | .findByCid cid, world, (found : Option Request), next =>
      found = world.requests.lookup Request.cid cid ∧ next = world
  | .replicaFindByCid cid, world, (found : Option Request), next =>
      (∀ request ∈ found, ∃ row ∈ world.requests.rows, row.cid = cid ∧ request.cid = cid ∧
        request.id = row.id ∧ request.streamId = row.streamId) ∧ next = world
  | .selectByIds ids, world, (rows : List Request), next =>
      rows.Perm (world.requests.rows.filter fun request => request.id ∈ ids) ∧
        rows.Pairwise (fun first second => first.createdAt ≤ second.createdAt) ∧ next = world
  | .countByStatus status, world, (count : Nat), next =>
      count = (world.requests.rows.filter fun request => request.status = status).length ∧ next = world
  | .updateRequests fields updatedAt ids, world, (count : Nat), next =>
      count = (world.requests.rows.filter fun request => request.id ∈ ids).length ∧
        next = { world with
          requests := world.requests.update (fun request => request.id ∈ ids) (fields.edit updatedAt)
          history := world.history.revert thread ids }
  | .selectReady maxStreamLimit, world, (ids : List String), next =>
      ∃ ready : List Request,
        ready.Perm (world.requests.rows.filter fun request => request.status = .READY) ∧
        ids = (if 0 < maxStreamLimit then ready.take maxStreamLimit else ready).map Request.id ∧ next = world
  | .claim ids, world, (returned : List Request), next =>
      ∃ requests, requests = world.requests.update (fun request => request.id ∈ ids)
          RequestRepository.claimEdit ∧
        returned.Perm (requests.rows.filter fun request => request.id ∈ ids) ∧
        next = { world with
          requests := requests
          history := world.history.claim world.requests requests world.clock .batchProcessing thread }
  | .begin, world, _, next => next = { world with
      transactions := Function.update world.transactions thread (some ⟨world.requests, world.clock⟩) }
  | .commit transaction, world, value, next => ∃ requests,
      world.Committed thread transaction.body value requests ∧
      next = { world.closeTransaction thread with
        requests := requests
        history := world.history.claim world.requests requests world.clock .findAndMarkAsProcessing thread }
  | .persist anchors acceptedRequests, world, (persisted : Nat), next => ∃ requests count,
      world.Committed thread (persistRequests acceptedRequests) count requests ∧
      persisted = (createAnchors world.anchors anchors).rows.length - world.anchors.rows.length ∧
      next = { world.closeTransaction thread with
        requests := requests
        anchors := createAnchors world.anchors anchors }
  | .findAnchors requestIds, world, (found : List FreshAnchor), next =>
      found.Perm (world.anchors.rows.filter fun anchor => anchor.requestId ∈ requestIds) ∧ next = world
  | .sendMessage message, world, _, next =>
      next = { world with published := world.published ++ [message] }
  | .buildMerkleTree candidates, world, (tree : MerkleCAR), next =>
      tree.TreeFor candidates ∧ next = world
  -- The chain has nothing else under this hash, since the nonce of the wallet grows.
  | .sendTransaction _, world, (transaction : Transaction), next =>
      ∃ hash, hash = formats.ethereumTransactionCid (transaction.txHash.drop 2).toString ∧
        (∀ entry ∈ world.ledger, entry.2 ≠ hash) ∧
        next = { world with ledger := world.ledger ++ [(thread, hash)] }
  | .storeCarFile anchorProofCid car, world, _, next =>
      next = { world with merkleCars := Function.update world.merkleCars anchorProofCid (some car) }
  | .storeWitness anchorCommitCid car, world, _, next =>
      next = { world with witnessCars := Function.update world.witnessCars anchorCommitCid (some car) }
  | .sleep _, world, _, next => next = world
  | .aborted, world, _, next => next = world
  | .receiveMessage, world, _, next => next = world
  | .ack _, world, _, next => next = world
  | .nack _, world, _, next => next = world
  | .importCAR _, world, _, next => next = world
  | .storeRecord _, world, _, next => next = world
  | .publishAnchorCommit _ _, world, _, next => next = world
  | .presentBody _, world, _, next => next = world
  | .emitAnchorEvent, world, _, next => next = world

/-- A transaction ends with a conflict, or its body throws. -/
def WorldOp.Aborts (thread : Nat) : WorldOp → World → Failure → Prop
  | .commit _, _, .serialization => True
  | .persist _ _, _, .serialization => True
  | .commit transaction, world, .thrown message => ∃ open_, world.transactions thread = some open_ ∧
      Raises Request.id open_.snapshot open_.began transaction.body (.thrown message)
  | _, _, _ => False

/-- A rejected operation had no effect, or its effect took place and the answer was lost. -/
def WorldOp.perform (formats : Formats) (thread : Nat) (op : WorldOp) (world : World)
    (reply : Except Failure op.Reply) (next : World) : Prop :=
  match reply with
  | .ok value => op.Resolves formats thread world value next
  | .error (.rejected _) => next = world ∨ ∃ value, op.Resolves formats thread world value next
  | .error error => op.Aborts thread world error ∧ next = world

/-- Time passes. -/
def World.Drifts (world next : World) : Prop :=
  ∃ later, world.clock ≤ later ∧ next = { world with clock := later }

end CeramicAnchor
