import CeramicAnchor.Construction.WitnessService
import CeramicAnchor.Construction.World

/-
This file translates the anchor service, from the claim of a batch to the stored results.
-/

namespace CeramicAnchor
open Concurrency Storage

/-- This is the client of the running service. -/
def worldClient : Client WorldOp WorldOp.Reply where
  now := Prog.call WorldOp.now
  delay milliseconds := Prog.call (WorldOp.sleep milliseconds)
  transaction transaction := do
    Prog.call WorldOp.begin
    Prog.call (WorldOp.commit transaction)

namespace RequestRepository

def countByStatus (status : RequestStatus) : Code Nat := Prog.call (WorldOp.countByStatus status)

/-- A set keeps the first occurrence of each id. -/
def uniqueIds (givenIds : List String) : List String := givenIds.reverse.dedup.reverse

theorem mem_uniqueIds {givenIds : List String} {id : String} : id ∈ uniqueIds givenIds ↔ id ∈ givenIds := by
  simp [uniqueIds]

theorem nodup_uniqueIds (givenIds : List String) : (uniqueIds givenIds).Nodup :=
  List.nodup_reverse.mpr (List.nodup_dedup _)

def findByIds (givenIds : List String) : Code (List Request) := do
  let requests : List Request ← Prog.call (WorldOp.selectByIds (uniqueIds givenIds))
  if requests.length ≠ (uniqueIds givenIds).length then
    let found := requests.length
    let wanted := (uniqueIds givenIds).length
    let ids := ",".intercalate (uniqueIds givenIds)
    throw (.thrown s!"Only found {found}/{wanted} ids. Ids: {ids}")
  else
    pure requests

/-- The statement claims the ids that its sub-select has picked, whatever their status is now. -/
def claimBatch (maxStreamLimit : Nat) : Code (List Request) := do
  let ids : List String ← Prog.call (WorldOp.selectReady maxStreamLimit)
  Prog.call (WorldOp.claim ids)

def setStatus (status : RequestStatus) (requests : List Request) : Code Nat := do
  let updatedAt : Int ← Prog.call WorldOp.now
  Prog.call (WorldOp.updateRequests ⟨none, some status, none⟩ updatedAt (requests.map Request.id))

end RequestRepository

structure AnchorService where
  merkleDepthLimit : Nat
  minStreamCount : Nat
  useSmartContractAnchors : Bool
  useQueueBatches : Bool
  storesInIpfs : Bool
  publishesToPubsub : Bool
  requestRepository : RequestRepository

structure RequestGroups where
  alreadyAnchoredRequests : List Request
  failedRequests : List Request
  unprocessedRequests : List Request
  acceptedRequests : List Request

/-- The numbers that a batch reports. -/
structure AnchorSummary where
  anchoredRequestsCount : Nat
  failedToPublishAnchorCommitCount : Nat
  anchorCount : Nat
  reanchoredCount : Nat

namespace AnchorService

/-- The summary reads one number from the database, and the rest of it is only logged. -/
def logAnchorSummary : Code Unit := do
  let _ ← RequestRepository.countByStatus .PENDING
  pure ()

variable (service : AnchorService) (formats : Formats)

def maxStreamLimit : Nat := if 0 < service.merkleDepthLimit then 2 ^ service.merkleDepthLimit else 0

def minStreamLimit : Nat :=
  if service.minStreamCount ≠ 0 then service.minStreamCount else service.maxStreamLimit / 2

section Candidates

def buildCandidate (request : Request) : Code Candidate :=
  match formats.parseStreamId request.streamId with
  | none => throw (.thrown s!"Invalid stream id {request.streamId}")
  | some streamId =>
      if request.cid = "" then throw (.thrown "No CID present for request")
      else match formats.parseCid request.cid with
        | none => throw (.thrown s!"Invalid CID {request.cid}")
        | some cid => pure ⟨streamId, request, cid, false⟩

def sortByTimestamp (candidates : List Candidate) : List Candidate :=
  candidates.insertionSort fun first second => first.request.timestamp ≤ second.request.timestamp

/-- The candidates come in the order of their timestamps. -/
def buildCandidates (requests : List Request) : Code (List Candidate) := do
  let candidates ← requests.mapM (buildCandidate formats)
  pure (sortByTimestamp candidates)

/-- The loop marks the candidates that have an anchor and counts the others up to the limit. -/
def markCandidates (anchorCommits : List FreshAnchor) (candidateLimit : Nat) :
    List Candidate → Nat → List Candidate × List Request × List Request
  | [], _ => ([], [], [])
  | candidate :: rest, numSelectedCandidates =>
      if candidateLimit ≤ numSelectedCandidates then
        let (marked, anchored, unprocessed) := markCandidates anchorCommits candidateLimit rest
          numSelectedCandidates
        (candidate :: marked, anchored, candidate.request :: unprocessed)
      else
        let existingAnchorCommit := candidate.shouldAnchor ∧
          ∃ anchor ∈ anchorCommits, anchor.requestId = candidate.request.id
        let current := if existingAnchorCommit then candidate.markAsAnchored else candidate
        if current.shouldAnchor then
          let (marked, anchored, unprocessed) := markCandidates anchorCommits candidateLimit rest
            (numSelectedCandidates + 1)
          (current :: marked, anchored, unprocessed)
        else
          let (marked, anchored, unprocessed) := markCandidates anchorCommits candidateLimit rest
            numSelectedCandidates
          (current :: marked, current.request :: anchored, unprocessed)

def loadCandidateStreams (candidates : List Candidate) (candidateLimit : Nat) :
    Code (List Candidate × RequestGroups) := do
  let limit := if candidateLimit = 0 ∨ candidates.length < candidateLimit then candidates.length
    else candidateLimit
  let anchorCommits : List FreshAnchor ← Prog.call
    (WorldOp.findAnchors (candidates.map fun candidate => candidate.request.id))
  let (marked, anchored, unprocessed) := markCandidates anchorCommits limit candidates 0
  pure (marked, ⟨anchored, [], unprocessed, []⟩)

/-- Every candidate is accepted, also one that is already anchored or was not selected. -/
def findCandidates (requests : List Request) (candidateLimit : Nat) :
    Code (List Candidate × RequestGroups) := do
  let built ← buildCandidates formats requests
  let (candidates, groupedRequests) ← loadCandidateStreams built candidateLimit
  pure (candidates, { groupedRequests with
    acceptedRequests := groupedRequests.acceptedRequests ++ candidates.map Candidate.request })

end Candidates

section Batch

def buildMerkleTree (candidates : List Candidate) : Code MerkleCAR :=
  tryCatch (Prog.call (WorldOp.buildMerkleTree candidates)) fun _ =>
    throw (.thrown "Merkle tree cannot be created")

def createIPFSProof (car : Car) (tx : Transaction) (merkleRootCid : Cid) : Cid × Car :=
  let txHashCid := formats.ethereumTransactionCid (tx.txHash.drop 2).toString
  car.put (anchorProof merkleRootCid tx.chain txHashCid service.useSmartContractAnchors)

/-- The commit is stored in IPFS and announced to the other nodes where the service is set up to do so. -/
def publishCommit (ipfsAnchorCommit : Ipld) (anchorCid streamId : Cid) : Code Unit := do
  let store : Code Unit :=
    if service.storesInIpfs then Prog.call (WorldOp.storeRecord ipfsAnchorCommit) else pure ()
  let announce : Code Unit :=
    if service.publishesToPubsub then Prog.call (WorldOp.publishAnchorCommit anchorCid streamId) else pure ()
  store
  announce

/-- A failure to publish the commit is logged, and the anchor is returned all the same. -/
def createAnchorCommit (car : Car) (candidate : Candidate) (candidateIndex : Nat) (ipfsProofCid : Cid)
    (merkleTree : MerkleCAR) : Code (FreshAnchor × Car) := do
  let path := PathLineCodec.text (merkleTree.getDirectPathFromRoot candidateIndex)
  let ipfsAnchorCommit := anchorCommit candidate.streamId candidate.cid ipfsProofCid path
  let (anchorCid, stored) := car.put ipfsAnchorCommit
  let anchor : FreshAnchor := ⟨candidate.request.id, ipfsProofCid, path, anchorCid⟩
  let _ ← (publishCommit service ipfsAnchorCommit anchorCid candidate.streamId).attempt
  pure (anchor, stored)

/-- The loop creates one commit for each leaf, and all commits go into one CAR file. -/
def createAnchorCommits (ipfsProofCid : Cid) (merkleTree : MerkleCAR) :
    List (Candidate × Nat) → Car → Code (List FreshAnchor × Car)
  | [], car => pure ([], car)
  | (candidate, index) :: rest, car => do
      let (anchor, stored) ← createAnchorCommit service car candidate index ipfsProofCid merkleTree
      let (anchors, last) ← createAnchorCommits ipfsProofCid merkleTree rest stored
      pure (anchor :: anchors, last)

def buildWitnessCAR (anchorCommitCID : Cid) (merkleCAR : Car) : Code Car :=
  match WitnessService.build anchorCommitCID merkleCAR with
  | .ok witnessCAR => pure witnessCAR
  | .error _ => throw (.thrown "Can not build the witness CAR")

/-- A witness that cannot be built rejects the batch, and a witness that cannot be stored does not. -/
def storeWitnessCARs (merkleCAR : Car) : List FreshAnchor → Code Unit
  | [] => pure ()
  | anchor :: rest => do
      let witnessCAR ← buildWitnessCAR anchor.cid merkleCAR
      let _ ← (Prog.call (WorldOp.storeWitness anchor.cid witnessCAR)).attempt
      storeWitnessCARs merkleCAR rest

/-- The anchors and the statuses are stored in one transaction, which is retried after a conflict. -/
def persistAnchorResult (anchors : List FreshAnchor) (candidates : List Candidate) : Nat → Code Nat
  | 0 => .halted
  | fuel + 1 =>
      tryCatch (do
        Prog.call WorldOp.begin
        Prog.call (WorldOp.persist anchors (candidates.map Candidate.request)))
        (RequestRepository.onConflict worldClient.delay (persistAnchorResult anchors candidates fuel))

def importCAR (car : Car) : Code Unit :=
  if service.storesInIpfs then Prog.call (WorldOp.importCAR car) else pure ()

def anchorCandidates (fuel : Nat) (candidates : List Candidate) : Code AnchorSummary := do
  let merkleTree ← buildMerkleTree candidates
  let tx : Transaction ← Prog.call (WorldOp.sendTransaction merkleTree.root)
  let (ipfsProofCid, proofCar) := createIPFSProof service formats merkleTree.car tx merkleTree.root
  let (anchors, car) ← createAnchorCommits service ipfsProofCid merkleTree
    merkleTree.leafNodes.zipIdx proofCar
  importCAR service car
  Prog.call (WorldOp.storeCarFile ipfsProofCid car)
  storeWitnessCARs car anchors
  let persistedAnchorsCount ← persistAnchorResult anchors candidates fuel
  pure ⟨candidates.length, merkleTree.leafNodes.length - anchors.length, anchors.length,
    anchors.length - persistedAnchorsCount⟩

/-- The queue retries a whole batch, and otherwise the requests of a failed batch become pending again. -/
def giveBack (acceptedRequests : List Request) : Code Unit :=
  if service.useQueueBatches then
    pure ()
  else do
    let _updated ← RequestRepository.setStatus .PENDING acceptedRequests
    pure ()

/-- A failed batch gives its requests back and rejects. -/
def anchorRequestsOf (fuel : Nat) (requests : List Request) : Code Unit := do
  let filteredRequests := requests.filter fun request => request.status ≠ .REPLACED
  if filteredRequests.length = 0 then
    pure ()
  else
    let (candidates, _groupedRequests) ← findCandidates formats filteredRequests service.maxStreamLimit
    if candidates.length = 0 then
      logAnchorSummary
    else
      tryCatch (do
        let _results ← anchorCandidates service formats fuel candidates
        logAnchorSummary) fun err => do
          giveBack service (candidates.map Candidate.request)
          logAnchorSummary
          throw err

end Batch

section Workers

def anchorReadyRequests (fuel : Nat) : Code Unit := do
  let requests ← RequestRepository.claimBatch service.maxStreamLimit
  anchorRequestsOf service formats fuel requests
  Prog.call (WorldOp.sleep 5000)

def throwIfAborted (message : String) : Code Unit := do
  let aborted : Bool ← Prog.call WorldOp.aborted
  if aborted then throw (.thrown message) else pure ()

/-- The message is acknowledged after its batch, and put back when anything was rejected. -/
def anchorNextQueuedBatch (fuel : Nat) : Code Bool := do
  throwIfAborted "User aborted before the next batch has been retrieved"
  if ¬ service.useQueueBatches then
    throw (.thrown ("Cannot anchor next queued batch as the worker is not configured to do so. " ++
      "Please set `queue.sqsQueueUrl` in the config if this is desired."))
  else
    let batchMessage : Option AnchorBatchQMessage ← Prog.call WorldOp.receiveMessage
    match batchMessage with
    | none => pure false
    | some message =>
        tryCatch (do
          let requests ← RequestRepository.findByIds message.rids
          throwIfAborted "User aborted before the batch could begin the anchoring process"
          anchorRequestsOf service formats fuel requests
          Prog.call (WorldOp.sleep 5000)
          Prog.call (WorldOp.ack message)
          pure true) fun err => do
            Prog.call (WorldOp.nack message)
            throw err

/-- The worker makes requests ready when it finds none. -/
def refill (fuel readyRequestsCount : Nat) : Code Unit :=
  if readyRequestsCount = 0 then do
    let _updated ← service.requestRepository.findAndMarkReady worldClient fuel (service.maxStreamLimit * 2)
      service.minStreamLimit
    pure ()
  else
    pure ()

def anchorRequests (fuel : Nat) : Code Bool :=
  if service.useQueueBatches then
    anchorNextQueuedBatch service formats fuel
  else do
    let readyRequestsCount ← RequestRepository.countByStatus .READY
    refill service fuel readyRequestsCount
    anchorReadyRequests service formats fuel
    pure true

/-- The scheduler refreshes ready requests that have expired, or it makes requests ready when there are
none. -/
def prepareAnchorEvent (fuel readyRequestsCount : Nat) : Code Bool :=
  if 0 < readyRequestsCount then do
    let updatedExpiredReadyRequestsCount ←
      service.requestRepository.updateExpiringReadyRequests worldClient fuel
    pure (decide (updatedExpiredReadyRequestsCount ≠ 0))
  else do
    let updatedRequests : List Request ← service.requestRepository.findAndMarkReady worldClient fuel
      service.maxStreamLimit service.minStreamLimit
    pure (decide (updatedRequests.length ≠ 0))

/-- An anchor event is emitted when the scheduler has updated any request. -/
def emitAnchorEventIfReady (fuel : Nat) : Code Unit := do
  let readyRequestsCount ← RequestRepository.countByStatus .READY
  let emits ← prepareAnchorEvent service fuel readyRequestsCount
  if emits then
    let _ ← (Prog.call WorldOp.emitAnchorEvent).attempt
    pure ()
  else
    pure ()

end Workers

end AnchorService

end CeramicAnchor
