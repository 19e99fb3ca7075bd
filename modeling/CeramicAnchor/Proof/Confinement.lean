import CeramicAnchor.Construction.RequestService

/-
This file bounds the operations that each task of the service performs.
-/

namespace CeramicAnchor
open Concurrency Storage Prog

/-- The tasks create only pending requests, and they set requests back only to pending. -/
def WorldOp.Regular : WorldOp → Prop
  | .insertRequest request => request.status = .PENDING
  | .updateRequests fields _ _ => fields = ⟨none, some .PENDING, none⟩
  | _ => True

/-- A plain operation makes no request ready. -/
def WorldOp.Plain : WorldOp → Prop
  | .commit (.markReady _ _ _ _) => False
  | op => op.Regular

theorem WorldOp.Plain.regular {op : WorldOp} (plain : op.Plain) : op.Regular := by
  cases op with
  | commit transaction => trivial
  | _ => exact plain

/-- A quiet operation leaves the tables, the ledger and the Merkle CARs as they are. -/
def WorldOp.Quiet : WorldOp → Prop
  | .sleep _ => True
  | .aborted => True
  | .selectReady _ => True
  | .countByStatus _ => True
  | .findAnchors _ => True
  | .importCAR _ => True
  | .storeRecord _ => True
  | .publishAnchorCommit _ _ => True
  | .storeWitness _ _ => True
  | _ => False

theorem WorldOp.Quiet.plain {op : WorldOp} (quiet : op.Quiet) : op.Plain := by
  cases op with
  | insertRequest request => exact quiet.elim
  | updateRequests fields updatedAt ids => exact quiet.elim
  | commit transaction => exact quiet.elim
  | _ => trivial

/-- A silent operation is quiet and hands no witness over. -/
def WorldOp.Silent : WorldOp → Prop
  | .storeWitness _ _ => False
  | op => op.Quiet

theorem WorldOp.Silent.quiet {op : WorldOp} (silent : op.Silent) : op.Quiet := by
  cases op with
  | storeWitness anchorCommitCid car => exact silent.elim
  | _ => exact silent

/-- A failed batch reads the clock and sets its requests back. -/
def WorldOp.GivesBack : WorldOp → Prop
  | .now => True
  | .updateRequests fields _ _ => fields = ⟨none, some .PENDING, none⟩
  | _ => False

theorem WorldOp.GivesBack.plain {op : WorldOp} (givesBack : op.GivesBack) : op.Plain := by
  cases op with
  | updateRequests fields updatedAt ids => exact givesBack
  | now => trivial
  | _ => exact givesBack.elim

/-- These operations refresh or claim ready requests in a transaction. -/
def WorldOp.Refreshes : WorldOp → Prop
  | .begin => True
  | .commit (.refreshReady _) => True
  | .commit .markAsProcessing => True
  | .sleep _ => True
  | _ => False

theorem WorldOp.Refreshes.plain {op : WorldOp} (refreshes : op.Refreshes) : op.Plain := by
  cases op with
  | commit transaction => cases transaction <;> trivial
  | begin => trivial
  | sleep milliseconds => trivial
  | _ => exact refreshes.elim

/-- These operations store no Merkle CAR and no anchor. -/
def WorldOp.Unanchored : WorldOp → Prop
  | .storeCarFile _ _ => False
  | .persist _ _ => False
  | op => op.Regular

theorem WorldOp.Unanchored.regular {op : WorldOp} (unanchored : op.Unanchored) : op.Regular := by
  cases op with
  | storeCarFile anchorProofCid car => exact unanchored.elim
  | persist anchors acceptedRequests => exact unanchored.elim
  | _ => exact unanchored

theorem WorldOp.Quiet.unanchored {op : WorldOp} (quiet : op.Quiet) : op.Unanchored := by
  cases op with
  | insertRequest request => exact quiet.elim
  | updateRequests fields updatedAt ids => exact quiet.elim
  | storeCarFile anchorProofCid car => exact quiet.elim
  | persist anchors acceptedRequests => exact quiet.elim
  | _ => trivial

theorem WorldOp.GivesBack.unanchored {op : WorldOp} (givesBack : op.GivesBack) : op.Unanchored := by
  cases op with
  | updateRequests fields updatedAt ids => exact givesBack
  | now => trivial
  | _ => exact givesBack.elim

theorem WorldOp.Refreshes.unanchored {op : WorldOp} (refreshes : op.Refreshes) : op.Unanchored := by
  cases op with
  | commit transaction => trivial
  | begin => trivial
  | sleep milliseconds => trivial
  | _ => exact refreshes.elim

/-- A POST request inserts and replaces, and it writes no other row and no file. -/
def WorldOp.Creates : WorldOp → Prop
  | .insertRequest request => request.status = .PENDING
  | .updateRequests _ _ _ => False
  | .claim _ => False
  | .commit _ => False
  | .persist _ _ => False
  | .storeCarFile _ _ => False
  | _ => True

theorem WorldOp.Creates.plain {op : WorldOp} (creates : op.Creates) : op.Plain := by
  cases op with
  | insertRequest request => exact creates
  | updateRequests fields updatedAt ids => exact creates.elim
  | commit transaction => exact creates.elim
  | _ => trivial

theorem WorldOp.Creates.unanchored {op : WorldOp} (creates : op.Creates) : op.Unanchored := by
  cases op with
  | storeCarFile anchorProofCid car => exact creates.elim
  | persist anchors acceptedRequests => exact creates.elim
  | _ => exact creates.plain.regular

/-- A POST request performs these operations. -/
def WorldOp.Posts : WorldOp → Prop
  | .now => True
  | .insertRequest request => request.status = .PENDING
  | .markReplaced _ _ _ => True
  | .findByCid _ => True
  | .replicaFindByCid _ => True
  | .sendMessage _ => True
  | .presentBody _ => True
  | _ => False

theorem WorldOp.Posts.creates {op : WorldOp} (posts : op.Posts) : op.Creates := by
  cases op with
  | insertRequest request => exact posts
  | now => trivial
  | markReplaced origin streamId cid => trivial
  | findByCid cid => trivial
  | replicaFindByCid cid => trivial
  | sendMessage message => trivial
  | presentBody request => trivial
  | _ => exact posts.elim

/-- The requests that become ready are marked in a transaction. -/
def WorldOp.Marks : WorldOp → Prop
  | .now => True
  | .begin => True
  | .commit _ => True
  | .sleep _ => True
  | _ => False

theorem WorldOp.Marks.unanchored {op : WorldOp} (marks : op.Marks) : op.Unanchored := by
  cases op with
  | now => trivial
  | begin => trivial
  | commit transaction => trivial
  | sleep milliseconds => trivial
  | _ => exact marks.elim

section Requests

/-- The main database is asked when the replica has failed or has not found the request. -/
theorem RequestService.lookup_sat {Op : Type} {Reply : Op → Type} {State : Type}
    {setting : Setting Op Reply Failure State} {guarantee : Guarantee Op Reply Failure State}
    {post : Option Request → State → Prop} {raise : Failure → State → Prop} {state : State}
    {replica main : Prog Op Reply Failure (Option Request)}
    (first : Sat setting guarantee (fun found reached => match found with
        | some request => post (some request) reached
        | none => Sat setting guarantee post raise main reached)
      (fun _ reached => Sat setting guarantee post raise main reached) replica state) :
    Sat setting guarantee post raise (RequestService.lookup replica main) state := by
  refine sat_bind _ (sat_attempt first) fun found reached held => ?_
  cases found with
  | error error => exact held
  | ok found =>
      cases found with
      | none => exact held
      | some request => exact held

theorem RequestService.findByCid_confined {inside : WorldOp → Prop} {cid : String}
    (replica : inside (.replicaFindByCid cid)) (main : inside (.findByCid cid))
    (present : ∀ request, inside (.presentBody request)) :
    (RequestService.findByCid cid).Confined inside := by
  refine confined_bind (confined_bind (confined_attempt (confined_call _ replica)) fun found => ?_)
    fun found => ?_
  · split
    · trivial
    · exact confined_call _ main
  · split
    · exact confined_bind (confined_call _ (present _)) fun _ => trivial
    · trivial

theorem RequestService.settle_posts (service : RequestService) (origin : String) (storedRequest : Request) :
    (service.settle origin storedRequest).Confined WorldOp.Posts := by
  unfold RequestService.settle
  by_cases queued : service.publishToQueue = true
  · rw [if_pos queued]
    exact confined_call _ trivial
  · rw [if_neg queued]
    exact confined_bind (confined_call _ trivial) fun _ => trivial

theorem RequestService.create_posts (service : RequestService) (params : RequestAnchorParams)
    (origin : String) : (service.create params origin).Confined WorldOp.Posts := by
  refine confined_bind ?_ fun timestamp => confined_bind (confined_call (WorldOp.insertRequest _) rfl)
    fun storedRequest => ?_
  · unfold RequestService.timestampOf
    split
    · trivial
    · exact confined_call _ trivial
  · split
    · trivial
    · exact confined_bind (service.settle_posts origin _) fun _ =>
        confined_bind (confined_call _ trivial) fun _ => trivial

theorem RequestController.createRequest_posts (service : RequestService) (req : ExpReq)
    (validation : Except (List String) RequestAnchorParams) :
    (RequestController.createRequest service req validation).Confined WorldOp.Posts := by
  unfold RequestController.createRequest
  split
  · trivial
  · refine confined_handle (confined_bind (service.create_posts _ _) fun body => ?_) fun _ => trivial
    split
    · trivial
    · exact confined_bind (RequestService.findByCid_confined trivial trivial fun _ => trivial)
        fun _ => trivial

theorem RequestController.createRequest_creates (service : RequestService) (req : ExpReq)
    (validation : Except (List String) RequestAnchorParams) :
    (RequestController.createRequest service req validation).Confined WorldOp.Creates :=
  confined_mono (createRequest_posts service req validation) fun _ => WorldOp.Posts.creates

end Requests

section Transactions

variable {inside : WorldOp → Prop}

theorem onConflict_confined {A : Type} {again : Code A} (sleep : ∀ milliseconds, inside (.sleep milliseconds))
    (rest : again.Confined inside) (error : Failure) :
    (RequestRepository.onConflict worldClient.delay again error).Confined inside := by
  cases error with
  | serialization => exact confined_bind (confined_call _ (sleep 100)) fun _ => rest
  | rejected message => trivial
  | thrown message => trivial

theorem transaction_confined (transaction : RequestTransaction) (opens : inside .begin)
    (commits : inside (.commit transaction)) : (worldClient.transaction transaction).Confined inside :=
  confined_bind (confined_call _ opens) fun _ => confined_call _ commits

theorem updateExpiringReadyRequests_refreshes (repository : RequestRepository) (fuel : Nat) :
    (repository.updateExpiringReadyRequests worldClient fuel).Confined WorldOp.Refreshes := by
  induction fuel with
  | zero => trivial
  | succ fuel ih =>
      exact confined_handle (transaction_confined _ trivial trivial)
        (onConflict_confined (fun _ => trivial) ih)

theorem findAndMarkAsProcessing_refreshes (fuel : Nat) :
    (RequestRepository.findAndMarkAsProcessing worldClient fuel).Confined WorldOp.Refreshes := by
  induction fuel with
  | zero => trivial
  | succ fuel ih =>
      exact confined_handle (transaction_confined _ trivial trivial)
        (onConflict_confined (fun _ => trivial) ih)

theorem findAndMarkReady_marks (repository : RequestRepository) (fuel maxStreamLimit minStreamLimit : Nat) :
    (repository.findAndMarkReady worldClient fuel maxStreamLimit minStreamLimit).Confined WorldOp.Marks := by
  induction fuel with
  | zero => trivial
  | succ fuel ih =>
      exact confined_bind (confined_call WorldOp.now trivial) fun _ =>
        confined_handle (transaction_confined _ trivial trivial) (onConflict_confined (fun _ => trivial) ih)

theorem findAndMarkReady_unanchored (repository : RequestRepository)
    (fuel maxStreamLimit minStreamLimit : Nat) :
    (repository.findAndMarkReady worldClient fuel maxStreamLimit minStreamLimit).Confined
    WorldOp.Unanchored :=
  confined_mono (findAndMarkReady_marks repository fuel maxStreamLimit minStreamLimit) fun _ =>
    WorldOp.Marks.unanchored

end Transactions

namespace AnchorService

variable (service : AnchorService) (formats : Formats)

theorem logAnchorSummary_silent : logAnchorSummary.Confined WorldOp.Silent :=
  confined_bind (confined_call _ trivial) fun _ => trivial

theorem logAnchorSummary_quiet : logAnchorSummary.Confined WorldOp.Quiet :=
  confined_mono logAnchorSummary_silent fun _ => WorldOp.Silent.quiet

theorem findCandidates_silent (requests : List Request) (candidateLimit : Nat) :
    (findCandidates formats requests candidateLimit).Confined WorldOp.Silent := by
  have each : ∀ request, (buildCandidate formats request).Confined WorldOp.Silent := by
    intro request
    unfold buildCandidate
    repeat' split
    all_goals trivial
  have all : ∀ requests : List Request,
      (requests.mapM (buildCandidate formats)).Confined WorldOp.Silent := by
    intro requests
    induction requests with
    | nil => trivial
    | cons request rest ih =>
        rw [List.mapM_cons]
        exact confined_bind (each request) fun _ => confined_bind ih fun _ => trivial
  unfold findCandidates buildCandidates loadCandidateStreams
  exact confined_bind (confined_bind (all requests) fun _ => trivial) fun _ =>
    confined_bind (confined_bind (confined_call _ trivial) fun _ => trivial) fun _ => trivial

theorem findCandidates_quiet (requests : List Request) (candidateLimit : Nat) :
    (findCandidates formats requests candidateLimit).Confined WorldOp.Quiet :=
  confined_mono (findCandidates_silent formats requests candidateLimit) fun _ => WorldOp.Silent.quiet

theorem publishCommit_silent (ipfsAnchorCommit : Ipld) (anchorCid streamId : Cid) :
    (publishCommit service ipfsAnchorCommit anchorCid streamId).Confined WorldOp.Silent := by
  refine confined_bind ?_ fun _ => ?_
  · split
    · exact confined_call (WorldOp.storeRecord ipfsAnchorCommit) trivial
    · trivial
  · split
    · exact confined_call (WorldOp.publishAnchorCommit anchorCid streamId) trivial
    · trivial

theorem createAnchorCommits_silent (ipfsProofCid : Cid) (merkleTree : MerkleCAR)
    (leaves : List (Candidate × Nat)) (car : Car) :
    (createAnchorCommits service ipfsProofCid merkleTree leaves car).Confined WorldOp.Silent := by
  induction leaves generalizing car with
  | nil => trivial
  | cons leaf rest ih =>
      have publish := service.publishCommit_silent
      exact confined_bind (confined_bind (confined_attempt (publish _ _ _)) fun _ => trivial) fun _ =>
        confined_bind (ih _) fun _ => trivial

theorem createAnchorCommits_quiet (ipfsProofCid : Cid) (merkleTree : MerkleCAR)
    (leaves : List (Candidate × Nat)) (car : Car) :
    (createAnchorCommits service ipfsProofCid merkleTree leaves car).Confined WorldOp.Quiet :=
  confined_mono (service.createAnchorCommits_silent ipfsProofCid merkleTree leaves car) fun _ =>
    WorldOp.Silent.quiet

theorem storeWitnessCARs_quiet (merkleCAR : Car) (anchors : List FreshAnchor) :
    (storeWitnessCARs merkleCAR anchors).Confined WorldOp.Quiet := by
  induction anchors with
  | nil => trivial
  | cons anchor rest ih =>
      refine confined_bind ?_ fun witnessCAR => ?_
      · unfold buildWitnessCAR
        split
        · trivial
        · trivial
      · exact confined_bind
          (confined_attempt (confined_call (WorldOp.storeWitness anchor.cid witnessCAR) trivial))
          fun _ => ih

theorem importCAR_silent (car : Car) : (importCAR service car).Confined WorldOp.Silent := by
  unfold importCAR
  split
  · exact confined_call (WorldOp.importCAR car) trivial
  · trivial

theorem importCAR_quiet (car : Car) : (importCAR service car).Confined WorldOp.Quiet :=
  confined_mono (service.importCAR_silent car) fun _ => WorldOp.Silent.quiet

theorem giveBack_givesBack (acceptedRequests : List Request) :
    (giveBack service acceptedRequests).Confined WorldOp.GivesBack := by
  unfold giveBack
  split
  · trivial
  · refine confined_bind (confined_bind (confined_call WorldOp.now trivial) fun updatedAt => ?_)
      fun _ => trivial
    exact confined_call (WorldOp.updateRequests _ updatedAt _) rfl

section Bounds

variable {inside : WorldOp → Prop} {candidates : List Candidate}

theorem persistAnchorResult_confined {anchors : List FreshAnchor} (begins : inside .begin)
    (sleeps : ∀ milliseconds, inside (.sleep milliseconds))
    (persists : inside (.persist anchors (candidates.map Candidate.request))) (fuel : Nat) :
    (persistAnchorResult anchors candidates fuel).Confined inside := by
  induction fuel with
  | zero => trivial
  | succ fuel ih =>
      exact confined_handle (confined_bind (confined_call _ begins) fun _ => confined_call _ persists)
        (onConflict_confined sleeps ih)

/-- A batch is confined to the quiet operations and to those that build, submit and store it. -/
theorem anchorCandidates_confined (quiet : ∀ op : WorldOp, op.Quiet → inside op)
    (builds : inside (.buildMerkleTree candidates)) (submits : ∀ root, inside (.sendTransaction root))
    (stores : ∀ proofCid car, inside (.storeCarFile proofCid car)) (begins : inside .begin)
    (persists : ∀ anchors, inside (.persist anchors (candidates.map Candidate.request))) (fuel : Nat) :
    (anchorCandidates service formats fuel candidates).Confined inside := by
  refine confined_bind (confined_handle (confined_call (WorldOp.buildMerkleTree candidates) builds)
    fun _ => trivial) fun merkleTree => ?_
  refine confined_bind (confined_call (WorldOp.sendTransaction merkleTree.root) (submits _)) fun tx => ?_
  refine confined_bind (confined_mono (service.createAnchorCommits_quiet _ _ _ _) quiet) fun stored => ?_
  refine confined_bind (confined_mono (service.importCAR_quiet stored.2) quiet) fun _ => ?_
  refine confined_bind (confined_call (WorldOp.storeCarFile _ stored.2) (stores _ _)) fun _ => ?_
  refine confined_bind (confined_mono (storeWitnessCARs_quiet stored.2 stored.1) quiet) fun _ => ?_
  exact confined_bind (persistAnchorResult_confined begins (fun _ => quiet _ trivial) (persists _) fuel)
    fun _ => trivial

/-- The work on requests is confined to the quiet operations, to those of the batch and to those that give
it back. -/
theorem anchorRequestsOf_confined {meets : List Candidate → Prop} {fuel : Nat} {requests : List Request}
    (quiet : ∀ op : WorldOp, op.Quiet → inside op)
    (selects : (findCandidates formats (requests.filter fun request => request.status ≠ .REPLACED)
      service.maxStreamLimit).Returns fun found => meets found.1)
    (batch : ∀ candidates, meets candidates →
      (anchorCandidates service formats fuel candidates).Confined inside)
    (back : ∀ candidates, meets candidates →
      (giveBack service (candidates.map Candidate.request)).Confined inside) :
    (anchorRequestsOf service formats fuel requests).Confined inside := by
  have summary := confined_mono logAnchorSummary_quiet quiet
  unfold anchorRequestsOf
  dsimp only
  split
  · trivial
  · refine confined_returns (confined_mono (findCandidates_quiet formats _ _) quiet) selects
      fun found selected => ?_
    split
    · exact summary
    · refine confined_handle (confined_bind (batch found.1 selected) fun _ => summary) fun error => ?_
      exact confined_bind (back found.1 selected) fun _ => confined_bind summary fun _ => trivial

end Bounds

theorem anchorCandidates_plain (fuel : Nat) (candidates : List Candidate) :
    (anchorCandidates service formats fuel candidates).Confined WorldOp.Plain :=
  anchorCandidates_confined service formats (fun _ => WorldOp.Quiet.plain) trivial (fun _ => trivial)
    (fun _ _ => trivial) trivial (fun _ => trivial) fuel

theorem anchorRequestsOf_plain (fuel : Nat) (requests : List Request) :
    (anchorRequestsOf service formats fuel requests).Confined WorldOp.Plain :=
  @anchorRequestsOf_confined service formats _ (fun _ => True) _ _ (fun _ => WorldOp.Quiet.plain)
    (returns_trivial _)
    (fun candidates _ => service.anchorCandidates_plain formats fuel candidates)
    fun _ _ => confined_mono (service.giveBack_givesBack _) fun _ => WorldOp.GivesBack.plain

theorem anchorReadyRequests_plain (fuel : Nat) :
    (anchorReadyRequests service formats fuel).Confined WorldOp.Plain := by
  refine confined_bind (confined_bind (confined_call (WorldOp.selectReady _) trivial) fun ids => ?_)
    fun requests => ?_
  · exact confined_call (WorldOp.claim ids) trivial
  · refine confined_bind (service.anchorRequestsOf_plain formats fuel requests) fun _ => ?_
    exact confined_call (WorldOp.sleep 5000) trivial

theorem throwIfAborted_silent (message : String) : (throwIfAborted message).Confined WorldOp.Silent := by
  refine confined_bind (confined_call WorldOp.aborted trivial) fun aborted => ?_
  split
  · trivial
  · trivial

theorem throwIfAborted_quiet (message : String) : (throwIfAborted message).Confined WorldOp.Quiet :=
  confined_mono (throwIfAborted_silent message) fun _ => WorldOp.Silent.quiet

theorem findByIds_plain (givenIds : List String) :
    (RequestRepository.findByIds givenIds).Confined WorldOp.Plain := by
  refine confined_bind (confined_call (WorldOp.selectByIds _) trivial) fun requests => ?_
  split
  · trivial
  · trivial

theorem anchorNextQueuedBatch_plain (fuel : Nat) :
    (anchorNextQueuedBatch service formats fuel).Confined WorldOp.Plain := by
  have quiet := fun op => @WorldOp.Quiet.plain op
  refine confined_bind (confined_mono (throwIfAborted_quiet _) quiet) fun _ => ?_
  split
  · trivial
  · refine confined_bind (confined_call WorldOp.receiveMessage trivial) fun batchMessage => ?_
    split
    · trivial
    · rename_i message
      refine confined_handle (confined_bind (findByIds_plain message.rids) fun requests => ?_)
        fun error => ?_
      · refine confined_bind (confined_mono (throwIfAborted_quiet _) quiet) fun _ => ?_
        refine confined_bind (service.anchorRequestsOf_plain formats fuel requests) fun _ => ?_
        refine confined_bind (confined_call (WorldOp.sleep 5000) trivial) fun _ => ?_
        exact confined_bind (confined_call (WorldOp.ack message) trivial) fun _ => trivial
      · exact confined_bind (confined_call (WorldOp.nack message) trivial) fun _ => trivial

/-- The scheduler marks and emits, and it anchors nothing. -/
theorem emitAnchorEventIfReady_unanchored (fuel : Nat) :
    (emitAnchorEventIfReady service fuel).Confined WorldOp.Unanchored := by
  refine confined_bind (confined_call (WorldOp.countByStatus .READY) trivial) fun readyRequestsCount => ?_
  refine confined_bind ?_ fun emits => ?_
  · unfold prepareAnchorEvent
    split
    · have refreshes := updateExpiringReadyRequests_refreshes service.requestRepository fuel
      exact confined_bind (confined_mono refreshes fun _ => WorldOp.Refreshes.unanchored) fun _ => trivial
    · exact confined_bind (findAndMarkReady_unanchored _ _ _ _) fun _ => trivial
  · split
    · exact confined_bind (confined_attempt (confined_call WorldOp.emitAnchorEvent trivial)) fun _ => trivial
    · trivial

end AnchorService

/-- A task is made of plain programs and of findAndMarkReady. -/
theorem Task.run_parts {holds : {A : Type} → Code A → Prop}
    (plain : ∀ {A : Type} (program : Code A), program.Confined WorldOp.Plain → holds program)
    (bind : ∀ {A B : Type} (program : Code A) (continue_ : A → Code B), holds program →
      (∀ value, holds (continue_ value)) → holds (program >>= continue_))
    (marks : ∀ (repository : RequestRepository) (fuel maxStreamLimit minStreamLimit : Nat),
      holds (repository.findAndMarkReady worldClient fuel maxStreamLimit minStreamLimit))
    (formats : Formats) (task : Task) : holds (task.run formats) := by
  have quiet := fun op => @WorldOp.Quiet.plain op
  have counts : ∀ status, holds (RequestRepository.countByStatus status) := fun status =>
    plain _ (confined_call (WorldOp.countByStatus status) trivial)
  cases task with
  | createRequest service req validation =>
      have creates := RequestController.createRequest_creates service req validation
      exact plain _ (confined_bind (confined_mono creates fun _ => WorldOp.Creates.plain) fun _ => trivial)
  | emitAnchorEventIfReady service fuel =>
      refine bind _ _ (bind _ _ (counts .READY) fun readyRequestsCount => bind _ _ ?_ fun emits => ?_)
        fun _ =>
        plain _ trivial
      · unfold AnchorService.prepareAnchorEvent
        split
        · exact plain _
            (confined_bind
              (confined_mono (updateExpiringReadyRequests_refreshes _ _) fun _ => WorldOp.Refreshes.plain)
              fun _ => trivial)
        · exact bind _ _ (marks _ _ _ _) fun _ => plain _ trivial
      · apply plain
        split
        · exact confined_bind (confined_attempt (confined_call WorldOp.emitAnchorEvent trivial))
            fun _ => trivial
        · trivial
  | anchorRequests service fuel =>
      refine bind _ _ ?_ fun _ => plain _ trivial
      unfold AnchorService.anchorRequests
      split
      · exact plain _ (service.anchorNextQueuedBatch_plain formats fuel)
      · refine bind _ _ (counts .READY) fun readyRequestsCount => bind _ _ ?_ fun _ => ?_
        · unfold AnchorService.refill
          split
          · exact bind _ _ (marks _ _ _ _) fun _ => plain _ trivial
          · exact plain _ trivial
        · exact plain _ (confined_bind (service.anchorReadyRequests_plain formats fuel) fun _ => trivial)
  | findAndMarkAsProcessing fuel =>
      exact plain _
        (confined_bind
          (confined_mono (findAndMarkAsProcessing_refreshes fuel) fun _ => WorldOp.Refreshes.plain)
          fun _ => trivial)

/-- Every task is confined to the regular operations. -/
theorem Task.run_regular (formats : Formats) (task : Task) : (task.run formats).Confined WorldOp.Regular := by
  apply Task.run_parts (fun program confined => confined_mono confined fun _ => WorldOp.Plain.regular)
    (fun program continue_ => confined_bind)
  intro repository fuel maxStreamLimit minStreamLimit
  exact confined_mono (findAndMarkReady_unanchored repository fuel maxStreamLimit minStreamLimit)
    fun _ => WorldOp.Unanchored.regular

end CeramicAnchor
