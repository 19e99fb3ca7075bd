import CeramicAnchor.Proof.Anchoring

/-
This file proves that a batch hands over only witnesses that are built from its stored Merkle CAR.
-/

namespace CeramicAnchor
open Concurrency Storage Prog

/-- The CID is that of an anchor commit with this proof. -/
def CommitOf (anchorCid proofCid : Cid) : Prop :=
  ∃ id prev path, anchorCid = .record (anchorCommit id prev proofCid path)

theorem commitOf_unique {anchorCid first second : Cid} (ofFirst : CommitOf anchorCid first)
    (ofSecond : CommitOf anchorCid second) : first = second := by
  obtain ⟨id, prev, path, rfl⟩ := ofFirst
  obtain ⟨otherId, otherPrev, otherPath, same⟩ := ofSecond
  have proofs := congrArg (fun record => Ipld.property record "proof") (Cid.record.inj same)
  simpa [anchorCommit, Ipld.property, Fields.ofList, Fields.get] using proofs

/-- The witness is built from the Merkle CAR that is stored under the proof of the anchor commit. -/
def World.Built (world : World) (anchorCid : Cid) (witnessCAR : Car) : Prop :=
  ∃ proofCid car, CommitOf anchorCid proofCid ∧ world.merkleCars proofCid = some car ∧
    WitnessService.build anchorCid car = .ok witnessCAR

/-- Only built witnesses are handed over, and only anchors with the proof of their commits are persisted. -/
def Witnesses : Guarantee WorldOp WorldOp.Reply Failure World :=
  fun op before _ _ => match op with
    | .storeWitness anchorCid witnessCAR => before.Built anchorCid witnessCAR
    | .persist anchors _ => ∀ anchor ∈ anchors, CommitOf anchor.cid anchor.proofCid
    | _ => True

/-- These operations neither hand a witness over nor persist anchors. -/
def WorldOp.Unwitnessed : WorldOp → Prop
  | .storeWitness _ _ => False
  | .persist _ _ => False
  | _ => True

theorem WorldOp.Silent.unwitnessed {op : WorldOp} (silent : op.Silent) : op.Unwitnessed := by
  cases op with
  | storeWitness anchorCommitCid car => exact silent.elim
  | persist anchors acceptedRequests => exact silent.elim
  | _ => trivial

theorem WorldOp.GivesBack.unwitnessed {op : WorldOp} (givesBack : op.GivesBack) : op.Unwitnessed := by
  cases op with
  | storeWitness anchorCommitCid car => exact givesBack.elim
  | persist anchors acceptedRequests => exact givesBack.elim
  | _ => trivial

theorem WorldOp.Refreshes.unwitnessed {op : WorldOp} (refreshes : op.Refreshes) : op.Unwitnessed := by
  cases op with
  | storeWitness anchorCommitCid car => exact refreshes.elim
  | persist anchors acceptedRequests => exact refreshes.elim
  | _ => trivial

theorem WorldOp.Marks.unwitnessed {op : WorldOp} (marks : op.Marks) : op.Unwitnessed := by
  cases op with
  | storeWitness anchorCommitCid car => exact marks.elim
  | persist anchors acceptedRequests => exact marks.elim
  | _ => trivial

theorem WorldOp.Posts.unwitnessed {op : WorldOp} (posts : op.Posts) : op.Unwitnessed := by
  cases op with
  | storeWitness anchorCommitCid car => exact posts.elim
  | persist anchors acceptedRequests => exact posts.elim
  | _ => trivial

section Threads

variable {formats : Formats} {deployed : Task → Prop} {thread : Nat} {world : World}

theorem unwitnessed_sat {A : Type} {program : Code A} (unwitnessed : program.Confined WorldOp.Unwitnessed) :
    Sat ((anchoring formats deployed).setting thread) Witnesses (fun _ _ => True) (fun _ _ => True)
    program world := by
  refine sat_confined unwitnessed fun op inside before reply after _ => ?_
  cases op with
  | storeWitness anchorCommitCid car => exact inside.elim
  | persist anchors acceptedRequests => exact inside.elim
  | _ => trivial

/-- The loop builds each witness from the stored CAR, which stays stored. -/
theorem storeWitnessCARs_witnesses {proofCid : Cid} {car : Car} {anchors : List FreshAnchor}
    (commits : ∀ anchor ∈ anchors, CommitOf anchor.cid proofCid)
    (stored : world.merkleCars proofCid = some car) :
    Sat ((anchoring formats deployed).setting thread) Witnesses (fun _ _ => True) (fun _ _ => True)
      (AnchorService.storeWitnessCARs car anchors) world := by
  induction anchors generalizing world with
  | nil => trivial
  | cons anchor rest ih =>
      unfold AnchorService.storeWitnessCARs AnchorService.buildWitnessCAR
      cases built : WitnessService.build anchor.cid car with
      | error error => trivial
      | ok witnessCAR =>
          simp only [pure_eq, done_bind]
          refine sat_bind (fun _ reached => World.merkleCars reached proofCid = some car) ?_ fun _ _ still =>
            ih (fun other member => commits other (List.mem_cons_of_mem _ member)) still
          refine sat_attempt_settled (fun reached => World.merkleCars reached proofCid = some car) ?_
          have hands : ∀ before, world.KeepsAway thread before → ∀ reply after,
              (WorldOp.storeWitness anchor.cid witnessCAR).perform formats thread before reply after →
              before.Built anchor.cid witnessCAR ∧ after.merkleCars proofCid = some car := by
            intro before others reply after performed
            have kept := others.cars proofCid car stored
            refine ⟨⟨proofCid, car, commits anchor List.mem_cons_self, kept, built⟩, ?_⟩
            have regular :
                Anchors formats thread (.storeWitness anchor.cid witnessCAR) before reply after := trivial
            exact (WorldOp.perform_moves performed).keepsCars regular kept
          exact sat_call (WorldOp.storeWitness anchor.cid witnessCAR)
            (fun before others value after performed => hands before others (.ok value) after performed)
            fun before others error after performed => hands before others (.error error) after performed

theorem persistAnchorResult_witnesses {anchors : List FreshAnchor} {candidates : List Candidate}
    (commits : ∀ anchor ∈ anchors, CommitOf anchor.cid anchor.proofCid) (fuel : Nat) :
    Sat ((anchoring formats deployed).setting thread) Witnesses (fun _ _ => True) (fun _ _ => True)
      (AnchorService.persistAnchorResult anchors candidates fuel) world := by
  let inside : WorldOp → Prop :=
    fun op => op.Unwitnessed ∨ ∃ acceptedRequests, op = .persist anchors acceptedRequests
  have confined : (AnchorService.persistAnchorResult anchors candidates fuel).Confined inside := by
    induction fuel with
    | zero => trivial
    | succ fuel ih =>
        exact confined_handle (confined_bind (confined_call WorldOp.begin (.inl trivial)) fun _ =>
          confined_call (WorldOp.persist anchors _) (.inr ⟨_, rfl⟩))
          (onConflict_confined (fun _ => .inl trivial) ih)
  refine sat_confined confined fun op member before reply after _ => ?_
  rcases member with unwitnessed | ⟨acceptedRequests, rfl⟩
  · cases op with
    | storeWitness anchorCommitCid car => exact unwitnessed.elim
    | persist others acceptedRequests => exact unwitnessed.elim
    | _ => trivial
  · exact commits

theorem anchorCandidates_witnesses {service : AnchorService} (fuel : Nat) (candidates : List Candidate) :
    Sat ((anchoring formats deployed).setting thread) Witnesses (fun _ _ => True) (fun _ _ => True)
      (service.anchorCandidates formats fuel candidates) world := by
  have silent := fun op => @WorldOp.Silent.unwitnessed op
  have builds : ∀ candidates, (AnchorService.buildMerkleTree candidates).Confined WorldOp.Unwitnessed :=
    fun _ =>
    confined_handle (confined_call (WorldOp.buildMerkleTree _) trivial) fun _ => trivial
  refine sat_bind _ (unwitnessed_sat (builds candidates)) fun tree _ _ => ?_
  refine sat_bind _ (unwitnessed_sat (confined_call (WorldOp.sendTransaction tree.root) trivial))
    fun tx _ _ => ?_
  let proof := anchorProof tree.root tx.chain (formats.hashCid tx) service.useSmartContractAnchors
  have committed := createAnchorCommits_returns service (.record proof) tree tree.leafNodes.zipIdx
    (tree.car.putBlock proof)
  refine sat_bind _
    (sat_returns (unwitnessed_sat (confined_mono (service.createAnchorCommits_silent _ _ _ _) silent))
    committed) ?_
  rintro ⟨anchors, car⟩ _ ⟨_, sameAnchors, _, _⟩
  have commits :
      ∀ anchor ∈ anchors, anchor.proofCid = .record proof ∧ CommitOf anchor.cid (.record proof) := by
    rw [show anchors = _ from sameAnchors]
    intro anchor member
    obtain ⟨leaf, _, rfl⟩ := List.mem_map.mp member
    exact ⟨rfl, _, _, _, rfl⟩
  refine sat_bind _ (unwitnessed_sat (confined_mono (service.importCAR_silent car) silent)) fun _ _ _ => ?_
  refine sat_bind (fun _ reached => reached.merkleCars (.record proof) = some car) ?_ fun _ _ stored => ?_
  · refine sat_call (WorldOp.storeCarFile (.record proof) car) ?_ fun _ _ _ _ _ => ⟨trivial, trivial⟩
    intro before _ _ after performed
    obtain rfl : after = _ := performed
    exact ⟨trivial, Function.update_self _ _ _⟩
  refine sat_bind _ (storeWitnessCARs_witnesses (fun anchor member => (commits anchor member).2) stored) ?_
  intro _ _ _
  refine sat_bind _ (persistAnchorResult_witnesses (fun anchor member => ?_) fuel) fun _ _ _ => trivial
  rw [(commits anchor member).1]
  exact (commits anchor member).2

theorem anchorRequestsOf_witnesses {service : AnchorService} (fuel : Nat) (requests : List Request) :
    Sat ((anchoring formats deployed).setting thread) Witnesses (fun _ _ => True) (fun _ _ => True)
      (service.anchorRequestsOf formats fuel requests) world := by
  have silent := fun op => @WorldOp.Silent.unwitnessed op
  have summary := confined_mono AnchorService.logAnchorSummary_silent silent
  unfold AnchorService.anchorRequestsOf
  dsimp only
  split
  · trivial
  refine sat_bind _
    (unwitnessed_sat (confined_mono (AnchorService.findCandidates_silent formats _ _) silent)) ?_
  rintro ⟨candidates, _⟩ _ _
  dsimp only
  split
  · exact unwitnessed_sat summary
  refine sat_handle (fun _ _ => True) ?_ fun error _ _ => ?_
  · exact sat_bind _ (anchorCandidates_witnesses fuel candidates) fun _ _ _ => unwitnessed_sat summary
  · have givesBack := confined_mono (service.giveBack_givesBack (candidates.map Candidate.request)) fun _ =>
      WorldOp.GivesBack.unwitnessed
    exact unwitnessed_sat (confined_bind givesBack fun _ => confined_bind summary fun _ => trivial)

theorem anchorNextQueuedBatch_witnesses {service : AnchorService} (fuel : Nat) :
    Sat ((anchoring formats deployed).setting thread) Witnesses (fun _ _ => True) (fun _ _ => True)
      (service.anchorNextQueuedBatch formats fuel) world := by
  have aborts : ∀ message, (AnchorService.throwIfAborted message).Confined WorldOp.Unwitnessed :=
    fun message =>
    confined_mono (AnchorService.throwIfAborted_silent message) fun _ => WorldOp.Silent.unwitnessed
  refine sat_bind _ (unwitnessed_sat (aborts _)) fun _ _ _ => ?_
  split
  · trivial
  refine sat_bind _ (unwitnessed_sat (confined_call WorldOp.receiveMessage trivial))
    fun batchMessage _ _ => ?_
  cases batchMessage with
  | none => trivial
  | some message =>
      have finds : (RequestRepository.findByIds message.rids).Confined WorldOp.Unwitnessed := by
        refine confined_bind (confined_call (WorldOp.selectByIds _) trivial) fun requests => ?_
        split <;> trivial
      refine sat_handle (fun _ _ => True) ?_ fun error _ _ => ?_
      · refine sat_bind _ (unwitnessed_sat finds) fun requests _ _ => ?_
        refine sat_bind _ (unwitnessed_sat (aborts _)) fun _ _ _ => ?_
        refine sat_bind _ (anchorRequestsOf_witnesses fuel requests) fun _ _ _ => unwitnessed_sat ?_
        refine confined_bind (confined_call (WorldOp.sleep 5000) trivial) fun _ => ?_
        exact confined_bind (confined_call (WorldOp.ack message) trivial) fun _ => trivial
      · exact unwitnessed_sat (confined_bind (confined_call (WorldOp.nack message) trivial) fun _ => trivial)

theorem anchorRequests_witnesses {service : AnchorService} (fuel : Nat) :
    Sat ((anchoring formats deployed).setting thread) Witnesses (fun _ _ => True) (fun _ _ => True)
      (service.anchorRequests formats fuel) world := by
  unfold AnchorService.anchorRequests
  split
  · exact anchorNextQueuedBatch_witnesses fuel
  have refills : ∀ count, (service.refill fuel count).Confined WorldOp.Unwitnessed := by
    intro count
    unfold AnchorService.refill
    split
    · have marks := findAndMarkReady_marks service.requestRepository fuel (service.maxStreamLimit * 2)
        service.minStreamLimit
      exact confined_bind (confined_mono marks fun _ => WorldOp.Marks.unwitnessed) fun _ => trivial
    · trivial
  have claims : (RequestRepository.claimBatch service.maxStreamLimit).Confined WorldOp.Unwitnessed :=
    confined_bind (confined_call (WorldOp.selectReady _) trivial) fun ids =>
    confined_call (WorldOp.claim ids) trivial
  refine sat_bind _ (unwitnessed_sat (confined_call (WorldOp.countByStatus .READY) trivial))
    fun count _ _ => ?_
  refine sat_bind _ (unwitnessed_sat (refills count)) fun _ _ _ => ?_
  refine sat_bind (fun _ _ => True) ?_ fun _ _ _ => trivial
  refine sat_bind _ (unwitnessed_sat claims) fun requests _ _ => ?_
  refine sat_bind _ (anchorRequestsOf_witnesses fuel requests) fun _ _ _ => ?_
  exact unwitnessed_sat (confined_call (WorldOp.sleep 5000) trivial)

/-- Each task hands over only built witnesses. -/
theorem Task.run_witnesses (task : Task) :
    Sat ((anchoring formats deployed).setting thread) Witnesses (fun _ _ => True) (fun _ _ => True)
      (task.run formats) world := by
  cases task with
  | createRequest service req validation =>
      have posts := RequestController.createRequest_posts service req validation
      exact unwitnessed_sat
        (confined_bind (confined_mono posts fun _ => WorldOp.Posts.unwitnessed) fun _ => trivial)
  | emitAnchorEventIfReady service fuel =>
      apply unwitnessed_sat
      refine confined_bind
        (confined_bind (confined_call (WorldOp.countByStatus .READY) trivial) fun count => ?_)
        fun _ => trivial
      refine confined_bind ?_ fun emits => ?_
      · unfold AnchorService.prepareAnchorEvent
        split
        · have refreshes := updateExpiringReadyRequests_refreshes service.requestRepository fuel
          exact confined_bind (confined_mono refreshes fun _ => WorldOp.Refreshes.unwitnessed) fun _ =>
            trivial
        · exact confined_bind
            (confined_mono (findAndMarkReady_marks _ _ _ _) fun _ => WorldOp.Marks.unwitnessed)
            fun _ => trivial
      · split
        · exact confined_bind (confined_attempt (confined_call WorldOp.emitAnchorEvent trivial))
            fun _ => trivial
        · trivial
  | anchorRequests service fuel => exact sat_bind _ (anchorRequests_witnesses fuel) fun _ _ _ => trivial
  | findAndMarkAsProcessing fuel =>
      have refreshes := findAndMarkAsProcessing_refreshes fuel
      exact unwitnessed_sat
        (confined_bind (confined_mono refreshes fun _ => WorldOp.Refreshes.unwitnessed) fun _ =>
        trivial)

end Threads

end CeramicAnchor
