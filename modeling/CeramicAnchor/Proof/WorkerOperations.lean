import CeramicAnchor.Proof.Confinement

/-
This file says which operations the workers perform, and that only a POST request inserts.
-/

namespace CeramicAnchor
open Concurrency Storage Prog

/-- The operations of the workers beside those of their queue. -/
def WorldOp.Works : WorldOp → Prop
  | .insertRequest _ => False
  | .markReplaced _ _ _ => False
  | .sendMessage _ => False
  | .receiveMessage => False
  | .selectByIds _ => False
  | .ack _ => False
  | .nack _ => False
  | _ => True

theorem WorldOp.Quiet.works {op : WorldOp} (quiet : op.Quiet) : op.Works := by
  cases op <;> trivial

theorem WorldOp.Marks.works {op : WorldOp} (marks : op.Marks) : op.Works := by
  cases op <;> trivial

theorem WorldOp.Refreshes.works {op : WorldOp} (refreshes : op.Refreshes) : op.Works := by
  cases op <;> trivial

theorem WorldOp.GivesBack.works {op : WorldOp} (givesBack : op.GivesBack) : op.Works := by
  cases op <;> trivial

namespace AnchorService

variable (service : AnchorService) (formats : Formats)

theorem quiet_works {A : Type} {program : Code A} (quiet : program.Confined WorldOp.Quiet) :
    program.Confined WorldOp.Works :=
  confined_mono quiet fun _ => WorldOp.Quiet.works

theorem anchorCandidates_works (fuel : Nat) (candidates : List Candidate) :
    (service.anchorCandidates formats fuel candidates).Confined WorldOp.Works :=
  anchorCandidates_confined service formats (fun _ => WorldOp.Quiet.works) trivial (fun _ => trivial)
    (fun _ _ => trivial) trivial (fun _ => trivial) fuel

theorem anchorRequestsOf_works (fuel : Nat) (requests : List Request) :
    (service.anchorRequestsOf formats fuel requests).Confined WorldOp.Works :=
  @anchorRequestsOf_confined service formats _ (fun _ => True) _ _ (fun _ => WorldOp.Quiet.works)
    (returns_trivial _)
    (fun candidates _ => service.anchorCandidates_works formats fuel candidates)
    fun _ _ => confined_mono (service.giveBack_givesBack _) fun _ => WorldOp.GivesBack.works

theorem findAndMarkReady_works (repository : RequestRepository)
    (fuel maxStreamLimit minStreamLimit : Nat) :
    (repository.findAndMarkReady worldClient fuel maxStreamLimit minStreamLimit).Confined WorldOp.Works :=
  confined_mono (findAndMarkReady_marks repository fuel maxStreamLimit minStreamLimit) fun _ =>
    WorldOp.Marks.works

/-- A task is a POST request, or the work on one queued batch, or it uses no queue. -/
theorem task_cases (task : Task) :
    (∃ service req validation, task = .createRequest service req validation) ∨
      (∃ service fuel, task = .anchorRequests service fuel ∧ service.useQueueBatches = true) ∨
      (task.run formats).Confined WorldOp.Works := by
  have counts : ∀ status, (RequestRepository.countByStatus status).Confined WorldOp.Works := fun status =>
    confined_call (WorldOp.countByStatus status) trivial
  cases task with
  | createRequest service req validation => exact .inl ⟨service, req, validation, rfl⟩
  | emitAnchorEventIfReady service fuel =>
      refine .inr (.inr (confined_bind (confined_bind (counts .READY) fun count => confined_bind ?_
        fun emits => ?_) fun _ => trivial))
      · unfold prepareAnchorEvent
        split
        · have refreshes := updateExpiringReadyRequests_refreshes service.requestRepository fuel
          exact confined_bind (confined_mono refreshes fun _ => WorldOp.Refreshes.works) fun _ => trivial
        · exact confined_bind (findAndMarkReady_works _ _ _ _) fun _ => trivial
      · split
        · exact confined_bind (confined_attempt (confined_call WorldOp.emitAnchorEvent trivial))
            fun _ => trivial
        · trivial
  | anchorRequests service fuel =>
      by_cases queued : service.useQueueBatches = true
      · exact .inr (.inl ⟨service, fuel, rfl, queued⟩)
      · refine .inr (.inr (confined_bind ?_ fun _ => trivial))
        unfold anchorRequests
        rw [if_neg queued]
        refine confined_bind (counts .READY) fun count => confined_bind ?_ fun _ =>
          confined_bind ?_ fun _ => trivial
        · unfold refill
          split
          · exact confined_bind (findAndMarkReady_works _ _ _ _) fun _ => trivial
          · trivial
        · refine confined_bind (confined_bind (confined_call (WorldOp.selectReady _) trivial) fun ids =>
            confined_call (WorldOp.claim ids) trivial) fun requests => ?_
          exact confined_bind (service.anchorRequestsOf_works formats fuel requests) fun _ =>
            confined_call (WorldOp.sleep 5000) trivial
  | findAndMarkAsProcessing fuel =>
      have refreshes := findAndMarkAsProcessing_refreshes fuel
      exact .inr (.inr
        (confined_bind (confined_mono refreshes fun _ => WorldOp.Refreshes.works) fun _ => trivial))

/-- The work on the loaded requests of a message. -/
def anchorLoaded (fuel : Nat) (message : AnchorBatchQMessage) (requests : List Request) : Code Bool := do
  throwIfAborted "User aborted before the batch could begin the anchoring process"
  service.anchorRequestsOf formats fuel requests
  Prog.call (WorldOp.sleep 5000)
  Prog.call (WorldOp.ack message)
  pure true

/-- The work on one message. -/
def anchorBatch (fuel : Nat) (message : AnchorBatchQMessage) : Code Bool :=
  tryCatch (do
    let requests ← RequestRepository.findByIds message.rids
    service.anchorLoaded formats fuel message requests) fun err => do
      Prog.call (WorldOp.nack message)
      throw err

section Queue

variable {inside : WorldOp → Prop} (fuel : Nat) (message : AnchorBatchQMessage)
  (works : ∀ op, WorldOp.Works op → inside op)

include works

theorem throwIfAborted_confined (text : String) : (throwIfAborted text).Confined inside :=
  confined_mono (quiet_works (throwIfAborted_quiet text)) works

theorem anchorLoaded_confined (acks : inside (.ack message)) (requests : List Request) :
    (service.anchorLoaded formats fuel message requests).Confined inside := by
  refine confined_bind (throwIfAborted_confined works _) fun _ => ?_
  refine confined_bind (confined_mono (service.anchorRequestsOf_works formats fuel requests) works)
    fun _ => ?_
  refine confined_bind (confined_call (WorldOp.sleep 5000) (works _ trivial)) fun _ => ?_
  exact confined_bind (confined_call (WorldOp.ack message) acks) fun _ => trivial

theorem anchorBatch_confined (selects : ∀ ids, inside (.selectByIds ids)) (acks : inside (.ack message))
    (nacks : inside (.nack message)) : (service.anchorBatch formats fuel message).Confined inside := by
  refine confined_handle (confined_bind (confined_bind (confined_call _ (selects _)) fun requests => ?_)
    fun requests => service.anchorLoaded_confined formats fuel message works acks requests) fun error => ?_
  · split <;> trivial
  · exact confined_bind (confined_call (WorldOp.nack message) nacks) fun _ => trivial

/-- The work on one queued batch uses the queue beside what the workers do. -/
theorem anchorNextQueuedBatch_confined (receives : inside .receiveMessage)
    (selects : ∀ ids, inside (.selectByIds ids)) (acks : ∀ message, inside (.ack message))
    (nacks : ∀ message, inside (.nack message)) :
    (service.anchorNextQueuedBatch formats fuel).Confined inside := by
  refine confined_bind (throwIfAborted_confined works _) fun _ => ?_
  split
  · trivial
  refine confined_bind (confined_call WorldOp.receiveMessage receives) fun batchMessage => ?_
  cases batchMessage with
  | none => trivial
  | some message =>
      exact service.anchorBatch_confined formats fuel message works selects (acks message) (nacks message)

end Queue

end AnchorService

end CeramicAnchor
