import CeramicAnchor.Construction.SqsQueueService
import CeramicAnchor.Proof.QueuedBatch
import CeramicAnchor.Proof.WorkerOperations

/-
This file proves that the queue services carry out what a worker asks of its queues.
-/

namespace CeramicAnchor
open Concurrency Storage Prog

/-- These operations use no queue of batches. -/
def WorldOp.Unqueued : WorldOp → Prop
  | .receiveMessage => False
  | .ack _ => False
  | .nack _ => False
  | _ => True

theorem WorldOp.Works.unqueued {op : WorldOp} (works : op.Works) : op.Unqueued := by
  cases op <;> trivial

theorem WorldOp.Posts.unqueued {op : WorldOp} (posts : op.Posts) : op.Unqueued := by
  cases op <;> trivial

/-- A task is the work on one queued batch, or it uses no queue of batches. -/
theorem AnchorService.task_unqueued (formats : Formats) (task : Task) :
    (∃ service fuel, task = .anchorRequests service fuel ∧ service.useQueueBatches = true) ∨
      (task.run formats).Confined WorldOp.Unqueued := by
  rcases task_cases formats task with ⟨service, req, validation, rfl⟩ | queued | works
  · have posts := RequestController.createRequest_posts service req validation
    exact .inr (confined_bind (confined_mono posts fun _ => WorldOp.Posts.unqueued) fun _ => trivial)
  · exact .inl queued
  · exact .inr (confined_mono works fun _ => WorldOp.Works.unqueued)

section Workers

variable {formats : Formats} {thread : Nat}

/-- A worker that has heard a batch does not ask for another one. -/
def HearsOnce : Guarantee WorldOp WorldOp.Reply Failure (World × List Happening) := fun op before _ _ =>
  op = .receiveMessage → ∀ batch, ¬ Occurred before.2 .receiveMessage (.ok (some batch))

theorem WorldOp.Unqueued.unheard {op : WorldOp} (unqueued : op.Unqueued) : op ≠ .receiveMessage := by
  rintro rfl
  exact unqueued

theorem unheard_sat {A : Type} {program : Code A} (confined : program.Confined (· ≠ .receiveMessage))
    (start : World × List Happening) :
    Sat (worker formats thread).recorded HearsOnce (fun _ _ => True) (fun _ _ => True) program start :=
  sat_confined confined fun _ unheard _ _ _ _ same => absurd same unheard

theorem anchorNextQueuedBatch_once (service : AnchorService) (fuel : Nat) (world : World) :
    Sat (worker formats thread).recorded HearsOnce (fun _ _ => True) (fun _ _ => True)
      (service.anchorNextQueuedBatch formats fuel) (world, []) := by
  have unheard : ∀ {A : Type} {program : Code A}, program.Confined WorldOp.Works →
      program.Confined (· ≠ .receiveMessage) := fun confined =>
    confined_mono confined fun _ works => works.unqueued.unheard
  have asks : ∀ text, (AnchorService.throwIfAborted text).Confined WorldOp.Works := fun text =>
    AnchorService.quiet_works (AnchorService.throwIfAborted_quiet text)
  refine sat_bind (fun _ reached => ∀ batch, ¬ Occurred reached.2 .receiveMessage (.ok (some batch))) ?_ ?_
  · have kept := @sat_keeps _ _ _ _ _ (worker formats thread).recorded HearsOnce (world, [])
      (· ≠ .receiveMessage)
      (fun reached => ∀ batch, ¬ Occurred reached.2 .receiveMessage (.ok (some batch)))
      _ (unheard (asks "User aborted before the next batch has been retrieved")) (fun others held batch => by
        rw [others.2]
        exact held batch) (fun op other before reply after performed held => by
        refine ⟨fun same => absurd same other, fun batch heard => ?_⟩
        rw [performed.2, occurred_other other] at heard
        exact held batch heard) (by
        rintro batch ⟨before, after, member⟩
        cases member)
    exact sat_results kept (fun _ _ held => held) fun _ _ _ => trivial
  intro _ reached silent
  split
  · trivial
  refine sat_bind (fun _ _ => True) (sat_call WorldOp.receiveMessage ?_ ?_) fun batchMessage received _ => ?_
  · rintro before ⟨_, same⟩ value after _
    refine ⟨fun _ batch => ?_, trivial⟩
    rw [same]
    exact silent batch
  · rintro before ⟨_, same⟩ error after _
    refine ⟨fun _ batch => ?_, trivial⟩
    rw [same]
    exact silent batch
  split
  · trivial
  · rename_i message
    exact unheard_sat (service.anchorBatch_confined formats fuel message
      (fun _ works => works.unqueued.unheard) (by simp) (by simp) (by simp)) received

/-- What a worker guarantees for its batch. -/
def WorksBatch : Guarantee WorldOp WorldOp.Reply Failure (World × List Happening) :=
  fun op before reply after => AcksDone op before reply after ∧ HearsOnce op before reply after

theorem task_works (task : Task) (world : World) :
    Sat (worker formats thread).recorded WorksBatch (fun _ _ => True) (fun _ _ => True) (task.run formats)
      (world, []) := by
  rcases AnchorService.task_unqueued formats task with ⟨service, fuel, rfl, queued⟩ | unqueued
  · have body := sat_and (@anchorNextQueuedBatch_recorded formats thread service fuel world)
        (anchorNextQueuedBatch_once service fuel world)
    refine sat_bind (fun _ _ => True) ?_ fun _ _ _ => trivial
    unfold AnchorService.anchorRequests
    rw [if_pos queued]
    exact sat_results body (fun _ _ _ => trivial) fun _ _ _ => trivial
  · refine sat_confined unqueued fun op inside before reply after _ =>
      ⟨fun message same => ?_, fun same => ?_⟩
    · rw [same] at inside
      exact inside.elim
    · exact absurd same inside.unheard

end Workers

section Batches

variable {formats : Formats} {config : QueueConfig} {thread : Nat} {queues next : Queues}

/-- The sent message decodes to this batch, by itself or through the bucket. -/
def Queues.Delivers (config : QueueConfig) (queues : Queues) (messageId : Nat) (batch : AnchorBatchQMessage) :
    Prop :=
  ∃ message data, queues.sent messageId = some message ∧ config.decodeBatch message.body = some data ∧
    ((data.rids ≠ [] ∧ batch = data) ∨
      (data.rids = [] ∧ ∃ batchJson, queues.bucket data.bid = some batchJson ∧
      config.decodeBatch batchJson = some batch))

/-- Each request of the batch was found replaced, or it is anchored. -/
def Queues.Settled (queues : Queues) (batch : AnchorBatchQMessage) : Prop :=
  ∀ rid ∈ batch.rids, (∃ row ∈ queues.world.requests.rows, row.id = rid) ∧
    ((∃ request ∈ queues.loaded, request.id = rid ∧ request.status = .REPLACED) ∨
      ∃ anchor ∈ queues.world.anchors.rows, anchor.requestId = rid)

/-- The queues still know what they have told a thread. -/
structure Queues.Remembers (thread : Nat) (queues next : Queues) : Prop where
  objects : next.objects thread = queues.objects thread
  sent : ∀ messageId message, queues.sent messageId = some message → next.sent messageId = some message
  bucket : ∀ bid batchJson, queues.bucket bid = some batchJson → next.bucket bid = some batchJson
  loaded : queues.loaded ⊆ next.loaded

theorem Queues.Remembers.refl (queues : Queues) : queues.Remembers thread queues :=
  ⟨rfl, fun _ _ sent => sent, fun _ _ stored => stored, List.Subset.refl _⟩

theorem Queues.Remembers.trans {third : Queues} (head : queues.Remembers thread next)
    (tail : next.Remembers thread third) : queues.Remembers thread third where
  objects := tail.objects.trans head.objects
  sent messageId message sent := tail.sent messageId message (head.sent messageId message sent)
  bucket bid batchJson stored := tail.bucket bid batchJson (head.bucket bid batchJson stored)
  loaded := List.Subset.trans head.loaded tail.loaded

/-- What the others may do to the queues while a thread waits. -/
structure Queues.KeepsAway (formats : Formats) (thread : Nat) (queues next : Queues) : Prop where
  world : World.Others formats thread queues.world next.world
  remembers : queues.Remembers thread next

theorem Queues.KeepsAway.refl (queues : Queues) : queues.KeepsAway formats thread queues :=
  ⟨.refl, .refl queues⟩

theorem Queues.KeepsAway.trans {third : Queues} (head : queues.KeepsAway formats thread next)
    (tail : next.KeepsAway formats thread third) : queues.KeepsAway formats thread third :=
  ⟨Relation.ReflTransGen.trans head.world tail.world, head.remembers.trans tail.remembers⟩

theorem Queues.Delivers.mono {messageId : Nat} {batch : AnchorBatchQMessage}
    (delivers : queues.Delivers config messageId batch) (remembers : queues.Remembers thread next) :
    next.Delivers config messageId batch := by
  obtain ⟨message, data, sent, decoded, content⟩ := delivers
  refine ⟨message, data, remembers.sent messageId message sent, decoded, ?_⟩
  rcases content with whole | ⟨empty, batchJson, stored, read⟩
  · exact .inl whole
  · exact .inr ⟨empty, batchJson, remembers.bucket data.bid batchJson stored, read⟩

theorem Queues.Settled.mono {batch : AnchorBatchQMessage} (settled : queues.Settled batch)
    (world : queues.world.Extends next.world) (loaded : queues.loaded ⊆ next.loaded) :
    next.Settled batch := by
  intro rid member
  obtain ⟨⟨row, inTable, sameId⟩, outcome⟩ := settled rid member
  obtain ⟨later, stillInTable, same⟩ := world.requests row inTable
  refine ⟨⟨later, stillInTable, same.id.trans sameId⟩, ?_⟩
  rcases outcome with ⟨request, held, replaced⟩ | ⟨anchor, inside, ofRequest⟩
  · exact .inl ⟨request, loaded held, replaced⟩
  · exact .inr ⟨anchor, world.anchors anchor inside, ofRequest⟩

/-- A thread deletes only the messages of settled batches, and it hides a message no longer than
configured. -/
def Handles (config : QueueConfig) : Guarantee QueueOp QueueOp.Reply Failure Queues := fun op before _ _ =>
  match op with
  | .receiveMessageCommand visibilityTimeout => visibilityTimeout = config.maxTimeToHold
  | .changeMessageVisibilityCommand _ visibilityTimeout => visibilityTimeout = 0
  | .deleteMessageCommand receiptHandle => ∃ batch, before.Delivers config receiptHandle.messageId batch ∧
      before.Settled batch
  | _ => True

theorem Queues.hide_keepsAway (messageId visibilityTimeout : Nat) :
    queues.KeepsAway formats thread (queues.hide messageId visibilityTimeout) :=
  ⟨.refl, rfl, fun _ _ sent => sent, fun _ _ stored => stored, List.Subset.refl _⟩

theorem Queues.remove_keepsAway (messageId : Nat) :
    queues.KeepsAway formats thread (queues.remove messageId) :=
  ⟨.refl, rfl, fun _ _ sent => sent, fun _ _ stored => stored, List.Subset.refl _⟩

/-- A request for a message hides one message, or it hides nothing. -/
theorem receiveMessageCommand_cases {visibilityTimeout : Nat} {reply : Except Failure (Option Delivery)}
    (performed : (QueueOp.receiveMessageCommand visibilityTimeout).perform formats thread queues reply next) :
    next = queues ∨ ∃ messageId, next = queues.hide messageId visibilityTimeout := by
  cases reply with
  | ok found =>
      cases found with
      | none => exact .inl performed
      | some delivery =>
          obtain ⟨_, _, _, same⟩ := performed
          exact .inr ⟨_, same⟩
  | error error => exact performed

/-- An operation of one thread keeps what the others have been told. -/
theorem QueueOp.perform_keepsAway {other : Nat} (different : thread ≠ other) {op : QueueOp}
    {reply : Except Failure op.Reply} (performed : op.perform formats other queues reply next) :
    queues.KeepsAway formats thread next := by
  cases op with
  | world op =>
      obtain ⟨world, moved, rfl⟩ := performed
      exact ⟨.single (.inl ⟨other, op, reply, different.symm, moved⟩), rfl, fun _ _ sent => sent,
        fun _ _ stored => stored, List.subset_append_right _ _⟩
  | receiveMessageCommand visibilityTimeout =>
      rcases receiveMessageCommand_cases performed with rfl | ⟨messageId, rfl⟩
      · exact .refl _
      · exact Queues.hide_keepsAway _ _
  | deleteMessageCommand receiptHandle =>
      rcases performed.2 with rfl | rfl
      · exact .refl _
      · exact Queues.remove_keepsAway _
  | changeMessageVisibilityCommand receiptHandle visibilityTimeout =>
      rcases performed.2 with rfl | rfl
      · exact .refl _
      · exact Queues.hide_keepsAway _ _
  | sendMessageCommand messageBody data =>
      rcases performed with ⟨_, rfl⟩ | ⟨_, rfl⟩
      · exact .refl _
      · exact ⟨.single (.inl ⟨other, .sendMessage data, .ok (), different.symm, rfl⟩), rfl,
          fun _ _ sent => sent, fun _ _ stored => stored, List.Subset.refl _⟩
  | getBatch bid =>
      obtain ⟨rfl, _⟩ := performed
      exact .refl _
  | hold receiptHandle =>
      obtain ⟨_, rfl⟩ := performed
      exact ⟨.refl, Function.update_of_ne different _ _, fun _ _ sent => sent, fun _ _ stored => stored,
        List.Subset.refl _⟩
  | held =>
      obtain ⟨_, rfl⟩ := performed
      exact .refl _

theorem Queues.Drifts.keepsAway (drifted : queues.Drifts config next) :
    queues.KeepsAway formats thread next := by
  cases drifted with
  | time passed =>
      exact ⟨.single (.inr passed), rfl, fun _ _ sent => sent, fun _ _ stored => stored, List.Subset.refl _⟩
  | @send messageId body fresh =>
      refine ⟨.refl, rfl, fun other message sent => ?_, fun _ _ stored => stored, List.Subset.refl _⟩
      have different : other ≠ messageId := by
        rintro rfl
        rw [fresh] at sent
        cases sent
      exact (Function.update_of_ne different _ _).trans sent
  | @store bid batchJson fresh =>
      refine ⟨.refl, rfl, fun _ _ sent => sent, fun other found stored => ?_, List.Subset.refl _⟩
      have different : other ≠ bid := by
        rintro rfl
        rw [fresh] at stored
        cases stored
      exact (Function.update_of_ne different _ _).trans stored
  | expire sent old => exact Queues.remove_keepsAway _

/-- Each thread of the queues handles only its own messages. -/
def handling (formats : Formats) (config : QueueConfig) (deployed : Task → Prop) :
    Discipline (queueSystem formats config deployed) where
  rely thread := Queues.KeepsAway formats thread
  rely_refl _ queues := .refl queues
  rely_trans := Queues.KeepsAway.trans
  guarantee _ := Handles config
  dormant _ _ := True
  post _ _ _ := True
  dormant_stable _ _ := trivial
  post_stable _ _ := trivial
  sound different performed _ := QueueOp.perform_keepsAway different performed
  drifts drifted := drifted.keepsAway

/-- The queues of a worker tell what its history has heard and loaded. -/
structure Joined (config : QueueConfig) (thread : Nat) (queues : Queues) (reached : World × List Happening) :
    Prop where
  world : queues.world = reached.1
  heard : ∀ batch, Occurred reached.2 .receiveMessage (.ok (some batch)) →
    ∃ receiptHandle, queues.objects thread = some receiptHandle ∧
      queues.Delivers config receiptHandle.messageId batch
  loaded : ∀ ids rows, Occurred reached.2 (.selectByIds ids) (.ok rows) → rows ⊆ queues.loaded

theorem Joined.remembers {reached : World × List Happening} (joined : Joined config thread queues reached)
    (remembers : queues.Remembers thread next) : Joined config thread next (next.world, reached.2) where
  world := rfl
  heard batch occurred := by
    obtain ⟨receiptHandle, holds, delivers⟩ := joined.heard batch occurred
    exact ⟨receiptHandle, remembers.objects.trans holds, delivers.mono remembers⟩
  loaded ids rows occurred := List.Subset.trans (joined.loaded ids rows occurred) remembers.loaded

/-- An event that is told to the history must be known to the queues. -/
theorem Joined.tell {reached : World × List Happening} (joined : Joined config thread queues reached)
    {event : Happening} (world : queues.world = event.after)
    (heard : ∀ batch before after, event = ⟨.receiveMessage, before, .ok (some batch), after⟩ →
      ∃ receiptHandle, queues.objects thread = some receiptHandle ∧
        queues.Delivers config receiptHandle.messageId batch)
    (loaded : ∀ ids rows before after, event = ⟨.selectByIds ids, before, .ok rows, after⟩ →
      rows ⊆ queues.loaded) :
    Joined config thread queues (event.after, reached.2 ++ [event]) where
  world := world
  heard batch occurred := by
    rcases occurred_concat.mp occurred with old | ⟨before, after, same⟩
    · exact joined.heard batch old
    · exact heard batch before after same
  loaded ids rows occurred := by
    rcases occurred_concat.mp occurred with old | ⟨before, after, same⟩
    · exact joined.loaded ids rows old
    · exact loaded ids rows before after same

/-- A worker has not yet told its history what it is doing, and the others may have moved the world. -/
structure Waits (formats : Formats) (config : QueueConfig) (thread : Nat) (reached : World × List Happening)
    (queues : Queues) : Prop where
  joined : Joined config thread queues (queues.world, reached.2)
  others : World.Others formats thread reached.1 queues.world

theorem Joined.waits {reached : World × List Happening} (joined : Joined config thread queues reached) :
    Waits formats config thread reached queues := by
  obtain ⟨world, heard, loaded⟩ := joined
  refine ⟨⟨rfl, heard, loaded⟩, ?_⟩
  rw [world]
  exact .refl

theorem Waits.keepsAway {reached : World × List Happening}
    (waits : Waits formats config thread reached queues)
    (kept : queues.KeepsAway formats thread next) : Waits formats config thread reached next :=
  ⟨waits.joined.remembers kept.remembers, Relation.ReflTransGen.trans waits.others kept.world⟩

/-- The history of a worker is told one operation, and the queues know what it tells. -/
abbrev Tells (formats : Formats) (config : QueueConfig) (thread : Nat) (op : WorldOp)
    (reached : World × List Happening) (reply : Except Failure op.Reply) (last : Queues) : Prop :=
  Carries (worker formats thread).recorded (Joined config thread) op reached reply last

/-- A waiting worker tells its history what it has done without moving the world. -/
theorem Waits.carries {reached : World × List Happening} (waits : Waits formats config thread reached queues)
    {op : WorldOp} {reply : Except Failure op.Reply}
    (performed : op.perform formats thread queues.world reply queues.world)
    (heard : ∀ batch before after,
      (⟨op, queues.world, reply, queues.world⟩ : Happening) =
        ⟨.receiveMessage, before, .ok (some batch), after⟩ →
      ∃ receiptHandle, queues.objects thread = some receiptHandle ∧
        queues.Delivers config receiptHandle.messageId batch)
    (unloaded : ∀ ids, op ≠ .selectByIds ids) :
    Tells formats config thread op reached reply queues := by
  refine ⟨(queues.world, reached.2),
    (queues.world, reached.2 ++ [⟨op, queues.world, reply, queues.world⟩]), _,
    ⟨waits.others, rfl⟩, ⟨performed, rfl⟩, (worker formats thread).recorded.rely_refl _, ?_⟩
  refine waits.joined.tell rfl heard fun ids rows before after same => ?_
  exact absurd (congrArg Event.op same) (unloaded ids)

variable {deployed : Task → Prop}

/-- The queue services carry out this operation of a worker. -/
abbrev Serves (formats : Formats) (config : QueueConfig) (deployed : Task → Prop) (thread : Nat)
    (op : WorldOp)
    (body : QueueCode op.Reply) : Prop :=
  ImplementsUnder (worker formats thread).recorded WorksBatch
    ((handling formats config deployed).setting thread)
    (Handles config) (Joined config thread) op body

/-- An operation of the world is the same operation in the history. -/
theorem worldOps_implement {op : WorldOp} (unheard : op ≠ .receiveMessage) :
    Serves formats config deployed thread op (Prog.call (QueueOp.world op)) := by
  intro queues reached joined _
  have tells : ∀ {before after : Queues} {reply : Except Failure op.Reply},
      queues.KeepsAway formats thread before → (QueueOp.world op).perform formats thread before reply after →
      Tells formats config thread op reached reply after := by
    intro before after reply others performed
    obtain ⟨world, moved, rfl⟩ := performed
    have waits : Waits formats config thread reached before := joined.waits.keepsAway others
    let event : Happening := ⟨op, before.world, reply, world⟩
    let after : Queues := { before with world := world, loaded := Queues.load op reply ++ before.loaded }
    have remembers : before.Remembers thread after :=
      ⟨rfl, fun _ _ sent => sent, fun _ _ stored => stored, List.subset_append_right _ _⟩
    have reaches : after.world = event.after := rfl
    refine ⟨(before.world, reached.2), (world, reached.2 ++ [event]), _, ⟨waits.others, rfl⟩, ⟨moved, rfl⟩,
      (worker formats thread).recorded.rely_refl _, ?_⟩
    refine (waits.joined.remembers remembers).tell reaches (fun batch _ _ same => ?_)
      fun ids rows _ _ same => ?_
    · exact absurd (congrArg Event.op same) unheard
    · change (⟨op, before.world, reply, world⟩ : Happening) = _ at same
      cases same
      exact List.subset_append_left _ _
  refine @sat_call_reply QueueOp QueueOp.Reply _ _ _ _ _ (QueueOp.world op)
    (fun reply last => Tells formats config thread op reached reply last) ?_
  exact fun before others reply after performed => ⟨trivial, tells others performed⟩

/-- An operation that leaves the world as it is may reply so, or it may reject. -/
theorem still_performs {op : WorldOp} {world : World} {reply : Except Failure op.Reply}
    (resolves : ∀ value, op.Resolves formats thread world value world)
    (rejects : ∀ error, reply = .error error → ∃ message, error = .rejected message) :
    op.perform formats thread world reply world := by
  cases reply with
  | ok value => exact resolves value
  | error error =>
      obtain ⟨message, rfl⟩ := rejects error rfl
      exact .inl rfl

/-- The message object of a waiting worker tells its receipt handle. -/
theorem receiptHandle_sat {reached : World × List Happening}
    (waits : Waits formats config thread reached queues) {raise : Failure → Queues → Prop} :
    Sat ((handling formats config deployed).setting thread) (Handles config)
      (fun receiptHandle asked => Waits formats config thread reached asked ∧
        asked.objects thread = some receiptHandle) raise SqsQueueMessage.receiptHandle queues := by
  refine sat_bind (fun receiptHandle asked => Waits formats config thread reached asked ∧
    asked.objects thread = receiptHandle) (sat_call QueueOp.held ?_ ?_) ?_
  · rintro before others receiptHandle after ⟨reply, rfl⟩
    exact ⟨trivial, waits.keepsAway others, (Except.ok.inj reply).symm⟩
  · rintro before others error after ⟨reply, _⟩
    cases reply
  · rintro (_ | receiptHandle) asked ⟨waits, holds⟩
    · trivial
    · exact ⟨waits, holds⟩

/-- A done message of the history is a settled batch of the queues. -/
theorem Joined.settled {world : World} {history : List Happening} {message : AnchorBatchQMessage}
    (joined : Joined config thread queues (world, history)) (done : Done message (world, history))
    {receiptHandle : ReceiptHandle} (holds : queues.objects thread = some receiptHandle) :
    queues.Delivers config receiptHandle.messageId message ∧ queues.Settled message := by
  obtain ⟨rows, heard, selected, settled⟩ := done
  obtain ⟨other, same, delivers⟩ := joined.heard message heard
  obtain rfl := Option.some.inj (same.symm.trans holds)
  refine ⟨delivers, fun rid member => ?_⟩
  obtain ⟨stored, request, inRows, sameId, outcome⟩ := settled rid member
  rw [joined.world]
  refine ⟨stored, ?_⟩
  rcases outcome with replaced | anchored
  · exact .inl ⟨request, joined.loaded _ rows selected inRows, sameId, replaced⟩
  · exact .inr anchored

/-- The message of a done batch is deleted. -/
theorem ack_implements (message : AnchorBatchQMessage) :
    Serves formats config deployed thread (.ack message) SqsQueueMessage.ack := by
  intro queues reached joined allowed
  refine sat_bind _ (receiptHandle_sat joined.waits) ?_
  rintro receiptHandle asked ⟨waits, holds⟩
  refine @sat_call_reply QueueOp QueueOp.Reply _ _ _ _ _ (QueueOp.deleteMessageCommand receiptHandle)
    (fun reply last => Tells formats config thread (.ack message) reached reply last) ?_
  rintro before others reply after ⟨rejects, deleted⟩
  have still := waits.keepsAway others
  constructor
  · let event : Happening := ⟨.ack message, before.world, .ok (), before.world⟩
    have works := allowed (before.world, reached.2) ⟨still.others, rfl⟩ (.ok ())
      (before.world, reached.2 ++ [event]) ⟨rfl, rfl⟩
    have settled := still.joined.settled (works.1 message rfl) (others.remembers.objects.trans holds)
    exact ⟨message, settled⟩
  · have ended : Waits formats config thread reached after := by
      rcases deleted with rfl | rfl
      · exact still
      · exact still.keepsAway (Queues.remove_keepsAway _)
    refine ended.carries (still_performs (fun _ => rfl) rejects) ?_ (by simp)
    intro batch _ _ same
    cases congrArg Event.op same

/-- The message of a failed batch is put back. -/
theorem nack_implements (message : AnchorBatchQMessage) :
    Serves formats config deployed thread (.nack message) SqsQueueMessage.nack := by
  intro queues reached joined _
  refine sat_bind _ (receiptHandle_sat joined.waits) ?_
  rintro receiptHandle asked ⟨waits, _⟩
  refine @sat_call_reply QueueOp QueueOp.Reply _ _ _ _ _
    (QueueOp.changeMessageVisibilityCommand receiptHandle 0)
    (fun reply last => Tells formats config thread (.nack message) reached reply last) ?_
  rintro before others reply after ⟨rejects, returned⟩
  have ended : Waits formats config thread reached after := by
    rcases returned with rfl | rfl
    · exact waits.keepsAway others
    · exact (waits.keepsAway others).keepsAway (Queues.hide_keepsAway _ _)
  refine ⟨rfl, ended.carries (still_performs (fun _ => rfl) rejects) ?_ (by simp)⟩
  intro batch _ _ same
  cases congrArg Event.op same


/-- An attempt to send was taken, or its signature has expired and the others may go on. -/
theorem sendMessageCommand_carries {reached : World × List Happening} {messageBody : List Char}
    {data : RequestQMessage}
    (waits : Waits formats config thread reached queues) {reply : Except Failure Unit}
    (performed : (QueueOp.sendMessageCommand messageBody data).perform formats thread queues reply next) :
    (∀ value, reply = .ok value →
      Tells formats config thread (.sendMessage data) reached reply next) ∧
    (∀ error, reply = .error error →
      (Includes error.message "Signature expired" → Waits formats config thread reached next) ∧
      ∀ text, Tells formats config thread (.sendMessage data) reached (.error (.rejected text)) next) := by
  have silent : ∀ {event : Happening}, event.op = .sendMessage data → ∀ batch before after,
      event = ⟨.receiveMessage, before, .ok (some batch), after⟩ →
      ∃ receiptHandle, next.objects thread = some receiptHandle ∧
        next.Delivers config receiptHandle.messageId batch := by
    rintro event sends batch before after rfl
    cases sends
  have unloaded : ∀ {event : Happening}, event.op = .sendMessage data → ∀ ids rows before after,
      event = ⟨.selectByIds ids, before, .ok rows, after⟩ → rows ⊆ next.loaded := by
    rintro event sends ids rows before after rfl
    cases sends
  have taken : ∀ answer, (WorldOp.sendMessage data).perform formats thread queues.world answer next.world →
      queues.Remembers thread next →
      Tells formats config thread (.sendMessage data) reached answer next := by
    intro answer performed remembers
    let event : Happening := ⟨.sendMessage data, queues.world, answer, next.world⟩
    have reaches : next.world = event.after := rfl
    exact ⟨(queues.world, reached.2), (next.world, reached.2 ++ [event]), _, ⟨waits.others, rfl⟩,
      ⟨performed, rfl⟩, (worker formats thread).recorded.rely_refl _,
      (waits.joined.remembers remembers).tell reaches (silent rfl) (unloaded rfl)⟩
  rcases performed with ⟨⟨error, rfl⟩, rfl⟩ | ⟨kept, rfl⟩
  · exact ⟨fun _ same => (by cases same), fun _ _ => ⟨fun _ => waits,
      fun text => taken (.error (.rejected text)) (.inl rfl) (.refl _)⟩⟩
  · have remembers : queues.Remembers thread
        { queues with world := { queues.world with published := queues.world.published ++ [data] } } :=
      ⟨rfl, fun _ _ sent => sent, fun _ _ stored => stored, List.Subset.refl _⟩
    constructor
    · rintro value rfl
      exact taken (.ok value) rfl remembers
    · rintro error rfl
      exact ⟨fun expired => absurd expired (kept error rfl),
        fun text => taken (.error (.rejected text)) (.inr ⟨(), rfl⟩) remembers⟩

/-- A request is sent at most once, because a message with an expired signature was not taken. -/
theorem sendMessage_implements (data : RequestQMessage) (sqsQueueUrl : String) (attempts : Nat) :
    Serves formats config deployed thread (.sendMessage data)
      (SqsQueueService.sendMessage config sqsQueueUrl data attempts) := by
  intro queues reached joined _
  have waits : Waits formats config thread reached queues := joined.waits
  clear joined
  have attempt : ∀ {queues : Queues}, Waits formats config thread reached queues →
      Sat ((handling formats config deployed).setting thread) (Handles config)
        (fun value last => Tells formats config thread (.sendMessage data) reached (.ok value) last)
        (fun error last =>
          (Includes error.message "Signature expired" → Waits formats config thread reached last) ∧
          ∀ text, Tells formats config thread (.sendMessage data) reached (.error (.rejected text)) last)
        (SqsQueueService.sendMessageCommand config data) queues := by
    intro queues waits
    refine sat_call (QueueOp.sendMessageCommand _ data) ?_ ?_
    · intro before others value after performed
      exact ⟨trivial, (sendMessageCommand_carries (waits.keepsAway others) performed).1 value rfl⟩
    · intro before others error after performed
      exact ⟨trivial, (sendMessageCommand_carries (waits.keepsAway others) performed).2 error rfl⟩
  induction attempts generalizing queues with
  | zero => exact sat_handle _ (attempt waits) fun error last tried => tried.2 _
  | succ attempts ih =>
      refine sat_handle _ (attempt waits) fun error last tried => ?_
      split
      · rename_i expired
        exact ih last (tried.1 expired)
      · exact tried.2 _

/-- The message object of a thread holds this data. -/
def Queues.Fetched (config : QueueConfig) (thread : Nat) (queues : Queues)
    (data : AnchorBatchQMessage) : Prop :=
  ∃ receiptHandle message, queues.objects thread = some receiptHandle ∧
    queues.sent receiptHandle.messageId = some message ∧ config.decodeBatch message.body = some data

theorem Queues.Fetched.remembers {data : AnchorBatchQMessage} (fetched : queues.Fetched config thread data)
    (remembers : queues.Remembers thread next) : next.Fetched config thread data := by
  obtain ⟨receiptHandle, message, holds, sent, decoded⟩ := fetched
  exact ⟨receiptHandle, message, remembers.objects.trans holds, remembers.sent _ message sent, decoded⟩

/-- A worker that has not heard a batch may hold another message. -/
theorem Waits.holds {reached : World × List Happening} (waits : Waits formats config thread reached queues)
    (silent : ∀ batch, ¬ Occurred reached.2 .receiveMessage (.ok (some batch)))
    (receiptHandle : ReceiptHandle) : Waits formats config thread reached
      { queues with objects := Function.update queues.objects thread (some receiptHandle) } :=
  ⟨⟨rfl, fun batch heard => absurd heard (silent batch), waits.joined.loaded⟩, waits.others⟩

/-- A body that decodes is held. -/
theorem decodeMessage_sat {reached : World × List Happening}
    (waits : Waits formats config thread reached queues)
    (silent : ∀ batch, ¬ Occurred reached.2 .receiveMessage (.ok (some batch))) (sqsQueueUrl : String)
    {delivery : Delivery} {message : SentMessage}
    (sent : queues.sent delivery.receiptHandle.messageId = some message)
    (body : delivery.body = message.body) :
    Sat ((handling formats config deployed).setting thread) (Handles config)
      (fun data last => Waits formats config thread reached last ∧ last.Fetched config thread data)
      (fun error last => Waits formats config thread reached last ∧ ∃ text, error = .rejected text)
      (SqsQueueService.decodeMessage config sqsQueueUrl delivery) queues := by
  unfold SqsQueueService.decodeMessage
  split
  · exact ⟨waits, _, rfl⟩
  · cases decoded : config.decodeBatch delivery.body with
    | none => exact ⟨waits, _, rfl⟩
    | some data =>
        refine sat_bind
          (fun _ last => Waits formats config thread reached last ∧ last.Fetched config thread data)
          (sat_call (QueueOp.hold delivery.receiptHandle) ?_ ?_) fun _ _ fetched => fetched
        · rintro before others value after ⟨_, rfl⟩
          refine ⟨trivial, (waits.keepsAway others).holds silent _, delivery.receiptHandle, message,
            Function.update_self _ _ _, others.remembers.sent _ message sent, ?_⟩
          rw [← body]
          exact decoded
        · rintro before others error after ⟨reply, _⟩
          cases reply

/-- The queue delivers a message that was sent. -/
theorem SqsQueueService.receiveMessage_sat {reached : World × List Happening}
    (waits : Waits formats config thread reached queues)
    (silent : ∀ batch, ¬ Occurred reached.2 .receiveMessage (.ok (some batch))) (sqsQueueUrl : String) :
    Sat ((handling formats config deployed).setting thread) (Handles config)
      (fun found last => Waits formats config thread reached last ∧
        ∀ data, found = some data → last.Fetched config thread data)
      (fun error last => Waits formats config thread reached last ∧ ∃ text, error = .rejected text)
      (SqsQueueService.receiveMessage config sqsQueueUrl) queues := by
  refine sat_bind (fun messages last => Waits formats config thread reached last ∧
    ∀ delivery, messages = some delivery → ∃ message,
      last.sent delivery.receiptHandle.messageId = some message ∧ delivery.body = message.body)
    (sat_handle (fun _ => Waits formats config thread reached)
      (sat_call (QueueOp.receiveMessageCommand config.maxTimeToHold) ?_ ?_) ?_) ?_
  · intro before others messages after performed
    refine ⟨rfl, ?_⟩
    cases messages with
    | none =>
        obtain rfl : after = before := performed
        exact ⟨waits.keepsAway others, fun _ missing => by cases missing⟩
    | some delivery =>
        obtain ⟨message, sent, body, rfl⟩ := performed
        refine ⟨(waits.keepsAway others).keepsAway (Queues.hide_keepsAway _ _), fun other same => ?_⟩
        obtain rfl := Option.some.inj same
        exact ⟨message, sent, body⟩
  · intro before others error after performed
    refine ⟨rfl, ?_⟩
    rcases performed with rfl | ⟨messageId, rfl⟩
    · exact waits.keepsAway others
    · exact (waits.keepsAway others).keepsAway (Queues.hide_keepsAway _ _)
  · exact fun error last still => ⟨still, _, rfl⟩
  · rintro (_ | delivery) last ⟨still, delivered⟩
    · exact ⟨still, fun _ missing => by cases missing⟩
    · obtain ⟨message, sent, body⟩ := delivered delivery rfl
      refine sat_bind _ (decodeMessage_sat still silent sqsQueueUrl sent body) ?_
      rintro data held ⟨waiting, fetched⟩
      refine ⟨waiting, fun other same => ?_⟩
      obtain rfl := Option.some.inj same
      exact fetched

/-- A batch without ids is the stored one. -/
theorem retrieveBatch_sat {reached : World × List Happening} {data : AnchorBatchQMessage}
    (waits : Waits formats config thread reached queues) (fetched : queues.Fetched config thread data)
    (empty : data.rids = []) :
    Sat ((handling formats config deployed).setting thread) (Handles config)
      (fun batch last => Waits formats config thread reached last ∧ ∃ receiptHandle,
        last.objects thread = some receiptHandle ∧ last.Delivers config receiptHandle.messageId batch)
      (fun error last => Waits formats config thread reached last ∧ ∃ text, error = .rejected text)
      (AnchorBatchSqsQueueService.retrieveBatch config data) queues := by
  refine sat_handle (fun _ => Waits formats config thread reached) (sat_bind (fun batchJson last =>
    Waits formats config thread reached last ∧ last.Fetched config thread data ∧
      last.bucket data.bid = some batchJson) (sat_call (QueueOp.getBatch data.bid) ?_ ?_) ?_) ?_
  · rintro before others batchJson after ⟨rfl, stored⟩
    exact ⟨trivial, waits.keepsAway others, fetched.remembers others.remembers, stored batchJson rfl⟩
  · rintro before others error after ⟨rfl, _⟩
    exact ⟨trivial, waits.keepsAway others⟩
  · rintro batchJson last ⟨still, ⟨receiptHandle, message, holds, sent, decoded⟩, stored⟩
    cases read : config.decodeBatch batchJson with
    | none => exact still
    | some batch =>
        exact ⟨still, receiptHandle, holds, message, data, sent, decoded,
          .inr ⟨empty, batchJson, stored, read⟩⟩
  · exact fun error last still => ⟨still, _, rfl⟩

/-- A received batch comes from a message of the queue, by itself or through the bucket. -/
theorem receiveMessage_implements :
    Serves formats config deployed thread .receiveMessage
      (AnchorBatchSqsQueueService.receiveMessage config) := by
  intro queues reached joined allowed
  have waits : Waits formats config thread reached queues := joined.waits
  have silent : ∀ batch, ¬ Occurred reached.2 .receiveMessage (.ok (some batch)) := by
    let event : Happening := ⟨.receiveMessage, reached.1, .ok none, reached.1⟩
    exact (allowed reached ⟨.refl, rfl⟩ (.ok none) (reached.1, reached.2 ++ [event]) ⟨rfl, rfl⟩).2 rfl
  have rejects : ∀ {error : Failure} {last : Queues}, Waits formats config thread reached last →
      (∃ text, error = .rejected text) →
      Tells formats config thread .receiveMessage reached (.error error) last := by
    rintro error last still ⟨text, rfl⟩
    refine still.carries (.inl rfl) (fun batch _ _ same => ?_) (by simp)
    cases same
  have tells : ∀ {found : Option AnchorBatchQMessage} {last : Queues},
      Waits formats config thread reached last → (∀ batch, found = some batch → ∃ receiptHandle,
        last.objects thread = some receiptHandle ∧ last.Delivers config receiptHandle.messageId batch) →
      Tells formats config thread .receiveMessage reached (.ok found) last := by
    intro found last still delivers
    refine still.carries rfl (fun batch _ _ same => ?_) (by simp)
    cases same
    exact delivers batch rfl
  refine sat_bind _ (sat_results (SqsQueueService.receiveMessage_sat waits silent _)
    (fun _ _ held => held) fun error last failed => rejects failed.1 failed.2) ?_
  rintro (_ | data) last ⟨still, fetched⟩
  · exact tells still fun _ missing => by cases missing
  · have whole := fetched data rfl
    dsimp only
    split
    · rename_i empty
      refine sat_bind _ (sat_results (retrieveBatch_sat still whole (List.isEmpty_iff.mp empty))
        (fun _ _ held => held) fun error last failed => rejects failed.1 failed.2) ?_
      rintro batch final ⟨ending, delivers⟩
      refine tells ending fun other same => ?_
      obtain rfl := Option.some.inj same
      exact delivers
    · rename_i filled
      refine tells still fun other same => ?_
      obtain rfl := Option.some.inj same
      obtain ⟨receiptHandle, message, holds, sent, decoded⟩ := whole
      exact ⟨receiptHandle, holds, message, data, sent, decoded,
        .inl ⟨fun empty => filled (List.isEmpty_iff.mpr empty), rfl⟩⟩

/-- Each operation of a worker takes effect once in the queues. -/
theorem services_implement (op : WorldOp) :
    Serves formats config deployed thread op (config.implementation op) := by
  cases op with
  | receiveMessage => exact receiveMessage_implements
  | ack message => exact ack_implements message
  | nack message => exact nack_implements message
  | sendMessage message => exact sendMessage_implements message _ 3
  | _ => exact worldOps_implement (by simp)

theorem handling_safe {program : QueueCode (Option Response)} (queues : Queues)
    (entry : (queueSystem formats config deployed).entry thread program) :
    (handling formats config deployed).Safe thread program queues := by
  obtain ⟨task, _, rfl⟩ := entry
  have joined : Joined config thread queues (queues.world, []) := by
    refine ⟨rfl, ?_, ?_⟩
    · rintro batch ⟨_, _, member⟩
      cases member
    · rintro ids rows ⟨_, _, member⟩
      cases member
  have body := sat_implement_related (@services_implement formats config thread deployed)
    (fun _ _ _ _ _ => trivial) (fun _ _ _ _ _ => trivial) joined (task_works task queues.world)
  exact sat_results body (fun _ _ _ => trivial) fun _ _ _ => trivial

end Batches

end CeramicAnchor
