import CeramicAnchor.Concurrency.Run
import CeramicAnchor.Proof.QueueMessages
import CeramicAnchor.Proof.QueueServices
import CeramicAnchor.Proof.Redelivery

/-
This file proves that the batch queue loses a batch only after the batch is done.
-/

namespace CeramicAnchor
open Concurrency Storage Prog

section Runs

variable {formats : Formats} {config : QueueConfig} {deployed : Task → Prop} {clock : Int} {thread : Nat}
  {queues next : Queues}

/-- No operation moves the clock. -/
theorem World.Moves.clock_eq {world next : World} {op : WorldOp}
    (moves : world.Moves formats thread op next) :
    next.clock = world.clock := by
  cases moves <;> rfl

theorem World.Others.clock_le {world next : World} (others : World.Others formats thread world next) :
    world.clock ≤ next.clock := by
  induction others with
  | refl => exact le_refl _
  | tail _ step ih =>
      refine ih.trans ?_
      rcases step with ⟨other, op, reply, _, performed⟩ | ⟨later, passed, rfl⟩
      · exact (WorldOp.perform_moves performed).clock_eq.ge
      · exact passed

/-- The message will be visible, or it is too old, or its batch is settled. -/
def Queues.Keeps (config : QueueConfig) (queues : Queues) (messageId : Nat) (message : SentMessage) : Prop :=
  (∃ time, queues.visibleAt messageId = some time ∧ time ≤ queues.world.clock + 1000 * config.maxTimeToHold) ∨
    message.sentAt + config.retention ≤ queues.world.clock ∨
    ∃ batch, queues.Delivers config messageId batch ∧ queues.Settled batch

theorem Queues.Keeps.keepsAway {messageId : Nat} {message : SentMessage}
    (keeps : queues.Keeps config messageId message) (kept : queues.KeepsAway formats thread next)
    (same : next.visibleAt messageId = queues.visibleAt messageId) : next.Keeps config messageId message := by
  have passed := World.Others.clock_le kept.world
  rcases keeps with ⟨time, visible, soon⟩ | old | ⟨batch, delivers, settled⟩
  · exact .inl ⟨time, same.trans visible, by omega⟩
  · exact .inr (.inl (by omega))
  · exact .inr (.inr ⟨batch, delivers.mono kept.remembers,
      settled.mono (World.Others.extends kept.world) kept.remembers.loaded⟩)

theorem Queues.Keeps.hide {messageId : Nat} {message : SentMessage}
    (keeps : queues.Keeps config messageId message) (hidden : Nat) {visibilityTimeout : Nat}
    (bounded : visibilityTimeout ≤ config.maxTimeToHold) :
    (queues.hide hidden visibilityTimeout).Keeps config messageId message := by
  rcases keeps with ⟨time, visible, soon⟩ | ended
  · by_cases same : messageId = hidden
    · refine .inl ⟨queues.world.clock + 1000 * visibilityTimeout, ?_, ?_⟩
      · refine (if_pos same).trans ?_
        rw [visible, Option.map_some]
      · change queues.world.clock + 1000 * visibilityTimeout ≤ queues.world.clock + 1000 *
            config.maxTimeToHold
        omega
    · exact .inl ⟨time, (if_neg same).trans visible, soon⟩
  · exact .inr ended

/-- An operation that meets its guarantee keeps each message. -/
theorem Queues.Keeps.performs {messageId : Nat} {message : SentMessage}
    (keeps : queues.Keeps config messageId message) {op : QueueOp} {reply : Except Failure op.Reply}
    (performed : op.perform formats thread queues reply next)
    (handles : Handles config op queues reply next) :
    next.Keeps config messageId message := by
  have kept : queues.KeepsAway formats (thread + 1) next :=
    QueueOp.perform_keepsAway (Nat.succ_ne_self thread) performed
  cases op with
  | world op =>
      obtain ⟨world, _, rfl⟩ := performed
      exact keeps.keepsAway kept rfl
  | receiveMessageCommand visibilityTimeout =>
      rcases receiveMessageCommand_cases performed with rfl | ⟨hidden, rfl⟩
      · exact keeps
      · exact keeps.hide hidden (le_of_eq handles)
  | deleteMessageCommand receiptHandle =>
      by_cases same : messageId = receiptHandle.messageId
      · obtain ⟨batch, delivers, settled⟩ := handles
        subst same
        exact .inr (.inr ⟨batch, delivers.mono kept.remembers,
          settled.mono (World.Others.extends kept.world) kept.remembers.loaded⟩)
      · refine keeps.keepsAway kept ?_
        rcases performed.2 with rfl | rfl
        · rfl
        · exact Function.update_of_ne same _ _
  | changeMessageVisibilityCommand receiptHandle visibilityTimeout =>
      obtain rfl : visibilityTimeout = 0 := handles
      rcases performed.2 with rfl | rfl
      · exact keeps
      · exact keeps.hide _ (Nat.zero_le _)
  | sendMessageCommand messageBody data =>
      refine keeps.keepsAway kept ?_
      rcases performed with ⟨_, rfl⟩ | ⟨_, rfl⟩ <;> rfl
  | getBatch bid =>
      obtain ⟨rfl, _⟩ := performed
      exact keeps
  | hold receiptHandle =>
      obtain ⟨_, rfl⟩ := performed
      exact keeps.keepsAway kept rfl
  | held =>
      obtain ⟨_, rfl⟩ := performed
      exact keeps

/-- Each message that was ever sent is kept. -/
def Queues.KeepsAll (config : QueueConfig) (queues : Queues) : Prop :=
  ∀ messageId message, queues.sent messageId = some message → queues.Keeps config messageId message

/-- No operation sends a batch. -/
theorem QueueOp.perform_sent {op : QueueOp} {reply : Except Failure op.Reply}
    (performed : op.perform formats thread queues reply next) : next.sent = queues.sent := by
  cases op with
  | world op =>
      obtain ⟨world, _, rfl⟩ := performed
      rfl
  | receiveMessageCommand visibilityTimeout =>
      rcases receiveMessageCommand_cases performed with rfl | ⟨hidden, rfl⟩ <;> rfl
  | deleteMessageCommand receiptHandle => rcases performed.2 with rfl | rfl <;> rfl
  | changeMessageVisibilityCommand receiptHandle visibilityTimeout =>
      rcases performed.2 with rfl | rfl <;> rfl
  | sendMessageCommand messageBody data => rcases performed with ⟨_, rfl⟩ | ⟨_, rfl⟩ <;> rfl
  | getBatch bid => exact congrArg Queues.sent performed.1
  | hold receiptHandle =>
      obtain ⟨_, rfl⟩ := performed
      rfl
  | held => exact congrArg Queues.sent performed.2

theorem Queues.KeepsAll.drifts (formats : Formats) (keeps : queues.KeepsAll config)
    (drifted : queues.Drifts config next) : next.KeepsAll config := by
  have kept : queues.KeepsAway formats 0 next := drifted.keepsAway
  intro messageId message sent
  cases drifted with
  | time passed => exact (keeps messageId message sent).keepsAway kept rfl
  | store batchJson fresh => exact (keeps messageId message sent).keepsAway kept rfl
  | @send other body fresh =>
      by_cases same : messageId = other
      · refine .inl ⟨queues.world.clock, ?_, ?_⟩
        · subst same
          exact Function.update_self _ _ _
        · change queues.world.clock ≤ queues.world.clock + 1000 * config.maxTimeToHold
          omega
      · have before : queues.sent messageId = some message := (Function.update_of_ne same _ _).symm.trans sent
        exact (keeps messageId message before).keepsAway kept (Function.update_of_ne same _ _)
  | @expire other expired sentBefore old =>
      by_cases same : messageId = other
      · subst same
        obtain rfl := Option.some.inj (sentBefore.symm.trans sent)
        exact .inr (.inl old)
      · exact (keeps messageId message sent).keepsAway kept (Function.update_of_ne same _ _)

/-- A queue of batches loses none: each message that was ever sent will be visible again soon, or it has
exceeded the retention of the queue, or each request of its batch was found replaced or is anchored. -/
theorem batch_kept {pool : Pool QueueOp QueueOp.Reply Failure (Option Response) Queues}
    (run : Reaches (queueSystem formats config deployed) (.idle (Queues.start clock)) pool) {messageId : Nat}
    {message : SentMessage} (sent : pool.world.sent messageId = some message) :
    (∃ time, pool.world.visibleAt messageId = some time ∧
      time ≤ pool.world.world.clock + 1000 * config.maxTimeToHold) ∨
    message.sentAt + config.retention ≤ pool.world.world.clock ∨
    ∃ batch, pool.world.Delivers config messageId batch ∧ pool.world.Settled batch := by
  have kept := (handling formats config deployed).invariant (Queues.KeepsAll config)
    (fun thread program queues _ _ entry => handling_safe queues entry)
    (fun held performed handles other message sent => by
      rw [QueueOp.perform_sent performed] at sent
      exact (held other message sent).performs performed handles)
    (fun held drifted => held.drifts formats drifted) run
    (fun _ _ missing => by cases missing) (fun thread => trivial)
  exact kept.1 messageId message sent

end Runs

section Witness

variable {deployed : Task → Prop}

/-- The message refers to the batch in the bucket. -/
def loneSent : SentMessage := ⟨(AnchorBatchQMessageOf.encode ⟨.ofString "batch", []⟩).stringify, 0⟩

def loneBatchJson : List Char := (loneBatch.map JsString.ofString).encode.stringify

theorem lone_receives {queues : Queues} (sent : queues.sent 0 = some loneSent)
    (stored : queues.bucket "batch" = some loneBatchJson) :
    ∃ trace, Path ((queueSystem loneFormats loneQueue deployed).undisturbed 1)
      (AnchorBatchSqsQueueService.receiveMessage loneQueue) queues trace (.done (some loneBatch))
      { queues.hide 0 21600 with objects := Function.update queues.objects 1 (some ⟨0, 0⟩) } := by
  let setting := (queueSystem loneFormats loneQueue deployed).undisturbed 1
  let delivery : Delivery := ⟨⟨0, 0⟩, loneSent.body⟩
  have nonempty : loneSent.body.isEmpty = false := rfl
  have decoded : loneQueue.decodeBatch loneSent.body = some ⟨"batch", []⟩ :=
    decodeBatch_stringify ⟨"batch", []⟩
  have read : loneQueue.decodeBatch loneBatchJson = some loneBatch := decodeBatch_stringify _
  have delivers : (QueueOp.receiveMessageCommand 21600).perform loneFormats 1 queues (.ok (some delivery))
      (queues.hide 0 21600) := ⟨loneSent, sent, rfl, rfl⟩
  let held : Queues := { queues.hide 0 21600 with objects := Function.update queues.objects 1 (some ⟨0, 0⟩) }
  have decodes :
      ∃ trace, Path setting (SqsQueueService.decodeMessage loneQueue "https://queue/batch" delivery)
      (queues.hide 0 21600) trace (.done ⟨"batch", []⟩) held := by
    apply Exists.intro
    rw [SqsQueueService.decodeMessage, nonempty, decoded]
    apply Path.reply setting (QueueOp.hold ⟨0, 0⟩) (.ok ()) ⟨rfl, rfl⟩
    exact .stop _ _
  obtain ⟨_, decodes⟩ := decodes
  have receives :
      ∃ trace, Path setting (SqsQueueService.receiveMessage loneQueue "https://queue/batch") queues
      trace (.done (some ⟨"batch", []⟩)) held := by
    have asks : ∃ trace, Path setting (Prog.call (QueueOp.receiveMessageCommand 21600)) queues trace
        (.done (some delivery)) (queues.hide 0 21600) := by
      apply Exists.intro
      apply Path.reply setting (QueueOp.receiveMessageCommand 21600) (.ok (some delivery)) delivers
      exact .stop _ _
    obtain ⟨_, asks⟩ := asks
    exact ⟨_, Path.bind (Path.handle _ asks) (Path.bind decodes (.stop _ _))⟩
  obtain ⟨_, receives⟩ := receives
  have retrieves :
      ∃ trace, Path setting (AnchorBatchSqsQueueService.retrieveBatch loneQueue ⟨"batch", []⟩) held
      trace (.done loneBatch) held := by
    have gets : (QueueOp.getBatch "batch").perform loneFormats 1 held (.ok loneBatchJson) held :=
      ⟨rfl, fun other same => by cases same; exact stored⟩
    have asks : ∃ trace, Path setting (Prog.call (QueueOp.getBatch "batch")) held trace (.done loneBatchJson)
        held := by
      apply Exists.intro
      apply Path.reply setting (QueueOp.getBatch "batch") (.ok loneBatchJson) gets
      exact .stop _ _
    obtain ⟨_, asks⟩ := asks
    apply Exists.intro
    apply Path.handle
    apply Path.bind asks
    rw [read]
    exact .stop _ _
  obtain ⟨_, retrieves⟩ := retrieves
  exact ⟨_, Path.bind receives (Path.bind retrieves (.stop _ _))⟩

/-- The queues after the message and its batch were stored. -/
def filledQueues : Queues :=
  { Queues.start 0 with
    sent := Function.update (fun _ => none) 0 (some loneSent)
    visibleAt := Function.update (fun _ => none) 0 (some 0)
    bucket := Function.update (fun _ => none) "batch" (some loneBatchJson) }

/-- The lone request and its batch are stored, and nothing else has happened. -/
structure Queues.Lone (queues : Queues) : Prop where
  rows : queues.world.requests.rows = [loneRequest .PENDING "Request is pending."]
  anchors : queues.world.anchors = .empty
  ledger : queues.world.ledger = []
  clock : queues.world.clock = 0
  sent : queues.sent 0 = some loneSent
  stored : queues.bucket "batch" = some loneBatchJson

theorem lone_posts : ∃ trace response queues,
    Path ((queueSystem loneFormats loneQueue deployed).undisturbed 0)
      (((post "bafkqaaa" 1).run loneFormats).implement loneQueue.implementation) filledQueues trace
      (.done (some response)) queues ∧ queues.Lone := by
  let setting := (queueSystem loneFormats loneQueue deployed).undisturbed 0
  apply Exists.intro
  apply Exists.intro
  apply Exists.intro
  constructor
  · apply Path.reply setting (QueueOp.world (.insertRequest _))
      (.ok (some (loneRequest .PENDING "Request is pending.")))
    · exact ⟨_, .inr ⟨"1", by rintro column _ old ⟨⟩, rfl, rfl⟩, rfl⟩
    apply Path.reply setting (QueueOp.world (.markReplaced _ _ _)) (.ok (0 : Nat))
    · exact ⟨_,
        ⟨[loneRequest .PENDING "Request is pending."], .refl _, List.pairwise_singleton _ _, rfl, rfl⟩,
        rfl⟩
    apply Path.reply setting (QueueOp.world (.presentBody _)) (.ok ())
    · exact ⟨_, rfl, rfl⟩
    exact .stop _ _
  · exact ⟨rfl, rfl, rfl, rfl, rfl, rfl⟩

def pendingCandidate : Candidate :=
  ⟨.foreign "bafkqaaa", loneRequest .PENDING "Request is pending.", .foreign "bafkqaaa", false⟩

def pendingTree : MerkleCAR := ⟨.record loneRoot, [pendingCandidate], fun _ => [.L], ⟨[], [loneRoot]⟩⟩

/-- The worker anchors the batch of the lone request and deletes its message. -/
theorem lone_works {queues : Queues} (lone : queues.Lone) : ∃ trace last,
    Path ((queueSystem loneFormats loneQueue deployed).undisturbed 1)
      ((Task.run loneFormats (.anchorRequests queueWorker 1)).implement loneQueue.implementation) queues trace
      (.done none) last ∧ last.visibleAt 0 = none ∧ last.sent 0 = some loneSent ∧
      last.world.clock = 0 := by
  obtain ⟨rows, anchors, ledger, clock, sent, stored⟩ := lone
  let setting := (queueSystem loneFormats loneQueue deployed).undisturbed 1
  obtain ⟨_, receives⟩ := @lone_receives deployed queues sent stored
  have selected : [loneRequest .PENDING "Request is pending."].Perm
      (queues.world.requests.rows.filter fun request => request.id ∈ ["1"]) := by
    rw [rows]
    exact .refl _
  have unanchored : List.Perm ([] : List FreshAnchor) (queues.world.anchors.rows.filter fun anchor =>
      anchor.requestId ∈ ["1"]) := by
    rw [anchors]
    exact .refl _
  have fresh : ∀ entry ∈ queues.world.ledger, entry.2 ≠ Cid.foreign "tx beef" := by
    rw [ledger]
    rintro entry ⟨⟩
  have counted : ∀ anchor,
      1 = (createAnchors queues.world.anchors [anchor]).rows.length - queues.world.anchors.rows.length := by
    intro anchor
    rw [anchors]
    rfl
  apply Exists.intro
  apply Exists.intro
  constructor
  · apply Path.reply setting (QueueOp.world .aborted) (.ok false)
    · exact ⟨_, rfl, rfl⟩
    apply Path.bind (Path.attempt receives)
    apply Path.reply setting (QueueOp.world (.selectByIds ["1"]))
      (.ok [loneRequest .PENDING "Request is pending."])
    · exact ⟨_, ⟨selected, List.pairwise_singleton _ _, rfl⟩, rfl⟩
    apply Path.reply setting (QueueOp.world .aborted) (.ok false)
    · exact ⟨_, rfl, rfl⟩
    apply Path.reply setting (QueueOp.world (.findAnchors ["1"])) (.ok [])
    · exact ⟨_, ⟨unanchored, rfl⟩, rfl⟩
    apply Path.reply setting (QueueOp.world (.buildMerkleTree [pendingCandidate])) (.ok pendingTree)
    · exact ⟨_, ⟨lone_treeFor rfl, rfl⟩, rfl⟩
    apply Path.reply setting (QueueOp.world (.sendTransaction pendingTree.root)) (.ok loneTransaction)
    · exact ⟨_, ⟨_, rfl, fresh, rfl⟩, rfl⟩
    apply Path.reply setting (QueueOp.world (.storeCarFile _ _)) (.ok ())
    · exact ⟨_, rfl, rfl⟩
    change Path setting (Prog.implement loneQueue.implementation (acknowledgeRest pendingCandidate
      (AnchorService.storeWitnessCARs loneCar [loneAnchor]) >>= fun _processed => pure none)) _ _ _ _
    rw [lone_witnesses]
    apply Path.reply setting (QueueOp.world (.storeWitness loneAnchor.cid loneWitness)) (.ok ())
    · exact ⟨_, rfl, rfl⟩
    apply Path.reply setting (QueueOp.world .begin) (.ok ())
    · exact ⟨_, rfl, rfl⟩
    apply Path.reply setting (QueueOp.world (.persist _ _)) (.ok (1 : Nat))
    · exact ⟨_,
        ⟨_, _, ⟨_, _, rfl, evaluates_persist rows rfl _, Int.le_refl _, fun _ _ => rfl, rfl⟩, counted _,
        rfl⟩, rfl⟩
    apply Path.reply setting (QueueOp.world (.countByStatus .PENDING)) (.ok _)
    · exact ⟨_, ⟨rfl, rfl⟩, rfl⟩
    apply Path.reply setting (QueueOp.world (.sleep 5000)) (.ok ())
    · exact ⟨_, rfl, rfl⟩
    apply Path.reply setting QueueOp.held (.ok (some ⟨0, 0⟩))
    · exact ⟨rfl, rfl⟩
    apply Path.reply setting (QueueOp.deleteMessageCommand ⟨0, 0⟩) (.ok ())
    · exact ⟨by rintro error ⟨⟩, .inr rfl⟩
    exact .stop _ _
  · exact ⟨rfl, sent, clock⟩

/-- The batch of the lone request is settled when its message is gone. -/
theorem batch_kept_lone : ∃ (pool : Pool QueueOp QueueOp.Reply Failure (Option Response) Queues)
    (batch : AnchorBatchQMessage), Reaches (queueSystem loneFormats loneQueue fun _ => True)
      (.idle (Queues.start 0)) pool ∧ pool.world.visibleAt 0 = none ∧
      pool.world.Delivers loneQueue 0 batch ∧ pool.world.Settled batch := by
  let system := queueSystem loneFormats loneQueue fun _ => True
  obtain ⟨_, _, posted, posts, lone⟩ := @lone_posts fun _ => True
  obtain ⟨_, last, works, gone, sent, clock⟩ := @lone_works (fun _ => True) posted lone
  have filled : Reaches system (.idle (Queues.start 0)) (.idle filledQueues) :=
    .head ⟨.drift, .drift (.send loneSent.body rfl)⟩
      (.head ⟨.drift, .drift (.store loneBatchJson rfl)⟩ .refl)
  obtain ⟨_, filled⟩ := Run.of_reaches filled
  have run := (Run.whole (Run.whole filled rfl ⟨post "bafkqaaa" 1, trivial, rfl⟩ posts) rfl
    ⟨.anchorRequests queueWorker 1, trivial, rfl⟩ works).reaches
  rcases batch_kept run sent with ⟨time, visible, _⟩ | old | ⟨batch, delivers, settled⟩
  · have missing : none = some time := gone.symm.trans visible
    cases missing
  · change (0 : Int) + 345600000 ≤ last.world.clock at old
    omega
  · exact ⟨_, batch, run, gone, delivers, settled⟩

end Witness

end CeramicAnchor
