import CeramicAnchor.Concurrency.Refinement
import CeramicAnchor.Construction.RequestService
import CeramicAnchor.Encoding.JsonParser

/-
This file translates the codecs of the queue messages and the services that send and receive them.
-/

namespace CeramicAnchor
open Concurrency Storage

/-- A lone surrogate is replaced where a text leaves the language. -/
def JsChar.toWellFormed : JsChar → Char
  | .scalar char => char
  | .surrogate _ => '\uFFFD'

def JsString.toWellFormed (text : JsString) : String := String.ofList (text.map JsChar.toWellFormed)

def decodeString : Json → Option JsString
  | .text text => some text
  | _ => none

def JsonItems.decodeStrings : JsonItems → Option (List JsString)
  | .nil => some []
  | .cons head tail => do
      let head ← decodeString head
      let tail ← tail.decodeStrings
      pure (head :: tail)

def decodeStrings : Json → Option (List JsString)
  | .array items => items.decodeStrings
  | _ => none

def encodeStrings : List JsString → JsonItems
  | [] => .nil
  | head :: tail => .cons (.text head) (encodeStrings tail)

namespace AnchorBatchQMessageOf

def encode (message : AnchorBatchQMessageOf JsString) : Json :=
  .object (.ofList [("bid", .text message.bid), ("rids", .array (encodeStrings message.rids))])

def decode (json : Json) : Option (AnchorBatchQMessageOf JsString) := do
  let bid ← json.property "bid"
  let bid ← decodeString bid
  let rids ← json.property "rids"
  let rids ← decodeStrings rids
  pure ⟨bid, rids⟩

end AnchorBatchQMessageOf

namespace RequestQMessageOf

/-- Dates are ISO texts, and a missing origin has no field. -/
def encode (isoString : Int → String) (message : RequestQMessageOf JsString) : Json :=
  .object (.ofList ([("rid", .text message.rid), ("cid", .text message.cid), ("sid", .text message.sid),
    ("ts", .text (.ofString (isoString message.ts)))] ++
    (message.org.toList.map fun org => ("org", .text org)) ++
    [("crt", .text (.ofString (isoString message.crt)))]))

def decode (parseDate : JsString → Option Int) (json : Json) : Option (RequestQMessageOf JsString) := do
  let rid ← json.property "rid"
  let rid ← decodeString rid
  let cid ← json.property "cid"
  let cid ← decodeString cid
  let sid ← json.property "sid"
  let sid ← decodeString sid
  let ts ← json.property "ts"
  let ts ← decodeString ts
  let ts ← parseDate ts
  let org ← json.property "org"
  let org ← decodeString org
  let crt ← json.property "crt"
  let crt ← decodeString crt
  let crt ← parseDate crt
  pure ⟨rid, cid, sid, ts, some org, crt⟩

end RequestQMessageOf

def DEFAULT_MAX_TIME_TO_HOLD_MESSAGES_S : Nat := 21600

/-- The settings of the queues, the time in milliseconds that they keep a message, and how the language reads
and prints numbers, dates and errors. -/
structure QueueConfig where
  sqsQueueUrl : String
  maxTimeToHoldMessageSec : Option Nat
  retention : Nat
  number : List Char → JsNumber
  isoString : Int → String
  parseDate : JsString → Option Int
  printed : Failure → String

/-- A missing time and zero stand for the default. -/
def QueueConfig.maxTimeToHold (config : QueueConfig) : Nat :=
  match config.maxTimeToHoldMessageSec with
  | none => DEFAULT_MAX_TIME_TO_HOLD_MESSAGES_S
  | some seconds => if seconds = 0 then DEFAULT_MAX_TIME_TO_HOLD_MESSAGES_S else seconds

def QueueConfig.parseBatch (config : QueueConfig) (text : List Char) :
    Option (AnchorBatchQMessageOf JsString) := do
  let json ← Json.parse config.number text
  AnchorBatchQMessageOf.decode json

def QueueConfig.parseRequest (config : QueueConfig) (text : List Char) :
    Option (RequestQMessageOf JsString) := do
  let json ← Json.parse config.number text
  RequestQMessageOf.decode config.parseDate json

/-- The batch as the database and the bucket see it. -/
def QueueConfig.decodeBatch (config : QueueConfig) (text : List Char) : Option AnchorBatchQMessage :=
  (config.parseBatch text).map (·.map JsString.toWellFormed)

/-- A receipt handle belongs to one delivery of one message. -/
structure ReceiptHandle where
  messageId : Nat
  delivery : Nat

structure Delivery where
  receiptHandle : ReceiptHandle
  body : List Char

/-- The operations of the world, the commands of the queues and of the bucket, and the message object of a
worker. A sent message is known by its data as well. -/
inductive QueueOp where
  | world (op : WorldOp)
  | receiveMessageCommand (visibilityTimeout : Nat)
  | deleteMessageCommand (receiptHandle : ReceiptHandle)
  | changeMessageVisibilityCommand (receiptHandle : ReceiptHandle) (visibilityTimeout : Nat)
  | sendMessageCommand (messageBody : List Char) (data : RequestQMessage)
  | getBatch (bid : String)
  | hold (receiptHandle : ReceiptHandle)
  | held

abbrev QueueOp.Reply : QueueOp → Type
  | .world op => op.Reply
  | .receiveMessageCommand _ => Option Delivery
  | .deleteMessageCommand _ => Unit
  | .changeMessageVisibilityCommand _ _ => Unit
  | .sendMessageCommand _ _ => Unit
  | .getBatch _ => List Char
  | .hold _ => Unit
  | .held => Option ReceiptHandle

abbrev QueueCode (A : Type) := Prog QueueOp QueueOp.Reply Failure A

namespace SqsQueueMessage

/-- The message object keeps the receipt handle of its delivery. -/
def receiptHandle : QueueCode ReceiptHandle := do
  let receiptHandle : Option ReceiptHandle ← Prog.call QueueOp.held
  match receiptHandle with
  | some receiptHandle => pure receiptHandle
  | none => .halted

def ack : QueueCode Unit := do
  let receiptHandle ← receiptHandle
  Prog.call (QueueOp.deleteMessageCommand receiptHandle)

/-- The message becomes visible again at once. -/
def nack : QueueCode Unit := do
  let receiptHandle ← receiptHandle
  Prog.call (QueueOp.changeMessageVisibilityCommand receiptHandle 0)

end SqsQueueMessage

namespace SqsQueueService

variable (config : QueueConfig) (sqsQueueUrl : String)

/-- A body that is empty or does not decode rejects, and its message is neither acknowledged nor put back. -/
def decodeMessage (message : Delivery) : QueueCode AnchorBatchQMessage :=
  if message.body.isEmpty then
    throw (.rejected s!"Unexpected message body retrieved from SQS at {sqsQueueUrl}")
  else match config.decodeBatch message.body with
    | some data => do
        Prog.call (QueueOp.hold message.receiptHandle)
        pure data
    | none => throw (.rejected "Invalid message")

def receiveMessage : QueueCode (Option AnchorBatchQMessage) := do
  let messages : Option Delivery ← tryCatch
    (Prog.call (QueueOp.receiveMessageCommand config.maxTimeToHold)) fun err =>
      throw (.rejected s!"Failed to receive message from SQS queue {sqsQueueUrl}: {config.printed err}")
  match messages with
  | none => pure none
  | some message => do
      let data ← decodeMessage config sqsQueueUrl message
      pure (some data)

def sendMessageCommand (data : RequestQMessage) : QueueCode Unit :=
  let json := (data.map JsString.ofString).encode config.isoString
  Prog.call (QueueOp.sendMessageCommand json.stringify data)

/-- A message whose signature has expired is sent again while attempts are left. -/
def sendMessage (data : RequestQMessage) : (attempts : Nat) → QueueCode Unit
  | 0 => tryCatch (sendMessageCommand config data) fun err =>
      throw (.rejected s!"Failed to send message to SQS queue {sqsQueueUrl}: {config.printed err}")
  | attempts + 1 => tryCatch (sendMessageCommand config data) fun err =>
      if Includes err.message "Signature expired" then sendMessage data attempts
      else throw (.rejected s!"Failed to send message to SQS queue {sqsQueueUrl}: {config.printed err}")

end SqsQueueService

def ValidationSqsQueueService.sendMessage (config : QueueConfig) (data : RequestQMessage) : QueueCode Unit :=
  SqsQueueService.sendMessage config (config.sqsQueueUrl ++ "validate") data 3

namespace AnchorBatchSqsQueueService

variable (config : QueueConfig)

/-- A message without ids stands for the batch that is stored in the bucket. -/
def retrieveBatch (data : AnchorBatchQMessage) : QueueCode AnchorBatchQMessage :=
  tryCatch (do
    let batchJson : List Char ← Prog.call (QueueOp.getBatch data.bid)
    match config.decodeBatch batchJson with
    | some batch => pure batch
    | none => throw (.rejected "Invalid batch")) fun err =>
      throw (.rejected s!"Error retrieving batch {data.bid} from S3: {err.message}")

def receiveMessage : QueueCode (Option AnchorBatchQMessage) := do
  let anchorBatchMessage ← SqsQueueService.receiveMessage config (config.sqsQueueUrl ++ "batch")
  match anchorBatchMessage with
  | none => pure none
  | some data =>
      if data.rids.isEmpty then do
        let batch ← retrieveBatch config data
        pure (some batch)
      else pure (some data)

end AnchorBatchSqsQueueService

/-- The worker uses its queues through the services. -/
def QueueConfig.implementation (config : QueueConfig) : (op : WorldOp) → QueueCode op.Reply
  | .receiveMessage => AnchorBatchSqsQueueService.receiveMessage config
  | .ack _ => SqsQueueMessage.ack
  | .nack _ => SqsQueueMessage.nack
  | .sendMessage message => ValidationSqsQueueService.sendMessage config message
  | op => Prog.call (QueueOp.world op)

structure SentMessage where
  body : List Char
  sentAt : Int

/-- The queue knows each message that was ever sent, and it holds some of them until they are visible again.
The last field remembers what no operation reads. -/
structure Queues where
  world : World
  sent : Nat → Option SentMessage
  visibleAt : Nat → Option Int
  bucket : String → Option (List Char)
  objects : Nat → Option ReceiptHandle
  loaded : List Request

namespace Queues

def start (clock : Int) : Queues :=
  ⟨.empty clock, fun _ => none, fun _ => none, fun _ => none, fun _ => none, []⟩

/-- A message that the queue still holds is hidden for so many seconds. -/
def hide (queues : Queues) (messageId visibilityTimeout : Nat) : Queues :=
  { queues with visibleAt := fun id =>
      if id = messageId then (queues.visibleAt id).map fun _ => queues.world.clock + 1000 * visibilityTimeout
      else queues.visibleAt id }

def remove (queues : Queues) (messageId : Nat) : Queues :=
  { queues with visibleAt := Function.update queues.visibleAt messageId none }

/-- The rows that a worker has loaded. -/
def load (op : WorldOp) (reply : Except Failure op.Reply) : List Request :=
  match op, reply with
  | .selectByIds _, .ok rows => rows
  | _, _ => []

/-- Time passes, messages are sent, batches are stored, and messages that are too old are dropped. -/
inductive Drifts (config : QueueConfig) (queues : Queues) : Queues → Prop where
  | time {world : World} (passed : queues.world.Drifts world) : Drifts config queues { queues with world }
  | send {messageId : Nat} (body : List Char) (fresh : queues.sent messageId = none) :
      Drifts config queues { queues with
        sent := Function.update queues.sent messageId (some ⟨body, queues.world.clock⟩)
        visibleAt := Function.update queues.visibleAt messageId (some queues.world.clock) }
  | store {bid : String} (batchJson : List Char) (fresh : queues.bucket bid = none) :
      Drifts config queues { queues with bucket := Function.update queues.bucket bid (some batchJson) }
  | expire {messageId : Nat} {message : SentMessage} (sent : queues.sent messageId = some message)
      (old : message.sentAt + config.retention ≤ queues.world.clock) :
      Drifts config queues (queues.remove messageId)

end Queues

/-- The queue may deliver a message again, also one that was deleted, and it may ignore a stale receipt. -/
def QueueOp.perform (formats : Formats) (thread : Nat) :
    (op : QueueOp) → Queues → Except Failure op.Reply → Queues → Prop
  | .world op, queues, reply, next => ∃ world, op.perform formats thread queues.world reply world ∧
      next = { queues with world := world, loaded := Queues.load op reply ++ queues.loaded }
  | .receiveMessageCommand visibilityTimeout, queues, reply, next => match reply with
      | .ok none => next = queues
      | .ok (some delivery) => ∃ message, queues.sent delivery.receiptHandle.messageId = some message ∧
          delivery.body = message.body ∧ next = queues.hide delivery.receiptHandle.messageId visibilityTimeout
      | .error _ => next = queues ∨ ∃ messageId, next = queues.hide messageId visibilityTimeout
  | .deleteMessageCommand receiptHandle, queues, reply, next =>
      (∀ error, reply = .error error → ∃ message, error = .rejected message) ∧
      (next = queues ∨ next = queues.remove receiptHandle.messageId)
  | .changeMessageVisibilityCommand receiptHandle visibilityTimeout, queues, reply, next =>
      (∀ error, reply = .error error → ∃ message, error = .rejected message) ∧
      (next = queues ∨ next = queues.hide receiptHandle.messageId visibilityTimeout)
  | .sendMessageCommand _ data, queues, reply, next =>
      ((∃ error, reply = .error error) ∧ next = queues) ∨
      ((∀ error, reply = .error error → ¬ Includes error.message "Signature expired") ∧
        next = { queues with world := { queues.world with published := queues.world.published ++ [data] } })
  | .getBatch bid, queues, reply, next => next = queues ∧ ∀ batchJson, reply = .ok batchJson →
      queues.bucket bid = some batchJson
  | .hold receiptHandle, queues, reply, next => reply = .ok () ∧
      next = { queues with objects := Function.update queues.objects thread (some receiptHandle) }
  | .held, queues, reply, next => reply = .ok (queues.objects thread) ∧ next = queues

/-- Any number of threads run the deployed tasks on the queues. -/
def queueSystem (formats : Formats) (config : QueueConfig) (deployed : Task → Prop) :
    System QueueOp QueueOp.Reply Failure (Option Response) Queues where
  entry _ program := ∃ task, deployed task ∧ program = (task.run formats).implement config.implementation
  perform thread op := op.perform formats thread
  drift := Queues.Drifts config

end CeramicAnchor
