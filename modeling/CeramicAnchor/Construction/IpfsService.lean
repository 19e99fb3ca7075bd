import CeramicAnchor.Concurrency.Refinement
import CeramicAnchor.Construction.RequestService

/-
This file translates the pubsub part of the IPFS service, which answers queries with anchor commits.
-/

namespace CeramicAnchor
open Concurrency Storage

inductive AppMode where
  | SERVER
  | ANCHOR
  | BUNDLED
  | SCHEDULER
  | CONTINUAL_ANCHORING
  | PUBSUB_RESPONDER
  deriving DecidableEq

/-- These are the messages of the topic, of which a responder reads only the queries. -/
inductive PubsubMessage where
  | UPDATE (stream tip : Cid)
  | QUERY (id : String) (stream : Cid)
  | RESPONSE (id : String) (tips : List (String × Cid))
  | KEEPALIVE

/-- A message as the node delivers it. -/
structure Message where
  signed : Bool
  sender : String
  data : List UInt8

structure IpfsPubSubPublishQMessage where
  createdAt : Int
  topic : String
  data : List Nat
  timeoutMs : Option Nat

/-- The bytes of a message and the text of a stream id are external. -/
structure PubsubCodec where
  serialize : PubsubMessage → List UInt8
  deserialize : List UInt8 → Option PubsubMessage
  streamIdText : Cid → String

structure IpfsConfig where
  mode : AppMode
  pubsubTopic : String
  pubsubResponderWindowMs : Option Nat
  ipfsId : String

structure IpfsService where
  respondToPubsubQueries : Bool
  pubsubTopic : String
  pubsubResponderWindowMs : Nat
  ipfsId : String

/-- This is three months. -/
def DEFAULT_PUBSUB_RESPONDER_WINDOW : Nat := 1000 * 60 * 60 * 24 * 31 * 3

/-- The responder uses these operations beside those of the tasks. -/
inductive ResponderOp where
  | world (op : WorldOp)
  | deliver
  | findCompletedForStream (streamId : String) (limit : Nat) (after : Option Int)
  | findByRequest (request : Request)
  | sendMessage (message : IpfsPubSubPublishQMessage)

abbrev ResponderOp.Reply : ResponderOp → Type
  | .world op => op.Reply
  | .deliver => Message
  | .findCompletedForStream _ _ _ => List Request
  | .findByRequest _ => Option FreshAnchor
  | .sendMessage _ => Unit

abbrev ResponderCode (A : Type) := Prog ResponderOp ResponderOp.Reply Failure A

namespace IpfsService

/-- A window of zero counts as absent. -/
def make (config : IpfsConfig) : IpfsService where
  respondToPubsubQueries := config.mode = .PUBSUB_RESPONDER
  pubsubTopic := config.pubsubTopic
  pubsubResponderWindowMs :=
  (config.pubsubResponderWindowMs.filter (· ≠ 0)).getD DEFAULT_PUBSUB_RESPONDER_WINDOW
  ipfsId := config.ipfsId

variable (codec : PubsubCodec) (service : IpfsService)

/-- The responder drops unsigned messages, its own messages and those that it cannot read. -/
def accepted (incoming : Message) : Option PubsubMessage :=
  if incoming.signed ∧ incoming.sender ≠ service.ipfsId then codec.deserialize incoming.data else none

/-- The response to a query maps its stream to one anchor commit. -/
def response (id : String) (streamId : Cid) (anchor : FreshAnchor) : List Nat :=
  (codec.serialize (.RESPONSE id [(codec.streamIdText streamId, anchor.cid)])).map UInt8.toNat

def respond (id : String) (streamId : Cid) (anchor : FreshAnchor) : ResponderCode Unit := do
  let createdAt : Int ← Prog.call (ResponderOp.world .now)
  Prog.call (ResponderOp.sendMessage
    ⟨createdAt, service.pubsubTopic, response codec id streamId anchor, none⟩)

/-- A completed request without an anchor is only logged. -/
def answer (id : String) (streamId : Cid) (completedRequest : Request) : ResponderCode Unit := do
  let anchor : Option FreshAnchor ← Prog.call (ResponderOp.findByRequest completedRequest)
  match anchor with
  | none => pure ()
  | some anchor => respond codec service id streamId anchor

def handleMessage : PubsubMessage → ResponderCode Unit
  | .QUERY id streamId => do
      let now : Int ← Prog.call (ResponderOp.world .now)
      let completedRequest : List Request ← Prog.call (ResponderOp.findCompletedForStream
        (codec.streamIdText streamId) 1 (some (now - service.pubsubResponderWindowMs)))
      match completedRequest with
      | [] => pure ()
      | request :: _ => answer codec service id streamId request
  | _ => pure ()

/-- Outside of its mode the service subscribes to the topic only to keep the connections alive. -/
def onMessage : ResponderCode Unit := do
  let incoming : Message ← Prog.call ResponderOp.deliver
  if service.respondToPubsubQueries then
    match service.accepted codec incoming with
    | none => pure ()
    | some message => handleMessage codec service message
  else pure ()

end IpfsService

/-- The world has beside it every message that was sent to the queue of the IPFS publisher. -/
structure Pubsub where
  world : World
  ipfsQueue : List IpfsPubSubPublishQMessage

def Pubsub.start (clock : Int) : Pubsub := ⟨.empty clock, []⟩

/-- The latest completed requests of the stream. -/
def RequestRepository.FoundCompleted (requests : RequestTable) (streamId : String) (limit : Nat)
    (after : Option Int) (found : List Request) : Prop :=
  ∃ ordered : List Request,
    ordered.Perm (requests.rows.filter fun request => request.streamId = streamId ∧
      request.status = .COMPLETED ∧ after.all (· ≤ request.updatedAt)) ∧
    ordered.Pairwise (fun first second => second.updatedAt ≤ first.updatedAt) ∧ found = ordered.take limit

/-- A rejected message may have been sent. -/
def ResponderOp.perform (formats : Formats) (thread : Nat) :
    (op : ResponderOp) → Pubsub → Except Failure op.Reply → Pubsub → Prop
  | .world op, pubsub, reply, next => ∃ world, op.perform formats thread pubsub.world reply world ∧
      next = { pubsub with world }
  | .deliver, pubsub, _, next => next = pubsub
  | .findCompletedForStream streamId limit after, pubsub, reply, next => next = pubsub ∧
      ∀ found, reply = .ok found →
        RequestRepository.FoundCompleted pubsub.world.requests streamId limit after found
  | .findByRequest request, pubsub, reply, next => next = pubsub ∧ ∀ found, reply = .ok found →
      found = pubsub.world.anchors.lookup FreshAnchor.requestId request.id
  | .sendMessage message, pubsub, reply, next =>
      next = { pubsub with ipfsQueue := pubsub.ipfsQueue ++ [message] } ∨
      (∃ error, reply = .error error) ∧ next = pubsub

def Pubsub.Drifts (pubsub next : Pubsub) : Prop :=
  ∃ world, pubsub.world.Drifts world ∧ next = { pubsub with world }

/-- Any number of threads run the deployed tasks or handle a message of the topic. -/
def pubsubSystem (formats : Formats) (codec : PubsubCodec) (deployed : Task → Prop) :
    System ResponderOp ResponderOp.Reply Failure Unit Pubsub where
  entry _ program :=
    (∃ task, deployed task ∧ program = do
      let _ ← (task.run formats).implement fun op => Prog.call (ResponderOp.world op)
      pure ()) ∨
    ∃ config, program = (IpfsService.make config).onMessage codec
  perform thread op := op.perform formats thread
  drift := Pubsub.Drifts

end CeramicAnchor
