import CeramicAnchor.Construction.Car
import CeramicAnchor.Storage.Transaction

/-
This file gives the rows of the database and the messages of the queues.
-/

namespace CeramicAnchor
open Storage

inductive RequestStatus where
  | PENDING
  | PROCESSING
  | COMPLETED
  | FAILED
  | READY
  | REPLACED
  deriving DecidableEq, Repr

/-- A date is a number of milliseconds. -/
structure Request where
  id : String
  status : RequestStatus
  cid : String
  streamId : String
  message : String
  pinned : Bool
  createdAt : Int
  updatedAt : Int
  timestamp : Int
  origin : Option String
  deriving DecidableEq, Repr

/-- An absent field stays as it is. -/
structure RequestUpdateFields where
  message : Option String
  status : Option RequestStatus
  pinned : Option Bool

/-- The request table has the primary key `id` and the unique column `cid`. -/
abbrev requestColumns : List (Request → String) := [Request.id, Request.cid]

abbrev RequestTable := Table Request String requestColumns

abbrev RequestEdit := Edit Request String requestColumns

theorem id_indexed : Request.id ∈ requestColumns := by simp

theorem cid_indexed : Request.cid ∈ requestColumns := by simp

def RequestUpdateFields.edit (fields : RequestUpdateFields) (updatedAt : Int) : RequestEdit where
  apply request := { request with
    message := fields.message.getD request.message
    status := fields.status.getD request.status
    pinned := fields.pinned.getD request.pinned
    updatedAt := updatedAt }
  keeps := by simp

structure FreshAnchor where
  requestId : String
  proofCid : Cid
  path : String
  cid : Cid
  deriving DecidableEq

/-- The anchor table has the unique column `requestId`. -/
abbrev AnchorTable := Table FreshAnchor String [FreshAnchor.requestId]

structure Transaction where
  chain : String
  txHash : String
  blockNumber : Nat
  blockTimestamp : Nat
  deriving DecidableEq, Repr

/-- A codec sees the texts of a message as the language does, and the database sees them as strings. -/
structure AnchorBatchQMessageOf (Text : Type) where
  bid : Text
  rids : List Text
  deriving DecidableEq, Repr

abbrev AnchorBatchQMessage := AnchorBatchQMessageOf String

def AnchorBatchQMessageOf.map {Text Text' : Type} (convert : Text → Text')
    (message : AnchorBatchQMessageOf Text) : AnchorBatchQMessageOf Text' :=
  ⟨convert message.bid, message.rids.map convert⟩

structure RequestQMessageOf (Text : Type) where
  rid : Text
  cid : Text
  sid : Text
  ts : Int
  org : Option Text
  crt : Int
  deriving DecidableEq, Repr

abbrev RequestQMessage := RequestQMessageOf String

def RequestQMessageOf.map {Text Text' : Type} (convert : Text → Text') (message : RequestQMessageOf Text) :
    RequestQMessageOf Text' :=
  ⟨convert message.rid, convert message.cid, convert message.sid, message.ts, message.org.map convert,
    message.crt⟩

end CeramicAnchor
