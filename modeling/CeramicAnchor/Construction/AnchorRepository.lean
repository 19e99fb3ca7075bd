import CeramicAnchor.Construction.Models

/-
This file translates the lookups of anchors for one request and for several requests.
-/

namespace CeramicAnchor.AnchorRepository
open Storage

/-- The database keeps the CIDs of an anchor as texts. -/
structure AnchorRow where
  id : String
  requestId : String
  proofCid : String
  path : String
  cid : String
  createdAt : Int
  updatedAt : Int
  deriving DecidableEq, Repr

structure StoredAnchor extends FreshAnchor where
  id : String
  createdAt : Int
  updatedAt : Int
  deriving DecidableEq

/-- The module also imports a function under the name `request`. -/
inductive RequestValue where
  | request (request : Request)
  | httpsRequest
  deriving DecidableEq, Repr

structure AnchorWithRequest extends StoredAnchor where
  request : RequestValue
  deriving DecidableEq

variable (cidAsString : String → Except String Cid)

/-- A row whose texts are no CIDs is rejected. -/
def decode (row : AnchorRow) : Except String StoredAnchor := do
  let proofCid ← cidAsString row.proofCid
  let cid ← cidAsString row.cid
  pure { requestId := row.requestId, proofCid, path := row.path, cid, id := row.id,
         createdAt := row.createdAt, updatedAt := row.updatedAt }

/-- The rows have a request each, and they can be decoded, for they were encoded. -/
structure AnchorTable where
  table : Table AnchorRow String [AnchorRow.requestId]
  decodable : ∀ row ∈ table.rows, ∃ anchor, decode cidAsString row = .ok anchor

variable {cidAsString} (anchors : AnchorTable cidAsString)

def findByRequest (request : Request) : Except String (Option AnchorWithRequest) :=
  match anchors.table.lookup AnchorRow.requestId request.id with
  | none => pure none
  | some row => do
      let anchor ← decode cidAsString row
      pure (some { toStoredAnchor := anchor, request := .request request })

def findByRequestId (requestId : String) : Except String (Option StoredAnchor) :=
  match anchors.table.lookup AnchorRow.requestId requestId with
  | none => pure none
  | some row => do
      let anchor ← decode cidAsString row
      pure (some anchor)

/-- No parameter is called `request` here, so the name stands for the imported function. -/
def withImport (cidAsString : String → Except String Cid) (row : AnchorRow) :
    Except String AnchorWithRequest := do
  let anchor ← decode cidAsString row
  pure { toStoredAnchor := anchor, request := .httpsRequest }

/-- The database returns the rows in any order. -/
def FindsByRequests (requests : List Request) (result : Except String (List AnchorWithRequest)) : Prop :=
  ∃ rows : List AnchorRow,
  rows.Perm (anchors.table.rows.filter fun row => row.requestId ∈ requests.map Request.id) ∧
    result = rows.mapM (withImport cidAsString)

end CeramicAnchor.AnchorRepository
