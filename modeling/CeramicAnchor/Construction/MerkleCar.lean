import CeramicAnchor.Construction.Models
import CeramicAnchor.Construction.PathLineCodec

/-
This file gives the candidates of a batch and what the Merkle tree library returns for them.
-/

namespace CeramicAnchor

/-- The parsers of the identifiers are external. -/
structure Formats where
  parseCid : String → Option Cid
  parseStreamId : String → Option Cid
  ethereumTransactionCid : String → Cid

/-- The stream id of a candidate is given by its CID. -/
structure Candidate where
  streamId : Cid
  request : Request
  cid : Cid
  alreadyAnchored : Bool
  deriving DecidableEq

def Candidate.shouldAnchor (candidate : Candidate) : Bool := !candidate.alreadyAnchored

def Candidate.markAsAnchored (candidate : Candidate) : Candidate :=
  { candidate with alreadyAnchored := true }

structure MerkleCAR where
  root : Cid
  leafNodes : List Candidate
  getDirectPathFromRoot : Nat → List PathDirection
  car : Car

/-- The path leads from this record to the leaf through records of the CAR. -/
inductive Walk {C : Type} [CarFile C] (car : C) : Ipld → List PathDirection → Cid → Prop where
  | last {record : Ipld} {direction : PathDirection} {leaf : Cid}
      (found : record.index direction.number = some (.link leaf)) : Walk car record [direction] leaf
  | step {record child : Ipld} {direction : PathDirection} {cid leaf : Cid} {rest : List PathDirection}
      (found : record.index direction.number = some (.link cid)) (present : CarFile.get car cid = some child)
      (walk : Walk car child rest leaf) : Walk car record (direction :: rest) leaf

/-- The library builds a tree whose leaves are the candidates in some order, and each path leads to its
leaf. -/
structure MerkleCAR.TreeFor (candidates : List Candidate) (tree : MerkleCAR) : Prop where
  leaves : tree.leafNodes.Perm candidates
  paths : ∃ record, tree.car.get tree.root = some record ∧
    ∀ index candidate, tree.leafNodes[index]? = some candidate →
      Walk tree.car record (tree.getDirectPathFromRoot index) candidate.cid

/-- This is the record of the anchor proof. -/
def anchorProof (root : Cid) (chainId : String) (txHash : Cid) (useSmartContractAnchors : Bool) : Ipld :=
  .map (.ofList ([("root", .link root), ("chainId", .text chainId), ("txHash", .link txHash)] ++
    if useSmartContractAnchors then [("txType", .text "f(bytes32)")] else []))

/-- This is the record of the anchor commit. -/
def anchorCommit (id prev proof : Cid) (path : String) : Ipld :=
  .map (.ofList [("id", .link id), ("prev", .link prev), ("proof", .link proof), ("path", .text path)])

end CeramicAnchor
