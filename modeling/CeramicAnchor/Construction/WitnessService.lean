import CeramicAnchor.Construction.Car
import CeramicAnchor.Construction.PathLineCodec

/-
This file translates the witness service, which cuts the path of one anchor commit out of a Merkle CAR.
-/

namespace CeramicAnchor

inductive WitnessError where
  | noBlock (value : Option Ipld) (name : String)
  | typeError
  | invalidPathLine
  | invalidWitnessCAR (message : String)
  deriving DecidableEq

namespace WitnessService

/-- Reading a property of `undefined` or of `null` throws. -/
def access {A : Type} (record : Option Ipld) (read : Ipld → A) : Except WitnessError A :=
  match record with
  | none => .error .typeError
  | some .null => .error .typeError
  | some value => .ok (read value)

def decodePath (value : Option Ipld) : Except WitnessError (List PathDirection) :=
  match value with
  | some (.text input) => match PathLineCodec.decode (JsString.ofString input) with
    | .ok path => .ok path
    | .error _ => .error .invalidPathLine
  | _ => .error .invalidPathLine

/-- The lookup of a value that is no CID throws. -/
def lookup (car : Car) : Option Ipld → Except WitnessError (Option Ipld)
  | some (.link cid) => .ok (car.get cid)
  | _ => .error .typeError

def copyBlock (source destination : Car) (value : Option Ipld) (name : String) :
    Except WitnessError Car := do
  match ← lookup source value with
  | some block => .ok (destination.putBlock block)
  | none => .error (.noBlock value name)

/-- The loop copies each path element that is in the Merkle CAR. -/
def copyPath (merkleCAR : Car) : List PathDirection → Option Ipld → Car → Except WitnessError Car
  | [], _, car => .ok car
  | pathElement :: rest, currentRecord, car => do
      let nextCID ← access currentRecord (Ipld.index · pathElement.number)
      let nextRecord ← lookup merkleCAR nextCID
      let car ← match nextRecord with
        | some record => if record.falsy then .ok car else copyBlock merkleCAR car nextCID "path element"
        | none => .ok car
      copyPath merkleCAR rest nextRecord car

def build (anchorCommitCID : Cid) (merkleCAR : Car) : Except WitnessError Car := do
  let anchorCommit := merkleCAR.get anchorCommitCID
  let car ← copyBlock merkleCAR .empty (some (.link anchorCommitCID)) "anchor commit"
  let proofCID ← access anchorCommit (Ipld.property · "proof")
  let proof ← lookup merkleCAR proofCID
  let car ← copyBlock merkleCAR car proofCID "proof of anchor commit"
  let rootCID ← access proof (Ipld.property · "root")
  let root ← lookup merkleCAR rootCID
  let car ← copyBlock merkleCAR car rootCID "Merkle root"
  let path ← access anchorCommit (Ipld.property · "path") >>= decodePath
  let car ← copyPath merkleCAR path root car
  pure { car with roots := car.roots ++ [anchorCommitCID] }

/-- The undefined and the falsy values miss the check. -/
def required (value : Option Ipld) (message : String) : Except WitnessError Ipld :=
  match value with
  | none => .error (.invalidWitnessCAR message)
  | some found => if found.falsy then .error (.invalidWitnessCAR message) else .ok found

/-- The loop yields the value at each path element. -/
def pathCids {C : Type} [CarFile C] (witnessCAR : C) :
    List PathDirection → Option Ipld → Except WitnessError (List Ipld)
  | [], _ => .ok []
  | element :: rest, currentRecord => do
      let record ← required currentRecord "Missing witness node"
      let currentCID ← required (record.index element.number) "Missing witness node"
      let later ← pathCids witnessCAR rest (CarFile.getValue witnessCAR (some currentCID))
      pure (currentCID :: later)

/-- The first value is the anchor commit, and the rest follow its proof, its root and its path. -/
def cids {C : Type} [CarFile C] (witnessCAR : C) : Except WitnessError (Cid × List Ipld) := do
  let anchorCommitCID ← match CarFile.roots witnessCAR with
    | root :: _ => pure root
    | [] => throw (.invalidWitnessCAR "No root found: expected anchor commit CID")
  let anchorCommit ← required (CarFile.get witnessCAR anchorCommitCID) "No anchor commit found"
  let proofCID := anchorCommit.property "proof"
  let proof ← required (CarFile.getValue witnessCAR proofCID) "No proof found"
  let rootCID := proof.property "root"
  let root ← required (CarFile.getValue witnessCAR rootCID) "No Merkle root found"
  let path ← decodePath (anchorCommit.property "path")
  let nodes ← pathCids witnessCAR path (some root)
  pure (anchorCommitCID, proofCID.toList ++ rootCID.toList ++ nodes)

/-- The Merkle path of the anchor commit must end at its previous commit. The library compares the two CIDs,
and `alike` tells how it compares a CID with a map. -/
def verify {C : Type} [CarFile C] (alike : Cid → Fields → Bool) (witnessCAR : C) :
    Except WitnessError Cid := do
  let (anchorCommitCID, rest) ← cids witnessCAR
  let witnessLink := rest.getLastD (.link anchorCommitCID)
  let prev ← access (CarFile.get witnessCAR anchorCommitCID) (Ipld.property · "prev")
  match witnessLink with
  | .link cid =>
      if cid.equals alike prev then pure anchorCommitCID
      else throw (.invalidWitnessCAR "Invalid Merkle witness")
  | _ => throw .typeError

end WitnessService

end CeramicAnchor
