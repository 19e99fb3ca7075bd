import CeramicAnchor.Concurrency.Refinement
import CeramicAnchor.Construction.RequestService

/-
This file translates the stores of the Merkle CARs and of the witnesses,
and the lookup that presents a witness.
-/

namespace CeramicAnchor
open Concurrency Storage

inductive CarStorage where
  | inmemory
  | s3
  deriving DecidableEq

inductive WitnessStorage where
  | inmemory
  | dynamodb
  deriving DecidableEq

/-- Each thread runs in one process, and a process has its own memory. -/
structure StoreConfig where
  carStorage : CarStorage
  witnessStorage : WitnessStorage
  process : Nat → Nat

/-- The world has the bucket of the Merkle CARs and counts each witness that was handed over. -/
structure Stores where
  world : World
  files : Nat → Cid → Option Car
  items : Cid → Option Car
  witnesses : Nat → Cid → Option Car

def Stores.start (clock : Int) : Stores := ⟨.empty clock, fun _ _ => none, fun _ => none, fun _ _ => none⟩

inductive StoreOp where
  | world (op : WorldOp)
  | findByRequest (request : Request)
  | cacheFile (anchorProofCid : Cid) (car : Car)
  | cachedFile (anchorProofCid : Cid)
  | getObject (anchorProofCid : Cid)
  | putItem (anchorCommitCid : Cid) (car : Car)
  | getItem (anchorCommitCid : Cid)
  | cacheWitness (anchorCommitCid : Cid) (car : Car)
  | cachedWitness (anchorCommitCid : Cid)

abbrev StoreOp.Reply : StoreOp → Type
  | .world op => op.Reply
  | .findByRequest _ => Option FreshAnchor
  | .cacheFile _ _ => Unit
  | .cachedFile _ => Option Car
  | .getObject _ => Car
  | .putItem _ _ => Unit
  | .getItem _ => Option Car
  | .cacheWitness _ _ => Unit
  | .cachedWitness _ => Option Car

abbrev StoreCode (A : Type) := Prog StoreOp StoreOp.Reply Failure A

namespace MerkleCarService

/-- The file is cached before it is put into the bucket, and in memory it is only put into the map. -/
def storeCarFile (storage : CarStorage) (anchorProofCID : Cid) (car : Car) : StoreCode Unit :=
  match storage with
  | .inmemory => Prog.call (StoreOp.world (.storeCarFile anchorProofCID car))
  | .s3 => do
      Prog.call (StoreOp.cacheFile anchorProofCID car)
      Prog.call (StoreOp.world (.storeCarFile anchorProofCID car))

/-- A file that cannot be read from the bucket counts as absent. -/
def retrieveObject (anchorProofCID : Cid) : StoreCode (Option Car) :=
  tryCatch (do
    let car : Car ← Prog.call (StoreOp.getObject anchorProofCID)
    pure (some car)) fun _ => pure none

def retrieveCarFile (storage : CarStorage) (anchorProofCID : Cid) : StoreCode (Option Car) :=
  match storage with
  | .inmemory => Prog.call (StoreOp.cachedFile anchorProofCID)
  | .s3 => do
      let fromCache : Option Car ← Prog.call (StoreOp.cachedFile anchorProofCID)
      match fromCache with
      | some car => pure (some car)
      | none => retrieveObject anchorProofCID

end MerkleCarService

namespace WitnessService

/-- A witness that cannot be fetched counts as absent. -/
def get (storage : WitnessStorage) (anchorCommitCID : Cid) : StoreCode (Option Car) :=
  match storage with
  | .inmemory => Prog.call (StoreOp.cachedWitness anchorCommitCID)
  | .dynamodb => tryCatch (Prog.call (StoreOp.getItem anchorCommitCID)) fun _ => pure none

/-- A failure to store the witness is logged. -/
def store (storage : WitnessStorage) (anchorCommitCID : Cid) (witnessCAR : Car) : StoreCode Unit :=
  match storage with
  | .inmemory => Prog.call (StoreOp.cacheWitness anchorCommitCID witnessCAR)
  | .dynamodb => tryCatch (Prog.call (StoreOp.putItem anchorCommitCID witnessCAR)) fun _ => pure ()

end WitnessService

/-- The anchoring stores its files and its witnesses through the services. -/
def StoreConfig.implementation (config : StoreConfig) : (op : WorldOp) → StoreCode op.Reply
  | .storeCarFile anchorProofCID car => MerkleCarService.storeCarFile config.carStorage anchorProofCID car
  | .storeWitness anchorCommitCID witnessCAR =>
      WitnessService.store config.witnessStorage anchorCommitCID witnessCAR
  | op => Prog.call (StoreOp.world op)

namespace RequestPresentationService

/-- A witness is built and stored where the store has none. -/
def buildAndStore (config : StoreConfig) (anchor : FreshAnchor) (merkleCAR : Car) : StoreCode (Option Car) :=
  match WitnessService.build anchor.cid merkleCAR with
  | .error _ => throw (.thrown "Can not build the witness CAR")
  | .ok witnessCAR => do
      WitnessService.store config.witnessStorage anchor.cid witnessCAR
      pure (some witnessCAR)

def witnessCAR (config : StoreConfig) : Option FreshAnchor → StoreCode (Option Car)
  | none => pure none
  | some anchor => do
      let fromCache ← WitnessService.get config.witnessStorage anchor.cid
      match fromCache with
      | some witnessCAR => pure (some witnessCAR)
      | none => do
          let merkleCAR ← MerkleCarService.retrieveCarFile config.carStorage anchor.proofCid
          match merkleCAR with
          | none => pure none
          | some merkleCAR => buildAndStore config anchor merkleCAR

/-- Only a completed request is presented with its anchor and the witness of the anchor. -/
def response (config : StoreConfig) (request : Request) : StoreCode (Option FreshAnchor × Option Car) :=
  if request.status = .COMPLETED then do
    let anchor : Option FreshAnchor ← Prog.call (StoreOp.findByRequest request)
    let witnessCAR ← witnessCAR config anchor
    pure (anchor, witnessCAR)
  else pure (none, none)

end RequestPresentationService

namespace Stores

/-- The witness was handed to the witness service. -/
def handed (stores : Stores) (anchorCommitCid : Cid) (car : Car) : Stores :=
  { stores with world := { stores.world with
      witnessCars := Function.update stores.world.witnessCars anchorCommitCid (some car) } }

def withItem (stores : Stores) (anchorCommitCid : Cid) (car : Option Car) : Stores :=
  { stores with items := Function.update stores.items anchorCommitCid car }

/-- One process sets or drops an entry of its memory. -/
def remember (memory : Nat → Cid → Option Car) (process : Nat) (cid : Cid) (car : Option Car) :
    Nat → Cid → Option Car :=
  Function.update memory process (Function.update (memory process) cid car)

def withFile (stores : Stores) (process : Nat) (anchorProofCid : Cid) (car : Option Car) : Stores :=
  { stores with files := remember stores.files process anchorProofCid car }

def withWitness (stores : Stores) (process : Nat) (anchorCommitCid : Cid) (car : Option Car) : Stores :=
  { stores with witnesses := remember stores.witnesses process anchorCommitCid car }

/-- Time passes, the caches evict entries, and the items expire. -/
inductive Drifts (config : StoreConfig) (stores : Stores) : Stores → Prop where
  | time {world : World} (passed : stores.world.Drifts world) : Drifts config stores { stores with world }
  | evictFile (process : Nat) (anchorProofCid : Cid) (evicts : config.carStorage = .s3) :
      Drifts config stores (stores.withFile process anchorProofCid none)
  | evictWitness (process : Nat) (anchorCommitCid : Cid) :
      Drifts config stores (stores.withWitness process anchorCommitCid none)
  | expire (anchorCommitCid : Cid) : Drifts config stores (stores.withItem anchorCommitCid none)

/-- The map in memory has the file as soon as it is stored. -/
def withWorld (config : StoreConfig) (thread : Nat) (op : WorldOp) (stores : Stores) (world : World) :
    Stores :=
  match config.carStorage, op with
  | .inmemory, .storeCarFile anchorProofCid car =>
      { stores.withFile (config.process thread) anchorProofCid (some car) with world }
  | _, _ => { stores with world }

end Stores

/-- A memory never rejects, and a read of the table may miss an item. -/
def StoreOp.perform (formats : Formats) (config : StoreConfig) (thread : Nat) :
    (op : StoreOp) → Stores → Except Failure op.Reply → Stores → Prop
  | .world op, stores, reply, next => ∃ world, op.perform formats thread stores.world reply world ∧
      next = stores.withWorld config thread op world
  | .findByRequest request, stores, reply, next => next = stores ∧ ∀ found, reply = .ok found →
      found = stores.world.anchors.lookup FreshAnchor.requestId request.id
  | .cacheFile anchorProofCid car, stores, reply, next => reply = .ok () ∧
      next = stores.withFile (config.process thread) anchorProofCid (some car)
  | .cachedFile anchorProofCid, stores, reply, next => next = stores ∧
      reply = .ok (stores.files (config.process thread) anchorProofCid)
  | .getObject anchorProofCid, stores, reply, next => next = stores ∧ ∀ car, reply = .ok car →
      stores.world.merkleCars anchorProofCid = some car
  | .putItem anchorCommitCid car, stores, reply, next =>
      next = (stores.handed anchorCommitCid car).withItem anchorCommitCid (some car) ∨
      (∃ error, reply = .error error) ∧ next = stores.handed anchorCommitCid car
  | .getItem anchorCommitCid, stores, reply, next => next = stores ∧ ∀ found, reply = .ok found →
      found = none ∨ found = stores.items anchorCommitCid
  | .cacheWitness anchorCommitCid car, stores, reply, next => reply = .ok () ∧
      next = (stores.handed anchorCommitCid car).withWitness (config.process thread) anchorCommitCid
          (some car)
  | .cachedWitness anchorCommitCid, stores, reply, next => next = stores ∧
      reply = .ok (stores.witnesses (config.process thread) anchorCommitCid)

/-- Any number of threads run the deployed tasks or present requests. -/
def storesSystem (formats : Formats) (config : StoreConfig) (deployed : Task → Prop) :
    System StoreOp StoreOp.Reply Failure (Option FreshAnchor × Option Car) Stores where
  entry _ program :=
    (∃ task, deployed task ∧ program = do
      let _ ← (task.run formats).implement config.implementation
      pure (none, none)) ∨
    ∃ request, program = RequestPresentationService.response config request
  perform thread op := op.perform formats config thread
  drift := Stores.Drifts config

end CeramicAnchor
