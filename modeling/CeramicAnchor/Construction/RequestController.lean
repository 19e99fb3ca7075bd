import CeramicAnchor.Construction.RequestPresentationService

/-
This file translates the route that answers with the status of a request, and the bodies of its answers.
-/

namespace CeramicAnchor
open Concurrency Storage

/-- These are the statuses that a client sees. -/
inductive AnchorRequestStatusName where
  | PENDING
  | PROCESSING
  | COMPLETED
  | FAILED
  | READY
  | REPLACED
  deriving DecidableEq, Repr

/-- Only the response to a completed request has an anchor commit. -/
structure CASResponse where
  id : String
  status : AnchorRequestStatusName
  cid : Cid
  streamId : Cid
  message : String
  createdAt : Int
  updatedAt : Int
  anchorCommit : Option Cid
  witnessCar : Option Car

inductive StatusResponse where
  | ok (body : CASResponse)
  | notFound (error : String)
  | badRequest (error : String)

namespace RequestPresentationService

/-- A completed request has a name of its own, which this table does not give. -/
def nameFromStatus : RequestStatus → AnchorRequestStatusName
  | .REPLACED => .REPLACED
  | .FAILED => .FAILED
  | .PENDING => .PENDING
  | .PROCESSING => .PROCESSING
  | .READY => .READY
  | .COMPLETED => .READY

variable (formats : Formats) (config : StoreConfig)

def parseCid (text : String) : StoreCode Cid :=
  match formats.parseCid text with
  | some cid => pure cid
  | none => throw (.thrown s!"Invalid CID {text}")

def parseStreamId (text : String) : StoreCode Cid :=
  match formats.parseStreamId text with
  | some streamId => pure streamId
  | none => throw (.thrown s!"Invalid stream id {text}")

def notCompleted (request : Request) : StoreCode CASResponse := do
  let cid ← parseCid formats request.cid
  let streamId ← parseStreamId formats request.streamId
  pure ⟨request.id, nameFromStatus request.status, cid, streamId, request.message, request.createdAt,
    request.updatedAt, none, none⟩

/-- The CID of the request stands in for that of a missing anchor. -/
def anchorCommitOf (request : Request) : Option FreshAnchor → StoreCode Cid
  | some anchor => pure anchor.cid
  | none => parseCid formats request.cid

def completed (request : Request) (anchor : Option FreshAnchor) (witnessCAR : Option Car) :
    StoreCode CASResponse := do
  let anchorCommit ← anchorCommitOf formats request anchor
  let cid ← parseCid formats request.cid
  let streamId ← parseStreamId formats request.streamId
  pure ⟨request.id, .COMPLETED, cid, streamId, request.message, request.createdAt, request.updatedAt,
    some anchorCommit, witnessCAR⟩

def body (request : Request) : StoreCode CASResponse :=
  if request.status = .COMPLETED then do
    let (anchor, witnessCAR) ← response config request
    completed formats request anchor witnessCAR
  else notCompleted formats request

end RequestPresentationService

namespace RequestService

def load (cid : String) : StoreCode (Option Request) :=
  lookup (Prog.call (StoreOp.world (.replicaFindByCid cid))) (Prog.call (StoreOp.world (.findByCid cid)))

/-- A CID without a request has an error of its own. -/
def getStatusForCid (formats : Formats) (config : StoreConfig) (cid : String) :
    StoreCode (Except String CASResponse) := do
  let request ← load cid
  match request with
  | none => pure (.error s!"Request does not exist for cid {cid}")
  | some request => do
      let body ← RequestPresentationService.body formats config request
      pure (.ok body)

end RequestService

namespace RequestController

/-- The parameter is absent where it is no CID. -/
def getStatusForCid (formats : Formats) (config : StoreConfig) (params : Option String) :
    StoreCode StatusResponse :=
  match params with
  | none => pure (.badRequest "CID is empty or malformed")
  | some cid =>
      tryCatch (do
        let found ← RequestService.getStatusForCid formats config cid
        match found with
        | .ok body => pure (.ok body)
        | .error message => pure (.notFound message)) fun err =>
        pure (.badRequest s!"Loading request status for CID {cid} failed: {err.message}")

end RequestController

/-- An answer is kept with the parameter that it was asked for. -/
structure Answer where
  params : Option String
  response : StatusResponse

/-- Any number of threads run the deployed tasks or answer with the status of a request. -/
def apiSystem (formats : Formats) (config : StoreConfig) (deployed : Task → Prop) :
    System StoreOp StoreOp.Reply Failure (Option Answer) Stores where
  entry _ program :=
    (∃ task, deployed task ∧ program = do
      let _ ← (task.run formats).implement config.implementation
      pure none) ∨
    ∃ params, program = do
      let response ← RequestController.getStatusForCid formats config params
      pure (some ⟨params, response⟩)
  perform thread op := op.perform formats config thread
  drift := Stores.Drifts config

end CeramicAnchor
