import CeramicAnchor.Construction.AnchorService

/-
This file translates the request service, its controller and the tasks that the processes run.
-/

namespace CeramicAnchor
open Concurrency Storage

/-- The decoded parameters of an anchor request. -/
structure RequestAnchorParams where
  cid : String
  streamId : String
  timestamp : Option Int

/-- These are the headers and the address that the controller reads. -/
structure ExpReq where
  did : Option String
  sourceIp : Option String
  xForwardedFor : Option String
  ip : String

def Storage.Failure.message : Failure → String
  | .serialization => "could not serialize access due to concurrent update"
  | .rejected message => message
  | .thrown message => message

structure RequestService where
  publishToQueue : Bool

namespace RequestService

/-- The request is read from the main database when the replica fails or does not have it yet. -/
def lookup {Op : Type} {Reply : Op → Type} (replica main : Prog Op Reply Failure (Option Request)) :
    Prog Op Reply Failure (Option Request) := do
  let found ← replica.attempt
  match found with
  | .ok (some found) => pure (some found)
  | _ => main

def findByCid (cid : String) : Code Request := do
  let found ← lookup (Prog.call (WorldOp.replicaFindByCid cid)) (Prog.call (WorldOp.findByCid cid))
  match found with
  | some found => do
      Prog.call (WorldOp.presentBody found)
      pure found
  | none => throw (.thrown s!"Request does not exist for cid {cid}")

/-- In queue mode the validation worker replaces the older requests. -/
def settle (service : RequestService) (origin : String) (storedRequest : Request) : Code Unit :=
  if service.publishToQueue then
    Prog.call (WorldOp.sendMessage ⟨storedRequest.id, storedRequest.cid, storedRequest.streamId,
      storedRequest.timestamp, some origin, storedRequest.createdAt⟩)
  else do
    let _replaced : Nat ← Prog.call
      (WorldOp.markReplaced storedRequest.origin storedRequest.streamId storedRequest.cid)
    pure ()

def timestampOf (params : RequestAnchorParams) : Code Int :=
  match params.timestamp with
  | some timestamp => pure timestamp
  | none => Prog.call WorldOp.now

/-- A request whose CID is stored already is neither settled nor returned. -/
def create (service : RequestService) (params : RequestAnchorParams) (origin : String) :
    Code (Option Request) := do
  let timestamp ← timestampOf params
  let storedRequest : Option Request ← Prog.call (WorldOp.insertRequest
    ⟨.PENDING, params.cid, params.streamId, "Request is pending.", true, timestamp, some origin⟩)
  match storedRequest with
  | none => pure none
  | some storedRequest => do
      settle service origin storedRequest
      Prog.call (WorldOp.presentBody storedRequest)
      pure (some storedRequest)

end RequestService

/-- A response carries the presented request or an error text. -/
inductive Response where
  | created (body : Request)
  | accepted (body : Request)
  | badRequest (error : String)

namespace RequestController

/-- These characters are removed at both ends of a text by `trim`. -/
def isTrimmed (character : Char) : Bool :=
  character.toNat ∈ [0x09, 0x0a, 0x0b, 0x0c, 0x0d, 0x20, 0xa0, 0x1680, 0x2000, 0x2001, 0x2002, 0x2003,
    0x2004, 0x2005, 0x2006, 0x2007, 0x2008, 0x2009, 0x200a, 0x2028, 0x2029, 0x202f, 0x205f, 0x3000, 0xfeff]

def trim (text : List Char) : List Char :=
  ((text.dropWhile isTrimmed).reverse.dropWhile isTrimmed).reverse

/-- An absent or empty header counts as missing. -/
def header (value : Option String) : Option String := value.filter (· ≠ "")

def parseOriginDID (req : ExpReq) : Option String := header req.did

def parseOriginIP (req : ExpReq) : String :=
  match header req.sourceIp with
  | some sourceIp => sourceIp
  | none =>
      let addresses := (header req.xForwardedFor).getD req.ip
      String.ofList (trim (addresses.toList.takeWhile (· ≠ ',')))

def parseOrigin (req : ExpReq) : String := (parseOriginDID req).getD (parseOriginIP req)

def getBadRequestResponse (err : Failure) (requestParams : RequestAnchorParams)
    (originDID originIP : String) :
    Response :=
  .badRequest (s!"Creating request with streamId {requestParams.streamId} " ++
    s!"and commit CID {requestParams.cid} from IP: {originIP} and DID: {originDID} " ++
    s!" failed: {err.message}")

/-- A new request is answered with CREATED, and a known one with ACCEPTED. -/
def createRequest (service : RequestService) (req : ExpReq)
    (validation : Except (List String) RequestAnchorParams) : Code Response :=
  match validation with
  | .error report => pure (.badRequest (";".intercalate report))
  | .ok requestParams =>
      tryCatch (do
        let body ← service.create requestParams (parseOrigin req)
        match body with
        | some body => pure (.created body)
        | none => do
            let found ← RequestService.findByCid requestParams.cid
            pure (.accepted found)) fun err =>
        pure (getBadRequestResponse err requestParams ((parseOriginDID req).getD "none") (parseOriginIP req))

end RequestController

/-- These are the tasks of the API servers, the schedulers and the workers. -/
inductive Task where
  | createRequest (service : RequestService) (req : ExpReq)
      (validation : Except (List String) RequestAnchorParams)
  | emitAnchorEventIfReady (service : AnchorService) (fuel : Nat)
  | anchorRequests (service : AnchorService) (fuel : Nat)
  | findAndMarkAsProcessing (fuel : Nat)

/-- Only a POST request has a response. -/
def Task.run (formats : Formats) : Task → Code (Option Response)
  | .createRequest service req validation => do
      let response ← RequestController.createRequest service req validation
      pure (some response)
  | .emitAnchorEventIfReady service fuel => do
      service.emitAnchorEventIfReady fuel
      pure none
  | .anchorRequests service fuel => do
      let _processed ← service.anchorRequests formats fuel
      pure none
  | .findAndMarkAsProcessing fuel => do
      let _requests ← RequestRepository.findAndMarkAsProcessing worldClient fuel
      pure none

/-- These tasks use no queue. -/
def Task.Queueless : Task → Prop
  | .createRequest service _ _ => service.publishToQueue = false
  | .emitAnchorEventIfReady service _ => service.useQueueBatches = false
  | .anchorRequests service _ => service.useQueueBatches = false
  | .findAndMarkAsProcessing _ => True

/-- Any number of threads run the deployed tasks on one world. -/
def casSystem (formats : Formats) (deployed : Task → Prop) :
    System WorldOp WorldOp.Reply Failure (Option Response) World where
  entry _ program := ∃ task, deployed task ∧ program = task.run formats
  perform thread op world reply next := op.perform formats thread world reply next
  drift := World.Drifts

abbrev Cas := Pool WorldOp WorldOp.Reply Failure (Option Response) World

/-- The service starts with an empty database. -/
def Cas.start (clock : Int) : Cas := .idle (.empty clock)

end CeramicAnchor
