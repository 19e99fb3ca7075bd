import CeramicAnchor.Construction.AuthMiddleware
import CeramicAnchor.Construction.RequestService

/-
This file translates the server, which puts the auth middleware before the route of the anchor requests.
-/

namespace CeramicAnchor

/-- The controller reads the address of the client beside what the middleware reads. -/
structure HttpPost extends AuthRequest where
  sourceIp : Option String
  xForwardedFor : Option String
  ip : String

def HttpPost.expReq (post : HttpPost) : ExpReq := ⟨post.did, post.sourceIp, post.xForwardedFor, post.ip⟩

structure AuthConfig where
  required : Bool
  dids : Option String
  relaxed : Bool

/-- An absent or empty text lists no DID. -/
def parseAllowedDIDs (dids : Option String) : List String :=
  match dids with
  | none => []
  | some dids => if dids = "" then [] else (dids.toList.splitOn ',').map String.ofList

/-- The text of a stream id and the report of a failed validation are external, as are the codecs. -/
structure CeramicAnchorServer (C : Type) where
  config : AuthConfig
  requestService : RequestService
  externals : AuthExternals C
  codecs : ParamsCodecs
  streamIdText : Cid → String
  report : AuthRequest → List String

namespace CeramicAnchorServer

variable {C : Type} [CarFile C] (server : CeramicAnchorServer C) (post : HttpPost)

def authOpts : AuthOpts := ⟨parseAllowedDIDs server.config.dids, server.config.relaxed⟩

/-- The middleware is used only where the configuration requires it. -/
def authorize : AuthResponse :=
  if server.config.required then auth server.externals server.authOpts post.toAuthRequest else .next

def requestParams (params : AnchorRequestParams) : RequestAnchorParams :=
  ⟨server.externals.cidText params.cid, server.streamIdText params.streamId, some params.timestamp⟩

def validation : Except (List String) RequestAnchorParams :=
  match post.parse server.codecs server.externals with
  | none => .error (server.report post.toAuthRequest)
  | some params => .ok (server.requestParams params)

/-- A refused request starts no task. -/
def createRequest : Except AuthResponse Task :=
  match server.authorize post with
  | .next => .ok (.createRequest server.requestService post.expReq (server.validation post))
  | response => .error response

/-- A request is created only for a POST request that this server has admitted. -/
def Serves (task : Task) : Prop :=
  ∀ service req validation, task = .createRequest service req validation →
    ∃ post, server.createRequest post = .ok task

end CeramicAnchorServer

end CeramicAnchor
