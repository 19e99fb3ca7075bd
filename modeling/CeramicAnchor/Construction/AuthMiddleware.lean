import CeramicAnchor.Construction.Car
import CeramicAnchor.Encoding.Json

/-
This file translates the auth middleware of the server and the parser of the anchor requests.
-/

namespace CeramicAnchor

/-- The body parsers leave a buffer or a JSON value, and without them the body is undefined. -/
inductive HttpBody where
  | undefined
  | bytes (value : List UInt8)
  | json (value : Json)
  deriving DecidableEq

/-- JavaScript takes these values as false in a condition. -/
def Json.falsy : Json → Bool
  | .null => true
  | .bool value => !value
  | .number (.finite digits) => decide (digits = .zero)
  | .number .negativeZero => true
  | .text value => decide (value = [])
  | _ => false

namespace HttpBody

def falsy : HttpBody → Bool
  | .undefined => true
  | .bytes _ => false
  | .json value => value.falsy

/-- A buffer, a text, an array and an object have keys, and any other value has none. -/
def hasKeys : HttpBody → Bool
  | .bytes value => decide (value ≠ [])
  | .json (.text value) => decide (value ≠ [])
  | .json (.array items) => decide (items ≠ .nil)
  | .json (.object fields) => decide (fields ≠ .nil)
  | _ => false

def bufferItems : List UInt8 → JsonItems
  | [] => .nil
  | byte :: rest => .cons (.number (.finite (.ofNat byte.toNat))) (bufferItems rest)

/-- A buffer prints as an object with its type and its bytes. -/
def toJson : HttpBody → Json
  | .undefined => .null
  | .bytes value => .object (.ofList
      [("type", .text (JsString.ofString "Buffer")), ("data", .array (bufferItems value))])
  | .json value => value

end HttpBody

section Middleware

/-- The payload of a token is any JSON value, of which these are two properties. -/
structure VerifyJWSResult where
  did : Option String
  nonce : Option Json
  digest : Option Json

/-- The verification of tokens, the CAR files, the hash and the text of a CID are external. -/
structure AuthExternals (C : Type) where
  verifyJWS : String → Except String VerifyJWSResult
  fromBytes : HttpBody → Option C
  sha256 : List UInt8 → List UInt8
  cidText : Cid → String

structure AuthOpts where
  allowedDIDs : List String
  isRelaxed : Bool

/-- These are the headers that the middleware reads. -/
structure AuthRequest where
  did : Option String
  digest : Option String
  contentType : Option String
  authorization : Option String
  body : HttpBody

inductive DisallowReason where
  | INVALID_DIGEST
  | DID_ALLOWLIST_NO_HEADER
  | DID_ALLOWLIST_NO_DID
  | DID_ALLOWLIST_NO_FIELDS
  | DID_ALLOWLIST_REJECTED
  deriving DecidableEq, Repr

inductive AuthResponse where
  | next
  | disallow (reason : DisallowReason)
  | internalServerError
  deriving DecidableEq, Repr

/-- The media type of CAR files. -/
def CAR_TYPE : String := "application/vnd.ipld.car"

def AuthRequest.hasBody (request : AuthRequest) : Bool := !request.body.falsy && request.body.hasKeys

/-- The token is what follows the first separator, up to the end of its line. -/
def bearerMatch (authorization : String) : Option String :=
  (afterSeparator "Bearer ".toList authorization.toList).map fun rest =>
    String.ofList (rest.takeWhile fun char => char ∉ ['\n', '\r', '\u2028', '\u2029'])

def isAllowedDID (did : String) (opts : AuthOpts) : Bool := opts.isRelaxed || did ∈ opts.allowedDIDs

variable {C : Type} [CarFile C] (externals : AuthExternals C)

def carDigest (body : HttpBody) : Option String :=
  match externals.fromBytes body with
  | none => none
  | some car => match (CarFile.roots car)[0]? with
    | none => none
    | some root => some (externals.cidText root)

def bodyHash (body : HttpBody) : String :=
  "0x" ++ base16 (externals.sha256 (String.ofList body.toJson.stringify).toUTF8.data.toList)

/-- A JSON body is hashed as any other body is by default. -/
def buildBodyDigest (contentType : Option String) (body : HttpBody) : Option String :=
  if body.falsy then none
  else match contentType with
    | none => some (bodyHash externals body)
    | some contentType =>
        if Includes contentType CAR_TYPE then carDigest externals body
        else if Includes contentType "application/json" then some (bodyHash externals body)
        else some (bodyHash externals body)

def AuthRequest.bodyDigest (request : AuthRequest) : Option String :=
  buildBodyDigest externals request.contentType request.body

/-- An absent property is false in a condition. -/
def falsyProperty (value : Option Json) : Bool :=
  match value with
  | none => true
  | some value => value.falsy

/-- The header must carry a verified token with the digest of the body and an allowed DID. -/
def checkAuthorization (opts : AuthOpts) (request : AuthRequest) :
    Except AuthResponse (String × Option Json) :=
  match bearerMatch (request.authorization.getD "") with
  | none => .error (.disallow .DID_ALLOWLIST_NO_HEADER)
  | some jws =>
      if jws = "" then .error (.disallow .DID_ALLOWLIST_NO_HEADER)
      else match externals.verifyJWS jws with
        | .error _ => .error .internalServerError
        | .ok result =>
            let did := result.did.getD ""
            if did = "" then .error (.disallow .DID_ALLOWLIST_NO_DID)
            else if falsyProperty result.nonce ∨ falsyProperty result.digest then
              .error (.disallow .DID_ALLOWLIST_NO_FIELDS)
            else if result.digest ≠ (request.bodyDigest externals).map (fun digest =>
                Json.text (JsString.ofString digest)) then
              .error (.disallow .INVALID_DIGEST)
            else if ¬ isAllowedDID did opts then .error (.disallow .DID_ALLOWLIST_REJECTED)
            else .ok (did, result.digest)

/-- An empty header is false in a condition, and so it counts as absent. -/
def AuthRequest.usesLambda (request : AuthRequest) : Bool := request.did.getD "" ≠ "" && request.hasBody

def AuthRequest.usesAllowlist (request : AuthRequest) (opts : AuthOpts) : Bool :=
  !request.usesLambda && opts.allowedDIDs ≠ [] && request.hasBody

/-- On the lambda path the digest header is compared with a digest that may be undefined. -/
def auth (opts : AuthOpts) (request : AuthRequest) : AuthResponse :=
  if request.usesLambda then
    if request.digest = request.bodyDigest externals then .next else .disallow .INVALID_DIGEST
  else if request.usesAllowlist opts then
    match checkAuthorization externals opts request with
    | .error response => response
    | .ok _ => .next
  else
    .next

end Middleware

section Parser

/-- These are the request parameters that the parser returns. -/
structure AnchorRequestParams where
  streamId : Cid
  cid : Cid
  timestamp : Int
  jsCeramicVersion : Option JsString
  ceramicOneVersion : Option JsString

/-- The codecs of stream ids, CIDs, dates and optional texts are external, and each may fail. -/
structure ParamsCodecs where
  streamIdAsString : JsString → Option Cid
  cidAsString : JsString → Option Cid
  date : Option Json → Option Int
  optionalString : Option Json → Option (Option JsString)
  streamIdAsBytes : List UInt8 → Option Cid
  recordDate : Option Ipld → Option Int

def stringProperty {A : Type} (codec : JsString → Option A) (value : Option Json) : Option A :=
  match value with
  | some (.text text) => codec text
  | _ => none

def bytesProperty {A : Type} (codec : List UInt8 → Option A) (value : Option Ipld) : Option A :=
  match value with
  | some (.bytes bytes) => codec bytes
  | _ => none

def cidProperty (value : Option Ipld) : Option Cid :=
  match value with
  | some (.link cid) => some cid
  | _ => none

variable (codecs : ParamsCodecs)

def RequestAnchorParamsV3.decode (value : Json) : Option AnchorRequestParams := do
  let streamId ← stringProperty codecs.streamIdAsString (value.property "streamId")
  let cid ← stringProperty codecs.cidAsString (value.property "cid")
  let timestamp ← codecs.date (value.property "timestamp")
  let jsCeramicVersion ← codecs.optionalString (value.property "jsCeramicVersion")
  let ceramicOneVersion ← codecs.optionalString (value.property "ceramicOneVersion")
  pure ⟨streamId, cid, timestamp, jsCeramicVersion, ceramicOneVersion⟩

def RequestAnchorParamsV2Root.decode (record : Ipld) : Option AnchorRequestParams := do
  let streamId ← bytesProperty codecs.streamIdAsBytes (record.property "streamId")
  let timestamp ← codecs.recordDate (record.property "timestamp")
  let tip ← cidProperty (record.property "tip")
  pure ⟨streamId, tip, timestamp, none, none⟩

/-- A buffer has none of the properties of the legacy requests. -/
def decodeLegacy (body : HttpBody) : Option AnchorRequestParams :=
  match body with
  | .json value => RequestAnchorParamsV3.decode codecs value
  | _ => none

variable {C : Type} [CarFile C] (externals : AuthExternals C)

/-- The record of the first root gives the parameters. -/
def decodeCarFile (body : HttpBody) : Option AnchorRequestParams := do
  let carFile ← externals.fromBytes body
  let rootCid ← (CarFile.roots carFile)[0]?
  let rootRecord ← CarFile.get carFile rootCid
  RequestAnchorParamsV2Root.decode codecs rootRecord

/-- The parser compares the whole content type. -/
def AuthRequest.parse (request : AuthRequest) : Option AnchorRequestParams :=
  if request.contentType ≠ some CAR_TYPE then decodeLegacy codecs request.body
  else decodeCarFile codecs externals request.body

end Parser

end CeramicAnchor
