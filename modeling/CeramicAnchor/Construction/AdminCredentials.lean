import CeramicAnchor.Construction.DidRoute
import CeramicAnchor.Encoding.Base64
import CeramicAnchor.Numerics.Double

/-
This file translates the encoding and the decoding of the credentials of the administrator.
-/

namespace CeramicAnchor.DynamoDB
open Concurrency Numerics

/-- The hash and the reading of base 64 texts are external. -/
structure CredentialCodecs where
  sha256 : List UInt8 → List UInt8
  fromBase64 : String → String

structure DecodedCredentials where
  username : String
  password : Option String
  expirationUnixTimestamp : Number

def toBase64 (text : String) : String := String.ofList (Base64.print text.toUTF8.data.toList)

namespace CredentialCodecs

variable (codecs : CredentialCodecs)

def sha256HashString (text : String) : String := "0x" ++ base16 (codecs.sha256 text.toUTF8.data.toList)

/-- A timestamp that is missing or zero gives way to the time in four hours. -/
def encodeAdminCredentials (inFourHours : WholeNumber) (username password : String)
    (expirationUnixTimestamp : Option WholeNumber) : String :=
  let expiration := (expirationUnixTimestamp.filter fun given => given.value ≠ 0).getD inFourHours
  toBase64 (codecs.sha256HashString username ++ "#" ++ String.ofList expiration.toText ++ ":" ++
    codecs.sha256HashString password)

/-- A missing timestamp is no number either. -/
def decodeAdminCredentials (credentials : String) : Except String DecodedCredentials :=
  let text := codecs.fromBase64 credentials
  let front := firstPart text ":"
  match (secondPart front "#").elim Number.nan fun exp => Number.ofText exp.toList with
  | .nan => .error "Failed to decode credentials. Expiration is not a valid unix timestamp"
  | number => .ok ⟨firstPart front "#", secondPart text ":", number⟩

end CredentialCodecs

/-- The endpoint decodes and hashes with these codecs. -/
def RouteFormats.withCredentials (formats : RouteFormats) (codecs : CredentialCodecs) : RouteFormats :=
  { formats with
    decodeAdminCredentials := fun credentials =>
      (codecs.decodeAdminCredentials credentials).map fun decoded =>
      ⟨decoded.username, decoded.password, decoded.expirationUnixTimestamp.lt⟩
    sha256HashString := codecs.sha256HashString }

/-- The code asks only for the time, and this is what it returns then. -/
def atTime {A : Type} (time : Int) : RouteCode A → Option A
  | .done value => some value
  | .fail _ => none
  | .halted => none
  | .ask (.database .now) next => atTime time (next (.ok time))
  | .ask _ _ => none

end CeramicAnchor.DynamoDB
