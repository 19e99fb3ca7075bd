import CeramicAnchor.Construction.DynamoDB

/-
This file translates the authorizer of the gateway and gives the meaning of the commands to the tables.
-/

namespace CeramicAnchor
open Concurrency Storage

namespace DynamoDB

/-- A signature may resolve to no document, and its payload may lack a nonce or hold one that is no text. -/
structure VerifyJWSResult where
  did : Option String
  nonce : Option String
  digest : Option String

/-- The verification of signatures and the validation of identifiers are external. -/
structure AuthFormats where
  parseSignature : String → Option VerifyJWSResult
  uuid : String → Bool

structure AuthConfig where
  CERAMIC_NETWORK : String
  ALLOWED_IP_ADDRESSES : String → Bool

structure AuthorizerEvent where
  authorization : Option String
  methodArn : String
  sourceIp : String

structure PolicyContext where
  did : Option String
  digest : Option String
  sourceIp : String
  deriving DecidableEq, Repr

structure Policy where
  principalId : String
  effect : String
  resource : String
  usageIdentifierKey : String
  context : PolicyContext
  deriving DecidableEq, Repr

def generatePolicy (principalId effect resource usageIdentifierKey : String) (context : PolicyContext) :
    Policy :=
  ⟨principalId, effect, resource, usageIdentifierKey, context⟩

inductive AuthorizerResponse where
  | unauthorized
  | policy (policy : Policy)
  deriving DecidableEq, Repr

/-- This text stands before the token of a header. -/
def BEARER : String := "Bearer "

def authBearerRegex (authorization : String) : Bool := decide (Includes authorization BEARER)

/-- The header must pass its validation, and an empty token counts as missing. -/
def bearerToken (event : AuthorizerEvent) : Option String :=
  match event.authorization with
  | none => none
  | some authorization =>
      if ¬ authBearerRegex authorization then none
      else match secondPart authorization BEARER with
        | none => none
        | some jws => if jws = "" then none else some jws

variable (formats : AuthFormats) (config : AuthConfig)

/-- The verified token names the DID and the nonce, which are validated before the database is asked. -/
def signedNonce (jws : String) : Option (String × String × Option String) :=
  match formats.parseSignature jws with
  | none => none
  | some result => match result.did, result.nonce with
    | some did, some nonce =>
        if did ≠ "" ∧ nonce ≠ "" ∧ didRegex did ∧ formats.uuid nonce then some (did, nonce, result.digest)
        else none
    | _, _ => none

def allowRegisteredDID (event : AuthorizerEvent) (jws : String) : AuthCode AuthorizerResponse :=
  match signedNonce formats jws with
  | none => pure .unauthorized
  | some (did, nonce, digest) => do
      let data ← addNonce did nonce
      match data with
      | none => pure .unauthorized
      | some stored =>
          if stored.1 = did ∧ stored.2 = nonce then
            pure (.policy (generatePolicy did "Allow" event.methodArn did ⟨some did, digest, event.sourceIp⟩))
          else
            pure .unauthorized

/-- A policy for an address names no DID. -/
def allowAddress (event : AuthorizerEvent) : AuthorizerResponse :=
  .policy (generatePolicy event.sourceIp "Allow" event.methodArn event.sourceIp ⟨none, none, event.sourceIp⟩)

def handler (event : AuthorizerEvent) : AuthCode AuthorizerResponse :=
  if config.CERAMIC_NETWORK = "testnet-clay" then
    pure (allowAddress event)
  else if config.ALLOWED_IP_ADDRESSES event.sourceIp then
    pure (allowAddress event)
  else match bearerToken event with
    | none => pure .unauthorized
    | some jws => allowRegisteredDID formats event jws

section Registry

/-- The tables are the whole shared state. -/
abbrev AuthTables := TableName → Documents

/-- The command resolves with a value. -/
def DynamoOp.Resolves : (op : DynamoOp) → AuthTables → op.Reply → AuthTables → Prop
  | .now, tables, _, next => next = tables
  | .randomUUID, tables, _, next => next = tables
  | .getItem table PK SK, tables, (found : Option Item), next => found = tables table (PK, SK) ∧ next = tables
  | .putItem table item condition, tables, _, next =>
      (tables table).Admits (item.PK, item.SK) condition ∧
        next = Function.update tables table ((tables table).put item)
  | .updateItem table PK SK entries condition, tables, (output : Option (Option Item)), next =>
      (tables table).Admits (PK, SK) condition ∧
        next = Function.update tables table ((tables table).update PK SK entries) ∧
        ∀ attributes, output = some (some attributes) → attributes = (tables table).updated PK SK entries
  | .query table PK filter, tables, (found : Option (List Item)), next =>
      (∀ items ∈ found, ∀ item ∈ items, item.PK = PK ∧ tables table (item.PK, item.SK) = some item ∧
        filter.holds (some item) = true) ∧ next = tables

/-- The condition of the command fails. -/
def DynamoOp.Refused : DynamoOp → AuthTables → Prop
  | .putItem table item condition, tables => ¬ (tables table).Admits (item.PK, item.SK) condition
  | .updateItem table PK SK _ condition, tables => ¬ (tables table).Admits (PK, SK) condition
  | _, _ => False

/-- The process reads its clock and its random source without the database. -/
def DynamoOp.IsLocal : DynamoOp → Prop
  | .now => True
  | .randomUUID => True
  | _ => False

/-- A rejected command had no effect, or its effect took place and the answer was lost. -/
def DynamoOp.perform (op : DynamoOp) (tables : AuthTables) (reply : Except DynamoError op.Reply)
    (next : AuthTables) : Prop :=
  match reply with
  | .ok value => op.Resolves tables value next
  | .error .conditionalCheckFailed =>
      (op.Refused tables ∧ next = tables) ∨ ∃ value, ¬ op.IsLocal ∧ op.Resolves tables value next
  | .error .itemNotFound => False
  | .error (.thrown _) => False
  | .error _ => ¬ op.IsLocal ∧ (next = tables ∨ ∃ value, op.Resolves tables value next)

/-- These are the calls that the endpoints and the gateway make. -/
inductive AuthCall where
  | registerDIDs (email otp : String) (dids : List String) (skipOTP : Bool)
  | createEmailVerificationCode (email : String)
  | revokeDID (email otp did : String)
  | authorize (event : AuthorizerEvent)

inductive AuthResult where
  | registered (results : List DIDResult)
  | code (otp : Option String)
  | revocation (result : Revocation)
  | answer (response : AuthorizerResponse)

def AuthCall.program : AuthCall → AuthCode AuthResult
  | .registerDIDs email otp dids skipOTP => do
      let results ← DynamoDB.registerDIDs email otp dids skipOTP
      pure (.registered results)
  | .createEmailVerificationCode email => do
      let otp ← DynamoDB.createEmailVerificationCode email
      pure (.code otp)
  | .revokeDID email otp did => do
      let result ← DynamoDB.revokeDID email otp did
      pure (.revocation result)
  | .authorize event => do
      let response ← handler formats config event
      pure (.answer response)

/-- Each thread makes one call, and time is not shared between the processes. -/
def registry (calls : Nat → AuthCall) : System DynamoOp DynamoOp.Reply DynamoError AuthResult AuthTables where
  entry thread program := program = (calls thread).program formats config
  perform _ op := op.perform
  drift _ _ := False

end Registry

end DynamoDB

end CeramicAnchor
