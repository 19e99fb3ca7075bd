import CeramicAnchor.Concurrency.Run
import CeramicAnchor.Storage.Document
import Mathlib.Data.List.SplitBy

/-
This file translates the database of the auth service,
which registers and revokes DIDs and stores their nonces.
-/

namespace CeramicAnchor
open Concurrency Storage

namespace DynamoDB

inductive DIDStatus where
  | Active
  | Revoked
  deriving DecidableEq, Repr

def DIDStatus.text : DIDStatus → String
  | .Active => "Active"
  | .Revoked => "Revoked"

inductive OTPStatus where
  | Active
  | Revoked
  | Expired
  | Used
  deriving DecidableEq, Repr

def OTPStatus.text : OTPStatus → String
  | .Active => "Active"
  | .Revoked => "Revoked"
  | .Expired => "Expired"
  | .Used => "Used"

/-- A registration is the item of its DID with this sort key. -/
def INITIAL_NONCE : String := "0"

inductive TableName where
  | DID
  | OTP
  deriving DecidableEq, Repr

/-- A failed condition and a missing table are told apart from any other rejection. -/
inductive DynamoError where
  | conditionalCheckFailed
  | resourceNotFound
  | rejected (message : String)
  | itemNotFound
  | thrown (message : String)
  deriving DecidableEq, Repr

/-- These are the commands of the client, the clock of its process and the source of new codes. -/
inductive DynamoOp where
  | now
  | randomUUID
  | getItem (table : TableName) (PK SK : String)
  | putItem (table : TableName) (item : Item) (condition : Option Condition)
  | updateItem (table : TableName) (PK SK : String) (entries : List (String × Attribute))
      (condition : Option Condition)
  | query (table : TableName) (PK : String) (filter : Condition)

/-- An update may give no output, or an output without attributes. -/
abbrev DynamoOp.Reply : DynamoOp → Type
  | .now => Int
  | .randomUUID => String
  | .getItem _ _ _ => Option Item
  | .putItem _ _ _ => Unit
  | .updateItem _ _ _ _ _ => Option (Option Item)
  | .query _ _ _ => Option (List Item)

abbrev AuthCode (A : Type) := Prog DynamoOp DynamoOp.Reply DynamoError A

/-- The class `\s` of the regular expressions. -/
def isSpace (char : Char) : Bool :=
  char.toNat ∈ [9, 10, 11, 12, 13, 32, 160, 5760, 8232, 8233, 8239, 8287, 12288, 65279] ∨
    (8192 ≤ char.toNat ∧ char.toNat ≤ 8202)

/-- A word has the form `\S+:\S+:\S+`, and the first possible colons decide. -/
def wordMatches (word : List Char) : Bool :=
  let fromColon := (word.drop 1).dropWhile fun char => char ≠ ':'
  let fromSecond := (fromColon.drop 2).dropWhile fun char => char ≠ ':'
  2 ≤ fromSecond.length

/-- The regular expression is not anchored. -/
def didRegex (did : String) : Bool := (did.toList.splitOnP isSpace).any wordMatches

def now : AuthCode Int := Prog.call DynamoOp.now

def getItem (tableName : TableName) (pk sk : String) : AuthCode Item := do
  let results : Option Item ← Prog.call (DynamoOp.getItem tableName pk sk)
  match results with
  | none => throw .itemNotFound
  | some data => pure data

/-- The status of a found item is compared as it is, and any rejection counts as no registration. -/
def getDIDRegistration (did : String) (status : Option DIDStatus) : AuthCode (Option Item) :=
  tryCatch (do
    let data ← getItem .DID did INITIAL_NONCE
    if data.get "curr_status" ≠ status.map (fun wanted => .text wanted.text) then
      let wanted := (status.map DIDStatus.text).getD "undefined"
      throw (.thrown s!"Item found but status is not {wanted}")
    else
      pure (some data)) fun _ => pure none

def nonceItem (did nonce : String) (createdAtUnix updatedAtUnix : Int) : Item :=
  ⟨did, nonce, [("created_at_unix", .number createdAtUnix), ("updated_at_unix", .number updatedAtUnix)]⟩

/-- The write has a condition on the nonce only. -/
def putNonce (did nonce : String) : AuthCode (Option (String × String)) := do
  let createdAtUnix ← now
  let updatedAtUnix ← now
  tryCatch (do
    Prog.call (DynamoOp.putItem .DID (nonceItem did nonce createdAtUnix updatedAtUnix)
      (some (.attributeNotExists "PK")))
    pure (some (did, nonce))) fun _ => pure none

/-- The registration is read before the nonce is written. -/
def addNonce (did nonce : String) : AuthCode (Option (String × String)) := do
  let activeDID ← getDIDRegistration did (some .Active)
  match activeDID with
  | none => pure none
  | some _ => putNonce did nonce

section EmailVerification

def getActiveOTPs (email : String) : AuthCode (List Item) := do
  let results : Option (List Item) ← Prog.call
    (DynamoOp.query .OTP email (.contains "curr_status" OTPStatus.Active.text))
  match results with
  | none => throw .itemNotFound
  | some items => pure items

def updateOTP (item : Item) (nextStatus : OTPStatus) : AuthCode Unit := do
  let updatedAtUnix ← now
  let _ ← Prog.call (DynamoOp.updateItem .OTP item.PK item.SK
    [("curr_status", .text nextStatus.text), ("updated_at_unix", .number updatedAtUnix)]
    (some ((Condition.attributeExists "PK").and (Condition.contains "curr_status" nextStatus.text).not)))
  pure ()

def expireOTPs : List Item → AuthCode Unit
  | [] => pure ()
  | activeOTP :: rest => do
      updateOTP activeOTP .Expired
      expireOTPs rest

def otpItem (email otp : String) (createdAtUnix updatedAtUnix expiresAtUnix : Int) : Item :=
  ⟨email, otp, [("attempts", .number 0), ("curr_status", .text OTPStatus.Active.text),
    ("created_at_unix", .number createdAtUnix), ("updated_at_unix", .number updatedAtUnix),
    ("expires_at_unix", .number expiresAtUnix)]⟩

/-- A code expires after thirty minutes. -/
def addOTP (email otp : String) : AuthCode Unit := do
  let createdAtUnix ← now
  let updatedAtUnix ← now
  let issuedAtUnix ← now
  Prog.call (DynamoOp.putItem .OTP
    (otpItem email otp createdAtUnix updatedAtUnix (issuedAtUnix + 30 * 60)) none)

def createEmailVerificationCode (email : String) : AuthCode (Option String) :=
  tryCatch (do
    let activeOTPs ← getActiveOTPs email
    expireOTPs activeOTPs
    let otp : String ← Prog.call DynamoOp.randomUUID
    addOTP email otp
    pure (some otp)) fun _ => pure none

/-- A code is used up before its expiry is checked. -/
def checkCorrectOTP (email otp : String) : AuthCode Bool := do
  let updatedAtUnix ← now
  tryCatch (do
    let output : Option (Option Item) ← Prog.call (DynamoOp.updateItem .OTP email otp
      [("curr_status", .text OTPStatus.Used.text), ("updated_at_unix", .number updatedAtUnix)]
      (some ((Condition.attributeExists "PK").and (Condition.contains "curr_status" OTPStatus.Active.text))))
    match output with
    | some (some attributes) => do
        let time ← now
        match attributes.get "expires_at_unix" with
        | some (.number expiresAtUnix) => pure (decide (time < expiresAtUnix))
        | _ => pure false
    | _ => pure false) fun
      | .conditionalCheckFailed => pure false
      | err => throw err

end EmailVerification

structure DIDResult where
  email : String
  did : String
  nonce : String
  status : DIDStatus
  deriving DecidableEq, Repr

def registrationItem (email did : String) (createdAtUnix updatedAtUnix : Int) : Item :=
  ⟨did, INITIAL_NONCE, [("email", .text email), ("curr_status", .text DIDStatus.Active.text),
    ("created_at_unix", .number createdAtUnix), ("updated_at_unix", .number updatedAtUnix)]⟩

/-- A registration needs a free key, and any rejection counts as no registration. -/
def putRegistration (email did : String) : AuthCode (Option DIDResult) := do
  let createdAtUnix ← now
  let updatedAtUnix ← now
  tryCatch (do
    Prog.call (DynamoOp.putItem .DID (registrationItem email did createdAtUnix updatedAtUnix)
      (some (.attributeNotExists "PK")))
    pure (some ⟨email, did, INITIAL_NONCE, .Active⟩)) fun _ => pure none

def registerDID (email otp did : String) (checkOTP : Bool) : AuthCode (Option DIDResult) :=
  if checkOTP then do
    let correct ← checkCorrectOTP email otp
    if ¬ correct then pure none else putRegistration email did
  else
    putRegistration email did

/-- Only successful registrations give a result. -/
def registerAll (email otp : String) : List String → AuthCode (List DIDResult)
  | [] => pure []
  | did :: rest => do
      let result ← registerDID email otp did false
      let results ← registerAll email otp rest
      pure (result.toList ++ results)

def registerValid (email otp : String) (dids : List String) : AuthCode (List DIDResult) :=
  match dids.find? fun did => ¬ didRegex did with
  | some did => throw (.thrown s!"invalid DID: {did}")
  | none => registerAll email otp dids

/-- The code is checked once, and all DIDs are checked before the first one is registered. -/
def registerDIDs (email otp : String) (dids : List String) (skipOTP : Bool) : AuthCode (List DIDResult) :=
  if skipOTP then
    registerValid email otp dids
  else do
    let correct ← checkCorrectOTP email otp
    if ¬ correct then throw (.thrown "invalid OTP") else registerValid email otp dids

/-- This update asks whether the email of the registration contains the given email. -/
def revocation (email did : String) (updatedAtUnix : Int) : DynamoOp :=
  .updateItem .DID did INITIAL_NONCE
    [("curr_status", .text DIDStatus.Revoked.text), ("updated_at_unix", .number updatedAtUnix)]
    (some (((Condition.attributeExists "PK").and (Condition.contains "email" email)).and
      (Condition.contains "curr_status" DIDStatus.Revoked.text).not))

/-- The code answers `false` without a correct OTP, and nothing when the update gives no attributes. -/
inductive Revocation where
  | refused
  | nothing
  | revoked (email did status : Option Attribute)
  deriving DecidableEq, Repr

def markRevoked (email did : String) : AuthCode Revocation := do
  let updatedAtUnix ← now
  tryCatch (do
    let output : Option (Option Item) ← Prog.call (revocation email did updatedAtUnix)
    match output with
    | some (some attributes) =>
        pure (.revoked (attributes.get "email") (attributes.get "PK") (attributes.get "curr_status"))
    | some none => pure .nothing
    | none => pure (.revoked (some (.text email)) (some (.text did)) (some (.text DIDStatus.Revoked.text))))
    fun _ => pure .nothing

def revokeDID (email otp did : String) : AuthCode Revocation := do
  let correct ← checkCorrectOTP email otp
  if ¬ correct then pure .refused else markRevoked email did

end DynamoDB

end CeramicAnchor
