import CeramicAnchor.Construction.Authorizer

/-
This file says what the calls of the auth service can do to the table of the DIDs, and who revokes a DID.
-/

namespace CeramicAnchor
open Concurrency Storage

namespace DynamoDB

section Effects

/-- A command that writes no item of the DID table. -/
def DynamoOp.SparesDIDs : DynamoOp → Prop
  | .putItem .DID _ _ => False
  | .updateItem .DID _ _ _ _ => False
  | _ => True

/-- These are the commands that a call can issue. -/
inductive AuthCall.Issues : AuthCall → DynamoOp → Prop where
  | elsewhere {call : AuthCall} {op : DynamoOp} (spares : op.SparesDIDs) : Issues call op
  | registration {email otp did : String} {dids : List String} {skipOTP : Bool}
      {createdAtUnix updatedAtUnix : Int} (member : did ∈ dids) :
      Issues (.registerDIDs email otp dids skipOTP)
        (.putItem .DID (registrationItem email did createdAtUnix updatedAtUnix)
          (some (.attributeNotExists "PK")))
  | nonce {event : AuthorizerEvent} {did nonce : String} {createdAtUnix updatedAtUnix : Int} :
      Issues (.authorize event)
        (.putItem .DID (nonceItem did nonce createdAtUnix updatedAtUnix) (some (.attributeNotExists "PK")))
  | revocation {email otp did : String} {updatedAtUnix : Int} :
      Issues (.revokeDID email otp did) (DynamoDB.revocation email did updatedAtUnix)

/-- A command that writes nothing. -/
def DynamoOp.Reads : DynamoOp → Prop
  | .putItem _ _ _ => False
  | .updateItem _ _ _ _ _ => False
  | _ => True

/-- The call presents this code of this email. -/
def AuthCall.Uses (call : AuthCall) (email otp : String) : Prop :=
  (∃ dids, call = .registerDIDs email otp dids false) ∨ ∃ did, call = .revokeDID email otp did

def otpEntries (status : OTPStatus) (updatedAtUnix : Int) : List (String × Attribute) :=
  [("curr_status", .text status.text), ("updated_at_unix", .number updatedAtUnix)]

/-- The update asks whether the code is active, or whether it has not expired. -/
def isActive : Condition :=
    (Condition.attributeExists "PK").and (.contains "curr_status" OTPStatus.Active.text)

def isUnexpired : Condition :=
  (Condition.attributeExists "PK").and (Condition.contains "curr_status" OTPStatus.Expired.text).not

/-- These are the commands that a call performs, with what it writes. -/
inductive AuthCall.Performs : AuthCall → DynamoOp → Prop where
  | reads {call : AuthCall} {op : DynamoOp} (reads : op.Reads) : Performs call op
  | registration {email otp did : String} {dids : List String} {skipOTP : Bool}
      {createdAtUnix updatedAtUnix : Int} (member : did ∈ dids) :
      Performs (.registerDIDs email otp dids skipOTP)
        (.putItem .DID (registrationItem email did createdAtUnix updatedAtUnix)
          (some (.attributeNotExists "PK")))
  | nonce {event : AuthorizerEvent} {did nonce : String} {createdAtUnix updatedAtUnix : Int} :
      Performs (.authorize event)
        (.putItem .DID (nonceItem did nonce createdAtUnix updatedAtUnix) (some (.attributeNotExists "PK")))
  | revocation {email otp did : String} {updatedAtUnix : Int} :
      Performs (.revokeDID email otp did) (DynamoDB.revocation email did updatedAtUnix)
  | code {email otp : String} {createdAtUnix updatedAtUnix expiresAtUnix : Int} :
      Performs (.createEmailVerificationCode email)
        (.putItem .OTP (otpItem email otp createdAtUnix updatedAtUnix expiresAtUnix) none)
  | expiry {email : String} {item : Item} {updatedAtUnix : Int} :
      Performs (.createEmailVerificationCode email)
        (.updateItem .OTP item.PK item.SK (otpEntries .Expired updatedAtUnix) (some isUnexpired))
  | consumption {call : AuthCall} {email otp : String} {updatedAtUnix : Int} (uses : call.Uses email otp) :
      Performs call (.updateItem .OTP email otp (otpEntries .Used updatedAtUnix) (some isActive))

theorem AuthCall.Performs.issues {call : AuthCall} {op : DynamoOp} (performs : call.Performs op) :
    call.Issues op := by
  cases performs with
  | reads reads =>
      refine .elsewhere ?_
      cases op with
      | putItem _ _ _ => exact reads.elim
      | updateItem _ _ _ _ _ => exact reads.elim
      | _ => trivial
  | registration member => exact .registration member
  | nonce => exact .nonce
  | revocation => exact .revocation
  | code => exact .elsewhere trivial
  | expiry => exact .elsewhere trivial
  | consumption _ => exact .elsewhere trivial

variable {formats : AuthFormats} {config : AuthConfig}

theorem confined_now {inside : DynamoOp → Prop} (member : inside .now) : now.Confined inside :=
  Prog.confined_call DynamoOp.now member

theorem getDIDRegistration_confined {inside : DynamoOp → Prop} (did : String) (status : Option DIDStatus)
    (member : inside (.getItem .DID did INITIAL_NONCE)) :
    (getDIDRegistration did status).Confined inside := by
  apply Prog.confined_handle
  · apply Prog.confined_bind
    · apply Prog.confined_bind (Prog.confined_call _ member)
      intro results
      cases results <;> trivial
    · intro data
      dsimp only
      split <;> trivial
  · intro error
    trivial

theorem checkCorrectOTP_confined {inside : DynamoOp → Prop} {email otp : String} (clock : inside .now)
    (uses : ∀ updatedAtUnix,
      inside (.updateItem .OTP email otp (otpEntries .Used updatedAtUnix) (some isActive))) :
    (checkCorrectOTP email otp).Confined inside := by
  apply Prog.confined_bind (confined_now clock)
  intro updatedAtUnix
  apply Prog.confined_handle
  · apply Prog.confined_bind (Prog.confined_call _ (uses updatedAtUnix))
    intro output
    cases output with
    | none => trivial
    | some output => cases output with
      | none => trivial
      | some attributes =>
          apply Prog.confined_bind (confined_now clock)
          intro time
          split <;> trivial
  · intro error
    cases error <;> trivial

theorem putNonce_confined (event : AuthorizerEvent) (did nonce : String) :
    (putNonce did nonce).Confined (AuthCall.authorize event).Performs := by
  apply Prog.confined_bind (confined_now (.reads trivial))
  intro createdAtUnix
  apply Prog.confined_bind (confined_now (.reads trivial))
  intro updatedAtUnix
  apply Prog.confined_handle
  · exact Prog.confined_bind (Prog.confined_call _ .nonce) fun _ => trivial
  · intro error
    trivial

theorem addNonce_confined (event : AuthorizerEvent) (did nonce : String) :
    (addNonce did nonce).Confined (AuthCall.authorize event).Performs := by
  apply Prog.confined_bind (getDIDRegistration_confined did _ (.reads trivial))
  intro activeDID
  cases activeDID with
  | none => trivial
  | some data => exact putNonce_confined event did nonce

theorem handler_confined (event : AuthorizerEvent) :
    (handler formats config event).Confined (AuthCall.authorize event).Performs := by
  unfold handler
  split
  · trivial
  · split
    · trivial
    · split
      · trivial
      · unfold allowRegisteredDID
        split
        · trivial
        · apply Prog.confined_bind (addNonce_confined event _ _)
          intro data
          cases data with
          | none => trivial
          | some stored =>
              dsimp only
              split <;> trivial

theorem expireOTPs_confined (email : String) (items : List Item) :
    (expireOTPs items).Confined (AuthCall.createEmailVerificationCode email).Performs := by
  induction items with
  | nil => trivial
  | cons item items ih =>
      apply Prog.confined_bind _ fun _ => ih
      apply Prog.confined_bind (confined_now (.reads trivial))
      intro updatedAtUnix
      exact Prog.confined_bind (Prog.confined_call _ .expiry) fun _ => trivial

theorem createEmailVerificationCode_confined (email : String) :
    (createEmailVerificationCode email).Confined (AuthCall.createEmailVerificationCode email).Performs := by
  apply Prog.confined_handle
  · apply Prog.confined_bind
    · apply Prog.confined_bind (Prog.confined_call _ (.reads trivial))
      intro results
      cases results <;> trivial
    · intro activeOTPs
      apply Prog.confined_bind (expireOTPs_confined email activeOTPs)
      intro _
      apply Prog.confined_bind (Prog.confined_call _ (.reads trivial))
      intro otp
      apply Prog.confined_bind
      · apply Prog.confined_bind (confined_now (.reads trivial))
        intro createdAtUnix
        apply Prog.confined_bind (confined_now (.reads trivial))
        intro updatedAtUnix
        apply Prog.confined_bind (confined_now (.reads trivial))
        intro issuedAtUnix
        exact Prog.confined_call _ .code
      · intro _
        trivial
  · intro error
    trivial

theorem putRegistration_confined {email otp did : String} {dids : List String} {skipOTP : Bool}
    (member : did ∈ dids) :
    (putRegistration email did).Confined (AuthCall.registerDIDs email otp dids skipOTP).Performs := by
  apply Prog.confined_bind (confined_now (.reads trivial))
  intro createdAtUnix
  apply Prog.confined_bind (confined_now (.reads trivial))
  intro updatedAtUnix
  apply Prog.confined_handle
  · exact Prog.confined_bind (Prog.confined_call _ (.registration member)) fun _ => trivial
  · intro error
    trivial

theorem registerAll_confined {email otp : String} {dids : List String} {skipOTP : Bool}
    (remaining : List String) (inside : ∀ did ∈ remaining, did ∈ dids) :
    (registerAll email otp remaining).Confined (AuthCall.registerDIDs email otp dids skipOTP).Performs := by
  induction remaining with
  | nil => trivial
  | cons did rest ih =>
      apply Prog.confined_bind (putRegistration_confined (inside did List.mem_cons_self))
      intro result
      apply Prog.confined_bind (ih fun other member => inside other (List.mem_cons_of_mem _ member))
      intro results
      trivial

theorem registerDIDs_confined (email otp : String) (dids : List String) (skipOTP : Bool) :
    (registerDIDs email otp dids skipOTP).Confined
    (AuthCall.registerDIDs email otp dids skipOTP).Performs := by
  have valid :
      (registerValid email otp dids).Confined (AuthCall.registerDIDs email otp dids skipOTP).Performs := by
    unfold registerValid
    split
    · trivial
    · exact registerAll_confined dids fun _ member => member
  unfold registerDIDs
  split
  · exact valid
  · rename_i checks
    obtain rfl : skipOTP = false := by simpa using checks
    apply Prog.confined_bind
      (checkCorrectOTP_confined (.reads trivial) fun _ => .consumption (.inl ⟨dids, rfl⟩))
    intro correct
    split
    · trivial
    · exact valid

theorem markRevoked_confined (email otp did : String) :
    (markRevoked email did).Confined (AuthCall.revokeDID email otp did).Performs := by
  apply Prog.confined_bind (confined_now (.reads trivial))
  intro updatedAtUnix
  apply Prog.confined_handle
  · apply Prog.confined_bind (Prog.confined_call _ .revocation)
    intro output
    cases output with
    | none => trivial
    | some output => cases output <;> trivial
  · intro error
    trivial

theorem revokeDID_confined (email otp did : String) :
    (revokeDID email otp did).Confined (AuthCall.revokeDID email otp did).Performs := by
  apply Prog.confined_bind (checkCorrectOTP_confined (.reads trivial) fun _ => .consumption (.inr ⟨did, rfl⟩))
  intro correct
  split
  · trivial
  · exact markRevoked_confined email otp did

theorem AuthCall.program_confined (call : AuthCall) :
    (call.program formats config).Confined call.Performs := by
  cases call with
  | registerDIDs email otp dids skipOTP =>
      exact Prog.confined_bind (registerDIDs_confined email otp dids skipOTP) fun _ => trivial
  | createEmailVerificationCode email =>
      exact Prog.confined_bind (createEmailVerificationCode_confined email) fun _ => trivial
  | revokeDID email otp did => exact Prog.confined_bind (revokeDID_confined email otp did) fun _ => trivial
  | authorize event => exact Prog.confined_bind (handler_confined event) fun _ => trivial

/-- An operation took no effect, or its effect is that of a resolved command. -/
theorem DynamoOp.perform_cases {op : DynamoOp} {tables next : AuthTables}
    {reply : Except DynamoError op.Reply}
    (performed : op.perform tables reply next) : next = tables ∨ ∃ value, op.Resolves tables value next := by
  cases reply with
  | ok value => exact .inr ⟨value, performed⟩
  | error error =>
      cases error with
      | conditionalCheckFailed =>
          rcases performed with ⟨_, same⟩ | ⟨value, _, resolved⟩
          · exact .inl same
          · exact .inr ⟨value, resolved⟩
      | resourceNotFound => exact performed.2
      | rejected message => exact performed.2
      | itemNotFound => exact performed.elim
      | thrown message => exact performed.elim

theorem DynamoOp.SparesDIDs.resolves {op : DynamoOp} (spares : op.SparesDIDs) {tables next : AuthTables}
    {value : op.Reply} (resolved : op.Resolves tables value next) : next .DID = tables .DID := by
  cases op with
  | now =>
      rw [show next = tables from resolved]
  | randomUUID =>
      rw [show next = tables from resolved]
  | getItem table PK SK => rw [resolved.2]
  | query table PK filter => rw [resolved.2]
  | putItem table item condition =>
      cases table with
      | DID => exact spares.elim
      | OTP =>
          rw [resolved.2]
          exact Function.update_of_ne (by decide) _ _
  | updateItem table PK SK entries condition =>
      cases table with
      | DID => exact spares.elim
      | OTP =>
          rw [resolved.2.1]
          exact Function.update_of_ne (by decide) _ _

/-- A DID is registered with an email when its registration has this email. -/
def RegisteredWith (tables : AuthTables) (did email : String) : Prop :=
  ∃ item, tables .DID (did, INITIAL_NONCE) = some item ∧ item.get "email" = some (.text email)

def HasStatus (tables : AuthTables) (did : String) (status : DIDStatus) : Prop :=
  ∃ item, tables .DID (did, INITIAL_NONCE) = some item ∧ item.get "curr_status" = some (.text status.text)

def revokedEntries (updatedAtUnix : Int) : List (String × Attribute) :=
  [("curr_status", .text DIDStatus.Revoked.text), ("updated_at_unix", .number updatedAtUnix)]

/-- These are all the ways in which an operation of a call changes the DID table. -/
inductive AuthCall.Effect (tables next : AuthTables) : AuthCall → DynamoOp → Prop where
  | none {call : AuthCall} {op : DynamoOp} (same : next .DID = tables .DID) : Effect tables next call op
  | registration {email otp did : String} {dids : List String} {skipOTP : Bool}
      {createdAtUnix updatedAtUnix : Int}
      (member : did ∈ dids) (free : tables .DID (did, INITIAL_NONCE) = .none)
      (stored : next .DID = (tables .DID).put (registrationItem email did createdAtUnix updatedAtUnix)) :
      Effect tables next (.registerDIDs email otp dids skipOTP)
        (.putItem .DID (registrationItem email did createdAtUnix updatedAtUnix)
          (some (.attributeNotExists "PK")))
  | nonce {event : AuthorizerEvent} {did nonce : String} {createdAtUnix updatedAtUnix : Int}
      (free : tables .DID (did, nonce) = .none)
      (stored : next .DID = (tables .DID).put (nonceItem did nonce createdAtUnix updatedAtUnix)) :
      Effect tables next (.authorize event)
        (.putItem .DID (nonceItem did nonce createdAtUnix updatedAtUnix) (some (.attributeNotExists "PK")))
  | revocation {email otp did value : String} {updatedAtUnix : Int} (owner : RegisteredWith tables did value)
      (contains : Includes value email)
      (stored : next .DID = (tables .DID).update did INITIAL_NONCE (revokedEntries updatedAtUnix)) :
      Effect tables next (.revokeDID email otp did) (DynamoDB.revocation email did updatedAtUnix)

/-- Each operation that a call issues has one of these effects. -/
theorem AuthCall.Issues.effect {call : AuthCall} {op : DynamoOp} (issued : call.Issues op)
    {tables next : AuthTables} {reply : Except DynamoError op.Reply}
    (performed : op.perform tables reply next) :
    call.Effect tables next op := by
  rcases op.perform_cases performed with same | ⟨value, resolved⟩
  · exact .none (congrFun same .DID)
  · cases issued with
    | elsewhere spares => exact .none (spares.resolves resolved)
    | registration member =>
        refine .registration member ((Condition.holds_notExists_PK _).mp resolved.1) ?_
        rw [resolved.2]
        exact Function.update_self _ _ _
    | nonce =>
        refine .nonce ((Condition.holds_notExists_PK _).mp resolved.1) ?_
        rw [resolved.2]
        exact Function.update_self _ _ _
    | @revocation email otp did updatedAtUnix =>
        have admitted := resolved.1
        simp only [Documents.Admits, Condition.holds_and] at admitted
        obtain ⟨item, owner, found, named, contains⟩ := Condition.holds_contains.mp admitted.1.2
        refine .revocation ⟨item, found, named⟩ contains ?_
        rw [resolved.2.1]
        exact Function.update_self _ _ _

end Effects

section Registrations

theorem registrationItem_status (email did : String) (createdAtUnix updatedAtUnix : Int) :
    (registrationItem email did createdAtUnix updatedAtUnix).get "curr_status" =
      some (.text DIDStatus.Active.text) := rfl

theorem nonceItem_email (did nonce : String) (createdAtUnix updatedAtUnix : Int) :
    (nonceItem did nonce createdAtUnix updatedAtUnix).get "email" = none := rfl

theorem nonceItem_status (did nonce : String) (createdAtUnix updatedAtUnix : Int) :
    (nonceItem did nonce createdAtUnix updatedAtUnix).get "curr_status" = none := rfl

/-- A revoked item keeps every attribute but its status and its time. -/
theorem updated_email (items : Documents) (did : String) (updatedAtUnix : Int) {item : Item}
    (found : items (did, INITIAL_NONCE) = some item) :
    (items.updated did INITIAL_NONCE (revokedEntries updatedAtUnix)).get "email" = item.get "email" := by
  rw [Documents.updated, found, Item.get_set _ _ (by decide) (by decide)]
  rfl

theorem updated_status (items : Documents) (did : String) (updatedAtUnix : Int) :
    (items.updated did INITIAL_NONCE (revokedEntries updatedAtUnix)).get "curr_status" =
      some (.text DIDStatus.Revoked.text) := by
  rw [Documents.updated, Item.get_set _ _ (by decide) (by decide)]
  rfl

/-- What a put or an update of the DID table does to a registration. -/
theorem get_put {tables next : AuthTables} {item : Item} (did : String)
    (stored : next .DID = (tables .DID).put item) :
    next .DID (did, INITIAL_NONCE) =
      if (did, INITIAL_NONCE) = (item.PK, item.SK) then some item else tables .DID (did, INITIAL_NONCE) := by
  rw [stored, Documents.put, Function.update_apply]

theorem get_update {tables next : AuthTables} {owner : String} {entries : List (String × Attribute)}
    (did : String) (stored : next .DID = (tables .DID).update owner INITIAL_NONCE entries) :
    next .DID (did, INITIAL_NONCE) =
      if did = owner then some ((tables .DID).updated owner INITIAL_NONCE entries)
      else tables .DID (did, INITIAL_NONCE) := by
  rw [stored, Documents.update, Function.update_apply]
  simp

end Registrations

section Ownership

variable {formats : AuthFormats} {config : AuthConfig} {calls : Nat → AuthCall}

abbrev AuthRecord := Record DynamoOp DynamoOp.Reply DynamoError AuthTables

abbrev AuthPool := Pool DynamoOp DynamoOp.Reply DynamoError AuthResult AuthTables

/-- The event registers the DID, which was free, with this email. -/
def Registers (calls : Nat → AuthCall) (record : AuthRecord) (did email : String) : Prop :=
  (∃ otp dids skipOTP, calls record.1 = .registerDIDs email otp dids skipOTP ∧ did ∈ dids) ∧
    record.2.before .DID (did, INITIAL_NONCE) = none ∧ RegisteredWith record.2.after did email

/-- Every change to Revoked is made by a call with the email that registered the DID. -/
def RevokedByOwner (calls : Nat → AuthCall) (trace : List AuthRecord) : Prop :=
  ∀ front record back, trace = front ++ record :: back → ∀ did,
    ¬ HasStatus record.2.before did .Revoked → HasStatus record.2.after did .Revoked →
      ∃ email otp, calls record.1 = .revokeDID email otp did ∧ ∃ earlier ∈ front,
      Registers calls earlier did email

/-- The email of a revocation is no proper substring of the email of the registration. -/
def NamesOwner (tables : AuthTables) (label : Label DynamoOp DynamoOp.Reply DynamoError) : Prop :=
  ∀ thread email did updatedAtUnix reply, label = .act thread (revocation email did updatedAtUnix) reply →
    ∀ value, RegisteredWith tables did value → Includes value email → value = email

/-- Each operation of a run is one that its call performs. -/
theorem run_performs {first last : AuthPool} {trace : List AuthRecord}
    (run : Run (registry formats config calls) first trace last)
    (idle : ∀ thread, first.threads thread = none) :
    ∀ record ∈ trace, (calls record.1).Performs record.2.op :=
  run.confined (fun thread op => (calls thread).Performs op) idle (by
    rintro thread program rfl
    exact (calls thread).program_confined)

/-- Each operation of a run has an effect that its call allows. -/
theorem run_effect {first : AuthTables} {trace : List AuthRecord} {last : AuthPool}
    (run : Run (registry formats config calls) (Pool.idle first) trace last) :
    ∀ record ∈ trace, (calls record.1).Effect record.2.before record.2.after record.2.op := by
  intro record member
  have issued := (run_performs run (fun _ => rfl) record member).issues
  exact issued.effect (run.performed record member)

/-- An operation that leaves a registration with an email found it, or it is the registration. -/
theorem Effect.registered {tables next : AuthTables} {thread : Nat} {op : DynamoOp}
    {reply : Except DynamoError op.Reply} (effect : (calls thread).Effect tables next op) {did email : String}
    (registered : RegisteredWith next did email) :
    RegisteredWith tables did email ∨ Registers calls (thread, ⟨op, tables, reply, next⟩) did email := by
  have origin := registered
  obtain ⟨item, found, named⟩ := registered
  generalize same : calls thread = call at effect
  cases effect with
  | none kept =>
      rw [kept] at found
      exact .inl ⟨item, found, named⟩
  | @registration _ _ owner _ _ createdAtUnix updatedAtUnix member free stored =>
      rw [get_put did stored] at found
      split at found
      · next target =>
          obtain rfl : did = owner := congrArg Prod.fst target
          obtain rfl := Option.some.inj found
          obtain rfl := Attribute.text.inj (Option.some.inj named)
          exact .inr ⟨⟨_, _, _, same, member⟩, free, origin⟩
      · exact .inl ⟨item, found, named⟩
  | @nonce _ owner nonce createdAtUnix updatedAtUnix free stored =>
      rw [get_put did stored] at found
      split at found
      · obtain rfl := Option.some.inj found
        rw [nonceItem_email] at named
        cases named
      · exact .inl ⟨item, found, named⟩
  | @revocation _ _ owner value updatedAtUnix registered _ stored =>
      rw [get_update did stored] at found
      split at found
      · next target =>
          subst target
          obtain ⟨old, present, oldNamed⟩ := registered
          obtain rfl := Option.some.inj found
          rw [updated_email _ _ _ present] at named
          exact .inl ⟨old, present, named⟩
      · exact .inl ⟨item, found, named⟩

/-- An operation that revokes a DID is the update of a call with an email that its registration contains. -/
theorem Effect.revoked {tables next : AuthTables} {thread : Nat} {op : DynamoOp}
    (effect : (calls thread).Effect tables next op) {did : String} (before : ¬ HasStatus tables did .Revoked)
    (after : HasStatus next did .Revoked) :
    ∃ email otp value updatedAtUnix, calls thread = .revokeDID email otp did ∧
      op = revocation email did updatedAtUnix ∧ RegisteredWith tables did value ∧
      Includes value email := by
  obtain ⟨item, found, status⟩ := after
  generalize same : calls thread = call at effect
  cases effect with
  | none kept =>
      rw [kept] at found
      exact absurd ⟨item, found, status⟩ before
  | @registration _ _ owner _ _ createdAtUnix updatedAtUnix member free stored =>
      rw [get_put did stored] at found
      split at found
      · obtain rfl := Option.some.inj found
        rw [registrationItem_status] at status
        exact absurd status (by decide)
      · exact absurd ⟨item, found, status⟩ before
  | @nonce _ owner nonce createdAtUnix updatedAtUnix free stored =>
      rw [get_put did stored] at found
      split at found
      · obtain rfl := Option.some.inj found
        rw [nonceItem_status] at status
        cases status
      · exact absurd ⟨item, found, status⟩ before
  | @revocation email otp owner value updatedAtUnix registered contains stored =>
      rw [get_update did stored] at found
      split at found
      · next target =>
          subst target
          exact ⟨email, otp, value, updatedAtUnix, rfl, rfl, registered, contains⟩
      · exact absurd ⟨item, found, status⟩ before

/-- Every registration in the table comes from an earlier event that made it. -/
theorem registered_earlier {first : AuthTables} (empty : ∀ key, first .DID key = none)
    {trace : List AuthRecord}
    {last : AuthPool} (run : Run (registry formats config calls) (Pool.idle first) trace last)
    {did email : String} (registered : RegisteredWith last.world did email) :
    ∃ earlier ∈ trace, Registers calls earlier did email := by
  have effects := run_effect run
  induction run with
  | refl =>
      obtain ⟨item, found, _⟩ := registered
      rw [show Pool.world (Pool.idle first) = first from rfl, empty] at found
      cases found
  | start _ _ _ ih => exact ih registered effects
  | @act pool trace thread op next reply world _ _ performed ih =>
      have effect := effects _ (List.mem_append_right _ (List.mem_singleton_self _))
      rcases Effect.registered effect registered with held | registers
      · obtain ⟨record, member, registers⟩ := ih held
          fun record member => effects record (List.mem_append_left _ member)
        exact ⟨record, List.mem_append_left _ member, registers⟩
      · exact ⟨_, List.mem_append_right _ (List.mem_singleton_self _), registers⟩
  | drift _ moved _ => exact moved.elim

/-- A call can issue a revocation only of its own DID and with its own email. -/
theorem AuthCall.Issues.revocation_inv {call : AuthCall} {email did : String} {updatedAtUnix : Int}
    (issued : call.Issues (DynamoDB.revocation email did updatedAtUnix)) :
    ∃ otp, call = .revokeDID email otp did := by
  generalize same : DynamoDB.revocation email did updatedAtUnix = op at issued
  cases issued with
  | elsewhere spares =>
      rw [← same] at spares
      exact spares.elim
  | registration member => cases same
  | nonce => cases same
  | @revocation _ otp _ _ =>
      simp only [DynamoDB.revocation, DynamoOp.updateItem.injEq, Option.some.injEq, Condition.and.injEq,
        Condition.contains.injEq] at same
      obtain ⟨_, rfl, _, _, ⟨_, _, rfl⟩, _⟩ := same
      exact ⟨otp, rfl⟩

/-- The condition on the steps holds when no call revokes with a proper part of an email that it registers. -/
theorem names_owner_of_calls {first : AuthTables} (empty : ∀ key, first .DID key = none)
    {trace : List AuthRecord}
    {last : AuthPool} (run : Run (registry formats config calls) (Pool.idle first) trace last)
    (owners : ∀ revoker registrar email otp did value code dids skipOTP,
      calls revoker = .revokeDID email otp did → calls registrar = .registerDIDs value code dids skipOTP →
        did ∈ dids → Includes value email → value = email) :
    Run ((registry formats config calls).restrict NamesOwner) (Pool.idle first) trace last := by
  apply run.restrict
  rintro ⟨actor, event⟩ member thread email did updatedAtUnix reply same value registered contains
  obtain ⟨front, back, rfl⟩ := List.append_of_mem member
  have issued := (run_performs run (fun _ => rfl) _ member).issues
  obtain ⟨pool, _, earlier, reached, _⟩ := run.split
  rw [← reached] at registered
  obtain ⟨origin, _, ⟨code, dids, skipOTP, registering, listed⟩, _⟩ :=
    registered_earlier empty earlier registered
  cases event
  cases same
  obtain ⟨otp, revoking⟩ := issued.revocation_inv
  exact owners _ _ _ _ _ _ _ _ _ revoking registering listed contains

end Ownership

section Intrusion

variable (formats : AuthFormats) (config : AuthConfig) (calls : Nat → AuthCall) (thread : Nat)

/-- Nobody else moves while one call runs. -/
abbrev alone : Setting DynamoOp DynamoOp.Reply DynamoError AuthTables :=
  (registry formats config calls).undisturbed thread

/-- A code of this item is correct at the time zero. -/
def CorrectOTP (tables : AuthTables) (email otp : String) : Prop :=
  ∃ item expiresAtUnix, tables .OTP (email, otp) = some item ∧
    item.get "curr_status" = some (.text OTPStatus.Active.text) ∧
    item.get "expires_at_unix" = some (.number expiresAtUnix) ∧ 0 < expiresAtUnix

def storeOTP (tables : AuthTables) (email otp : String) : AuthTables :=
  Function.update tables .OTP ((tables .OTP).put (otpItem email otp 0 0 (0 + 30 * 60)))

def usedEntries : List (String × Attribute) :=
  [("curr_status", .text OTPStatus.Used.text), ("updated_at_unix", .number 0)]

def useOTP (tables : AuthTables) (email otp : String) : AuthTables :=
  Function.update tables .OTP ((tables .OTP).update email otp usedEntries)

theorem storeOTP_correct (tables : AuthTables) (email otp : String) :
    CorrectOTP (storeOTP tables email otp) email otp :=
  ⟨otpItem email otp 0 0 (0 + 30 * 60), 0 + 30 * 60,
    by simp [storeOTP, Documents.put, otpItem], rfl, rfl, by decide⟩

/-- A call finds no active code, draws one and stores it. -/
def codeEvents (tables : AuthTables) (email otp : String) :
    List (Event DynamoOp DynamoOp.Reply DynamoError AuthTables) :=
  [⟨.query .OTP email (.contains "curr_status" OTPStatus.Active.text), tables, .ok (some []), tables⟩,
    ⟨.randomUUID, tables, .ok otp, tables⟩,
    ⟨.now, tables, .ok (0 : Int), tables⟩,
    ⟨.now, tables, .ok (0 : Int), tables⟩,
    ⟨.now, tables, .ok (0 : Int), tables⟩,
    ⟨.putItem .OTP (otpItem email otp 0 0 (0 + 30 * 60)) none, tables, .ok (), storeOTP tables email otp⟩]

/-- A new code can always be stored. -/
theorem code_path (tables : AuthTables) (email otp : String) : Path (alone formats config calls thread)
    ((AuthCall.createEmailVerificationCode email).program formats config) tables (codeEvents tables email otp)
    (.done (.code (some otp))) (storeOTP tables email otp) := by
  apply Path.reply (alone formats config calls thread)
    (DynamoOp.query .OTP email (.contains "curr_status" OTPStatus.Active.text)) (.ok (some [])) ⟨by simp, rfl⟩
  apply Path.reply (alone formats config calls thread) DynamoOp.randomUUID (.ok otp) rfl
  apply Path.reply (alone formats config calls thread) DynamoOp.now (.ok (0 : Int)) rfl
  apply Path.reply (alone formats config calls thread) DynamoOp.now (.ok (0 : Int)) rfl
  apply Path.reply (alone formats config calls thread) DynamoOp.now (.ok (0 : Int)) rfl
  apply Path.reply (alone formats config calls thread)
    (DynamoOp.putItem .OTP (otpItem email otp 0 0 (0 + 30 * 60)) none) (.ok ()) ⟨trivial, rfl⟩
  exact Path.stop _ _

/-- The code is used up, and then its expiry is checked. -/
def otpEvents (tables : AuthTables) (email otp : String) :
    List (Event DynamoOp DynamoOp.Reply DynamoError AuthTables) :=
  [⟨.now, tables, .ok (0 : Int), tables⟩,
    ⟨.updateItem .OTP email otp usedEntries (some isActive), tables,
      .ok (some (some ((tables .OTP).updated email otp usedEntries))), useOTP tables email otp⟩,
    ⟨.now, useOTP tables email otp, .ok (0 : Int), useOTP tables email otp⟩]

/-- A correct code is accepted and used up. -/
theorem checkCorrectOTP_path {tables : AuthTables} {email otp : String}
    (correct : CorrectOTP tables email otp) :
    Path (alone formats config calls thread) (checkCorrectOTP email otp) tables (otpEvents tables email otp)
      (.done true) (useOTP tables email otp) := by
  obtain ⟨item, expiresAtUnix, found, active, expires, later⟩ := correct
  have admitted : (tables .OTP).Admits (email, otp) (some isActive) := by
    rw [isActive, Documents.Admits, Condition.holds_and, found]
    exact ⟨rfl, Condition.holds_contains.mpr ⟨item, _, rfl, active, List.infix_refl _⟩⟩
  have kept : ((tables .OTP).updated email otp usedEntries).get "expires_at_unix" =
      some (.number expiresAtUnix) := by
    rw [Documents.updated, found, Item.get_set _ _ (by decide) (by decide)]
    exact expires
  apply Path.reply (alone formats config calls thread) DynamoOp.now (.ok (0 : Int)) rfl
  apply Path.reply (alone formats config calls thread)
    (DynamoOp.updateItem .OTP email otp usedEntries (some isActive))
    (.ok (some (some ((tables .OTP).updated email otp usedEntries)))) ⟨admitted, rfl, by simp⟩
  apply Path.reply (alone formats config calls thread) DynamoOp.now (.ok (0 : Int)) rfl
  dsimp only
  rw [kept]
  have settled : decide (0 < expiresAtUnix) = true := decide_eq_true later
  dsimp only
  rw [← settled]
  exact Path.stop _ _

/-- A registration is written at the time zero. -/
def storeRegistration (tables : AuthTables) (email did : String) : AuthTables :=
  Function.update tables .DID ((tables .DID).put (registrationItem email did 0 0))

def registrationEvents (tables : AuthTables) (email did : String) :
    List (Event DynamoOp DynamoOp.Reply DynamoError AuthTables) :=
  [⟨.now, tables, .ok (0 : Int), tables⟩,
    ⟨.now, tables, .ok (0 : Int), tables⟩,
    ⟨.putItem .DID (registrationItem email did 0 0) (some (.attributeNotExists "PK")), tables, .ok (),
      storeRegistration tables email did⟩]

/-- A free DID can be registered. -/
theorem registerValid_path {tables : AuthTables} {email otp did : String} (valid : didRegex did = true)
    (free : tables .DID (did, INITIAL_NONCE) = none) :
    Path (alone formats config calls thread) (registerValid email otp [did]) tables
      (registrationEvents tables email did) (.done [⟨email, did, INITIAL_NONCE, .Active⟩])
      (storeRegistration tables email did) := by
  have allValid : [did].find? (fun did => ¬ didRegex did) = none := by simp [valid]
  unfold registerValid
  rw [allValid]
  apply Path.reply (alone formats config calls thread) DynamoOp.now (.ok (0 : Int)) rfl
  apply Path.reply (alone formats config calls thread) DynamoOp.now (.ok (0 : Int)) rfl
  apply Path.reply (alone formats config calls thread)
    (DynamoOp.putItem .DID (registrationItem email did 0 0) (some (.attributeNotExists "PK"))) (.ok ())
    ⟨(Condition.holds_notExists_PK _).mpr free, rfl⟩
  exact Path.stop _ _

/-- A correct code registers a free DID. -/
theorem registerDIDs_path {tables : AuthTables} {email otp did : String}
    (correct : CorrectOTP tables email otp)
    (valid : didRegex did = true) (free : tables .DID (did, INITIAL_NONCE) = none) :
    Path (alone formats config calls thread) (registerDIDs email otp [did] false) tables
      (otpEvents tables email otp ++ registrationEvents (useOTP tables email otp) email did)
      (.done [⟨email, did, INITIAL_NONCE, .Active⟩])
      (storeRegistration (useOTP tables email otp) email did) := by
  have unchanged : useOTP tables email otp .DID = tables .DID := Function.update_of_ne (by decide) _ _
  have stillFree : useOTP tables email otp .DID (did, INITIAL_NONCE) = none := by rw [unchanged, free]
  exact Path.bind (checkCorrectOTP_path formats config calls thread correct)
    (registerValid_path formats config calls thread valid stillFree)

/-- With a correct code for an email, the update of a registration whose email contains it goes through. -/
theorem revokeDID_path {tables : AuthTables} {email otp did value : String}
    (correct : CorrectOTP tables email otp) (registered : RegisteredWith tables did value)
    (contains : Includes value email) (active : HasStatus tables did .Active) :
    ∃ events reply residue next, Path (alone formats config calls thread)
      ((AuthCall.revokeDID email otp did).program formats config) tables
      (events ++ [⟨revocation email did 0, useOTP tables email otp, reply, next⟩]) residue next ∧
      ¬ HasStatus (useOTP tables email otp) did .Revoked ∧ HasStatus next did .Revoked := by
  have checked := checkCorrectOTP_path formats config calls thread correct
  have unchanged : useOTP tables email otp .DID = tables .DID := Function.update_of_ne (by decide) _ _
  obtain ⟨item, found, named⟩ := registered
  obtain ⟨_, same, status⟩ := active
  obtain rfl := Option.some.inj (found.symm.trans same)
  have before : ¬ HasStatus (useOTP tables email otp) did .Revoked := by
    rintro ⟨other, present, revoked⟩
    rw [unchanged, found] at present
    obtain rfl := Option.some.inj present
    exact absurd (status.symm.trans revoked) (by decide)
  have admitted : ((useOTP tables email otp) .DID).Admits (did, INITIAL_NONCE)
      (some (((Condition.attributeExists "PK").and (.contains "email" email)).and
        (Condition.contains "curr_status" DIDStatus.Revoked.text).not)) := by
    rw [unchanged, Documents.Admits, Condition.holds_and, Condition.holds_and, found, Condition.holds_not,
      Condition.holds_contains, Condition.holds_contains]
    refine ⟨⟨rfl, item, value, rfl, named, contains⟩, ?_⟩
    rintro ⟨other, text, present, revoked, holds⟩
    obtain rfl := Option.some.inj present
    obtain rfl := Attribute.text.inj (Option.some.inj (status.symm.trans revoked))
    exact absurd holds (by decide)
  let next := Function.update (useOTP tables email otp) .DID
    ((useOTP tables email otp .DID).update did INITIAL_NONCE (revokedEntries 0))
  let item := (useOTP tables email otp .DID).updated did INITIAL_NONCE (revokedEntries 0)
  have after : HasStatus next did .Revoked :=
    ⟨_, by simp [next, Documents.update], updated_status (useOTP tables email otp .DID) did 0⟩
  have revoking : ∃ moment residue, Path (alone formats config calls thread)
      (markRevoked email did) (useOTP tables email otp)
      [moment, ⟨revocation email did 0, useOTP tables email otp, .ok (some (some item)), next⟩]
      (.done residue) next := by
    apply Exists.intro
    apply Exists.intro
    apply Path.reply (alone formats config calls thread) DynamoOp.now (.ok (0 : Int)) rfl
    apply Path.reply (alone formats config calls thread) (revocation email did 0)
      (.ok (some (some item))) ⟨admitted, rfl, fun _ same => (Option.some.inj (Option.some.inj same)).symm⟩
    exact Path.stop _ _
  obtain ⟨moment, residue, revoked⟩ := revoking
  refine ⟨otpEvents tables email otp ++ [moment], .ok (some (some item)), .done (.revocation residue),
    next, ?_, before, after⟩
  rw [List.append_assoc]
  have called : Path (alone formats config calls thread) (revokeDID email otp did) tables
      (otpEvents tables email otp ++
        [moment, ⟨revocation email did 0, useOTP tables email otp, .ok (some (some item)), next⟩])
      (.done residue) next := Path.bind checked revoked
  have whole : Path (alone formats config calls thread)
      ((AuthCall.revokeDID email otp did).program formats config) tables _ (.done (.revocation residue))
      next :=
    Path.bind called (Path.stop _ _)
  rwa [List.append_nil] at whole

def aliceCode : String := "29161b43-758a-40f3-aece-97758bac617a"

def revokerCode : String := "5f1c0f2e-7d4f-4f8e-9a53-1f0f6a2d9c10"

/-- Alice registers her DID, and then the owner of this address asks to revoke it. -/
def revokerCalls (email : String) : Nat → AuthCall
  | 0 => .createEmailVerificationCode "alice@example.com"
  | 1 => .registerDIDs "alice@example.com" aliceCode ["did:key:alice"] false
  | 2 => .createEmailVerificationCode email
  | _ => .revokeDID email revokerCode "did:key:alice"

theorem revokerCalls_registers {email value code : String} {dids : List String} {skipOTP : Bool}
    {thread : Nat} (registering : revokerCalls email thread = .registerDIDs value code dids skipOTP) :
    value = "alice@example.com" := by
  match thread with
  | 0 => cases registering
  | 1 => exact (AuthCall.registerDIDs.inj registering).1.symm
  | 2 => cases registering
  | _ + 3 => cases registering

theorem revokerCalls_revokes {email other code did : String} {thread : Nat}
    (revoking : revokerCalls email thread = .revokeDID other code did) : other = email := by
  match thread with
  | 0 => cases revoking
  | 1 => cases revoking
  | 2 => cases revoking
  | _ + 3 => exact (AuthCall.revokeDID.inj revoking).1.symm

/-- Any address inside that of Alice revokes her DID. -/
theorem revoker_run {email : String} (contains : Includes "alice@example.com" email) :
    ∃ front record last, Run (registry formats config (revokerCalls email)) (Pool.idle fun _ _ => none)
      (front ++ [record]) last ∧ record.1 = 3 ∧ ¬ HasStatus record.2.before "did:key:alice" .Revoked ∧
        HasStatus record.2.after "did:key:alice" .Revoked := by
  let issued : AuthTables := storeOTP (fun _ _ => none) "alice@example.com" aliceCode
  let item : Item := registrationItem "alice@example.com" "did:key:alice" 0 0
  let stored : AuthTables :=
    storeRegistration (useOTP issued "alice@example.com" aliceCode) "alice@example.com" "did:key:alice"
  let registered : AuthTables := storeOTP stored email revokerCode
  have coding :=
    code_path formats config (revokerCalls email) 0 (fun _ _ => none) "alice@example.com" aliceCode
  have run := (Run.refl (Pool.idle fun _ _ => none)).whole rfl rfl coding
  have registering := registerDIDs_path formats config (revokerCalls email) 1
    (storeOTP_correct (fun _ _ => none) "alice@example.com" aliceCode)
    (show didRegex "did:key:alice" = true by decide) rfl
  obtain ⟨_, residue, registering⟩ : ∃ events residue, Path (alone formats config (revokerCalls email) 1)
      ((revokerCalls email 1).program formats config) issued events residue stored :=
    ⟨_, _, Path.bind registering (Path.stop _ _)⟩
  have run := run.whole rfl rfl registering
  have coding := code_path formats config (revokerCalls email) 2 stored email revokerCode
  have run := run.whole rfl rfl coding
  have owned : RegisteredWith registered "did:key:alice" "alice@example.com" := ⟨item, rfl, rfl⟩
  have active : HasStatus registered "did:key:alice" .Active := ⟨item, rfl, rfl⟩
  obtain ⟨_, _, _, _, revoking, before, after⟩ := revokeDID_path formats config (revokerCalls email) 3
    (storeOTP_correct _ email revokerCode) owned contains active
  have run := run.whole rfl rfl revoking
  rw [List.map_append, ← List.append_assoc] at run
  exact ⟨_, _, _, run, rfl, before, after⟩

end Intrusion

section Owners

/-- A run of calls that name the owners exactly revokes a DID only by the email that registered it. -/
theorem revoked_by_owner (formats : AuthFormats) (config : AuthConfig) (calls : Nat → AuthCall)
    {first : AuthTables} (empty : ∀ key, first .DID key = none) {trace : List AuthRecord} {last : AuthPool}
    (run : Run ((registry formats config calls).restrict NamesOwner) (Pool.idle first) trace last) :
    RevokedByOwner calls trace := by
  rintro front record back rfl did before after
  have unrestricted := run.of_restrict
  have member : record ∈ front ++ record :: back := by simp
  obtain ⟨email, otp, value, updatedAtUnix, named, same, registered, contains⟩ :=
    Effect.revoked (run_effect unrestricted record member) before after
  have met := (run.performed record member).2
  obtain ⟨pool, _, earlier, reached, _⟩ := unrestricted.split
  have exact_ : value = email := by
    obtain ⟨thread, op, world, reply, next⟩ := record
    cases same
    exact met thread email did updatedAtUnix reply rfl value registered contains
  subst exact_
  refine ⟨value, otp, named, registered_earlier empty earlier ?_⟩
  rw [reached]
  exact registered

theorem intruder_revokes : ¬ ∀ (formats : AuthFormats) (config : AuthConfig) (calls : Nat → AuthCall)
    (first : AuthTables) (trace : List AuthRecord) (last : AuthPool), (∀ key, first .DID key = none) →
      Run (registry formats config calls) (Pool.idle first) trace last → RevokedByOwner calls trace := by
  intro claim
  obtain ⟨front, record, last, run, _, before, after⟩ := revoker_run ⟨fun _ => none, fun _ => true⟩
    ⟨"mainnet", fun _ => false⟩ (show Includes "alice@example.com" "e@example.com" by decide)
  obtain ⟨email, otp, revoking, earlier, _, ⟨_, _, _, registering, _⟩, _⟩ :=
    claim _ _ _ _ _ _ (fun _ => rfl) run front record [] rfl "did:key:alice" before after
  have rival := revokerCalls_revokes revoking
  have owner := revokerCalls_registers registering
  rw [rival] at owner
  exact absurd owner (by decide)

theorem revoked_by_alice : ∃ front record last,
    Run ((registry ⟨fun _ => none, fun _ => true⟩ ⟨"mainnet", fun _ => false⟩
      (revokerCalls "alice@example.com")).restrict
      NamesOwner) (Pool.idle fun _ _ => none) (front ++ [record]) last ∧
      HasStatus record.2.after "did:key:alice" .Revoked ∧
      RevokedByOwner (revokerCalls "alice@example.com") (front ++ [record]) := by
  obtain ⟨front, record, last, run, _, _, after⟩ := revoker_run ⟨fun _ => none, fun _ => true⟩
    ⟨"mainnet", fun _ => false⟩ (List.infix_refl _ : Includes "alice@example.com" "alice@example.com")
  have named := names_owner_of_calls (fun _ => rfl) run
    fun _ _ _ _ _ _ _ _ _ revoking registering _ _ =>
      (revokerCalls_registers registering).trans (revokerCalls_revokes revoking).symm
  exact ⟨front, record, last, named, after, revoked_by_owner _ _ _ (fun _ => rfl) named⟩

end Owners

end DynamoDB

end CeramicAnchor
