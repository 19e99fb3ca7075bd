import CeramicAnchor.Proof.Registration

/-
This file proves that a nonce admits one invocation, and that none follows the revocation of its DID.
-/

namespace CeramicAnchor
open Concurrency Storage

namespace DynamoDB

variable {formats : AuthFormats} {config : AuthConfig} {calls : Nat → AuthCall} {thread : Nat}

abbrev AuthEvent := Event DynamoOp DynamoOp.Reply DynamoError AuthTables

section Stability

/-- No operation removes an item of the DID table. -/
theorem Effect.keeps_present {tables next : AuthTables} {call : AuthCall} {op : DynamoOp}
    (effect : call.Effect tables next op) {key : String × String} (present : (tables .DID key).isSome) :
    (next .DID key).isSome := by
  cases effect with
  | none same => rwa [same]
  | registration _ _ stored =>
      rw [stored]
      exact Documents.put_isSome present
  | nonce _ stored =>
      rw [stored]
      exact Documents.put_isSome present
  | revocation _ _ stored =>
      rw [stored]
      exact Documents.update_isSome present

/-- No operation makes a revoked DID active again. -/
theorem Effect.keeps_revoked {tables next : AuthTables} {call : AuthCall} {op : DynamoOp}
    (effect : call.Effect tables next op) {did : String} (revoked : HasStatus tables did .Revoked) :
    HasStatus next did .Revoked := by
  obtain ⟨item, found, status⟩ := revoked
  cases effect with
  | none same => exact ⟨item, by rw [same, found], status⟩
  | registration _ free stored => exact ⟨item, by rw [stored, Documents.put_of_free free found], status⟩
  | nonce free stored => exact ⟨item, by rw [stored, Documents.put_of_free free found], status⟩
  | @revocation _ _ owner value updatedAtUnix _ _ stored =>
      by_cases same : did = owner
      · exact ⟨_, by rw [get_update did stored, if_pos same], updated_status _ _ _⟩
      · exact ⟨item, by rw [get_update did stored, if_neg same, found], status⟩

theorem HasStatus.unique {tables : AuthTables} {did : String} {status other : DIDStatus}
    (one : HasStatus tables did status) (another : HasStatus tables did other) : status = other := by
  obtain ⟨item, found, text⟩ := one
  obtain ⟨_, same, otherText⟩ := another
  obtain rfl := Option.some.inj (found.symm.trans same)
  have texts := Attribute.text.inj (Option.some.inj (text.symm.trans otherText))
  cases status <;> cases other <;> first | rfl | exact absurd texts (by decide)

end Stability

section Calls

/-- The event reads the registration of the DID while it has this status. -/
def ReadsStatus (event : AuthEvent) (did : String) (status : DIDStatus) : Prop :=
  event.op = .getItem .DID did INITIAL_NONCE ∧ HasStatus event.before did status

/-- The event writes the nonce, which was free. -/
def StoresNonce (event : AuthEvent) (did nonce : String) : Prop :=
  event.before .DID (did, nonce) = none ∧ (event.after .DID (did, nonce)).isSome

theorem getDIDRegistration_sat {reached : AuthTables × List AuthEvent} (did : String) (status : DIDStatus) :
    Sat ((registry formats config calls).exposed thread).recorded (fun _ _ _ _ => True)
      (fun data later => data.isSome → ∃ event ∈ later.2, ReadsStatus event did status) (fun _ _ => True)
      (getDIDRegistration did (some status)) reached := by
  apply sat_handle fun _ _ => True
  · apply sat_bind fun data reached => ∃ event ∈ reached.2,
      event.op = .getItem .DID did INITIAL_NONCE ∧ event.before .DID (did, INITIAL_NONCE) = some data
    · apply sat_bind fun results reached => ∃ event ∈ reached.2,
        event.op = .getItem .DID did INITIAL_NONCE ∧ event.before .DID (did, INITIAL_NONCE) = results
      · apply sat_recorded_call (DynamoOp.getItem .DID did INITIAL_NONCE)
        · intro before _ results after performed
          exact ⟨trivial, _, List.mem_append_right _ (List.mem_singleton_self _), rfl, performed.1.symm⟩
        · intro before _ error after _
          exact ⟨trivial, trivial⟩
      · intro results reached read
        cases results with
        | none => trivial
        | some data => exact read
    · rintro data reached ⟨event, member, read, found⟩
      dsimp only
      split
      · trivial
      · next same =>
          intro _
          exact ⟨event, member, read, data, found, not_not.mp same⟩
  · intro error reached _ absent
    cases absent

/-- An event of the history stays known while the clock is read. -/
theorem now_sat {reached : AuthTables × List AuthEvent} {meets : AuthEvent → Prop}
    (held : ∃ event ∈ reached.2, meets event) :
    Sat ((registry formats config calls).exposed thread).recorded (fun _ _ _ _ => True)
      (fun _ later => ∃ event ∈ later.2, meets event) (fun _ _ => True) now reached :=
  sat_mono (sat_recorded_remembers now reached.1 held) (fun _ _ _ _ _ => trivial) (fun _ _ => id)
    fun _ _ _ => trivial

/-- A stored nonce was free, and the registration was active when it was read. -/
def Admitted (history : List AuthEvent) (did nonce : String) : Prop :=
  (∃ event ∈ history, ReadsStatus event did .Active) ∧ ∃ event ∈ history, StoresNonce event did nonce

theorem storing_sat {reached : AuthTables × List AuthEvent} (did nonce : String)
    (createdAtUnix updatedAtUnix : Int) (active : ∃ event ∈ reached.2, ReadsStatus event did .Active) :
    Sat ((registry formats config calls).exposed thread).recorded (fun _ _ _ _ => True)
      (fun _ later => Admitted later.2 did nonce) (fun _ _ => True)
      (Prog.call (DynamoOp.putItem .DID (nonceItem did nonce createdAtUnix updatedAtUnix)
        (some (.attributeNotExists "PK")))) reached := by
  obtain ⟨event, member, read⟩ := active
  obtain ⟨start, history⟩ := reached
  apply sat_recorded_call (DynamoOp.putItem .DID (nonceItem did nonce createdAtUnix updatedAtUnix)
    (some (.attributeNotExists "PK")))
  · intro before _ value after performed
    refine ⟨trivial, ⟨event, List.mem_append_left _ member, read⟩, _,
      List.mem_append_right _ (List.mem_singleton_self _),
      (Condition.holds_notExists_PK _).mp performed.1, ?_⟩
    simp [performed.2, Documents.put, nonceItem]
  · intro before _ error after _
    exact ⟨trivial, trivial⟩

theorem putNonce_sat {reached : AuthTables × List AuthEvent} (did nonce : String)
    (active : ∃ event ∈ reached.2, ReadsStatus event did .Active) :
    Sat ((registry formats config calls).exposed thread).recorded (fun _ _ _ _ => True)
      (fun data later => data.isSome → Admitted later.2 did nonce) (fun _ _ => True)
      (putNonce did nonce) reached := by
  apply sat_bind _ (now_sat active)
  intro createdAtUnix reached active
  apply sat_bind _ (now_sat active)
  intro updatedAtUnix reached active
  apply sat_handle fun _ _ => True
  · apply sat_bind _ (storing_sat did nonce createdAtUnix updatedAtUnix active)
    intro _ later held _
    exact held
  · intro error later _ absent
    cases absent

theorem addNonce_sat {reached : AuthTables × List AuthEvent} (did nonce : String) :
    Sat ((registry formats config calls).exposed thread).recorded (fun _ _ _ _ => True)
      (fun data later => data.isSome → Admitted later.2 did nonce) (fun _ _ => True)
      (addNonce did nonce) reached := by
  apply sat_bind _ (getDIDRegistration_sat did .Active)
  intro activeDID reached read
  cases activeDID with
  | none => exact fun absent => by cases absent
  | some data => exact putNonce_sat did nonce (read rfl)

/-- The token of the call names this DID and this nonce. -/
def Presents (formats : AuthFormats) (call : AuthCall) (did nonce : String) : Prop :=
  ∃ event jws result, call = .authorize event ∧ bearerToken event = some jws ∧
    formats.parseSignature jws = some result ∧ result.did = some did ∧ result.nonce = some nonce

theorem Presents.unique {call : AuthCall} {did other nonce otherNonce : String}
    (one : Presents formats call did nonce) (another : Presents formats call other otherNonce) :
    nonce = otherNonce := by
  obtain ⟨event, jws, result, rfl, token, parsed, _, carried⟩ := one
  obtain ⟨_, _, _, same, otherToken, otherParsed, _, otherCarried⟩ := another
  obtain rfl := AuthCall.authorize.inj same
  obtain rfl := Option.some.inj (token.symm.trans otherToken)
  obtain rfl := Option.some.inj (parsed.symm.trans otherParsed)
  exact Option.some.inj (carried.symm.trans otherCarried)

theorem signedNonce_parsed {jws did nonce : String} {digest : Option String}
    (signed : signedNonce formats jws = some (did, nonce, digest)) :
    ∃ result, formats.parseSignature jws = some result ∧ result.did = some did ∧
    result.nonce = some nonce := by
  unfold signedNonce at signed
  split at signed
  · cases signed
  · next result parsed =>
      split at signed
      · next named carried =>
          split at signed
          · simp only [Option.some.injEq, Prod.mk.injEq] at signed
            obtain ⟨rfl, rfl, _⟩ := signed
            exact ⟨result, parsed, named, carried⟩
          · cases signed
      · cases signed

/-- A policy that names a DID answers a token whose nonce was admitted. -/
def Justified (formats : AuthFormats) (call : AuthCall) (history : List AuthEvent)
    (response : AuthorizerResponse) : Prop :=
  ∀ policy did, response = .policy policy → policy.context.did = some did →
    ∃ nonce, Presents formats call did nonce ∧ Admitted history did nonce

theorem handler_sat {reached : AuthTables × List AuthEvent} (event : AuthorizerEvent) :
    Sat ((registry formats config calls).exposed thread).recorded (fun _ _ _ _ => True)
      (fun response later => Justified formats (.authorize event) later.2 response) (fun _ _ => True)
      (handler formats config event) reached := by
  have address : ∀ history, Justified formats (.authorize event) history (allowAddress event) := by
    rintro history policy did same named
    obtain rfl := AuthorizerResponse.policy.inj same
    cases named
  have refused : ∀ history, Justified formats (.authorize event) history .unauthorized := by
    rintro history policy did same
    cases same
  unfold handler
  split
  · exact address _
  · split
    · exact address _
    · split
      · exact refused _
      · next jws token =>
          unfold allowRegisteredDID
          split
          · exact refused _
          · next did nonce digest signed =>
              apply sat_bind _ (addNonce_sat did nonce)
              intro data later admitted
              cases data with
              | none => exact refused _
              | some stored =>
                  dsimp only
                  split
                  · rintro policy other same named
                    obtain rfl := AuthorizerResponse.policy.inj same
                    obtain rfl := Option.some.inj named
                    obtain ⟨result, parsed, whose, carried⟩ := signedNonce_parsed signed
                    exact ⟨nonce, ⟨event, jws, result, rfl, token, parsed, whose, carried⟩, admitted rfl⟩
                  · exact refused _

theorem revocation_after {tables next : AuthTables} {email did : String} {updatedAtUnix : Int}
    {output : Option (Option Item)}
    (resolved : (revocation email did updatedAtUnix).Resolves tables output next) :
    HasStatus next did .Revoked := by
  have stored : next .DID = (tables .DID).update did INITIAL_NONCE (revokedEntries updatedAtUnix) := by
    rw [show next = _ from resolved.2.1]
    exact Function.update_self _ _ _
  exact ⟨_, by rw [get_update did stored, if_pos rfl], updated_status _ _ _⟩

/-- A successful revocation has left its DID revoked. -/
def Succeeds (history : List AuthEvent) (did : String) (result : Revocation) : Prop :=
  ∀ email owner status, result = .revoked email owner status → ∃ event ∈ history,
  HasStatus event.after did .Revoked

theorem revokeDID_sat {reached : AuthTables × List AuthEvent} (email otp did : String) :
    Sat ((registry formats config calls).exposed thread).recorded (fun _ _ _ _ => True)
      (fun result later => Succeeds later.2 did result) (fun _ _ => True) (revokeDID email otp did)
      reached := by
  apply sat_bind _ (sat_trivial (checkCorrectOTP email otp) reached)
  intro correct reached _
  split
  · rintro _ _ _ same
    cases same
  · apply sat_bind _ (sat_trivial now reached)
    intro updatedAtUnix reached _
    apply sat_handle fun _ _ => True
    · apply sat_bind fun _ later => ∃ event ∈ later.2, HasStatus event.after did .Revoked
      · apply sat_recorded_call (revocation email did updatedAtUnix)
        · intro before _ output after performed
          exact ⟨trivial, _, List.mem_append_right _ (List.mem_singleton_self _), revocation_after performed⟩
        · intro before _ error after _
          exact ⟨trivial, trivial⟩
      · intro output later revoked
        split
        · exact fun _ _ _ _ => revoked
        · rintro _ _ _ same
          cases same
        · exact fun _ _ _ _ => revoked
    · rintro error later _ _ _ _ same
      cases same

/-- What an outcome of a call says about its own history. -/
def Explained (formats : AuthFormats) (call : AuthCall) (history : List AuthEvent) : AuthResult → Prop
  | .answer response => Justified formats call history response
  | .revocation result => ∃ email otp did, call = .revokeDID email otp did ∧ Succeeds history did result
  | _ => True

theorem program_sat {reached : AuthTables × List AuthEvent} (call : AuthCall) :
    Sat ((registry formats config calls).exposed thread).recorded (fun _ _ _ _ => True)
      (fun result later => Explained formats call later.2 result) (fun _ _ => True)
      (call.program formats config) reached := by
  cases call with
  | registerDIDs email otp dids skipOTP => exact sat_bind _ (sat_trivial _ _) fun _ _ _ => trivial
  | createEmailVerificationCode email => exact sat_bind _ (sat_trivial _ _) fun _ _ _ => trivial
  | revokeDID email otp did =>
      exact sat_bind _ (revokeDID_sat email otp did) fun _ _ succeeds => ⟨email, otp, did, rfl, succeeds⟩
  | authorize event => exact sat_bind _ (handler_sat event) fun _ _ justified => justified

/-- The result of a finished call is explained by the events of its thread. -/
theorem finished_explained {first last : AuthPool} {trace : List AuthRecord}
    (run : Run (registry formats config calls) first trace last) (free : first.threads thread = none)
    {result : AuthResult} (finished : last.threads thread = some (.done result)) :
    Explained formats (calls thread) (eventsOf thread trace) result := by
  obtain ⟨program, start, ended, rfl, path⟩ := run.finished free finished
  have explained := (sat_recorded_path path [] (program_sat (calls thread))).2
  rwa [List.nil_append] at explained

end Calls

section Admission

variable (formats config calls thread)

theorem getDIDRegistration_path {tables : AuthTables} {did : String} {status : DIDStatus} {item : Item}
    (found : tables .DID (did, INITIAL_NONCE) = some item)
    (current : item.get "curr_status" = some (.text status.text)) :
    ∃ events, Path (alone formats config calls thread) (getDIDRegistration did (some status)) tables events
      (.done (some item)) tables := by
  apply Exists.intro
  apply Path.reply (alone formats config calls thread) (DynamoOp.getItem .DID did INITIAL_NONCE)
    (.ok (some item)) ⟨found.symm, rfl⟩
  simp only [Prog.bind, Prog.pure_eq, Option.map_some, current, ne_eq, not_true_eq_false, if_false]
  exact Path.stop _ _

theorem putNonce_path {tables : AuthTables} {did nonce : String} (free : tables .DID (did, nonce) = none) :
    ∃ events, Path (alone formats config calls thread) (putNonce did nonce) tables events
      (.done (some (did, nonce)))
      (Function.update tables .DID ((tables .DID).put (nonceItem did nonce 0 0))) := by
  apply Exists.intro
  apply Path.reply (alone formats config calls thread) DynamoOp.now (.ok (0 : Int)) rfl
  apply Path.reply (alone formats config calls thread) DynamoOp.now (.ok (0 : Int)) rfl
  apply Path.reply (alone formats config calls thread)
    (DynamoOp.putItem .DID (nonceItem did nonce 0 0) (some (.attributeNotExists "PK"))) (.ok ())
    ⟨(Condition.holds_notExists_PK _).mpr free, rfl⟩
  exact Path.stop _ _

/-- A fresh nonce of an active DID is admitted. -/
theorem handler_path {tables : AuthTables} {event : AuthorizerEvent} {jws did nonce : String}
    {digest : Option String} (network : config.CERAMIC_NETWORK ≠ "testnet-clay")
    (address : config.ALLOWED_IP_ADDRESSES event.sourceIp = false) (token : bearerToken event = some jws)
    (signed : signedNonce formats jws = some (did, nonce, digest)) (active : HasStatus tables did .Active)
    (free : tables .DID (did, nonce) = none) :
    ∃ events,
    Path (alone formats config calls thread) ((AuthCall.authorize event).program formats config) tables
      events (.done (.answer (.policy
        (generatePolicy did "Allow" event.methodArn did ⟨some did, digest, event.sourceIp⟩))))
      (Function.update tables .DID ((tables .DID).put (nonceItem did nonce 0 0))) := by
  obtain ⟨item, found, status⟩ := active
  obtain ⟨reading, read⟩ := getDIDRegistration_path formats config calls thread found status
  obtain ⟨storing, stored⟩ := putNonce_path formats config calls thread free
  have added : Path (alone formats config calls thread) (addNonce did nonce) tables (reading ++ storing)
      (.done (some (did, nonce))) _ := Path.bind read stored
  have handled : handler formats config event = allowRegisteredDID formats event jws := by
    simp [handler, network, address, token]
  have allowed : Path (alone formats config calls thread) (handler formats config event) tables
      (reading ++ storing ++ [])
      (.done (.policy (generatePolicy did "Allow" event.methodArn did ⟨some did, digest, event.sourceIp⟩)))
      (Function.update tables .DID ((tables .DID).put (nonceItem did nonce 0 0))) := by
    rw [handled, allowRegisteredDID, signed]
    apply Path.bind added
    simp only [and_self, if_true]
    exact Path.stop _ _
  exact ⟨_, Path.bind allowed (Path.stop _ _)⟩

end Admission

section Authorization

/-- The finished call has answered with a policy that allows the DID. -/
def Allows (pool : AuthPool) (thread : Nat) (did : String) : Prop :=
  ∃ policy, pool.threads thread = some (.done (.answer (.policy policy))) ∧ policy.effect = "Allow" ∧
    policy.principalId = did ∧ policy.context.did = some did

/-- The finished call has revoked the DID. -/
def HasRevoked (calls : Nat → AuthCall) (pool : AuthPool) (thread : Nat) (did : String) : Prop :=
  (∃ email otp, calls thread = .revokeDID email otp did) ∧
    ∃ email owner status, pool.threads thread = some (.done (.revocation (.revoked email owner status)))

theorem Allows.admitted {first last : AuthPool} {trace : List AuthRecord}
    (run : Run (registry formats config calls) first trace last) (free : first.threads thread = none)
    {did : String} (allows : Allows last thread did) :
    ∃ nonce, Presents formats (calls thread) did nonce ∧ Admitted (eventsOf thread trace) did nonce := by
  obtain ⟨policy, finished, _, _, named⟩ := allows
  exact finished_explained run free finished policy did rfl named

theorem HasRevoked.event {first last : AuthPool} {trace : List AuthRecord}
    (run : Run (registry formats config calls) first trace last) (free : first.threads thread = none)
    {did : String} (revoked : HasRevoked calls last thread did) :
    ∃ event, (thread, event) ∈ trace ∧ HasStatus event.after did .Revoked := by
  obtain ⟨⟨email, otp, call⟩, _, _, _, finished⟩ := revoked
  obtain ⟨_, _, owner, same, succeeds⟩ := finished_explained run free finished
  obtain ⟨_, _, rfl⟩ := AuthCall.revokeDID.inj (call.symm.trans same)
  obtain ⟨event, member, after⟩ := succeeds _ _ _ rfl
  exact ⟨event, mem_eventsOf.mp member, after⟩

/-- Two invocations that store one nonce are one. -/
theorem stores_once {first : AuthTables} {last : AuthPool} {trace : List AuthRecord}
    (run : Run (registry formats config calls) (Pool.idle first) trace last)
    {did nonce : String} {other : Nat}
    (stores : ∃ event ∈ eventsOf thread trace, StoresNonce event did nonce)
    (otherStores : ∃ event ∈ eventsOf other trace, StoresNonce event did nonce) : thread = other := by
  obtain ⟨event, member, free, taken⟩ := stores
  obtain ⟨otherEvent, otherMember, otherFree, otherTaken⟩ := otherStores
  have same := run.once (fun tables => (tables .DID (did, nonce)).isSome) (by rintro _ _ ⟨⟩)
    (fun record member => Effect.keeps_present (run_effect run record member))
    (mem_eventsOf.mp member) (mem_eventsOf.mp otherMember)
    (by simp [free]) taken (by simp [otherFree]) otherTaken
  exact congrArg Prod.fst same

/-- Once a call has revoked the DID, it is revoked before every later event. -/
theorem revoked_after {first : AuthTables} {middle last : AuthPool} {front back : List AuthRecord}
    (earlier : Run (registry formats config calls) (Pool.idle first) front middle)
    (later : Run (registry formats config calls) middle back last) {did : String} {revoker : Nat}
    (revoked : HasRevoked calls middle revoker did) :
    ∀ record ∈ back, HasStatus record.2.before did .Revoked := by
  have effects := run_effect (earlier.trans later)
  obtain ⟨event, member, after⟩ := revoked.event earlier rfl
  obtain ⟨past, rest, rfl⟩ := List.append_of_mem member
  have now_ := (earlier.after (fun tables => HasStatus tables did .Revoked) (by rintro _ _ ⟨⟩)
    (fun record inside => Effect.keeps_revoked (effects record (by simp [inside]))) after).2
  exact (later.keeps (fun tables => HasStatus tables did .Revoked) (by rintro _ _ ⟨⟩) now_
    fun record inside => Effect.keeps_revoked (effects record (by simp [inside]))).1

/-- A nonce admits one invocation, which has read an active DID, and a revoked DID admits no later one. -/
theorem nonces_single_use (formats : AuthFormats) (config : AuthConfig) (calls : Nat → AuthCall)
    {first : AuthTables} {trace : List AuthRecord} {last : AuthPool}
    (run : Run (registry formats config calls) (Pool.idle first) trace last) :
    (∀ did nonce thread other, Presents formats (calls thread) did nonce →
      Presents formats (calls other) did nonce → Allows last thread did → Allows last other did →
        thread = other) ∧
    (∀ did thread, Allows last thread did → ∃ event ∈ eventsOf thread trace, ReadsStatus event did .Active) ∧
    ∀ did revoker front middle back, Run (registry formats config calls) (Pool.idle first) front middle →
      Run (registry formats config calls) middle back last → HasRevoked calls middle revoker did →
        ∀ thread, middle.threads thread = none → ¬ Allows last thread did := by
  refine ⟨?_, ?_, ?_⟩
  · intro did nonce thread other presents otherPresents allows otherAllows
    obtain ⟨_, presented, admitted⟩ := allows.admitted run rfl
    obtain ⟨_, otherPresented, otherAdmitted⟩ := otherAllows.admitted run rfl
    obtain rfl := presents.unique presented
    obtain rfl := otherPresents.unique otherPresented
    exact stores_once run admitted.2 otherAdmitted.2
  · intro did thread allows
    obtain ⟨nonce, _, read, _⟩ := allows.admitted run rfl
    exact read
  · intro did revoker front middle back earlier later revoked thread free allows
    obtain ⟨nonce, _, ⟨event, member, _, active⟩, _⟩ := allows.admitted later free
    have status := revoked_after earlier later revoked _ (mem_eventsOf.mp member)
    exact absurd (active.unique status) (by decide)

def aliceFormats : AuthFormats where
  parseSignature jws := if jws = "token" then some ⟨some "did:key:alice", some aliceCode, none⟩ else none
  uuid nonce := nonce = aliceCode

/-- An administrator registers the DID of Alice, and then every caller shows the same token. -/
def aliceCalls : Nat → AuthCall
  | 0 => .registerDIDs "alice@example.com" "" ["did:key:alice"] true
  | _ => .authorize ⟨some "Bearer token", "arn:aws:execute-api", "203.0.113.7"⟩

theorem nonces_single_use_alice : ∃ trace last,
    Run (registry aliceFormats ⟨"mainnet", fun _ => false⟩ aliceCalls) (Pool.idle fun _ _ => none)
    trace last ∧
      Allows last 1 "did:key:alice" ∧
      (∃ event ∈ eventsOf 1 trace, ReadsStatus event "did:key:alice" .Active) ∧
      ∀ other, Presents aliceFormats (aliceCalls other) "did:key:alice" aliceCode →
        Allows last other "did:key:alice" → other = 1 := by
  let config : AuthConfig := ⟨"mainnet", fun _ => false⟩
  let item : Item := registrationItem "alice@example.com" "did:key:alice" 0 0
  let event : AuthorizerEvent := ⟨some "Bearer token", "arn:aws:execute-api", "203.0.113.7"⟩
  let empty : AuthTables := fun _ _ => none
  let registered : AuthTables := storeRegistration empty "alice@example.com" "did:key:alice"
  have free : empty .DID ("did:key:alice", INITIAL_NONCE) = none := rfl
  have stored : Path (alone aliceFormats config aliceCalls 0)
      (registerValid "alice@example.com" "" ["did:key:alice"]) empty
      (registrationEvents empty "alice@example.com" "did:key:alice")
      (.done [⟨"alice@example.com", "did:key:alice", INITIAL_NONCE, .Active⟩]) registered :=
    registerValid_path aliceFormats config aliceCalls 0 (by decide) free
  have registering :
      Path (alone aliceFormats config aliceCalls 0) ((aliceCalls 0).program aliceFormats config)
      empty (registrationEvents empty "alice@example.com" "did:key:alice" ++ []) (.done (.registered _))
      registered :=
    Path.bind stored (Path.stop _ _)
  have run := (Run.refl (Pool.idle empty)).whole rfl rfl registering
  have active : HasStatus registered "did:key:alice" .Active := ⟨item, rfl, rfl⟩
  have token : bearerToken event = some "token" := by decide
  have signed : signedNonce aliceFormats "token" = some ("did:key:alice", aliceCode, none) := by decide
  obtain ⟨_, answered⟩ :=
    handler_path aliceFormats config aliceCalls 1 (by decide) rfl token signed active rfl
  obtain ⟨trace, last, run, allows⟩ : ∃ trace last,
      Run (registry aliceFormats config aliceCalls) (Pool.idle empty) trace last ∧
      Allows last 1 "did:key:alice" :=
    ⟨_, _, run.whole rfl rfl answered, _, rfl, rfl, rfl, rfl⟩
  have presents : Presents aliceFormats (aliceCalls 1) "did:key:alice" aliceCode :=
    ⟨event, "token", ⟨some "did:key:alice", some aliceCode, none⟩, rfl, token, rfl, rfl, rfl⟩
  obtain ⟨once, read, _⟩ := nonces_single_use aliceFormats config aliceCalls run
  exact ⟨trace, last, run, allows, read _ _ allows, fun other otherPresents otherAllows =>
    once _ _ _ _ otherPresents presents otherAllows allows⟩

end Authorization

end DynamoDB

end CeramicAnchor
