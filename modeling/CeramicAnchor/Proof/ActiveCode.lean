import CeramicAnchor.Proof.OneTimeCode

/-
This file proves when each email has at most one active code, and that concurrent calls can leave two.
-/

namespace CeramicAnchor
open Concurrency Storage

namespace DynamoDB

variable {formats : AuthFormats} {config : AuthConfig} {calls : Nat → AuthCall}

section Insertion

def OneActive (tables : AuthTables) : Prop :=
  ∀ email otp other, HasOTPStatus tables email otp .Active → HasOTPStatus tables email other .Active →
  otp = other

/-- No call is in progress. -/
def Settled (pool : AuthPool) : Prop :=
  ∀ thread program, pool.threads thread = some program →
    (∃ result, program = .done result) ∨ ∃ error, program = .fail error

/-- When a call has inserted its code, every other active code of the email was in the answer to the
query of the call, and nobody has stored it since. -/
def Timely (calls : Nat → AuthCall) (trace : List AuthRecord) : Prop :=
  ∀ front record back, trace = front ++ record :: back → ∀ email otp expiresAtUnix,
    StoresCode calls record email otp expiresAtUnix → HasOTPStatus record.2.after email otp .Active →
      ∀ other, HasOTPStatus record.2.before email other .Active → other ≠ otp →
        ∃ early query later items, front = early ++ (record.1, query) :: later ∧
        QueriesCodes query email items ∧
          (∃ item ∈ items, item.SK = other) ∧
          ∀ stored ∈ later, ∀ otherExpiry, ¬ StoresCode calls stored email other otherExpiry

theorem QueriesCodes.not_calm {event : AuthEvent} {email : String} {items : List Item}
    (queries : QueriesCodes event email items) : ¬ event.op.Calm := by
  obtain ⟨before, after, rfl⟩ := queries
  exact id

/-- The one query of a call is the first event of its thread. -/
theorem Prepared.cut {email otp : String} {early later : List AuthEvent} {query : AuthEvent}
    {items : List Item}
    (prepared : Prepared email otp (early ++ query :: later)) (queries : QueriesCodes query email items) :
    Expiring items later := by
  obtain ⟨first, found, rest, firstQueries, same, expiring, _⟩ := prepared
  cases early with
  | nil =>
      obtain ⟨rfl, rfl⟩ := List.cons.inj same
      obtain ⟨before, after, rfl⟩ := queries
      obtain ⟨_, _, answered⟩ := firstQueries
      cases answered
      exact expiring
  | cons event early =>
      obtain ⟨rfl, rfl⟩ := List.cons.inj same
      exact absurd (expiring.calm query (by simp)) queries.not_calm

theorem Expires.spent {event : AuthEvent} {email otp : String} (expires : Expires event email otp)
    (performed : event.op.perform event.before event.reply event.after) : Spent event.after email otp := by
  obtain ⟨updatedAtUnix, before, output, after, rfl⟩ := expires
  have stored : after .OTP = (before .OTP).update email otp (otpEntries .Expired updatedAtUnix) := by
    rw [show after = _ from performed.2.1]
    exact Function.update_self _ _ _
  have found : after .OTP (email, otp) =
      some ((before .OTP).updated email otp (otpEntries .Expired updatedAtUnix)) := by
    rw [otp_update _ stored, if_pos rfl]
  exact .inr ⟨_, found, updated_otpStatus _ _ _ _ _⟩

/-- The query answers with items of its own partition. -/
theorem QueriesCodes.partition {event : AuthEvent} {email : String} {items : List Item}
    (queries : QueriesCodes event email items)
    (performed : event.op.perform event.before event.reply event.after)
    {item : Item} (listed : item ∈ items) : item.PK = email := by
  obtain ⟨before, after, rfl⟩ := queries
  exact (performed.1 items rfl item listed).1

/-- A code that the call has expired is not active when the call inserts its own. -/
theorem inserted_alone {first last : AuthPool} {front back : List AuthRecord} {record : AuthRecord}
    (run : Run (registry formats config calls) first (front ++ record :: back) last)
    (idle : ∀ thread, first.threads thread = none) (timely : Timely calls (front ++ record :: back))
    {email otp other : String} {expiresAtUnix : Int}
    (stores : StoresCode calls record email otp expiresAtUnix)
    (inserted : HasOTPStatus record.2.after email otp .Active)
    (active : HasOTPStatus record.2.before email other .Active) : other = otp := by
  by_contra different
  obtain ⟨early, query, later, items, rfl, queries, ⟨item, listed, rfl⟩, unstored⟩ :=
    timely _ _ _ rfl email otp expiresAtUnix stores inserted other active different
  have prepared := run_prepared run idle stores
  rw [eventsOf_split early later (record.1, query)] at prepared
  obtain ⟨event, expired, expires⟩ := (prepared.cut queries).expired item listed
  rw [queries.partition (run.performed (record.1, query) (by simp)) listed] at expires
  obtain ⟨between, rest, rfl⟩ := List.append_of_mem (mem_eventsOf.mp expired)
  have performed := run.performed (record.1, event) (by simp)
  obtain ⟨pool, _, earlier, reached, _⟩ := run.split
  rw [← List.cons_append, ← List.append_assoc] at earlier
  have kept :=
    (earlier.after (fun tables => Spent tables email item.SK) (by rintro _ _ ⟨⟩) (fun event inside spent =>
    spent.kept earlier idle (by simp [inside]) (unstored event (by simp [inside])))
    (expires.spent performed)).2
  rw [reached] at kept
  exact kept.not_live active.live

/-- Each event keeps the codes of an email apart. -/
theorem one_active_kept {first last : AuthPool} {trace : List AuthRecord}
    (run : Run (registry formats config calls) first trace last)
    (idle : ∀ thread, first.threads thread = none)
    (timely : Timely calls trace) :
    ∀ record ∈ trace, OneActive record.2.before → OneActive record.2.after := by
  intro record member one
  have performs := run_performs run idle _ member
  have effect := performs.codeEffect (run.performed _ member)
  obtain ⟨thread, op, before, reply, after⟩ := record
  generalize call : calls thread = made at effect
  dsimp only at effect one ⊢
  -- An update makes no code active.
  have updates : ∀ {PK SK : String} {status : OTPStatus} {updatedAtUnix : Int}, status ≠ .Active →
      after .OTP = (before .OTP).update PK SK (otpEntries status updatedAtUnix) → OneActive after := by
    intro PK SK status updatedAtUnix inactive stored email otp other active otherActive
    have earlier :
        ∀ {code}, HasOTPStatus after email code .Active → HasOTPStatus before email code .Active := by
      rintro code ⟨item, found, text⟩
      rw [otp_update _ stored] at found
      split at found
      · obtain rfl := Option.some.inj found
        rw [updated_otpStatus] at text
        have texts := Attribute.text.inj (Option.some.inj text)
        cases status <;> first | exact absurd rfl inactive | exact absurd texts (by decide)
      · exact ⟨item, found, text⟩
    exact one email otp other (earlier active) (earlier otherActive)
  cases effect with
  | none same =>
      intro email otp other
      simp only [HasOTPStatus, same]
      exact one email otp other
  | expiry present stored => exact updates (by decide) stored
  | consumption uses live stored => exact updates (by decide) stored
  | @code owner code createdAtUnix updatedAtUnix expiresAtUnix stored =>
      have inserted : HasOTPStatus after owner code .Active :=
        ⟨_, by rw [otp_put _ stored]; exact if_pos rfl, rfl⟩
      have earlier : ∀ {email otp}, (email, otp) ≠ (owner, code) → HasOTPStatus after email otp .Active →
          HasOTPStatus before email otp .Active := by
        rintro email otp other ⟨item, found, text⟩
        rw [otp_put _ stored] at found
        exact ⟨item, (if_neg other).symm.trans found, text⟩
      obtain ⟨front, back, rfl⟩ := List.append_of_mem member
      have alone : ∀ {otp}, HasOTPStatus after owner otp .Active → otp = code := by
        intro otp active
        by_contra different
        have old := earlier (fun same => different (Prod.mk.inj same).2) active
        exact different
          (inserted_alone run idle timely ⟨call, createdAtUnix, updatedAtUnix, rfl⟩ inserted old)
      intro email otp other active otherActive
      by_cases same : email = owner
      · subst same
        exact (alone active).trans (alone otherActive).symm
      · have apart : ∀ {code'}, (email, code') ≠ (owner, code) := fun equal => same (Prod.mk.inj equal).1
        exact one email otp other (earlier apart active) (earlier apart otherActive)

/-- When every insertion is timely each email has at most one active code in every state. -/
theorem one_active_code (formats : AuthFormats) (config : AuthConfig) (calls : Nat → AuthCall)
    {first : AuthTables} (one : OneActive first) {trace : List AuthRecord} {last : AuthPool}
    (run : Run (registry formats config calls) (Pool.idle first) trace last) (timely : Timely calls trace) :
    OneActive last.world :=
  (run.keeps OneActive (by rintro _ _ ⟨⟩) one (one_active_kept run (fun _ => rfl) timely)).2

end Insertion

section Race

/-- Two calls ask for a code of one email. -/
def racingCalls : Nat → AuthCall := fun _ => .createEmailVerificationCode "alice@example.com"

def raceTables : AuthTables :=
  storeOTP (storeOTP (fun _ _ => none) "alice@example.com" aliceCode) "alice@example.com" revokerCode

/-- Both calls ask for the active codes before either of them stores its own. -/
theorem racing_run :
    ∃ trace last, Run (registry ⟨fun _ => none, fun _ => true⟩ ⟨"mainnet", fun _ => false⟩ racingCalls)
    (Pool.idle fun _ _ => none) trace last ∧ DistinctCodes trace ∧ Settled last ∧
    last.world = raceTables := by
  apply Exists.intro
  apply Exists.intro
  constructor
  · apply Run.starts 0 rfl rfl
    apply Run.starts 1 rfl rfl
    apply Run.acts 0
      (DynamoOp.query .OTP "alice@example.com" (.contains "curr_status" OTPStatus.Active.text))
      (.ok (some []))
    · exact rfl
    · exact ⟨by simp, rfl⟩
    apply Run.acts 1
      (DynamoOp.query .OTP "alice@example.com" (.contains "curr_status" OTPStatus.Active.text))
      (.ok (some []))
    · exact rfl
    · exact ⟨by simp, rfl⟩
    apply Run.acts 0 DynamoOp.randomUUID (.ok aliceCode)
    · exact rfl
    · exact rfl
    apply Run.acts 0 DynamoOp.now (.ok (0 : Int))
    · exact rfl
    · exact rfl
    apply Run.acts 0 DynamoOp.now (.ok (0 : Int))
    · exact rfl
    · exact rfl
    apply Run.acts 0 DynamoOp.now (.ok (0 : Int))
    · exact rfl
    · exact rfl
    apply Run.acts 0
      (DynamoOp.putItem .OTP (otpItem "alice@example.com" aliceCode 0 0 (0 + 30 * 60)) none) (.ok ())
    · exact rfl
    · exact ⟨trivial, rfl⟩
    apply Run.acts 1 DynamoOp.randomUUID (.ok revokerCode)
    · exact rfl
    · exact rfl
    apply Run.acts 1 DynamoOp.now (.ok (0 : Int))
    · exact rfl
    · exact rfl
    apply Run.acts 1 DynamoOp.now (.ok (0 : Int))
    · exact rfl
    · exact rfl
    apply Run.acts 1 DynamoOp.now (.ok (0 : Int))
    · exact rfl
    · exact rfl
    apply Run.acts 1
      (DynamoOp.putItem .OTP (otpItem "alice@example.com" revokerCode 0 0 (0 + 30 * 60)) none) (.ok ())
    · exact rfl
    · exact ⟨trivial, rfl⟩
    exact .refl _
  · refine ⟨?_, ?_, rfl⟩
    · have different : aliceCode ≠ revokerCode := by decide
      simp [DistinctCodes, Generates, different.symm]
    intro thread program current
    rcases thread with _ | _ | thread
    · exact .inl ⟨_, (Option.some.inj current).symm⟩
    · exact .inl ⟨_, (Option.some.inj current).symm⟩
    · cases current

theorem two_active_codes : ¬ ∀ (formats : AuthFormats) (config : AuthConfig) (calls : Nat → AuthCall)
    (first : AuthTables) (trace : List AuthRecord) (last : AuthPool), (∀ key, first .OTP key = none) →
      Run (registry formats config calls) (Pool.idle first) trace last → DistinctCodes trace → Settled last →
      OneActive last.world := by
  intro claim
  obtain ⟨trace, last, run, distinct, settled, reached⟩ := racing_run
  have one := claim _ _ _ _ _ _ (fun _ => rfl) run distinct settled
  rw [reached] at one
  exact absurd
    (one "alice@example.com" aliceCode revokerCode ⟨otpItem "alice@example.com" aliceCode 0 0 (0 + 30 * 60),
    rfl, rfl⟩ ⟨otpItem "alice@example.com" revokerCode 0 0 (0 + 30 * 60), rfl, rfl⟩) (by decide)

/-- No code has been stored. -/
def noCodes : AuthTables := fun _ _ => none

theorem noCodes_unset (email otp : String) (status : OTPStatus) :
    ¬ HasOTPStatus noCodes email otp status := by
  rintro ⟨item, found, _⟩
  cases found

def expireOTP (tables : AuthTables) (email otp : String) : AuthTables :=
  Function.update tables .OTP ((tables .OTP).update email otp (otpEntries .Expired 0))

/-- The tables after the first code of the email, and after it has expired. -/
def firstCode : AuthTables := storeOTP noCodes "alice@example.com" aliceCode

def firstExpired : AuthTables := expireOTP firstCode "alice@example.com" aliceCode

/-- A call finds the first code, expires it and stores its own. -/
def renewalEvents : List AuthEvent :=
  let expired := ((firstCode .OTP).updated "alice@example.com" aliceCode (otpEntries .Expired 0))
  [⟨.query .OTP "alice@example.com" (.contains "curr_status" OTPStatus.Active.text), firstCode,
      .ok (some [otpItem "alice@example.com" aliceCode 0 0 (0 + 30 * 60)]), firstCode⟩,
    ⟨.now, firstCode, .ok (0 : Int), firstCode⟩,
    ⟨.updateItem .OTP "alice@example.com" aliceCode (otpEntries .Expired 0) (some isUnexpired), firstCode,
      .ok (some (some expired)), firstExpired⟩,
    ⟨.randomUUID, firstExpired, .ok revokerCode, firstExpired⟩,
    ⟨.now, firstExpired, .ok (0 : Int), firstExpired⟩,
    ⟨.now, firstExpired, .ok (0 : Int), firstExpired⟩,
    ⟨.now, firstExpired, .ok (0 : Int), firstExpired⟩,
    ⟨.putItem .OTP (otpItem "alice@example.com" revokerCode 0 0 (0 + 30 * 60)) none, firstExpired, .ok (),
      storeOTP firstExpired "alice@example.com" revokerCode⟩]

theorem renewal_path : Path (alone formats config calls thread)
    ((AuthCall.createEmailVerificationCode "alice@example.com").program formats config) firstCode
    renewalEvents (.done (.code (some revokerCode)))
    (storeOTP firstExpired "alice@example.com" revokerCode) := by
  apply Path.reply (alone formats config calls thread)
    (DynamoOp.query .OTP "alice@example.com" (.contains "curr_status" OTPStatus.Active.text))
    (.ok (some [otpItem "alice@example.com" aliceCode 0 0 (0 + 30 * 60)]))
  · refine ⟨fun items found item member => ?_, rfl⟩
    obtain rfl := Option.some.inj found
    obtain rfl := List.mem_singleton.mp member
    exact ⟨rfl, rfl, rfl⟩
  apply Path.reply (alone formats config calls thread) DynamoOp.now (.ok (0 : Int)) rfl
  apply Path.reply (alone formats config calls thread)
    (DynamoOp.updateItem .OTP "alice@example.com" aliceCode (otpEntries .Expired 0) (some isUnexpired))
    (.ok (some (some _)))
  · exact ⟨rfl, rfl, fun attributes same => (Option.some.inj (Option.some.inj same)).symm⟩
  apply Path.reply (alone formats config calls thread) DynamoOp.randomUUID (.ok revokerCode) rfl
  apply Path.reply (alone formats config calls thread) DynamoOp.now (.ok (0 : Int)) rfl
  apply Path.reply (alone formats config calls thread) DynamoOp.now (.ok (0 : Int)) rfl
  apply Path.reply (alone formats config calls thread) DynamoOp.now (.ok (0 : Int)) rfl
  apply Path.reply (alone formats config calls thread)
    (DynamoOp.putItem .OTP (otpItem "alice@example.com" revokerCode 0 0 (0 + 30 * 60)) none) (.ok ())
    ⟨trivial, rfl⟩
  exact Path.stop _ _

theorem firstExpired_inactive (email other : String) : ¬ HasOTPStatus firstExpired email other .Active := by
  rintro ⟨item, found, active⟩
  have expired : firstExpired .OTP = (firstCode .OTP).update "alice@example.com" aliceCode
      (otpEntries .Expired 0) := rfl
  have stored :
      firstCode .OTP = (noCodes .OTP).put (otpItem "alice@example.com" aliceCode 0 0 (0 + 30 * 60)) :=
    rfl
  rw [otp_update _ expired] at found
  split at found
  · obtain rfl := Option.some.inj found
    rw [updated_otpStatus] at active
    exact absurd (Attribute.text.inj (Option.some.inj active)) (by decide)
  · next different =>
      rw [otp_put _ stored] at found
      exact absurd ((if_neg different).symm.trans found) (by simp [noCodes])

/-- A second call expires the code of the first one and leaves its own code active. -/
theorem one_active_code_alice : ∃ trace last,
    Run (registry ⟨fun _ => none, fun _ => true⟩ ⟨"mainnet", fun _ => false⟩ racingCalls)
      (Pool.idle noCodes) trace last ∧ Timely racingCalls trace ∧
    HasOTPStatus last.world "alice@example.com" aliceCode .Expired ∧
    HasOTPStatus last.world "alice@example.com" revokerCode .Active ∧ OneActive last.world := by
  have earlier := (Run.refl (Pool.idle noCodes)).whole rfl rfl
    (code_path ⟨fun _ => none, fun _ => true⟩ ⟨"mainnet", fun _ => false⟩ racingCalls 0 noCodes
      "alice@example.com" aliceCode)
  have free : ((Pool.idle noCodes).resume 0 (.done (.code (some aliceCode))) firstCode :
    AuthPool).threads 1 = none := rfl
  have run := earlier.whole free rfl renewal_path
  have timely : Timely racingCalls (([] ++ (codeEvents noCodes "alice@example.com" aliceCode).map
      fun event => (0, event)) ++ renewalEvents.map fun event => (1, event)) := by
    intro front record back split email otp expiresAtUnix stores _ other active _
    have member : record ∈ front ++ record :: back := by simp
    rw [← split] at member
    simp only [codeEvents, renewalEvents, List.nil_append, List.map_cons, List.map_nil, List.mem_append,
      List.mem_cons, List.not_mem_nil, or_false] at member
    rcases member with (rfl | rfl | rfl | rfl | rfl | rfl) | rfl | rfl | rfl | rfl | rfl | rfl | rfl | rfl
    all_goals obtain ⟨_, _, _, same⟩ := stores
    all_goals cases same
    · exact absurd active (noCodes_unset _ _ _)
    · exact absurd active (firstExpired_inactive _ _)
  exact ⟨_, _, run, timely, ⟨_, rfl, rfl⟩, ⟨_, rfl, rfl⟩,
    one_active_code _ _ _ (fun email otp _ active => absurd active (noCodes_unset email otp _)) run timely⟩

end Race

end DynamoDB

end CeramicAnchor
