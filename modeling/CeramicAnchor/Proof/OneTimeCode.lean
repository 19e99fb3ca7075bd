import CeramicAnchor.Proof.Nonce

/-
This file proves that a code of an email lets at most one call past its check.
-/

namespace CeramicAnchor
open Concurrency Storage

namespace DynamoDB

section CodeEffects

def HasOTPStatus (tables : AuthTables) (email otp : String) (status : OTPStatus) : Prop :=
  ∃ item, tables .OTP (email, otp) = some item ∧ item.get "curr_status" = some (.text status.text)

/-- The code has been used or has expired. -/
def Spent (tables : AuthTables) (email otp : String) : Prop :=
  HasOTPStatus tables email otp .Used ∨ HasOTPStatus tables email otp .Expired

/-- The update of a check goes through. -/
def Live (tables : AuthTables) (email otp : String) : Prop := isActive.holds (tables .OTP (email, otp)) = true

theorem live_iff {tables : AuthTables} {email otp : String} : Live tables email otp ↔
    ∃ item value, tables .OTP (email, otp) = some item ∧ item.get "curr_status" = some (.text value) ∧
      Includes value OTPStatus.Active.text := by
  rw [Live, isActive, Condition.holds_and, Condition.holds_contains]
  constructor
  · exact And.right
  · rintro ⟨item, value, found, status⟩
    exact ⟨by rw [found]; rfl, item, value, found, status⟩

theorem HasOTPStatus.live {tables : AuthTables} {email otp : String}
    (active : HasOTPStatus tables email otp .Active) :
    Live tables email otp := by
  obtain ⟨item, found, status⟩ := active
  exact live_iff.mpr ⟨item, _, found, status, List.infix_refl _⟩

/-- No status but Active contains the text of Active. -/
theorem Spent.not_live {tables : AuthTables} {email otp : String} (spent : Spent tables email otp) :
    ¬ Live tables email otp := by
  intro live
  obtain ⟨item, value, found, status, contains⟩ := live_iff.mp live
  rcases spent with ⟨_, same, used⟩ | ⟨_, same, expired⟩
  · obtain rfl := Option.some.inj (found.symm.trans same)
    obtain rfl := Attribute.text.inj (Option.some.inj (status.symm.trans used))
    exact absurd contains (by decide)
  · obtain rfl := Option.some.inj (found.symm.trans same)
    obtain rfl := Attribute.text.inj (Option.some.inj (status.symm.trans expired))
    exact absurd contains (by decide)

/-- These are all the ways in which an operation of a call changes the OTP table. -/
inductive AuthCall.CodeEffect (tables next : AuthTables) : AuthCall → DynamoOp → Prop where
  | none {call : AuthCall} {op : DynamoOp} (same : next .OTP = tables .OTP) : CodeEffect tables next call op
  | code {email otp : String} {createdAtUnix updatedAtUnix expiresAtUnix : Int}
      (stored : next .OTP = (tables .OTP).put (otpItem email otp createdAtUnix updatedAtUnix expiresAtUnix)) :
      CodeEffect tables next (.createEmailVerificationCode email)
        (.putItem .OTP (otpItem email otp createdAtUnix updatedAtUnix expiresAtUnix) .none)
  | expiry {email : String} {item : Item} {updatedAtUnix : Int}
      (present : (tables .OTP (item.PK, item.SK)).isSome)
      (stored : next .OTP = (tables .OTP).update item.PK item.SK (otpEntries .Expired updatedAtUnix)) :
      CodeEffect tables next (.createEmailVerificationCode email)
        (.updateItem .OTP item.PK item.SK (otpEntries .Expired updatedAtUnix) (some isUnexpired))
  | consumption {call : AuthCall} {email otp : String} {updatedAtUnix : Int} (uses : call.Uses email otp)
      (live : Live tables email otp)
      (stored : next .OTP = (tables .OTP).update email otp (otpEntries .Used updatedAtUnix)) :
      CodeEffect tables next call
      (.updateItem .OTP email otp (otpEntries .Used updatedAtUnix) (some isActive))

/-- A command that writes no item of the OTP table. -/
theorem DynamoOp.Resolves.spares {op : DynamoOp} {tables next : AuthTables} {value : op.Reply}
    (resolved : op.Resolves tables value next)
    (elsewhere : op.Reads ∨ ∃ item condition PK SK entries,
      op = .putItem .DID item condition ∨ op = .updateItem .DID PK SK entries condition) :
    next .OTP = tables .OTP := by
  rcases elsewhere with reads | ⟨item, condition, PK, SK, entries, rfl | rfl⟩
  · cases op with
    | now => rw [show next = tables from resolved]
    | randomUUID => rw [show next = tables from resolved]
    | getItem table PK SK => rw [resolved.2]
    | query table PK filter => rw [resolved.2]
    | putItem _ _ _ => exact reads.elim
    | updateItem _ _ _ _ _ => exact reads.elim
  · rw [resolved.2]
    exact Function.update_of_ne (by decide) _ _
  · rw [resolved.2.1]
    exact Function.update_of_ne (by decide) _ _

theorem AuthCall.Performs.codeEffect {call : AuthCall} {op : DynamoOp} (performs : call.Performs op)
    {tables next : AuthTables} {reply : Except DynamoError op.Reply}
    (performed : op.perform tables reply next) :
    call.CodeEffect tables next op := by
  rcases op.perform_cases performed with same | ⟨value, resolved⟩
  · exact .none (congrFun same .OTP)
  · cases performs with
    | reads reads => exact .none (resolved.spares (.inl reads))
    | registration _ => exact .none (resolved.spares (.inr ⟨_, _, "", "", [], .inl rfl⟩))
    | nonce => exact .none (resolved.spares (.inr ⟨_, _, "", "", [], .inl rfl⟩))
    | revocation => exact .none (resolved.spares (.inr ⟨⟨"", "", []⟩, _, _, _, _, .inr rfl⟩))
    | code =>
        refine .code ?_
        rw [resolved.2]
        exact Function.update_self _ _ _
    | @expiry email item updatedAtUnix =>
        have admitted := resolved.1
        simp only [Documents.Admits, isUnexpired, Condition.holds_and] at admitted
        refine .expiry ((Condition.holds_exists_PK _).mp admitted.1) ?_
        rw [resolved.2.1]
        exact Function.update_self _ _ _
    | consumption uses =>
        refine .consumption uses resolved.1 ?_
        rw [resolved.2.1]
        exact Function.update_self _ _ _

theorem updated_otpStatus (items : Documents) (email otp : String) (status : OTPStatus)
    (updatedAtUnix : Int) :
    (items.updated email otp (otpEntries status updatedAtUnix)).get "curr_status" =
    some (.text status.text) := by
  rw [Documents.updated, Item.get_set _ _ (by decide) (by decide)]
  rfl

/-- An update of a code keeps its expiry. -/
theorem updated_expiry {items : Documents} {email otp : String} (status : OTPStatus)
    (updatedAtUnix : Int) {item : Item} (found : items (email, otp) = some item) :
    (items.updated email otp (otpEntries status updatedAtUnix)).get "expires_at_unix" =
      item.get "expires_at_unix" := by
  rw [Documents.updated, found, Item.get_set _ _ (by decide) (by decide)]
  rfl

theorem otp_put {tables next : AuthTables} {item : Item} (key : String × String)
    (stored : next .OTP = (tables .OTP).put item) :
    next .OTP key = if key = (item.PK, item.SK) then some item else tables .OTP key := by
  rw [stored, Documents.put, Function.update_apply]

theorem otp_update {tables next : AuthTables} {PK SK : String} {entries : List (String × Attribute)}
    (key : String × String) (stored : next .OTP = (tables .OTP).update PK SK entries) :
    next .OTP key = if key = (PK, SK) then some ((tables .OTP).updated PK SK entries)
        else tables .OTP key := by
  rw [stored, Documents.update, Function.update_apply]

end CodeEffects

section Creation

variable {formats : AuthFormats} {config : AuthConfig} {calls : Nat → AuthCall} {thread : Nat}

/-- The event draws this code from the random source. -/
def Generates (event : AuthEvent) (otp : String) : Prop :=
  ∃ before after, event = ⟨.randomUUID, before, .ok otp, after⟩

/-- The event answers the query for the active codes of the email. -/
def QueriesCodes (event : AuthEvent) (email : String) (items : List Item) : Prop :=
  ∃ before after, event =
    ⟨.query .OTP email (.contains "curr_status" OTPStatus.Active.text), before, .ok (some items), after⟩

/-- The event has expired this code. -/
def Expires (event : AuthEvent) (email otp : String) : Prop :=
  ∃ updatedAtUnix before output after, event =
    ⟨.updateItem .OTP email otp (otpEntries .Expired updatedAtUnix) (some isUnexpired), before,
      .ok output, after⟩

/-- A command that stores no item and asks for none by a query. -/
def DynamoOp.Calm : DynamoOp → Prop
  | .putItem _ _ _ => False
  | .query _ _ _ => False
  | _ => True

/-- After its query a call has expired these items. -/
structure Expiring (done : List Item) (later : List AuthEvent) : Prop where
  calm : ∀ event ∈ later, event.op.Calm
  expired : ∀ item ∈ done, ∃ event ∈ later, Expires event item.PK item.SK

/-- Before a call stores its code it has queried the active codes, expired each of them and drawn its own. -/
def Prepared (email otp : String) (history : List AuthEvent) : Prop :=
  ∃ query items later, QueriesCodes query email items ∧ history = query :: later ∧ Expiring items later ∧
    ∃ event ∈ later, Generates event otp

/-- Each code that the call stores has been prepared. -/
def StoresPrepared (email : String) :
    Guarantee DynamoOp DynamoOp.Reply DynamoError (AuthTables × List AuthEvent) :=
  fun op before _ _ => ∀ item condition, op = .putItem .OTP item condition →
    ∃ otp createdAtUnix updatedAtUnix expiresAtUnix, Prepared email otp before.2 ∧ condition = none ∧
      item = otpItem email otp createdAtUnix updatedAtUnix expiresAtUnix

theorem DynamoOp.Calm.storesPrepared {op : DynamoOp} (calm : op.Calm) {email : String}
    {before after : AuthTables × List AuthEvent} {reply : Except DynamoError op.Reply} :
    StoresPrepared email op before reply after := by
  rintro item condition rfl
  exact calm.elim

theorem Expiring.snoc {done : List Item} {later : List AuthEvent} {event : AuthEvent}
    (expiring : Expiring done later) (calm : event.op.Calm) : Expiring done (later ++ [event]) where
  calm other member := by
    rcases List.mem_append.mp member with member | member
    · exact expiring.calm other member
    · rwa [List.mem_singleton.mp member]
  expired item member := by
    obtain ⟨other, inside, expires⟩ := expiring.expired item member
    exact ⟨other, List.mem_append_left _ inside, expires⟩

abbrev creating (formats : AuthFormats) (config : AuthConfig) (calls : Nat → AuthCall) (thread : Nat) :
    Setting DynamoOp DynamoOp.Reply DynamoError (AuthTables × List AuthEvent) :=
  ((registry formats config calls).exposed thread).recorded

theorem expiring_call {email : String} {query : AuthEvent} {done : List Item} {later : List AuthEvent}
    {reached : AuthTables × List AuthEvent} (op : DynamoOp) (calm : op.Calm)
    (past : reached.2 = query :: later)
    (expiring : Expiring done later) :
    Sat (creating formats config calls thread) (StoresPrepared email)
      (fun value ended => ∃ before after, ended.2 = query :: (later ++ [⟨op, before, .ok value, after⟩]) ∧
        Expiring done (later ++ [⟨op, before, .ok value, after⟩]))
      (fun _ _ => True) (Prog.call op) reached := by
  obtain ⟨start, history⟩ := reached
  obtain rfl : history = query :: later := past
  apply sat_recorded_call op
  · intro before _ value after _
    exact ⟨calm.storesPrepared, before, after, rfl, expiring.snoc calm⟩
  · exact fun _ _ _ _ _ => ⟨calm.storesPrepared, trivial⟩

theorem updateOTP_expiring {email : String} {query : AuthEvent} {done : List Item} {later : List AuthEvent}
    {reached : AuthTables × List AuthEvent} (item : Item) (past : reached.2 = query :: later)
    (expiring : Expiring done later) :
    Sat (creating formats config calls thread) (StoresPrepared email)
      (fun _ ended => ∃ last, ended.2 = query :: last ∧ Expiring (done ++ [item]) last) (fun _ _ => True)
      (updateOTP item .Expired) reached := by
  apply sat_bind _ (expiring_call DynamoOp.now trivial past expiring)
  rintro updatedAtUnix reached ⟨_, _, past, expiring⟩
  apply sat_bind _
    (expiring_call (DynamoOp.updateItem .OTP item.PK item.SK (otpEntries .Expired updatedAtUnix)
    (some isUnexpired)) trivial past expiring)
  rintro output ended ⟨before, after, past, expiring⟩
  refine ⟨_, past, expiring.calm, fun other member => ?_⟩
  rcases List.mem_append.mp member with member | member
  · exact expiring.expired other member
  · rw [List.mem_singleton.mp member]
    exact ⟨_, by simp, updatedAtUnix, before, output, after, rfl⟩

theorem expireOTPs_expiring {email : String} {query : AuthEvent} (items : List Item) {done : List Item}
    {later : List AuthEvent} {reached : AuthTables × List AuthEvent} (past : reached.2 = query :: later)
    (expiring : Expiring done later) :
    Sat (creating formats config calls thread) (StoresPrepared email)
      (fun _ ended => ∃ last, ended.2 = query :: last ∧ Expiring (done ++ items) last) (fun _ _ => True)
      (expireOTPs items) reached := by
  induction items generalizing done later reached with
  | nil => exact ⟨later, past, by rwa [List.append_nil]⟩
  | cons item items ih =>
      apply sat_bind _ (updateOTP_expiring item past expiring)
      rintro _ reached ⟨_, past, expiring⟩
      have rest := ih past expiring
      rwa [List.append_assoc, List.singleton_append] at rest

theorem getActiveOTPs_queries {email : String} {world : AuthTables} :
    Sat (creating formats config calls thread) (StoresPrepared email)
      (fun items ended => ∃ query, ended.2 = [query] ∧ QueriesCodes query email items) (fun _ _ => True)
      (getActiveOTPs email) (world, []) := by
  have unstored : ∀ before after reply, StoresPrepared email
      (.query .OTP email (.contains "curr_status" OTPStatus.Active.text)) before reply after := by
    rintro before after reply item condition ⟨⟩
  apply sat_bind fun results ended => ∃ before after, ended.2 =
    [⟨.query .OTP email (.contains "curr_status" OTPStatus.Active.text), before, .ok results, after⟩]
  · apply sat_recorded_call (DynamoOp.query .OTP email (.contains "curr_status" OTPStatus.Active.text))
    · exact fun before _ results after _ => ⟨unstored _ _ _, before, after, rfl⟩
    · exact fun _ _ _ _ _ => ⟨unstored _ _ _, trivial⟩
  · rintro results ended ⟨before, after, same⟩
    cases results with
    | none => trivial
    | some items => exact ⟨_, same, before, after, rfl⟩

/-- A call of the creation stores only a code that it has prepared. -/
theorem createEmailVerificationCode_prepared (email : String) (world : AuthTables) :
    Sat (creating formats config calls thread) (StoresPrepared email) (fun _ _ => True) (fun _ _ => True)
      (createEmailVerificationCode email) (world, []) := by
  refine sat_handle (fun _ _ => True) ?_ fun _ _ _ => trivial
  apply sat_bind _ getActiveOTPs_queries
  rintro items reached ⟨query, past, queries⟩
  have nothing : Expiring [] [] := ⟨by simp, by simp⟩
  apply sat_bind _ (expireOTPs_expiring items past nothing)
  rintro _ reached ⟨later, past, expiring⟩
  rw [List.nil_append] at expiring
  apply sat_bind _ (expiring_call DynamoOp.randomUUID trivial past expiring)
  rintro otp reached ⟨drawn, drawn', past, expiring⟩
  refine sat_bind (fun _ _ => True) ?_ fun _ _ _ => trivial
  apply sat_bind _ (expiring_call DynamoOp.now trivial past expiring)
  rintro createdAtUnix reached ⟨_, _, past, expiring⟩
  apply sat_bind _ (expiring_call DynamoOp.now trivial past expiring)
  rintro updatedAtUnix reached ⟨_, _, past, expiring⟩
  apply sat_bind _ (expiring_call DynamoOp.now trivial past expiring)
  rintro issuedAtUnix ⟨world, history⟩ ⟨_, _, past, expiring⟩
  have prepared : Prepared email otp history :=
    ⟨query, items, _, queries, past, expiring, _, by simp, drawn, drawn', rfl⟩
  have stores : ∀ before reply after, StoresPrepared email
      (.putItem .OTP (otpItem email otp createdAtUnix updatedAtUnix (issuedAtUnix + 30 * 60)) none)
      (before, history) reply after := by
    rintro before reply after item condition ⟨⟩
    exact ⟨otp, createdAtUnix, updatedAtUnix, issuedAtUnix + 30 * 60, prepared, rfl, rfl⟩
  apply sat_recorded_call (DynamoOp.putItem .OTP
    (otpItem email otp createdAtUnix updatedAtUnix (issuedAtUnix + 30 * 60)) none)
  · exact fun _ _ _ _ _ => ⟨stores _ _ _, trivial⟩
  · exact fun _ _ _ _ _ => ⟨stores _ _ _, trivial⟩

end Creation

section Codes

variable {formats : AuthFormats} {config : AuthConfig} {calls : Nat → AuthCall}

/-- The record stores this code for the email of its call. -/
def StoresCode (calls : Nat → AuthCall) (record : AuthRecord) (email otp : String)
    (expiresAtUnix : Int) : Prop :=
  calls record.1 = .createEmailVerificationCode email ∧ ∃ createdAtUnix updatedAtUnix,
    record.2.op = .putItem .OTP (otpItem email otp createdAtUnix updatedAtUnix expiresAtUnix) none

/-- No code is drawn twice. -/
def DistinctCodes (trace : List AuthRecord) : Prop :=
  trace.Pairwise fun one other => ∀ otp, Generates one.2 otp → ¬ Generates other.2 otp

theorem DistinctCodes.unique {trace : List AuthRecord} (distinct : DistinctCodes trace)
    {one other : AuthRecord}
    (member : one ∈ trace) (otherMember : other ∈ trace) {otp : String} (generates : Generates one.2 otp)
    (otherGenerates : Generates other.2 otp) : one = other := by
  by_contra different
  have symmetric : Std.Symm fun one other : AuthRecord => ∀ otp, Generates one.2 otp →
      ¬ Generates other.2 otp :=
    ⟨fun _ _ apart otp second first => apart otp first second⟩
  exact List.Pairwise.forall distinct member otherMember different otp generates otherGenerates

/-- A stored code has been prepared by its call. -/
theorem run_prepared {first last : AuthPool} {front back : List AuthRecord} {record : AuthRecord}
    (run : Run (registry formats config calls) first (front ++ record :: back) last)
    (idle : ∀ thread, first.threads thread = none) {email otp : String} {expiresAtUnix : Int}
    (stores : StoresCode calls record email otp expiresAtUnix) :
    Prepared email otp (eventsOf record.1 front) := by
  obtain ⟨call, createdAtUnix, updatedAtUnix, op⟩ := stores
  obtain ⟨program, start, residue, ended, rfl, path⟩ := run.acting (idle record.1) (by simp)
  rw [eventsOf_split] at path
  rw [call] at path
  have body : Sat (creating formats config calls record.1) (StoresPrepared email) (fun _ _ => True)
      (fun _ _ => True) ((AuthCall.createEmailVerificationCode email).program formats config)
      (start, []) :=
    sat_bind _ (createEmailVerificationCode_prepared email start) fun _ _ _ => trivial
  obtain ⟨_, _, _, _, prepared, _, same⟩ := (sat_recorded_path path [] body).1 _ _ _ rfl _ _ op
  obtain rfl : otp = _ := congrArg Item.SK same
  simpa using prepared

/-- No earlier event has stored a code that the call draws later. -/
theorem stored_once {first last : AuthPool} {front back : List AuthRecord} {record : AuthRecord}
    (run : Run (registry formats config calls) first (front ++ record :: back) last)
    (idle : ∀ thread, first.threads thread = none) (distinct : DistinctCodes (front ++ record :: back))
    {email otp other : String} {expiresAtUnix otherExpiry : Int}
    (stores : StoresCode calls record email otp expiresAtUnix) :
    ∀ earlier ∈ front, ¬ StoresCode calls earlier other otp otherExpiry := by
  intro earlier member otherStores
  obtain ⟨_, items, later, ⟨_, _, rfl⟩, past, expiring, event, drawn, generates⟩ :=
    run_prepared run idle stores
  have inside : (record.1, event) ∈ front :=
    mem_eventsOf.mp (by rw [past]; exact List.mem_cons_of_mem _ drawn)
  obtain ⟨start, rest, rfl⟩ := List.append_of_mem member
  have cut :
      Run (registry formats config calls) first (start ++ earlier :: (rest ++ record :: back)) last := by
    simpa using run
  obtain ⟨_, _, _, _, otherPast, _, otherEvent, otherDrawn, otherGenerates⟩ :=
    run_prepared cut idle otherStores
  have otherInside : (earlier.1, otherEvent) ∈ start :=
    mem_eventsOf.mp (by rw [otherPast]; exact List.mem_cons_of_mem _ otherDrawn)
  have same := distinct.unique (List.mem_append_left _ inside)
    (List.mem_append_left _ (List.mem_append_left _ otherInside)) generates otherGenerates
  have thread : record.1 = earlier.1 := (Prod.mk.inj same).1
  have own : earlier.2 ∈ eventsOf record.1 (start ++ earlier :: rest) := mem_eventsOf.mpr (by simp [thread])
  obtain ⟨_, _, _, op⟩ := otherStores
  rw [past] at own
  rcases List.mem_cons.mp own with same | own
  · rw [same] at op
    cases op
  · have calm := expiring.calm _ own
    rw [op] at calm
    exact calm

/-- A stored item was stored by an earlier event, which has fixed its expiry. -/
theorem stored_earlier {first : AuthTables} (empty : ∀ key, first .OTP key = none) {trace : List AuthRecord}
    {last : AuthPool} (run : Run (registry formats config calls) (Pool.idle first) trace last)
    {email otp : String}
    {item : Item} (found : last.world .OTP (email, otp) = some item) :
    ∃ record ∈ trace, ∃ expiresAtUnix, StoresCode calls record email otp expiresAtUnix ∧
      item.get "expires_at_unix" = some (.number expiresAtUnix) := by
  induction run generalizing item with
  | refl => exact absurd found (by simp [Pool.idle, empty])
  | start _ _ _ ih => exact ih found
  | drift _ moved _ => exact moved.elim
  | @act pool trace thread op next reply world earlier current performed ih =>
      have carried : (∃ item', pool.world .OTP (email, otp) = some item' ∧
          item.get "expires_at_unix" = item'.get "expires_at_unix") →
          ∃ record ∈ trace ++ [(thread, ⟨op, pool.world, reply, world⟩)], ∃ expiresAtUnix,
            StoresCode calls record email otp expiresAtUnix ∧
              item.get "expires_at_unix" = some (.number expiresAtUnix) := by
        rintro ⟨item', present, same⟩
        obtain ⟨record, member, expiresAtUnix, stores, expiry⟩ := ih present
        exact ⟨record, List.mem_append_left _ member, expiresAtUnix, stores, same.trans expiry⟩
      have performs := run_performs (.act earlier current performed) (fun _ => rfl)
        (thread, ⟨op, pool.world, reply, world⟩) (by simp)
      have effect := performs.codeEffect performed
      generalize call : calls thread = made at effect
      change world .OTP (email, otp) = some item at found
      cases effect with
      | none same => exact carried ⟨item, by rw [← same, found], rfl⟩
      | @code owner code createdAtUnix updatedAtUnix expiresAtUnix stored =>
          rw [otp_put _ stored] at found
          split at found
          · next target =>
              obtain ⟨rfl, rfl⟩ := Prod.mk.inj target
              obtain rfl := Option.some.inj found
              exact ⟨_, List.mem_append_right _ (List.mem_singleton_self _), expiresAtUnix,
                ⟨call, createdAtUnix, updatedAtUnix, rfl⟩, rfl⟩
          · exact carried ⟨item, found, rfl⟩
      | @expiry owner old updatedAtUnix present stored =>
          rw [otp_update _ stored] at found
          split at found
          · next target =>
              obtain ⟨rfl, rfl⟩ := Prod.mk.inj target
              obtain rfl := Option.some.inj found
              obtain ⟨item', present⟩ := Option.isSome_iff_exists.mp present
              exact carried ⟨item', present, updated_expiry _ _ present⟩
          · exact carried ⟨item, found, rfl⟩
      | @consumption _ owner code updatedAtUnix uses live stored =>
          rw [otp_update _ stored] at found
          split at found
          · next target =>
              obtain ⟨rfl, rfl⟩ := Prod.mk.inj target
              obtain rfl := Option.some.inj found
              obtain ⟨item', _, present, _⟩ := live_iff.mp live
              exact carried ⟨item', present, updated_expiry _ _ present⟩
          · exact carried ⟨item, found, rfl⟩

/-- The key of a code is free before the code is stored. -/
theorem stored_fresh {first : AuthTables} (empty : ∀ key, first .OTP key = none) {last : AuthPool}
    {front back : List AuthRecord} {record : AuthRecord}
    (run : Run (registry formats config calls) (Pool.idle first) (front ++ record :: back) last)
    (distinct : DistinctCodes (front ++ record :: back)) {email otp : String} {expiresAtUnix : Int}
    (stores : StoresCode calls record email otp expiresAtUnix) :
    record.2.before .OTP (email, otp) = none := by
  obtain ⟨pool, _, earlier, reached, _⟩ := run.split
  by_contra present
  obtain ⟨item, found⟩ := Option.ne_none_iff_exists'.mp present
  rw [← reached] at found
  obtain ⟨other, member, otherExpiry, otherStores, _⟩ := stored_earlier empty earlier found
  exact stored_once run (fun _ => rfl) distinct stores other member otherStores

/-- No event but a store of the same code revives a code that has been used or has expired. -/
theorem Spent.kept {first last : AuthPool} {trace : List AuthRecord}
    (run : Run (registry formats config calls) first trace last)
    (idle : ∀ thread, first.threads thread = none)
    {record : AuthRecord} (member : record ∈ trace) {email otp : String}
    (spent : Spent record.2.before email otp)
    (elsewhere : ∀ expiresAtUnix, ¬ StoresCode calls record email otp expiresAtUnix) :
    Spent record.2.after email otp := by
  have performs := run_performs run idle _ member
  have effect := performs.codeEffect (run.performed _ member)
  have unchanged : record.2.after .OTP (email, otp) = record.2.before .OTP (email, otp) →
      Spent record.2.after email otp := by
    intro same
    simpa [Spent, HasOTPStatus, same] using spent
  obtain ⟨thread, op, before, reply, after⟩ := record
  generalize call : calls thread = made at effect
  dsimp only at effect unchanged spent ⊢
  cases effect with
  | none same => exact unchanged (by rw [same])
  | @code owner code createdAtUnix updatedAtUnix expiresAtUnix stored =>
      have other : (email, otp) ≠ (owner, code) := by
        rintro ⟨⟩
        exact elsewhere expiresAtUnix ⟨call, createdAtUnix, updatedAtUnix, rfl⟩
      exact unchanged (by rw [otp_put _ stored]; exact if_neg other)
  | @expiry owner old updatedAtUnix present stored =>
      by_cases target : (email, otp) = (old.PK, old.SK)
      · exact .inr ⟨_, by rw [otp_update _ stored, if_pos target], updated_otpStatus _ _ _ _ _⟩
      · exact unchanged (by rw [otp_update _ stored, if_neg target])
  | @consumption _ owner code updatedAtUnix uses live stored =>
      by_cases target : (email, otp) = (owner, code)
      · exact .inl ⟨_, by rw [otp_update _ stored, if_pos target], updated_otpStatus _ _ _ _ _⟩
      · exact unchanged (by rw [otp_update _ stored, if_neg target])

/-- With distinct codes no event revives a code. -/
theorem spent_kept {first : AuthTables} (empty : ∀ key, first .OTP key = none) {trace : List AuthRecord}
    {last : AuthPool} (run : Run (registry formats config calls) (Pool.idle first) trace last)
    (distinct : DistinctCodes trace) {email otp : String} :
    ∀ record ∈ trace, Spent record.2.before email otp → Spent record.2.after email otp := by
  intro record member spent
  refine spent.kept run (fun _ => rfl) member fun expiresAtUnix stores => ?_
  obtain ⟨front, back, rfl⟩ := List.append_of_mem member
  have free := stored_fresh empty run distinct stores
  rcases spent with ⟨item, found, _⟩ | ⟨item, found, _⟩
  · exact absurd (free.symm.trans found) (by simp)
  · exact absurd (free.symm.trans found) (by simp)

end Codes

section Checks

variable {setting : Setting DynamoOp DynamoOp.Reply DynamoError AuthTables} {email otp : String}
  {start reached : AuthTables} {events : List AuthEvent}

/-- A code passes its check when the update goes through and the clock then reads an earlier time than
its expiry. -/
theorem checkCorrectOTP_true
    (path : Path setting (checkCorrectOTP email otp) start events (.done true) reached) :
    ∃ asked updatedAtUnix before attributes after expiresAtUnix time moment later,
      events = [asked, ⟨.updateItem .OTP email otp (otpEntries .Used updatedAtUnix) (some isActive), before,
        .ok (some (some attributes)), after⟩, ⟨.now, moment, .ok time, later⟩] ∧
      attributes.get "expires_at_unix" = some (.number expiresAtUnix) ∧ time < expiresAtUnix := by
  rcases path.call_cases with ⟨_, same⟩ | ⟨_, updatedAtUnix, _, rest, rfl, guarded⟩ | ⟨_, _, _, same⟩
  · cases same
  · rcases guarded.handle_cases with ⟨inner, body, same⟩ | ⟨error, _, _, _, _, _, handling⟩
    · obtain rfl : inner = .done true := by
        cases inner with
        | done value =>
            cases same
            rfl
        | fail error => cases error <;> cases same
        | halted => cases same
        | ask op next => cases same
      rcases body.call_cases with ⟨_, same⟩ | ⟨before, output, after, checks, rfl, checking⟩ | ⟨_, _, _, same⟩
      · cases same
      · match output with
        | none => cases checking
        | some none => cases checking
        | some (some attributes) =>
            rcases checking.call_cases with ⟨_, same⟩ | ⟨moment, time, later, last, rfl, compared⟩ | ⟨_,
                _, _, same⟩
            · cases same
            · split at compared
              · next expiresAtUnix expiry =>
                  have early : decide (time < expiresAtUnix) = true := by
                    generalize decide (time < expiresAtUnix) = answer at compared
                    cases compared
                    rfl
                  rw [early] at compared
                  cases compared
                  exact ⟨_, updatedAtUnix, before, attributes, after, expiresAtUnix, time, moment, _, rfl,
                    expiry, of_decide_eq_true early⟩
              · cases compared
            · cases same
      · cases same
    · cases error <;> cases handling
  · cases same

/-- Nothing but the check happens before the code has passed it. -/
theorem checked_path {A B : Type} {quit go : AuthCode A} {result : A → B} {residue : AuthCode B}
    (quiet : quit.Confined DynamoOp.SparesDIDs)
    (path : Path setting (do
      let value ← (do
        let correct ← checkCorrectOTP email otp
        if ¬ correct then quit else go)
      pure (result value)) start events residue reached) :
    (∀ event ∈ events, event.op.SparesDIDs) ∨ ∃ front back middle, events = front ++ back ∧
      Path setting (checkCorrectOTP email otp) start front (.done true) middle := by
  have check : (checkCorrectOTP email otp).Confined DynamoOp.SparesDIDs :=
    checkCorrectOTP_confined trivial fun _ => trivial
  rw [Prog.bind_assoc] at path
  rcases path.bind_cases with ⟨rest, checking, _⟩ | ⟨correct, front, back, middle, rfl, checking, going⟩
  · exact .inl (checking.confined check)
  · cases correct with
    | true => exact .inr ⟨front, back, middle, rfl, checking⟩
    | false =>
        refine .inl fun event member => ?_
        rcases List.mem_append.mp member with member | member
        · exact checking.confined check event member
        · exact going.confined (Prog.confined_bind quiet fun _ => trivial) event member

end Checks

section Consumption

variable {formats : AuthFormats} {config : AuthConfig} {calls : Nat → AuthCall}

/-- The call of the thread presents the code, and its check has accepted it. -/
def PassesCheck (formats : AuthFormats) (config : AuthConfig) (calls : Nat → AuthCall)
    (trace : List AuthRecord) (thread : Nat) (email otp : String) : Prop :=
  (calls thread).Uses email otp ∧ ∃ front back start reached, eventsOf thread trace = front ++ back ∧
    Path ((registry formats config calls).exposed thread) (checkCorrectOTP email otp) start front
    (.done true) reached

/-- A call that presents a code registers and revokes nothing before its check has accepted the code. -/
theorem PassesCheck.of_write {first last : AuthPool} {trace : List AuthRecord}
    (run : Run (registry formats config calls) first trace last)
    (idle : ∀ thread, first.threads thread = none)
    {record : AuthRecord} (member : record ∈ trace) {email otp : String}
    (uses : (calls record.1).Uses email otp)
    (writes : ¬ record.2.op.SparesDIDs) : PassesCheck formats config calls trace record.1 email otp := by
  have own : record.2 ∈ eventsOf record.1 trace := mem_eventsOf.mpr member
  obtain ⟨program, start, residue, ended, rfl, path⟩ := run.acting (idle record.1) member
  have checked : (∀ event ∈ eventsOf record.1 trace, event.op.SparesDIDs) ∨
      ∃ front back middle, eventsOf record.1 trace = front ++ back ∧
        Path ((registry formats config calls).exposed record.1) (checkCorrectOTP email otp) start front
          (.done true) middle := by
    rcases uses with ⟨dids, call⟩ | ⟨did, call⟩
    · rw [call] at path
      exact checked_path (show Prog.Confined _ (throw _ : AuthCode (List DIDResult)) from trivial) path
    · rw [call] at path
      exact checked_path (show Prog.Confined _ (pure _ : AuthCode Revocation) from trivial) path
  rcases checked with spares | ⟨front, back, middle, split, accepted⟩
  · exact absurd (spares _ own) writes
  · exact ⟨uses, front, back, start, middle, split, accepted⟩

/-- The event uses up the code, and right after it the thread reads this time. -/
def ChecksAt (trace : List AuthRecord) (thread : Nat) (email otp : String) (use : AuthEvent) (time : Int) :
    Prop :=
  Live use.before email otp ∧ HasOTPStatus use.after email otp .Used ∧
    ∃ front moment later back, eventsOf thread trace = front ++ use :: ⟨.now, moment, .ok time, later⟩ :: back

/-- A call past its check has used up the code before its expiry. -/
theorem PassesCheck.consumes {first last : AuthPool} {trace : List AuthRecord} {thread : Nat}
    {email otp : String} (run : Run (registry formats config calls) first trace last)
    (passes : PassesCheck formats config calls trace thread email otp) :
    ∃ use expiresAtUnix time item, (thread, use) ∈ trace ∧ ChecksAt trace thread email otp use time ∧
      use.before .OTP (email, otp) = some item ∧ item.get "expires_at_unix" = some (.number expiresAtUnix) ∧
      time < expiresAtUnix := by
  obtain ⟨_, front, back, start, reached, split, path⟩ := passes
  obtain ⟨asked, updatedAtUnix, before, attributes, after, expiresAtUnix, time, moment, later, rfl, expiry,
    early⟩ := checkCorrectOTP_true path
  have use : (thread, _) ∈ trace := mem_eventsOf.mp (by rw [split]; exact .tail _ (.head _))
  obtain ⟨live, stored, returned⟩ := run.performed _ use
  obtain ⟨item, _, found, _⟩ := live_iff.mp live
  have used : after .OTP (email, otp) = some attributes := by
    rw [show after = _ from stored, returned attributes rfl]
    simp [Documents.update]
  rw [returned attributes rfl] at expiry used
  exact ⟨_, expiresAtUnix, time, item, use,
    ⟨live, ⟨_, used, updated_otpStatus _ _ _ _ _⟩, [asked], moment, later, back, split⟩, found,
    (updated_expiry _ _ found).symm.trans expiry, early⟩

/-- A code that passes a check was issued to the same email, and the check was before its expiry. -/
theorem PassesCheck.issued {first : AuthTables} (empty : ∀ key, first .OTP key = none) {last : AuthPool}
    {trace : List AuthRecord} {thread : Nat} {email otp : String}
    (run : Run (registry formats config calls) (Pool.idle first) trace last)
    (passes : PassesCheck formats config calls trace thread email otp) :
    ∃ record ∈ trace, ∃ expiresAtUnix, StoresCode calls record email otp expiresAtUnix ∧
      ∃ use time, ChecksAt trace thread email otp use time ∧ time < expiresAtUnix := by
  obtain ⟨use, expiresAtUnix, time, item, member, checks, found, expiry, early⟩ := passes.consumes run
  obtain ⟨front, back, rfl⟩ := List.append_of_mem member
  obtain ⟨pool, _, earlier, reached, _⟩ := run.split
  obtain ⟨record, inside, otherExpiry, stores, same⟩ :=
    stored_earlier empty earlier (by rw [reached]; exact found)
  obtain rfl := Attribute.number.inj (Option.some.inj (expiry.symm.trans same))
  exact ⟨record, List.mem_append_left _ inside, expiresAtUnix, stores, use, time, checks, early⟩

/-- A code has one issuer. -/
theorem StoresCode.unique {first last : AuthPool} {trace : List AuthRecord}
    (run : Run (registry formats config calls) first trace last)
    (idle : ∀ thread, first.threads thread = none)
    (distinct : DistinctCodes trace) {one another : AuthRecord} (member : one ∈ trace)
    (otherMember : another ∈ trace)
    {email other otp : String} {expiresAtUnix otherExpiry : Int}
    (stores : StoresCode calls one email otp expiresAtUnix)
    (otherStores : StoresCode calls another other otp otherExpiry) : email = other := by
  obtain ⟨front, back, rfl⟩ := List.append_of_mem member
  rcases List.mem_append.mp otherMember with early | late
  · exact absurd otherStores (stored_once run idle distinct stores another early)
  · rcases List.mem_cons.mp late with rfl | late
    · exact AuthCall.createEmailVerificationCode.inj (stores.1.symm.trans otherStores.1)
    · obtain ⟨middle, rest, rfl⟩ := List.append_of_mem late
      rw [← List.cons_append, ← List.append_assoc] at run distinct
      exact absurd stores (stored_once run idle distinct otherStores one (by simp))

/-- A code lets at most one call past its check, for its own email, before its expiry, and it is never
revived. -/
theorem otp_single_use (formats : AuthFormats) (config : AuthConfig) (calls : Nat → AuthCall)
    {first : AuthTables}
    (empty : ∀ key, first .OTP key = none) {trace : List AuthRecord} {last : AuthPool}
    (run : Run (registry formats config calls) (Pool.idle first) trace last)
    (distinct : DistinctCodes trace) :
    (∀ record ∈ trace, ∀ email otp, (calls record.1).Uses email otp → ¬ record.2.op.SparesDIDs →
      PassesCheck formats config calls trace record.1 email otp) ∧
    (∀ email other otp thread another, PassesCheck formats config calls trace thread email otp →
      PassesCheck formats config calls trace another other otp → thread = another) ∧
    (∀ email other otp thread, ∀ record ∈ trace, ∀ expiresAtUnix,
      StoresCode calls record email otp expiresAtUnix →
      PassesCheck formats config calls trace thread other otp → other = email) ∧
    (∀ email otp thread, PassesCheck formats config calls trace thread email otp →
      ∃ record ∈ trace, ∃ expiresAtUnix, StoresCode calls record email otp expiresAtUnix ∧
        ∃ use time, ChecksAt trace thread email otp use time ∧ time < expiresAtUnix) ∧
    ∀ front middle back, Run (registry formats config calls) (Pool.idle first) front middle →
      Run (registry formats config calls) middle back last → trace = front ++ back →
      ∀ email otp, Spent middle.world email otp → ¬ HasOTPStatus last.world email otp .Active := by
  have idle : ∀ thread, (Pool.idle first : AuthPool).threads thread = none := fun _ => rfl
  refine ⟨?_, ?_, ?_, ?_, ?_⟩
  · exact fun record member email otp uses writes => .of_write run idle member uses writes
  · intro email other otp thread another passes otherPasses
    obtain ⟨record, member, _, stores, _⟩ := passes.issued empty run
    obtain ⟨otherRecord, otherMember, _, otherStores, _⟩ := otherPasses.issued empty run
    obtain rfl := StoresCode.unique run idle distinct member otherMember stores otherStores
    obtain ⟨use, _, _, _, inside, ⟨live, used, _⟩, _⟩ := passes.consumes run
    obtain ⟨otherUse, _, _, _, otherInside, ⟨otherLive, otherUsed, _⟩, _⟩ := otherPasses.consumes run
    have same :=
      run.once (fun tables => Spent tables email otp) (by rintro _ _ ⟨⟩) (spent_kept empty run distinct)
      inside otherInside (fun spent => spent.not_live live) (.inl used)
      (fun spent => spent.not_live otherLive)
      (.inl otherUsed)
    exact (Prod.mk.inj same).1
  · intro email other otp thread record member _ stores passes
    obtain ⟨otherRecord, otherMember, _, otherStores, _⟩ := passes.issued empty run
    exact StoresCode.unique run idle distinct otherMember member otherStores stores
  · exact fun email otp thread passes => passes.issued empty run
  · rintro front middle back earlier later rfl email otp spent active
    have kept := later.keeps (fun tables => Spent tables email otp) (by rintro _ _ ⟨⟩) spent
      fun record inside => spent_kept empty run distinct record (List.mem_append_right _ inside)
    exact kept.2.not_live active.live

/-- The code of Alice lets her own call past its check, and no other one. -/
theorem otp_single_use_alice : ∃ trace last,
    Run (registry ⟨fun _ => none, fun _ => true⟩ ⟨"mainnet", fun _ => false⟩
      (revokerCalls "alice@example.com")) (Pool.idle fun _ _ => none) trace last ∧
    PassesCheck ⟨fun _ => none, fun _ => true⟩ ⟨"mainnet", fun _ => false⟩
    (revokerCalls "alice@example.com") trace 1
      "alice@example.com" aliceCode ∧
    ∀ another other, PassesCheck ⟨fun _ => none, fun _ => true⟩ ⟨"mainnet", fun _ => false⟩
      (revokerCalls "alice@example.com") trace another other aliceCode → 1 = another := by
  let formats : AuthFormats := ⟨fun _ => none, fun _ => true⟩
  let config : AuthConfig := ⟨"mainnet", fun _ => false⟩
  let calls := revokerCalls "alice@example.com"
  let empty : AuthTables := fun _ _ => none
  have coding := code_path formats config calls 0 empty "alice@example.com" aliceCode
  have checked :=
    checkCorrectOTP_path formats config calls 1 (storeOTP_correct empty "alice@example.com" aliceCode)
  generalize otpEvents (storeOTP empty "alice@example.com" aliceCode) "alice@example.com" aliceCode =
      events at checked
  have undrawn : ∀ event ∈ events, ∀ otp, ¬ Generates event otp := by
    have other : (checkCorrectOTP "alice@example.com" aliceCode).Confined fun op => op ≠ .randomUUID :=
      checkCorrectOTP_confined (by simp) (by simp)
    rintro event member otp ⟨before, after, rfl⟩
    exact checked.confined other _ member rfl
  have same : (calls 1).program formats config = checkCorrectOTP "alice@example.com" aliceCode >>= _ :=
    Prog.bind_assoc _ _ _
  obtain ⟨residue, registering⟩ :
      ∃ residue, Path (alone formats config calls 1) ((calls 1).program formats config)
      (storeOTP empty "alice@example.com" aliceCode) (events ++ []) residue
      (useOTP (storeOTP empty "alice@example.com" aliceCode) "alice@example.com" aliceCode) := by
    rw [same]
    exact ⟨_, Path.bind checked (.stop _ _)⟩
  have run := ((Run.refl (Pool.idle empty)).whole rfl rfl coding).whole rfl rfl registering
  rw [List.nil_append, List.append_nil] at run
  have distinct :
      DistinctCodes ((codeEvents empty "alice@example.com" aliceCode).map (fun event => (0, event)) ++
      events.map fun event => (1, event)) := by
    refine List.pairwise_append.mpr ⟨?_, ?_, ?_⟩
    · simp [codeEvents, Generates]
    · exact List.pairwise_map.mpr (List.pairwise_of_forall_mem_list fun one member _ _ otp generates =>
        absurd generates (undrawn one member otp))
    · intro _ _ other member otp _ generates
      obtain ⟨event, inside, rfl⟩ := List.mem_map.mp member
      exact undrawn event inside otp generates
  obtain ⟨trace, last, run, distinct, own⟩ :
      ∃ trace last, Run (registry formats config calls) (Pool.idle empty)
      trace last ∧ DistinctCodes trace ∧ eventsOf 1 trace = events :=
    ⟨_, _, run, distinct, by simp [eventsOf_map_other]⟩
  have accepted :
      Path ((registry formats config calls).exposed 1) (checkCorrectOTP "alice@example.com" aliceCode)
      _ events (.done true) _ := checked.mono (fun _ _ _ _ performed => performed) fun _ _ _ => trivial
  have passes : PassesCheck formats config calls trace 1 "alice@example.com" aliceCode :=
    ⟨.inl ⟨["did:key:alice"], rfl⟩, events, [], _, _, by rw [own, List.append_nil], accepted⟩
  exact ⟨trace, last, run, passes, fun another other otherPasses =>
    (otp_single_use formats config calls (fun _ => rfl) run distinct).2.1 _ _ _ _ _ passes otherPasses⟩

end Consumption

end DynamoDB

end CeramicAnchor
