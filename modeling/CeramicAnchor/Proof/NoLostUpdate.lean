import CeramicAnchor.Proof.RequestTransactions

/-
This file proves that the transactional transitions overwrite no concurrent update.
-/

namespace CeramicAnchor.RequestRepository
open Concurrency Storage

/-- These are the operations that read, decide and then write by id. -/
inductive Transition where
  | findAndMarkReady (maxStreamLimit minStreamLimit : Nat)
  | updateExpiringReadyRequests
  | findAndMarkAsProcessing

def Transition.Result : Transition → Type
  | .findAndMarkReady _ _ => List Request
  | .updateExpiringReadyRequests => Nat
  | .findAndMarkAsProcessing => List Request

abbrev RequestConnection (A : Type) := Connection Request String requestColumns A

def Transition.run (repository : RequestRepository) (fuel : Nat) :
    (transition : Transition) → RequestConnection transition.Result
  | .findAndMarkReady maxStreamLimit minStreamLimit =>
      repository.findAndMarkReady connectionClient fuel maxStreamLimit minStreamLimit
  | .updateExpiringReadyRequests => repository.updateExpiringReadyRequests connectionClient fuel
  | .findAndMarkAsProcessing => RequestRepository.findAndMarkAsProcessing connectionClient fuel

/-- Each edited row is one that the transaction has read in this version. -/
def Covers (snapshot : RequestTable) (last : RequestProgress) : Prop :=
  ∀ id ∈ last.pending.map Prod.fst, ∃ row ∈ last.read, row.id = id ∧ row ∈ snapshot.rows

theorem Marks.covers {snapshot : RequestTable} {fields : RequestUpdateFields} {allowed : Request → Prop}
    {earliest : Int} {requests : List Request} {last : RequestProgress}
    (marks : Marks snapshot fields allowed earliest requests last) : Covers snapshot last := by
  intro id member
  obtain ⟨stamp, targets, _, _, permuted, pending⟩ := marks.edits
  rw [pending, List.map_map] at member
  have inTargets : id ∈ targets := by simpa using member
  obtain ⟨request, inRequests, rfl⟩ := List.mem_map.mp (permuted.mem_iff.mp inTargets)
  obtain ⟨inTable, wasRead, _⟩ := marks.inside request inRequests
  exact ⟨request, wasRead, rfl, inTable⟩

/-- A changed row still has the version that the transaction had read. -/
def KeepsUpdates (thread : Nat) (before after : Database Request String requestColumns) : Prop :=
  ∀ id, after.committed.lookup Request.id id ≠ before.committed.lookup Request.id id →
    ∃ session row, before.sessions thread = some session ∧ row ∈ session.read ∧
      before.committed.lookup Request.id id = some row

/-- This is the connection of one thread beside all the others. -/
abbrev requestSetting (thread : Nat) : Setting (RowOp Request String requestColumns) RowOp.Reply Failure
    (Database Request String requestColumns) := connectionSetting Request.id thread

abbrev RequestEvent := RowEvent Request String requestColumns

section Attempts

variable {A : Type} {thread : Nat} {database : Database Request String requestColumns}
  {history : List RequestEvent}

/-- Nothing has been committed before this request, and its commit keeps the updates of the others. -/
def AttemptGuarantee (thread : Nat) : Guarantee (RowOp Request String requestColumns) RowOp.Reply Failure
    (Database Request String requestColumns × List RequestEvent) :=
  fun _ before _ after => AllQuiet before.2 ∧ KeepsUpdates thread before.1 after.1

theorem Commits.keeps {body : RequestBody A}
    (covered : ∀ snapshot earliest, Sat (snapshotSetting Request.id snapshot) (fun _ _ _ _ => True)
      (fun _ last => Covers snapshot last) (fun error _ => error.External) body (.fresh earliest))
    {op : RowOp Request String requestColumns} {before after : Database Request String requestColumns}
    {reply : Except Failure op.Reply} (commits : Commits Request.id thread body op before reply after) :
    KeepsUpdates thread before after := by
  intro id changed
  rcases commits with same | ⟨session, earliest, value, last, current, evaluates, _, pending, read, commit⟩
  · rw [same] at changed
    exact absurd rfl changed
  · obtain ⟨member, unchanged⟩ := commit.changed id_indexed changed
    rw [pending] at member
    obtain ⟨row, wasRead, rfl, inTable⟩ := evaluates.spec (covered _ _) id member
    refine ⟨session, row, current, read ▸ wasRead, ?_⟩
    rw [unchanged, Table.lookup_eq_some id_indexed]
    exact ⟨inTable, rfl⟩

/-- One attempt and the retries after it keep the updates of the others. -/
theorem attempt_sat {body : RequestBody A} {again : RequestConnection A}
    (covered : ∀ snapshot earliest, Sat (snapshotSetting Request.id snapshot) (fun _ _ _ _ => True)
      (fun _ last => Covers snapshot last) (fun error _ => error.External) body (.fresh earliest))
    (retried : ∀ database history, Idle Request.id thread database → AllQuiet history →
      Sat (requestSetting thread).recorded (AttemptGuarantee thread) (fun _ _ => True)
        (fun error _ => error.External) again (database, history))
    (idle : Idle Request.id thread database) (quiet : AllQuiet history) :
    Sat (requestSetting thread).recorded (AttemptGuarantee thread) (fun _ _ => True)
      (fun error _ => error.External)
      (tryCatch (runTransaction body) (onConflict connectionClient.delay again)) (database, history) := by
  refine sat_handle _ (sat_mono (runTransaction_sat id_indexed body idle quiet) ?_ ?_
    (fun _ _ held => held)) ?_
  · rintro op before reply after ⟨earlier, commits⟩
    exact ⟨earlier, Commits.keeps covered commits⟩
  · exact fun _ _ _ => trivial
  · rintro error ⟨reached, past⟩ ⟨idleNow, kept, cause⟩
    have external : error.External := by
      rcases cause with external | ⟨snapshot, earliest, trace, last, path⟩
      · exact external
      · exact (sat_path path (covered snapshot earliest)).2
    match error with
    | .serialization =>
        have quietNow := kept rfl
        refine sat_bind (fun _ later => Idle Request.id thread later.1 ∧ AllQuiet later.2) ?_ ?_
        · refine sat_recorded_call (RowOp.sleep 100) ?_ ?_
          · rintro before others _ after rfl
            exact ⟨⟨quietNow, fun _ changed => absurd rfl changed⟩, idleNow.others id_indexed others,
              quietNow.push rfl⟩
          · intro before others error after performed
            obtain ⟨externalNow, same, _, _⟩ :=
              RowOp.perform_error (by simp) (idleNow.others id_indexed others).sound performed
            exact ⟨⟨quietNow, fun _ changed => absurd (by rw [same]) changed⟩, externalNow⟩
        · rintro _ ⟨later, history⟩ ⟨idleLater, quietLater⟩
          exact retried later history idleLater quietLater
    | .rejected message => exact trivial
    | .thrown message => exact external.elim

end Attempts

theorem transition_sat (repository : RequestRepository) (transition : Transition) (fuel thread : Nat)
    (database : Database Request String requestColumns) (history : List RequestEvent)
    (idle : Idle Request.id thread database) (quiet : AllQuiet history) :
    Sat (requestSetting thread).recorded (AttemptGuarantee thread) (fun _ _ => True)
      (fun error _ => error.External) (transition.run repository fuel) (database, history) := by
  induction fuel generalizing database history with
  | zero => cases transition <;> trivial
  | succ fuel ih =>
      cases transition with
      | findAndMarkReady maxStreamLimit minStreamLimit =>
          refine sat_bind (fun _ reached => Idle Request.id thread reached.1 ∧ AllQuiet reached.2)
            (sat_recorded_call RowOp.clock ?_ ?_) ?_
          · rintro before others now after ⟨_, rfl⟩
            exact ⟨⟨quiet, fun _ changed => absurd rfl changed⟩, idle.others id_indexed others,
              quiet.push rfl⟩
          · intro before others error after performed
            obtain ⟨external, same, _, _⟩ :=
              RowOp.perform_error (by simp) (idle.others id_indexed others).sound performed
            exact ⟨⟨quiet, fun _ changed => absurd (by rw [same]) changed⟩, external⟩
          · rintro now ⟨reached, past⟩ ⟨idleNow, quietNow⟩
            refine attempt_sat (fun snapshot earliest => ?_) ih idleNow quietNow
            exact sat_mono (markReady_sat _ _ _ _ _) (fun _ _ _ _ held => held)
              (fun _ _ marks => marks.covers) (fun _ _ external => external)
      | updateExpiringReadyRequests =>
          refine attempt_sat (fun snapshot earliest => ?_) ih idle quiet
          refine sat_mono (refreshReady_sat _ _) (fun _ _ _ _ held => held) ?_ (fun _ _ external => external)
          rintro _ _ ⟨requests, marks⟩
          exact marks.covers
      | findAndMarkAsProcessing =>
          refine attempt_sat (fun snapshot earliest => ?_) ih idle quiet
          exact sat_mono (markAsProcessing_sat _) (fun _ _ _ _ held => held)
            (fun _ _ marks => marks.covers) (fun _ _ external => external)

section Retry

variable {A : Type}

theorem updateRequests_rethrows (fields : RequestUpdateFields) (requests : List Request) :
    (updateRequests fields requests).Rethrows :=
  Prog.rethrows_bind (Prog.rethrows_call Statement.clock) fun _ => Prog.rethrows_call _

theorem updateAll_rethrows (status : RequestStatus) (name : String) (requests : List Request) :
    (updateAll status name requests).Rethrows := by
  refine Prog.rethrows_bind (updateRequests_rethrows _ _) fun count => ?_
  split <;> trivial

theorem findByStatus_rethrows (status : RequestStatus) : (findByStatus status).Rethrows :=
  Prog.rethrows_bind (Prog.rethrows_call _) fun _ => trivial

theorem markReady_rethrows (maxStreamLimit minStreamLimit : Nat) (anchoringDeadline now : Int) :
    (markReady maxStreamLimit minStreamLimit anchoringDeadline now).Rethrows := by
  refine Prog.rethrows_bind (Prog.rethrows_bind (Prog.rethrows_call _) fun _ => trivial) fun streamIds => ?_
  split
  · trivial
  · refine Prog.rethrows_bind (Prog.rethrows_bind (Prog.rethrows_call _) fun _ => trivial) fun requests => ?_
    split
    · trivial
    · exact updateAll_rethrows _ _ _

theorem markAsProcessing_rethrows : markAsProcessing.Rethrows := by
  refine Prog.rethrows_bind (findByStatus_rethrows _) fun requests => ?_
  split
  · trivial
  · exact updateAll_rethrows _ _ _

theorem refreshReady_rethrows (readyRetryIntervalMS : Int) :
    (refreshReady readyRetryIntervalMS).Rethrows := by
  refine Prog.rethrows_bind (findByStatus_rethrows _) fun requests => ?_
  refine Prog.rethrows_bind (Prog.rethrows_call Statement.clock) fun now => ?_
  cases requests with
  | nil => trivial
  | cons first rest =>
      dsimp only
      split
      · trivial
      · exact updateRequests_rethrows _ _

/-- The rest of a run that is about to roll back, to wait, and to start again. -/
def startsAgain (again : RequestConnection A) : RequestConnection A :=
  .ask .rollback fun _ => do
    connectionClient.delay 100
    again

/-- A conflict leads to a rollback and to one of the remaining retries. -/
theorem attempt_leads {body : RequestBody A} (rethrows : body.Rethrows) {again : RequestConnection A}
    {retries : RequestConnection A → Prop} (next : retries again)
    (leads : again.Leads fun op reply rest => (∃ value edit, op = .lock value edit) →
      reply = .error .serialization → ∃ retry, retries retry ∧ rest = startsAgain retry) :
    (tryCatch (runTransaction body) (onConflict connectionClient.delay again)).Leads fun op reply rest =>
      (∃ value edit, op = .lock value edit) → reply = .error .serialization →
        ∃ retry, retries retry ∧ rest = startsAgain retry := by
  refine Prog.leads_handle ?_ fun error => ?_
  · refine Prog.leads_mono (runTransaction_leads rethrows) fun op reply rest rolledBack locks conflict => ?_
    rw [rolledBack locks .serialization conflict]
    exact ⟨again, next, rfl⟩
  · cases error with
    | serialization =>
        exact Prog.leads_bind (leads_unlocked (RowOp.sleep 100) (by simp)) fun _ => leads
    | rejected message => trivial
    | thrown message => trivial

theorem transition_leads (repository : RequestRepository) (transition : Transition) (fuel : Nat) :
    (transition.run repository fuel).Leads fun op reply rest =>
      (∃ value edit, op = .lock value edit) → reply = .error .serialization →
        ∃ retry, (∃ less < fuel, retry = transition.run repository less) ∧ rest = startsAgain retry := by
  induction fuel with
  | zero => cases transition <;> trivial
  | succ fuel ih =>
      have later : (transition.run repository fuel).Leads fun op reply rest =>
          (∃ value edit, op = .lock value edit) → reply = .error .serialization →
            ∃ retry, (∃ less < fuel + 1, retry = transition.run repository less) ∧
              rest = startsAgain retry := by
        refine Prog.leads_mono ih fun op reply rest held locks conflict => ?_
        obtain ⟨retry, ⟨less, bound, same⟩, rest⟩ := held locks conflict
        exact ⟨retry, ⟨less, by omega, same⟩, rest⟩
      have next : ∃ less < fuel + 1, transition.run repository fuel = transition.run repository less :=
        ⟨fuel, by omega, rfl⟩
      cases transition with
      | findAndMarkReady maxStreamLimit minStreamLimit =>
          refine Prog.leads_bind (leads_unlocked RowOp.clock (by simp)) fun now => ?_
          exact attempt_leads (markReady_rethrows _ _ _ _) next later
      | updateExpiringReadyRequests => exact attempt_leads (refreshReady_rethrows _) next later
      | findAndMarkAsProcessing => exact attempt_leads markAsProcessing_rethrows next later

end Retry

/-- A run of a transition overwrites no concurrent update, retries its conflicts with nothing committed,
and never throws an error of its own. -/
theorem transition_loses_no_update (repository : RequestRepository) (transition : Transition)
    (fuel thread : Nat) (table : RequestTable) (clock : Int) {trace : List RequestEvent}
    {residue : RequestConnection transition.Result} {last : Database Request String requestColumns}
    (path : Path (requestSetting thread) (transition.run repository fuel)
      (Database.opened table clock) trace residue last) :
    (∀ event ∈ trace, KeepsUpdates thread event.before event.after) ∧
    (∀ front event, trace = front ++ [event] → event.reply = .error .serialization →
      AllQuiet trace ∧ ∃ less < fuel, residue = startsAgain (transition.run repository less)) ∧
    ∀ message, residue ≠ .fail (.thrown message) := by
  have idle : Idle Request.id thread (Database.opened table clock) :=
    ⟨Database.opened_sound table clock, rfl⟩
  obtain ⟨events, ending⟩ := sat_recorded_path path []
    (transition_sat repository transition fuel thread _ [] idle (by simp [AllQuiet]))
  refine ⟨fun event member => ?_, fun front event split conflict => ?_, fun message thrown => ?_⟩
  · obtain ⟨front, back, split⟩ := List.append_of_mem member
    exact (events front event back split).2
  · subst split
    have performed := path.performed event (by simp)
    obtain ⟨op, before, reply, after⟩ := event
    change reply = .error .serialization at conflict
    subst conflict
    obtain ⟨value, edit, session, rfl, _, _, _, same⟩ := performed
    have quiet : AllQuiet front := (events front _ [] rfl).1
    refine ⟨quiet.push (by rw [same]; rfl), ?_⟩
    obtain ⟨retry, ⟨less, bound, rfl⟩, rest⟩ :=
      path_leads path (transition_leads repository transition fuel) ⟨value, edit, rfl⟩ rfl
    exact ⟨less, bound, rest⟩
  · rw [thrown] at ending
    exact ending

section Conflict

/-- The session that edits the request meanwhile. -/
def rival (database : Database Request String requestColumns) : Session Request String requestColumns :=
  ⟨.readCommitted, database.committed, database.stamps, [("1", claimEdit)], []⟩

theorem rival_publishes (database : Database Request String requestColumns)
    (free : database.sessions 1 = none) (unlocked : ¬ (database.enter 1 .readCommitted).LockedByOther 1 "1") :
    Others Request.id 0 database (((database.enter 1 .readCommitted).withSession 1
      (some (rival database))).publish Request.id 1 (rival database)) := by
  have entered : Move Request.id 1 database (database.enter 1 .readCommitted) := .entered _ free
  have held : Move Request.id 1 (database.enter 1 .readCommitted)
      ((database.enter 1 .readCommitted).withSession 1 (some (rival database))) :=
    .held "1" claimEdit rfl unlocked (by simp)
  refine .tail (.tail (.tail .refl (.inl ⟨1, by decide, entered⟩)) (.inl ⟨1, by decide, held⟩)) ?_
  exact .inl ⟨1, by decide, .published rfl⟩

theorem transition_conflict :
    ∃ trace residue last, Path (requestSetting 0)
      (Transition.run ⟨0, 0⟩ 2 .findAndMarkAsProcessing) (Database.opened oneReady 0) trace residue last ∧
      ∃ front event, trace = front ++ [event] ∧ event.reply = .error .serialization := by
  apply Exists.intro
  apply Exists.intro
  apply Exists.intro
  constructor
  · apply Path.reply (requestSetting 0) (.begin .repeatableRead) (.ok ())
    · exact ⟨rfl, rfl⟩
    apply Path.reply (requestSetting 0) (.select _) (.ok oneReady.rows)
    · exact ⟨_, rfl, .refl _, rfl⟩
    apply Path.reply (requestSetting 0) .clock (.ok (0 : Int))
    · exact ⟨rfl, rfl⟩
    apply Path.reply (requestSetting 0) (.scan _) (.ok ["1"])
    · exact ⟨_, rfl, .refl _, rfl⟩
    apply @Path.perform _ _ _ _ _ _ _ _ (.error .serialization)
    · refine rival_publishes _ rfl ?_
      rintro ⟨other, session, different, current, member⟩
      simp only [Database.enter, Database.withSession, Database.opened, Function.update_apply,
        different, if_false] at current
      split at current
      · cases current
        cases member
      · cases current
    · refine ⟨"1", _, _, rfl, rfl, rfl, ?_, rfl⟩
      decide
    · exact .stop _ _
  · exact ⟨[_, _, _, _], _, rfl, rfl⟩

theorem transition_loses_no_update_on_conflict :
    ∃ trace residue last, Path (requestSetting 0)
      (Transition.run ⟨0, 0⟩ 2 .findAndMarkAsProcessing) (Database.opened oneReady 0) trace residue last ∧
      AllQuiet trace ∧ ∃ less < 2,
        residue = startsAgain (Transition.run ⟨0, 0⟩ less .findAndMarkAsProcessing) := by
  obtain ⟨trace, residue, last, path, front, event, split, conflict⟩ := transition_conflict
  exact ⟨trace, residue, last, path,
    (transition_loses_no_update ⟨0, 0⟩ .findAndMarkAsProcessing 2 0 oneReady 0 path).2.1
      front event split conflict⟩

end Conflict

end CeramicAnchor.RequestRepository
