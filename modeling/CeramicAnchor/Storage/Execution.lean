import CeramicAnchor.Storage.Session
import Mathlib.Logic.Relation

/-
This file executes a transaction body under row locks.
The other sessions move between any two of its requests.
-/

namespace CeramicAnchor.Storage
open Concurrency

variable {Row Value A : Type} {unique : List (Row → Value)}

/-- The update locks its rows one after another. -/
def lockAll (edit : Edit Row Value unique) : List Value → Connection Row Value unique (List Row)
  | [] => pure []
  | value :: rest => do
      let row : Row ← Prog.call (RowOp.lock value edit)
      let rows ← lockAll edit rest
      pure (row :: rows)

def Statement.execute : (statement : Statement Row Value unique) →
    Connection Row Value unique statement.Reply
  | .select chosen => Prog.call (RowOp.select chosen)
  | .clock => Prog.call RowOp.clock
  | .update keys edit => do
      let targets : List Value ← Prog.call (RowOp.scan keys)
      let _ ← lockAll edit targets
      pure targets.length

def execute : Body Row Value unique A → Connection Row Value unique A
  | .done value => .done value
  | .fail error => .fail error
  | .halted => .halted
  | .ask statement next => statement.execute.attempt >>= fun reply => execute (next reply)

/-- A rejected body is rolled back, and the rejection goes on. -/
def runTransaction (body : Body Row Value unique A) : Connection Row Value unique A := do
  Prog.call (RowOp.begin .repeatableRead)
  let value ← tryCatch (execute body) fun error => do
    let _ ← (Prog.call RowOp.rollback).attempt
    throw error
  Prog.call RowOp.commit
  pure value

section Retry

theorem lockAll_rethrows (edit : Edit Row Value unique) (targets : List Value) :
    (lockAll edit targets).Rethrows := by
  induction targets with
  | nil => trivial
  | cons value rest ih =>
      refine Prog.rethrows_bind (Prog.rethrows_call _) fun row => ?_
      exact Prog.rethrows_bind ih fun rows => trivial

theorem Statement.execute_rethrows (statement : Statement Row Value unique) :
    statement.execute.Rethrows := by
  cases statement with
  | select chosen => exact Prog.rethrows_call _
  | clock => exact Prog.rethrows_call _
  | update keys edit =>
      refine Prog.rethrows_bind (Prog.rethrows_call _) fun targets => ?_
      exact Prog.rethrows_bind (lockAll_rethrows edit targets) fun rows => trivial

/-- The execution of a body that catches no rejection catches none either. -/
theorem execute_rethrows {body : Body Row Value unique A} (rethrows : body.Rethrows) :
    (execute body).Rethrows := by
  induction body with
  | done value => trivial
  | fail error => trivial
  | halted => trivial
  | ask statement next ih =>
      refine Prog.leads_bind ?_ fun reply => ih reply (rethrows reply).2
      refine Prog.leads_handle (Prog.leads_bind ?_ fun value => trivial) fun error => trivial
      refine Prog.leads_mono statement.execute_rethrows fun op reply rest rethrown error same => ?_
      rw [rethrown error same]
      change execute (next (.error error)) = .fail error
      rw [(rethrows (.error error)).1 error rfl]
      rfl

theorem leads_unlocked (op : RowOp Row Value unique) (other : ∀ value edit, op ≠ .lock value edit)
    {holds : (op' : RowOp Row Value unique) → Except Failure op'.Reply →
      Connection Row Value unique op.Reply → Prop} :
    (Prog.call op : Connection Row Value unique op.Reply).Leads fun op' reply rest =>
      (∃ value edit, op' = .lock value edit) → holds op' reply rest :=
  Prog.leads_call op (fun _ ⟨value, edit, same⟩ => absurd same (other value edit))
    (fun _ ⟨value, edit, same⟩ => absurd same (other value edit))

/-- A transaction that cannot lock a row rolls back and rejects. -/
theorem runTransaction_leads {body : Body Row Value unique A} (rethrows : body.Rethrows) :
    (runTransaction body).Leads fun op reply rest => (∃ value edit, op = .lock value edit) →
      ∀ error, reply = .error error → rest = .ask .rollback fun _ => .fail error := by
  refine Prog.leads_bind (leads_unlocked (RowOp.begin .repeatableRead) (by simp)) fun _ => ?_
  refine Prog.leads_bind (Prog.leads_handle ?_ fun error => ?_) fun value => ?_
  · refine Prog.leads_mono (execute_rethrows rethrows) fun op reply rest rethrown _ error same => ?_
    rw [rethrown error same]
    change Prog.ask _ _ = Prog.ask _ _
    congr 1
    funext answer
    cases answer <;> rfl
  · refine Prog.leads_bind (Prog.leads_handle (Prog.leads_bind ?_ fun _ => trivial) fun _ => trivial)
      fun _ => trivial
    exact leads_unlocked RowOp.rollback (by simp)
  · exact Prog.leads_bind (leads_unlocked RowOp.commit (by simp)) fun _ => trivial

end Retry

variable [DecidableEq Value]

section Interference

variable (key : Row → Value)

/-- The other sessions make any number of moves while time passes. -/
def Others (thread : Nat) : Database Row Value unique → Database Row Value unique → Prop :=
  Relation.ReflTransGen fun first second =>
    (∃ other, other ≠ thread ∧ Move key other first second) ∨ first.Drifts second

/-- One connection sees its own requests and the moves of the others. -/
def connectionSetting (thread : Nat) :
    Setting (RowOp Row Value unique) RowOp.Reply Failure (Database Row Value unique) where
  perform := RowOp.perform key thread
  rely := Others key thread
  rely_refl _ := .refl
  rely_trans := .trans

variable {key}

theorem Move.sessions {thread other : Nat} {first second : Database Row Value unique}
    (moved : Move key other first second) (different : thread ≠ other) :
    second.sessions thread = first.sessions thread := by
  cases moved with
  | idle => rfl
  | entered isolation free => exact Function.update_of_ne different _ _
  | closed => exact Function.update_of_ne different _ _
  | read rows current => exact Function.update_of_ne different _ _
  | held value edit current unlocked fresh => exact Function.update_of_ne different _ _
  | published current => exact Function.update_of_ne different _ _

theorem Move.clock {thread : Nat} {first second : Database Row Value unique}
    (moved : Move key thread first second) : second.clock = first.clock := by
  cases moved <;> rfl

/-- The others keep this session and the soundness of the database, and time only grows. -/
theorem Others.keeps (indexed : key ∈ unique) {thread : Nat} {first second : Database Row Value unique}
    (others : Others key thread first second) (sound : first.Sound key) :
    second.Sound key ∧ second.sessions thread = first.sessions thread ∧ first.clock ≤ second.clock := by
  induction others with
  | refl => exact ⟨sound, rfl, Int.le_refl _⟩
  | tail _ step ih =>
      obtain ⟨soundNow, same, later⟩ := ih
      rcases step with ⟨other, different, moved⟩ | moved
      · refine ⟨soundNow.move indexed moved, ?_, ?_⟩
        · rw [moved.sessions different.symm, same]
        · rw [moved.clock]
          exact later
      · refine ⟨soundNow.drifts moved, ?_⟩
        obtain ⟨now, passed, rfl⟩ := moved
        exact ⟨same, Int.le_trans later passed⟩

end Interference

section Refinement

variable {key : Row → Value} {thread : Nat} {snapshot : Table Row Value unique}
  {progress : Progress Row Value unique} {database : Database Row Value unique}

/-- The thread has a session with this progress on this snapshot. -/
def Opened (thread : Nat) (snapshot : Table Row Value unique) (progress : Progress Row Value unique)
    (database : Database Row Value unique) : Prop :=
  ∃ stampsThen, database.sessions thread =
    some ⟨.repeatableRead, snapshot, stampsThen, progress.pending, progress.read⟩

/-- The thread has no session. -/
structure Idle (key : Row → Value) (thread : Nat) (database : Database Row Value unique) : Prop where
  sound : database.Sound key
  free : database.sessions thread = none

/-- The session of the thread follows the progress of its body, or it is over. -/
structure Tracks (key : Row → Value) (thread : Nat) (snapshot : Table Row Value unique)
    (progress : Progress Row Value unique) (database : Database Row Value unique) : Prop where
  sound : database.Sound key
  clock : progress.clock = database.clock
  session : database.sessions thread = none ∨ Opened thread snapshot progress database

theorem Database.Sound.closed (sound : database.Sound key) (thread : Nat) :
    Idle key thread (database.withSession thread none) :=
  ⟨sound.withSession (by simp) (by simp) (by simp) (by simp), Function.update_self ..⟩

theorem Idle.others (indexed : key ∈ unique) {later : Database Row Value unique}
    (idle : Idle key thread database) (others : Others key thread database later) :
    Idle key thread later := by
  obtain ⟨sound, same, _⟩ := others.keeps indexed idle.sound
  exact ⟨sound, same.trans idle.free⟩

omit [DecidableEq Value] in
theorem Opened.others {later : Database Row Value unique} (opened : Opened thread snapshot progress database)
    (same : later.sessions thread = database.sessions thread) (clock : Int) :
    Opened thread snapshot { progress with clock := clock } later := by
  obtain ⟨stampsThen, current⟩ := opened
  exact ⟨stampsThen, same.trans current⟩

/-- The body sees the moves of the others only as time that passes. -/
theorem Tracks.others (indexed : key ∈ unique) {later : Database Row Value unique}
    (tracks : Tracks key thread snapshot progress database) (others : Others key thread database later) :
    (snapshotSetting key snapshot).rely progress { progress with clock := later.clock } ∧
      Tracks key thread snapshot { progress with clock := later.clock } later := by
  obtain ⟨sound, same, passed⟩ := others.keeps indexed tracks.sound
  refine ⟨⟨later.clock, by rw [tracks.clock]; exact passed, rfl⟩, sound, rfl, ?_⟩
  rcases tracks.session with free | opened
  · exact .inl (same.trans free)
  · exact .inr (opened.others same _)

/-- Only a commit changes the committed rows. -/
def Quiet (_op : RowOp Row Value unique) (before : Database Row Value unique)
    (_reply : Except Failure _op.Reply) (after : Database Row Value unique) : Prop :=
  after.committed = before.committed

/-- A rejected request other than a commit changes no committed row and ends the session. -/
theorem RowOp.perform_error {op : RowOp Row Value unique} (other : op ≠ .commit) {error : Failure}
    {after : Database Row Value unique} (sound : database.Sound key)
    (performed : op.perform key thread database (.error error) after) :
    error.External ∧ after.committed = database.committed ∧ after.clock = database.clock ∧
      Idle key thread after := by
  have closed : error.External ∧ after = database.withSession thread none := by
    match error, performed with
    | .serialization, performed =>
        obtain ⟨_, _, _, _, _, _, _, rfl⟩ := performed
        exact ⟨trivial, rfl⟩
    | .rejected _, performed =>
        rcases performed with rfl | ⟨same, _⟩
        · exact ⟨trivial, rfl⟩
        · exact absurd same other
  obtain ⟨external, rfl⟩ := closed
  exact ⟨external, rfl, rfl, sound.closed thread⟩

/-- The body of a session that is over can only see rejections. -/
theorem Idle.tracks (idle : Idle key thread database) :
    Tracks key thread snapshot { progress with clock := database.clock } database :=
  ⟨idle.sound, rfl, .inl idle.free⟩

/-- The body that has locked these rows at this time. -/
def Progress.locks (progress : Progress Row Value unique) (targets : List Value)
    (edit : Edit Row Value unique) (clock : Int) : Progress Row Value unique :=
  { progress with pending := progress.pending ++ targets.map fun target => (target, edit), clock := clock }

/-- The rows are locked one by one, and a conflict ends the session. -/
theorem lockAll_sat (indexed : key ∈ unique) (edit : Edit Row Value unique) (targets : List Value)
    (tracks : Tracks key thread snapshot progress database)
    (opened : Opened thread snapshot progress database) :
    Sat (connectionSetting key thread) Quiet
      (fun _ reached => progress.clock ≤ reached.clock ∧
        Tracks key thread snapshot (progress.locks targets edit reached.clock) reached)
      (fun error reached => error.External ∧ progress.clock ≤ reached.clock ∧ Idle key thread reached)
      (lockAll edit targets) database := by
  induction targets generalizing progress database with
  | nil =>
      refine ⟨Int.le_of_eq tracks.clock, ?_⟩
      rw [← tracks.clock]
      simpa [Progress.locks] using tracks
  | cons value rest ih =>
      refine sat_bind (fun _ reached => progress.clock ≤ reached.clock ∧
        Tracks key thread snapshot (progress.locks [value] edit reached.clock) reached ∧
        Opened thread snapshot (progress.locks [value] edit reached.clock) reached)
        (sat_call (RowOp.lock value edit) ?_ ?_) ?_
      · intro before others row after performed
        have passed := (others.keeps indexed tracks.sound).2.2
        have trackedNow := (tracks.others indexed others).2
        have openedNow := opened.others (others.keeps indexed tracks.sound).2.1 before.clock
        obtain ⟨session, old, current, unlocked, fresh, _, _, rfl⟩ := performed
        obtain ⟨stampsThen, present⟩ := openedNow
        obtain rfl := Option.some.inj (present.symm.trans current)
        have soundNext := trackedNow.sound.move indexed (.held value edit current unlocked fresh)
        have openedNext : Opened thread snapshot (progress.locks [value] edit before.clock)
            (before.withSession thread (some (Session.write
              ⟨.repeatableRead, snapshot, stampsThen, progress.pending, progress.read⟩ value edit))) := by
          refine ⟨stampsThen, ?_⟩
          rw [Database.sessions_withSession, if_pos rfl]
          rfl
        exact ⟨rfl, tracks.clock ▸ passed, ⟨soundNext, rfl, .inr openedNext⟩, openedNext⟩
      · intro before others error after performed
        have passed := (others.keeps indexed tracks.sound).2.2
        have trackedNow := (tracks.others indexed others).2
        obtain ⟨external, same, sameClock, idle⟩ := RowOp.perform_error (by simp) trackedNow.sound performed
        exact ⟨same, external, by rw [sameClock, tracks.clock]; exact passed, idle⟩
      · rintro row reached ⟨passed, trackedNow, openedNow⟩
        refine sat_bind (fun _ last => progress.clock ≤ last.clock ∧
          Tracks key thread snapshot (progress.locks (value :: rest) edit last.clock) last)
          (sat_mono (ih trackedNow openedNow) (fun _ _ _ _ held => held) ?_ ?_) (fun _ _ held => held)
        · rintro rows last ⟨after, tracked⟩
          refine ⟨Int.le_trans passed after, ?_⟩
          simpa [Progress.locks] using tracked
        · rintro error last ⟨external, after, idle⟩
          exact ⟨external, Int.le_trans passed after, idle⟩

/-- One statement answers from the snapshot, whatever the others do meanwhile. -/
theorem Statement.execute_sat (indexed : key ∈ unique) (statement : Statement Row Value unique)
    (tracks : Tracks key thread snapshot progress database) :
    Sat (connectionSetting key thread) Quiet
      (fun value reached => ∃ before after, (snapshotSetting key snapshot).rely progress before ∧
        statement.Answers key snapshot before value after ∧ Tracks key thread snapshot after reached)
      (fun error reached => error.External ∧ progress.clock ≤ reached.clock ∧ Idle key thread reached)
      statement.execute database := by
  have rejects : ∀ op : RowOp Row Value unique, op ≠ .commit →
      ∀ before, (connectionSetting key thread).rely database before → ∀ error after,
        (connectionSetting key thread).perform op before (.error error) after →
        Quiet op before (.error error) after ∧
          error.External ∧ progress.clock ≤ after.clock ∧ Idle key thread after := by
    intro op other before others error after performed
    have kept := others.keeps indexed tracks.sound
    obtain ⟨external, same, sameClock, idle⟩ := RowOp.perform_error other kept.1 performed
    exact ⟨same, external, by rw [sameClock, tracks.clock]; exact kept.2.2, idle⟩
  cases statement with
  | select chosen =>
      refine sat_call _ ?_ (rejects _ (by simp))
      intro before others rows after performed
      obtain ⟨passed, trackedNow⟩ := tracks.others indexed others
      obtain ⟨session, current, permuted, rfl⟩ := performed
      rcases trackedNow.session with free | ⟨stampsThen, present⟩
      · exact absurd (free.symm.trans current) (by simp)
      obtain rfl := Option.some.inj (present.symm.trans current)
      refine ⟨rfl, _, _, passed, ⟨permuted, rfl⟩, ?_⟩
      refine ⟨trackedNow.sound.move indexed (.read rows current), rfl, .inr ⟨stampsThen, ?_⟩⟩
      rw [Database.sessions_withSession, if_pos rfl]
      rfl
  | clock =>
      refine sat_call _ ?_ (rejects _ (by simp))
      intro before others now after performed
      obtain ⟨passed, trackedNow⟩ := tracks.others indexed others
      obtain ⟨rfl, rfl⟩ := performed
      exact ⟨rfl, _, _, passed, ⟨rfl, rfl⟩, trackedNow⟩
  | update keys edit =>
      refine sat_bind (fun targets reached => progress.clock ≤ reached.clock ∧
        List.Perm targets ((snapshot.publish key progress.pending).targets key keys) ∧
        Tracks key thread snapshot { progress with clock := reached.clock } reached ∧
        Opened thread snapshot { progress with clock := reached.clock } reached)
        (sat_call (RowOp.scan keys) ?_ (rejects _ (by simp))) ?_
      · intro before others targets after performed
        have passed := (others.keeps indexed tracks.sound).2.2
        have trackedNow := (tracks.others indexed others).2
        obtain ⟨session, current, permuted, rfl⟩ := performed
        rcases trackedNow.session with free | ⟨stampsThen, present⟩
        · exact absurd (free.symm.trans current) (by simp)
        obtain rfl := Option.some.inj (present.symm.trans current)
        exact ⟨rfl, tracks.clock ▸ passed, permuted, trackedNow, stampsThen, present⟩
      · rintro targets reached ⟨passed, permuted, trackedNow, openedNow⟩
        refine sat_bind _ (sat_mono (lockAll_sat indexed edit targets trackedNow openedNow)
          (fun _ _ _ _ held => held) (fun _ _ held => held) ?_) ?_
        · rintro error last ⟨external, after, idle⟩
          exact ⟨external, Int.le_trans passed after, idle⟩
        · rintro rows last ⟨after, tracked⟩
          refine ⟨{ progress with clock := last.clock }, progress.locks targets edit last.clock,
            ⟨last.clock, Int.le_trans passed after, rfl⟩, ⟨targets, permuted, rfl, rfl⟩, tracked⟩

/-- The execution under row locks meets every specification that the body meets on its snapshot. -/
theorem execute_sat (indexed : key ∈ unique) {body : Body Row Value unique A}
    {guarantee : Guarantee (Statement Row Value unique) Statement.Reply Failure (Progress Row Value unique)}
    {post : A → Progress Row Value unique → Prop} {raise : Failure → Progress Row Value unique → Prop}
    (spec : Sat (snapshotSetting key snapshot) guarantee post raise body progress)
    (tracks : Tracks key thread snapshot progress database) :
    Sat (connectionSetting key thread) Quiet
      (fun value reached => ∃ last, post value last ∧ Tracks key thread snapshot last reached)
      (fun error reached => ∃ last, raise error last ∧ Tracks key thread snapshot last reached)
      (execute body) database := by
  induction body generalizing progress database with
  | done value => exact ⟨progress, spec, tracks⟩
  | fail error => exact ⟨progress, spec, tracks⟩
  | halted => trivial
  | ask statement next ih =>
      refine sat_bind _ (sat_attempt (statement.execute_sat indexed tracks)) ?_
      intro outcome reached held
      cases outcome with
      | ok value =>
          obtain ⟨before, after, passed, answers, tracked⟩ := held
          exact ih (.ok value) (spec before passed (.ok value) after answers).2 tracked
      | error error =>
          obtain ⟨external, passed, idle⟩ := held
          exact ih (.error error) (spec _ ⟨reached.clock, passed, rfl⟩ (.error error) _ ⟨external, rfl⟩).2
            idle.tracks

/-- A commit of a repeatable read finds each edited row as its snapshot has it. -/
theorem Database.Sound.commitsSnapshot (sound : database.Sound key) {session : Session Row Value unique}
    (current : database.sessions thread = some session)
    (isolated : session.isolation = .repeatableRead) :
    CommitsSnapshot key session.snapshot database.committed session.pending
      (database.publish key thread session).committed :=
  ⟨fun value member => sound.same thread session current value
    (sound.held thread session current isolated value member), rfl⟩

/-- A connection that runs the body changes committed rows only by committing an evaluation of the body. -/
def Commits (key : Row → Value) (thread : Nat) (body : Body Row Value unique A)
    (op : RowOp Row Value unique) (before : Database Row Value unique)
    (_reply : Except Failure op.Reply) (after : Database Row Value unique) : Prop :=
  after.committed = before.committed ∨
    ∃ session earliest value last, before.sessions thread = some session ∧
      Evaluates key session.snapshot earliest body value last ∧ last.clock ≤ before.clock ∧
      session.pending = last.pending ∧ session.read = last.read ∧
      CommitsSnapshot key session.snapshot before.committed session.pending after.committed

abbrev RowEvent (Row Value : Type) (unique : List (Row → Value)) :=
  Event (RowOp Row Value unique) RowOp.Reply Failure (Database Row Value unique)

/-- No request of this history has changed a committed row. -/
def AllQuiet (history : List (RowEvent Row Value unique)) : Prop :=
  ∀ event ∈ history, event.after.committed = event.before.committed

omit [DecidableEq Value] in
theorem AllQuiet.push {history : List (RowEvent Row Value unique)} (quiet : AllQuiet history)
    {event : RowEvent Row Value unique} (same : event.after.committed = event.before.committed) :
    AllQuiet (history ++ [event]) := by
  intro earlier member
  rcases List.mem_append.mp member with member | member
  · exact quiet earlier member
  · obtain rfl := List.mem_singleton.mp member
    exact same

/-- The commit of a session that has followed its body. -/
theorem Tracks.publish (indexed : key ∈ unique) {body : Body Row Value unique A} {value : A}
    {earliest : Int} (evaluates : Evaluates key snapshot earliest body value progress)
    (tracks : Tracks key thread snapshot progress database) {before : Database Row Value unique}
    (others : Others key thread database before) {session : Session Row Value unique}
    (current : before.sessions thread = some session)
    (reply : Except Failure Unit) :
    Commits key thread body .commit before reply (before.publish key thread session) ∧
      Idle key thread (before.publish key thread session) := by
  have kept := others.keeps indexed tracks.sound
  rcases tracks.session with free | ⟨stampsThen, present⟩
  · exact absurd ((kept.2.1.trans free).symm.trans current) (by simp)
  obtain rfl := Option.some.inj ((kept.2.1.trans present).symm.trans current)
  refine ⟨.inr ⟨_, earliest, value, progress, current, evaluates, ?_, rfl, rfl,
    kept.1.commitsSnapshot current rfl⟩, kept.1.publish indexed current, ?_⟩
  · rw [tracks.clock]
    exact kept.2.2
  · exact Function.update_self ..

/-- A transaction changes the committed rows only by committing an evaluation of its body, and only at
its end. -/
theorem runTransaction_sat (indexed : key ∈ unique) (body : Body Row Value unique A)
    (idle : Idle key thread database) {history : List (RowEvent Row Value unique)}
    (quiet : AllQuiet history) :
    Sat (connectionSetting key thread).recorded
      (fun op before reply after => AllQuiet before.2 ∧ Commits key thread body op before.1 reply after.1)
      (fun value reached => Idle key thread reached.1 ∧
        ∃ snapshot earliest last, Evaluates key snapshot earliest body value last)
      (fun error reached => Idle key thread reached.1 ∧
        (error = .serialization → AllQuiet reached.2) ∧
        (error.External ∨ ∃ snapshot earliest, Raises key snapshot earliest body error))
      (runTransaction body) (database, history) := by
  refine sat_bind (fun _ reached => AllQuiet reached.2 ∧ ∃ snapshot,
    Tracks key thread snapshot (.fresh reached.1.clock) reached.1) ?_ ?_
  · refine sat_recorded_call (RowOp.begin .repeatableRead) ?_ ?_
    · rintro before others _ after ⟨free, rfl⟩
      have sound := (idle.others indexed others).sound
      have entered := sound.move indexed (.entered .repeatableRead free)
      refine ⟨⟨quiet, .inl rfl⟩, quiet.push rfl, before.committed, entered, rfl, .inr ⟨before.stamps, ?_⟩⟩
      exact Function.update_self ..
    · intro before others error after performed
      have sound := (idle.others indexed others).sound
      obtain ⟨external, same, _, idleNow⟩ := RowOp.perform_error (by simp) sound performed
      exact ⟨⟨quiet, .inl same⟩, idleNow, fun _ => quiet.push same, .inl external⟩
  rintro _ ⟨started, past⟩ ⟨quietNow, snapshot, tracks⟩
  refine sat_bind (fun value reached => AllQuiet reached.2 ∧ ∃ last,
    Evaluates key snapshot started.clock body value last ∧
    Tracks key thread snapshot last reached.1) ?_ ?_
  · refine sat_handle (fun error reached => AllQuiet reached.2 ∧ ∃ last,
      (∃ trace, Path (snapshotSetting key snapshot) body (.fresh started.clock) trace
        (.fail error) last) ∧ Tracks key thread snapshot last reached.1) ?_ ?_
    · have executed := execute_sat indexed (sat_paths body (.fresh started.clock)) tracks
      refine sat_mono (sat_recorded _ (fun past same => past.push same) executed quietNow) ?_ ?_ ?_
      · rintro op before reply after ⟨earlier, same⟩
        exact ⟨earlier, .inl same⟩
      · rintro value reached ⟨tracked, earlier⟩
        exact ⟨earlier, tracked⟩
      · rintro error reached ⟨tracked, earlier⟩
        exact ⟨earlier, tracked⟩
    · rintro error ⟨failed, history⟩ ⟨earlier, last, raised, tracked⟩
      have raises : error.External ∨ ∃ snapshot earliest, Raises key snapshot earliest body error :=
        .inr ⟨snapshot, started.clock, raised.imp fun trace path => ⟨last, path⟩⟩
      refine sat_bind (fun _ reached => AllQuiet reached.2 ∧ Idle key thread reached.1)
        (sat_attempt_settled _ (sat_recorded_call RowOp.rollback ?_ ?_)) ?_
      · rintro before others _ after rfl
        have sound := (others.keeps indexed tracked.sound).1
        exact ⟨⟨earlier, .inl rfl⟩, earlier.push rfl, sound.closed thread⟩
      · intro before others error after performed
        have sound := (others.keeps indexed tracked.sound).1
        obtain ⟨_, same, _, idleNow⟩ := RowOp.perform_error (by simp) sound performed
        exact ⟨⟨earlier, .inl same⟩, earlier.push same, idleNow⟩
      · rintro _ reached ⟨earlierNow, idleNow⟩
        exact ⟨idleNow, fun _ => earlierNow, raises⟩
  · rintro value ⟨executed, history⟩ ⟨earlier, last, evaluates, tracked⟩
    refine sat_bind (fun _ reached => Idle key thread reached.1) ?_ ?_
    · refine sat_recorded_call RowOp.commit ?_ ?_
      · rintro before others _ after ⟨session, current, rfl⟩
        obtain ⟨commits, idleNow⟩ := tracked.publish indexed evaluates others current (.ok ())
        exact ⟨⟨earlier, commits⟩, idleNow⟩
      · intro before others error after performed
        have sound := (others.keeps indexed tracked.sound).1
        match error, performed with
        | .serialization, ⟨_, _, _, different, _⟩ => cases different
        | .rejected message, .inl same =>
            subst same
            exact ⟨⟨earlier, .inl rfl⟩, sound.closed thread, by simp, .inl trivial⟩
        | .rejected message, .inr ⟨_, session, current, same⟩ =>
            subst same
            obtain ⟨commits, idleNow⟩ :=
              tracked.publish indexed evaluates others current (.error (.rejected message))
            exact ⟨⟨earlier, commits⟩, idleNow, by simp, .inl trivial⟩
    · rintro _ reached idleNow
      exact ⟨idleNow, snapshot, started.clock, last, evaluates⟩

end Refinement

end CeramicAnchor.Storage
