import CeramicAnchor.Concurrency.Pool
import CeramicAnchor.Storage.Transaction

/-
This file gives each connection a session with row locks.
A locked row has a pending version, and no other session can lock it before the session ends.
-/

namespace CeramicAnchor.Storage
open Concurrency

/-- A stamp names the commit that wrote the current version of a row, and its session. -/
structure Stamp where
  commit : Nat
  writer : Option Nat
  deriving DecidableEq

inductive Isolation where
  | readCommitted
  | repeatableRead
  deriving DecidableEq

/-- A session sees the table and the stamps of its start. -/
structure Session (Row Value : Type) (unique : List (Row → Value)) where
  isolation : Isolation
  snapshot : Table Row Value unique
  stampsThen : Value → Stamp
  pending : Pending Row Value unique
  read : List Row

structure Database (Row Value : Type) (unique : List (Row → Value)) where
  committed : Table Row Value unique
  stamps : Value → Stamp
  sessions : Nat → Option (Session Row Value unique)
  commits : Nat
  clock : Int

/-- These are the requests that one connection sends. -/
inductive RowOp (Row Value : Type) (unique : List (Row → Value)) where
  | begin (isolation : Isolation)
  | select (chosen : Row → Bool)
  | scan (keys : List Value)
  | clock
  | lock (key : Value) (edit : Edit Row Value unique)
  | commit
  | rollback
  | sleep (milliseconds : Nat)

variable {Row Value A : Type} {unique : List (Row → Value)}

def RowOp.Reply : RowOp Row Value unique → Type
  | .begin _ => Unit
  | .select _ => List Row
  | .scan _ => List Value
  | .clock => Int
  | .lock _ _ => Row
  | .commit => Unit
  | .rollback => Unit
  | .sleep _ => Unit

abbrev Connection (Row Value : Type) (unique : List (Row → Value)) (A : Type) :=
  Prog (RowOp Row Value unique) RowOp.Reply Failure A

/-- The session holds the row lock of each key that it has edited. -/
def Session.locked (session : Session Row Value unique) : List Value := session.pending.map Prod.fst

def Session.read_rows (session : Session Row Value unique) (rows : List Row) :
    Session Row Value unique := { session with read := session.read ++ rows }

def Session.write (session : Session Row Value unique) (key : Value) (edit : Edit Row Value unique) :
    Session Row Value unique := { session with pending := session.pending ++ [(key, edit)] }

variable [DecidableEq Value]

/-- A session reads its snapshot with its own edits on top. -/
def Session.view (session : Session Row Value unique) (key : Row → Value) : Table Row Value unique :=
  session.snapshot.publish key session.pending

namespace Database

/-- A database at rest has no session. -/
def opened (table : Table Row Value unique) (clock : Int) : Database Row Value unique :=
  ⟨table, fun _ => ⟨0, none⟩, fun _ => none, 1, clock⟩

def withSession (database : Database Row Value unique) (thread : Nat)
    (session : Option (Session Row Value unique)) : Database Row Value unique :=
  { database with sessions := Function.update database.sessions thread session }

def enter (database : Database Row Value unique) (thread : Nat) (isolation : Isolation) :
    Database Row Value unique :=
  database.withSession thread (some ⟨isolation, database.committed, database.stamps, [], []⟩)

/-- The commit publishes the pending versions, stamps them, and releases the locks. -/
def publish (database : Database Row Value unique) (key : Row → Value) (thread : Nat)
    (session : Session Row Value unique) : Database Row Value unique where
  committed := database.committed.publish key session.pending
  stamps value := if value ∈ session.locked then ⟨database.commits, some thread⟩ else database.stamps value
  sessions := Function.update database.sessions thread none
  commits := database.commits + 1
  clock := database.clock

/-- Another session holds the lock of this row. -/
def LockedByOther (database : Database Row Value unique) (thread : Nat) (value : Value) : Prop :=
  ∃ other session, other ≠ thread ∧ database.sessions other = some session ∧ value ∈ session.locked

/-- Time passes. -/
def Drifts (database next : Database Row Value unique) : Prop :=
  ∃ later, database.clock ≤ later ∧ next = { database with clock := later }

end Database

section Operations

variable (key : Row → Value)

/-- The database resolves one request of a session. A repeatable read locks only rows that still have
their old version. -/
def RowOp.Resolves (thread : Nat) : (op : RowOp Row Value unique) → Database Row Value unique →
    op.Reply → Database Row Value unique → Prop
  | .begin isolation, database, _, next =>
      database.sessions thread = none ∧ next = database.enter thread isolation
  | .select chosen, database, (rows : List Row), next =>
      ∃ session, database.sessions thread = some session ∧
        List.Perm rows ((session.view key).rows.filter chosen) ∧
        next = database.withSession thread (some (session.read_rows rows))
  | .scan keys, database, (targets : List Value), next =>
      ∃ session, database.sessions thread = some session ∧
        List.Perm targets ((session.view key).targets key keys) ∧ next = database
  | .clock, database, (now : Int), next => now = database.clock ∧ next = database
  | .lock value edit, database, (row : Row), next =>
      ∃ session old, database.sessions thread = some session ∧
        ¬ database.LockedByOther thread value ∧
        (session.isolation = .repeatableRead → database.stamps value = session.stampsThen value) ∧
        (database.committed.publish key session.pending).lookup key value = some old ∧
        row = edit.apply old ∧ next = database.withSession thread (some (session.write value edit))
  | .commit, database, _, next => ∃ session, database.sessions thread = some session ∧
      next = database.publish key thread session
  | .rollback, database, _, next => next = database.withSession thread none
  | .sleep _, database, _, next => next = database

/-- A repeatable read that would lock a row with a newer version loses its session. -/
def RowOp.Conflicts (thread : Nat) (op : RowOp Row Value unique) (database : Database Row Value unique)
    (next : Database Row Value unique) : Prop :=
  ∃ value edit session, op = .lock value edit ∧ database.sessions thread = some session ∧
    session.isolation = .repeatableRead ∧ database.stamps value ≠ session.stampsThen value ∧
    next = database.withSession thread none

/-- A lost connection ends the session, and a commit that it was performing may have been published. -/
def RowOp.Breaks (thread : Nat) (op : RowOp Row Value unique) (database : Database Row Value unique)
    (next : Database Row Value unique) : Prop :=
  next = database.withSession thread none ∨
    (op = .commit ∧ ∃ session, database.sessions thread = some session ∧
      next = database.publish key thread session)

def RowOp.perform (thread : Nat) (op : RowOp Row Value unique) (database : Database Row Value unique)
    (reply : Except Failure op.Reply) (next : Database Row Value unique) : Prop :=
  match reply with
  | .ok value => op.Resolves key thread database value next
  | .error .serialization => op.Conflicts thread database next
  | .error (.rejected _) => op.Breaks key thread database next
  | .error (.thrown _) => False

/-- These are all the ways in which one session changes the database. -/
inductive Move (thread : Nat) (database : Database Row Value unique) :
    Database Row Value unique → Prop where
  | idle : Move thread database database
  | entered (isolation : Isolation) (free : database.sessions thread = none) :
      Move thread database (database.enter thread isolation)
  | closed : Move thread database (database.withSession thread none)
  | read {session : Session Row Value unique} (rows : List Row)
      (current : database.sessions thread = some session) :
      Move thread database (database.withSession thread (some (session.read_rows rows)))
  | held {session : Session Row Value unique} (value : Value) (edit : Edit Row Value unique)
      (current : database.sessions thread = some session)
      (unlocked : ¬ database.LockedByOther thread value)
      (fresh : session.isolation = .repeatableRead →
        database.stamps value = session.stampsThen value) :
      Move thread database (database.withSession thread (some (session.write value edit)))
  | published {session : Session Row Value unique} (current : database.sessions thread = some session) :
      Move thread database (database.publish key thread session)

end Operations

section Soundness

variable {key : Row → Value}

/-- The stamps and the locks agree with the versions of the rows. -/
structure Database.Sound (key : Row → Value) (database : Database Row Value unique) : Prop where
  past : ∀ value, (database.stamps value).commit < database.commits
  pastThen : ∀ thread session, database.sessions thread = some session →
    ∀ value, (session.stampsThen value).commit < database.commits
  same : ∀ thread session, database.sessions thread = some session → ∀ value,
    database.stamps value = session.stampsThen value →
    database.committed.lookup key value = session.snapshot.lookup key value
  held : ∀ thread session, database.sessions thread = some session →
    session.isolation = .repeatableRead → ∀ value ∈ session.locked,
    database.stamps value = session.stampsThen value
  exclusive : ∀ thread session, database.sessions thread = some session →
    ∀ value ∈ session.locked, ¬ database.LockedByOther thread value

theorem Database.opened_sound (table : Table Row Value unique) (clock : Int) :
    (Database.opened table clock).Sound key where
  past _ := Nat.one_pos
  pastThen := by simp [opened]
  same := by simp [opened]
  held := by simp [opened]
  exclusive := by simp [opened]

theorem Database.Sound.drifts {database next : Database Row Value unique} (sound : database.Sound key)
    (moved : database.Drifts next) : next.Sound key := by
  obtain ⟨later, _, rfl⟩ := moved
  exact ⟨sound.past, sound.pastThen, sound.same, sound.held, sound.exclusive⟩

omit [DecidableEq Value] in
theorem Database.sessions_withSession (database : Database Row Value unique) (thread other : Nat)
    (session : Option (Session Row Value unique)) :
    (database.withSession thread session).sessions other =
      if other = thread then session else database.sessions other := Function.update_apply ..

/-- A new state of one session is sound when its versions and its locks are. -/
theorem Database.Sound.withSession {database : Database Row Value unique} (sound : database.Sound key)
    {thread : Nat} {session : Option (Session Row Value unique)}
    (pastThen : ∀ current ∈ session, ∀ value, (current.stampsThen value).commit < database.commits)
    (same : ∀ current ∈ session, ∀ value, database.stamps value = current.stampsThen value →
      database.committed.lookup key value = current.snapshot.lookup key value)
    (held : ∀ current ∈ session, current.isolation = .repeatableRead → ∀ value ∈ current.locked,
      database.stamps value = current.stampsThen value)
    (exclusive : ∀ current ∈ session, ∀ value ∈ current.locked, ¬ database.LockedByOther thread value) :
    (database.withSession thread session).Sound key where
  past := sound.past
  pastThen other current := by
    rw [sessions_withSession]
    split
    · exact pastThen current
    · exact sound.pastThen other current
  same other current := by
    rw [sessions_withSession]
    split
    · exact same current
    · exact sound.same other current
  held other current := by
    rw [sessions_withSession]
    split
    · exact held current
    · exact sound.held other current
  exclusive other current := by
    rw [sessions_withSession]
    rintro running value member ⟨third, rival, different, present, rivalMember⟩
    rw [sessions_withSession] at present
    split at running
    · subst other
      rw [if_neg different] at present
      exact exclusive current running value member ⟨third, rival, different, present, rivalMember⟩
    · rename_i elsewhere
      split at present
      · exact exclusive rival present value rivalMember ⟨other, current, elsewhere, running, member⟩
      · exact sound.exclusive other current running value member
          ⟨third, rival, different, present, rivalMember⟩

omit [DecidableEq Value] in
theorem Session.locked_write (session : Session Row Value unique) (value : Value)
    (edit : Edit Row Value unique) : (session.write value edit).locked = session.locked ++ [value] := by
  simp [locked, write]

/-- A published row was locked by no other session. -/
theorem Database.Sound.publish (indexed : key ∈ unique) {database : Database Row Value unique}
    (sound : database.Sound key) {thread : Nat} {session : Session Row Value unique}
    (current : database.sessions thread = some session) :
    (database.publish key thread session).Sound key := by
  have remaining : ∀ other rival, (database.publish key thread session).sessions other = some rival →
      other ≠ thread ∧ database.sessions other = some rival := by
    intro other rival running
    change Function.update database.sessions thread none other = some rival at running
    rw [Function.update_apply] at running
    split at running
    · exact absurd running (by simp)
    · exact ⟨by assumption, running⟩
  constructor
  case past =>
    intro value
    change (if value ∈ session.locked then _ else database.stamps value).commit < database.commits + 1
    split
    · exact Nat.lt_succ_self _
    · exact Nat.lt_succ_of_lt (sound.past value)
  case pastThen =>
    intro other rival running value
    exact Nat.lt_succ_of_lt (sound.pastThen other rival (remaining other rival running).2 value)
  case same =>
    intro other rival running value agree
    have before := (remaining other rival running).2
    change (if value ∈ session.locked then _ else database.stamps value) = rival.stampsThen value at agree
    split at agree
    · have early := sound.pastThen other rival before value
      rw [← agree] at early
      exact absurd early (Nat.lt_irrefl _)
    · rename_i absent
      exact (Table.lookup_publish_of_notMem indexed absent).trans
        (sound.same other rival before value agree)
  case held =>
    intro other rival running isolated value member
    obtain ⟨different, before⟩ := remaining other rival running
    change (if value ∈ session.locked then _ else database.stamps value) = rival.stampsThen value
    rw [if_neg]
    · exact sound.held other rival before isolated value member
    · intro shared
      exact sound.exclusive thread session current value shared ⟨other, rival, different, before, member⟩
  case exclusive =>
    rintro other rival running value member ⟨third, enemy, distinct, present, enemyMember⟩
    exact sound.exclusive other rival (remaining other rival running).2 value member
      ⟨third, enemy, distinct, (remaining third enemy present).2, enemyMember⟩

/-- Every move keeps the versions and the locks sound. -/
theorem Database.Sound.move (indexed : key ∈ unique) {thread : Nat}
    {database next : Database Row Value unique} (sound : database.Sound key)
    (moved : Move key thread database next) : next.Sound key := by
  cases moved with
  | idle => exact sound
  | entered isolation free =>
      refine sound.withSession ?_ ?_ ?_ ?_
      · rintro current ⟨⟩ value
        exact sound.past value
      · rintro current ⟨⟩ value _
        rfl
      · rintro current ⟨⟩ _ value member
        simp [Session.locked] at member
      · rintro current ⟨⟩ value member
        simp [Session.locked] at member
  | closed => exact sound.withSession (by simp) (by simp) (by simp) (by simp)
  | @read session rows present =>
      refine sound.withSession ?_ ?_ ?_ ?_
      · rintro current ⟨⟩
        exact sound.pastThen thread session present
      · rintro current ⟨⟩
        exact sound.same thread session present
      · rintro current ⟨⟩
        exact sound.held thread session present
      · rintro current ⟨⟩
        exact sound.exclusive thread session present
  | @held session value edit present unlocked fresh =>
      refine sound.withSession ?_ ?_ ?_ ?_
      · rintro current ⟨⟩
        exact sound.pastThen thread session present
      · rintro current ⟨⟩
        exact sound.same thread session present
      · rintro current ⟨⟩ isolated other member
        rw [Session.locked_write, List.mem_append, List.mem_singleton] at member
        rcases member with member | rfl
        · exact sound.held thread session present isolated other member
        · exact fresh isolated
      · rintro current ⟨⟩ other member
        rw [Session.locked_write, List.mem_append, List.mem_singleton] at member
        rcases member with member | rfl
        · exact sound.exclusive thread session present other member
        · exact unlocked
  | published current => exact sound.publish indexed current

end Soundness

end CeramicAnchor.Storage
