import CeramicAnchor.Concurrency.Run

/-
This file gives a lock that each thread tries to take inside a transaction and that the end of the transaction
releases.
-/

namespace CeramicAnchor.Concurrency

universe u

/-- A thread opens and ends a transaction, tries the lock, and performs the operations that the lock may
protect. -/
inductive LockOp (Op : Type u) where
  | begin
  | tryLock
  | commit
  | rollback
  | inner (op : Op)

abbrev LockOp.Reply {Op : Type u} (Reply : Op → Type) : LockOp Op → Type
  | .begin => Unit
  | .tryLock => Bool
  | .commit => Unit
  | .rollback => Unit
  | .inner op => Reply op

/-- The server ends an abandoned transaction when it notices that its connection is gone. -/
inductive Session where
  | idle
  | opened
  | abandoned
  deriving DecidableEq

structure Mutex where
  holder : Option Nat
  sessions : Nat → Session

namespace Mutex

def free : Mutex := ⟨none, fun _ => .idle⟩

def enter (mutex : Mutex) (thread : Nat) (session : Session) : Mutex :=
  { mutex with sessions := Function.update mutex.sessions thread session }

/-- A lock that is taken outside a transaction is released at once. -/
def granted (mutex : Mutex) (thread : Nat) : Mutex :=
  if mutex.sessions thread = .opened then { mutex with holder := some thread } else mutex

/-- The end of a transaction releases its lock. -/
def ended (mutex : Mutex) (thread : Nat) : Mutex :=
  { mutex.enter thread .idle with holder := if mutex.holder = some thread then none else mutex.holder }

/-- The lock is free for a thread that has it already. -/
def Grants (mutex : Mutex) (thread : Nat) : Prop := mutex.holder = none ∨ mutex.holder = some thread

/-- The server ends an abandoned transaction, and the connection of an open one is taken to live. -/
def Drifts (mutex next : Mutex) : Prop :=
    ∃ thread, mutex.sessions thread = .abandoned ∧ next = mutex.ended thread

end Mutex

variable {Op : Type u} {Reply : Op → Type} {Err A : Type}

/-- The lock is granted to one thread at a time, and a lost answer leaves open what took effect. -/
def LockOp.perform (thread : Nat) : (op : LockOp Op) → Mutex → Except Err (op.Reply Reply) → Mutex → Prop
  | .begin, mutex, .ok _, next => next = mutex.enter thread .opened
  | .begin, mutex, .error _, next => next = mutex
  | .tryLock, mutex, .ok success, next => match (success : Bool) with
    | true => mutex.Grants thread ∧ next = mutex.granted thread
    | false => ¬ mutex.Grants thread ∧ next = mutex
  | .tryLock, mutex, .error _, next => next = mutex ∨ mutex.Grants thread ∧ next = mutex.granted thread
  | .commit, mutex, .ok _, next => next = mutex.ended thread
  | .commit, mutex, .error _, next => next = mutex.ended thread ∨ next = mutex.enter thread .abandoned
  | .rollback, mutex, .ok _, next => next = mutex.ended thread
  | .rollback, mutex, .error _, next => next = mutex.ended thread ∨ next = mutex.enter thread .abandoned
  | .inner _, mutex, _, next => next = mutex

/-- The protected operations are answered in any way. -/
def lockSystem (Reply : Op → Type) (Err : Type)
    (entry : Nat → Prog (LockOp Op) (LockOp.Reply Reply) Err A → Prop) :
    System (LockOp Op) (LockOp.Reply Reply) Err A Mutex where
  entry := entry
  perform thread op := op.perform thread
  drift := Mutex.Drifts

/-- The operation ends the transaction of its thread. -/
def LockOp.Ends (op : LockOp Op) : Prop := op = .commit ∨ op = .rollback

/-- A thread tries the lock in an open transaction, and it performs critical operations only with the lock. -/
def Locked (critical : Op → Prop) (thread : Nat) : Guarantee (LockOp Op) (LockOp.Reply Reply) Err Mutex :=
  fun op before _ _ => match op with
    | .tryLock => before.sessions thread = .opened
    | .inner op => critical op → before.sessions thread = .opened ∧ before.holder = some thread
    | _ => True

/-- The lock is free, or the server releases it when it ends the abandoned transaction of this thread. -/
def Mutex.Released (thread : Nat) (mutex : Mutex) : Prop :=
  mutex.holder = none ∨ mutex.holder = some thread ∧ mutex.sessions thread = .abandoned

/-- The others leave the transaction of a thread and its lock alone, unless the thread has abandoned them. -/
def Mutex.KeepsAway (thread : Nat) (mutex next : Mutex) : Prop :=
  mutex.sessions thread ≠ .abandoned → next.sessions thread = mutex.sessions thread ∧
    (next.holder = some thread ↔ mutex.holder = some thread)

section Moves

variable {thread : Nat} {mutex next : Mutex}

theorem Mutex.KeepsAway.refl (mutex : Mutex) : mutex.KeepsAway thread mutex := fun _ => ⟨rfl, Iff.rfl⟩

theorem Mutex.KeepsAway.trans {first second third : Mutex} (head : first.KeepsAway thread second)
    (tail : second.KeepsAway thread third) : first.KeepsAway thread third := by
  intro kept
  obtain ⟨session, holds⟩ := head kept
  obtain ⟨session', holds'⟩ := tail (by rwa [session])
  exact ⟨session'.trans session, holds'.trans holds⟩

theorem Mutex.enter_keepsAway {other : Nat} (different : thread ≠ other) (mutex : Mutex) (session : Session) :
    mutex.KeepsAway thread (mutex.enter other session) :=
  fun _ => ⟨Function.update_of_ne different _ _, Iff.rfl⟩

theorem Mutex.granted_keepsAway {other : Nat} (different : thread ≠ other) (grants : mutex.Grants other) :
    mutex.KeepsAway thread (mutex.granted other) := by
  intro _
  unfold Mutex.granted
  split
  · refine ⟨rfl, ?_⟩
    have notOther : (some other : Option Nat) ≠ some thread :=
      fun same => different (Option.some.inj same).symm
    rcases grants with free | own
    · simp [free, notOther]
    · simp [own, notOther]
  · exact ⟨rfl, Iff.rfl⟩

theorem Mutex.ended_keepsAway {other : Nat} (different : thread ≠ other) (mutex : Mutex) :
    mutex.KeepsAway thread (mutex.ended other) := by
  intro _
  refine ⟨Function.update_of_ne different _ _, ?_⟩
  unfold Mutex.ended
  dsimp only
  split
  · rename_i own
    have notOther : (some other : Option Nat) ≠ some thread :=
      fun same => different (Option.some.inj same).symm
    simp [own, notOther]
  · exact Iff.rfl

/-- Another thread keeps away from the transaction of this thread. -/
theorem LockOp.keepsAway {other : Nat} {op : LockOp Op} {reply : Except Err (op.Reply Reply)}
    (different : thread ≠ other) (performed : op.perform other mutex reply next) :
    mutex.KeepsAway thread next := by
  cases op with
  | begin =>
      cases reply with
      | ok _ =>
          obtain rfl : next = _ := performed
          exact Mutex.enter_keepsAway different mutex .opened
      | error _ =>
          obtain rfl : next = _ := performed
          exact .refl _
  | tryLock =>
      cases reply with
      | ok success =>
          cases success with
          | true =>
              obtain ⟨grants, rfl⟩ : mutex.Grants other ∧ next = _ := performed
              exact Mutex.granted_keepsAway different grants
          | false =>
              obtain ⟨_, rfl⟩ : ¬ mutex.Grants other ∧ next = _ := performed
              exact .refl _
      | error _ =>
          rcases performed with rfl | ⟨grants, rfl⟩
          · exact .refl _
          · exact Mutex.granted_keepsAway different grants
  | inner op =>
      obtain rfl : next = _ := performed
      exact .refl _
  | _ =>
      cases reply with
      | ok _ =>
          obtain rfl : next = _ := performed
          exact Mutex.ended_keepsAway different mutex
      | error _ =>
          rcases performed with rfl | rfl
          · exact Mutex.ended_keepsAway different mutex
          · exact Mutex.enter_keepsAway different mutex .abandoned

theorem Mutex.Drifts.keepsAway (drifted : mutex.Drifts next) : mutex.KeepsAway thread next := by
  obtain ⟨other, abandoned, rfl⟩ := drifted
  intro kept
  have different : thread ≠ other := by
    rintro rfl
    exact kept abandoned
  exact Mutex.ended_keepsAway different mutex kept

/-- The server ends no transaction of a thread that holds the lock. -/
theorem Mutex.Drifts.holds_on (drifted : mutex.Drifts next)
    (held : mutex.sessions thread = .opened ∧ mutex.holder = some thread) :
    next.sessions thread = .opened ∧ next.holder = some thread := by
  obtain ⟨session, holds⟩ := @Mutex.Drifts.keepsAway thread _ _ drifted (by simp [held.1])
  exact ⟨session.trans held.1, holds.mpr held.2⟩

/-- A thread that holds the lock keeps it until it ends its transaction. -/
theorem LockOp.holds_on {other : Nat} {op : LockOp Op} {reply : Except Err (op.Reply Reply)}
    (performed : op.perform other mutex reply next) (goesOn : other = thread → ¬ op.Ends)
    (held : mutex.sessions thread = .opened ∧ mutex.holder = some thread) :
    next.sessions thread = .opened ∧ next.holder = some thread := by
  by_cases different : thread = other
  · subst different
    cases op with
    | begin =>
        cases reply with
        | ok _ =>
            obtain rfl : next = _ := performed
            exact ⟨Function.update_self _ _ _, held.2⟩
        | error _ =>
            obtain rfl : next = _ := performed
            exact held
    | tryLock =>
        have granted : (mutex.granted thread).sessions thread = .opened ∧
            (mutex.granted thread).holder = some thread := by
          rw [Mutex.granted, if_pos held.1]
          exact ⟨held.1, rfl⟩
        cases reply with
        | ok success =>
            cases success with
            | true =>
                obtain ⟨_, rfl⟩ : mutex.Grants thread ∧ next = _ := performed
                exact granted
            | false =>
                obtain ⟨_, rfl⟩ : ¬ mutex.Grants thread ∧ next = _ := performed
                exact held
        | error _ =>
            rcases performed with rfl | ⟨_, rfl⟩
            · exact held
            · exact granted
    | inner op =>
        obtain rfl : next = _ := performed
        exact held
    | commit => exact absurd (.inl rfl) (goesOn rfl)
    | rollback => exact absurd (.inr rfl) (goesOn rfl)
  · obtain ⟨session, holds⟩ := LockOp.keepsAway different performed (by simp [held.1])
    exact ⟨session.trans held.1, holds.mpr held.2⟩

/-- The end of a transaction releases its lock, or it leaves the lock to the server. -/
theorem LockOp.releases {op : LockOp Op} {reply : Except Err (op.Reply Reply)} (ends : op.Ends)
    (performed : op.perform thread mutex reply next) (held : mutex.holder = some thread) :
    next.Released thread := by
  have freed : (mutex.ended thread).holder = none := by simp [Mutex.ended, held]
  have left : (mutex.enter thread .abandoned).sessions thread = .abandoned := Function.update_self _ _ _
  rcases ends with rfl | rfl
  all_goals
    cases reply with
    | ok _ =>
        obtain rfl : next = _ := performed
        exact .inl freed
    | error error =>
        rcases performed with rfl | rfl
        · exact .inl freed
        · exact .inr ⟨held, left⟩

/-- The server releases the lock of an abandoned transaction, and it gives it to nobody. -/
theorem Mutex.Drifts.released (drifted : mutex.Drifts next) (released : mutex.Released thread) :
    next.Released thread := by
  obtain ⟨other, abandoned, rfl⟩ := drifted
  rcases released with free | ⟨held, left⟩
  · exact .inl (by simp [Mutex.ended, free])
  · by_cases same : other = thread
    · subst same
      exact .inl (by simp [Mutex.ended, held])
    · have notOther : (some thread : Option Nat) ≠ some other :=
        fun equal => same (Option.some.inj equal).symm
      refine .inr ⟨by simp [Mutex.ended, held, notOther], ?_⟩
      exact (Function.update_of_ne (Ne.symm same) _ _).trans left

end Moves

section Runs

variable {entry : Nat → Prog (LockOp Op) (LockOp.Reply Reply) Err A → Prop}

/-- Each thread has a transaction of its own, and it is idle at its start. -/
def locking (entry : Nat → Prog (LockOp Op) (LockOp.Reply Reply) Err A → Prop) (critical : Op → Prop) :
    Discipline (lockSystem Reply Err entry) where
  rely := Mutex.KeepsAway
  rely_refl _ := .refl
  rely_trans := Mutex.KeepsAway.trans
  guarantee := Locked critical
  dormant thread mutex := mutex.sessions thread = .idle
  post _ _ _ := True
  dormant_stable others idle := by
    obtain ⟨session, _⟩ := others (by simp [idle])
    exact session.trans idle
  post_stable _ _ := trivial
  sound different performed _ := LockOp.keepsAway different performed
  drifts drifted := Mutex.Drifts.keepsAway drifted

variable {critical : Op → Prop} {last : Pool (LockOp Op) (LockOp.Reply Reply) Err A Mutex}
  {front middle back : List (Record (LockOp Op) (LockOp.Reply Reply) Err Mutex)}

/-- Between critical operations of two threads the first one has ended its transaction. -/
theorem Run.exclusive
    (entries : ∀ thread program mutex, mutex.sessions thread = .idle → entry thread program →
      (locking entry critical).Safe thread program mutex)
    {first second : Record (LockOp Op) (LockOp.Reply Reply) Err Mutex}
    (run : Run (lockSystem Reply Err entry) (.idle Mutex.free)
      (front ++ first :: (middle ++ second :: back)) last)
    {one other : Op} (firstOp : first.2.op = .inner one) (secondOp : second.2.op = .inner other)
    (firstCritical : critical one) (secondCritical : critical other) (different : first.1 ≠ second.1) :
    ∃ ended ∈ middle, ended.1 = first.1 ∧ ended.2.op.Ends := by
  by_contra none_
  have goesOn : ∀ record ∈ middle, record.1 = first.1 → ¬ record.2.op.Ends :=
    fun record member same ends => none_ ⟨record, member, same, ends⟩
  have guaranteed := (run.guaranteed (locking entry critical) (fun _ => True)
    (fun thread program mutex _ idle allowed => entries thread program mutex idle allowed)
    (fun _ _ _ => trivial)
    (fun _ _ => trivial) trivial fun thread => rfl).1
  have locked : ∀ record : Record (LockOp Op) (LockOp.Reply Reply) Err Mutex,
      Locked critical record.1 record.2.op record.2.before record.2.reply record.2.after →
      ∀ {op}, record.2.op = .inner op → critical op →
        record.2.before.sessions record.1 = .opened ∧ record.2.before.holder = some record.1 := by
    rintro ⟨thread, op, before, reply, after⟩ met inner rfl isCritical
    exact met isCritical
  have firstHeld := locked first (guaranteed first (by simp)).2 firstOp firstCritical
  have secondHeld := locked second (guaranteed second (by simp)).2 secondOp secondCritical
  have unchanged : first.2.after = first.2.before := by
    have performed := run.performed first (by simp)
    revert performed
    obtain ⟨thread, op, before, reply, after⟩ := first
    subst firstOp
    exact id
  obtain ⟨_, reached, _, _, start, rest⟩ := run.split
  obtain ⟨pool, _, until_, ends, _, _⟩ := rest.split
  have kept : pool.world.sessions first.1 = .opened ∧ pool.world.holder = some first.1 := by
    refine (until_.keeps (fun mutex => mutex.sessions first.1 = .opened ∧ mutex.holder = some first.1)
      ?_ ?_ ?_).2
    · exact Mutex.Drifts.holds_on
    · rw [start, unchanged]
      exact firstHeld
    · intro record member held
      exact LockOp.holds_on (until_.performed record member) (goesOn record member) held
  rw [ends, secondHeld.2] at kept
  exact different (Option.some.inj kept.2).symm

/-- A thread of a safe pool that tries the free lock can get it. -/
theorem Mutex.grants {pool : Pool (LockOp Op) (LockOp.Reply Reply) Err A Mutex}
    (safe : (locking entry critical).AllSafe pool) (free : pool.world.holder = none) {waiting : Nat}
    {next : Except Err Bool → Prog (LockOp Op) (LockOp.Reply Reply) Err A}
    (current : pool.threads waiting = some (.ask .tryLock next)) :
    ∃ reached, Reaches (lockSystem Reply Err entry) pool reached ∧
    reached.threads waiting = some (next (.ok true)) ∧
      reached.world.holder = some waiting := by
  have granted :
      (lockSystem Reply Err entry).perform waiting .tryLock pool.world (Except.ok true : Except Err Bool)
      (pool.world.granted waiting) := ⟨.inl free, rfl⟩
  have opened : pool.world.sessions waiting = .opened :=
    (safe.started current pool.world (Mutex.KeepsAway.refl _) (Except.ok true : Except Err Bool) _ granted).1
  refine ⟨pool.resume waiting (next (.ok true)) (pool.world.granted waiting),
    .single ⟨_, .act current granted⟩,
    by simp [Pool.resume], ?_⟩
  simp [Pool.resume, Mutex.granted, opened]

/-- A thread that got the lock has it until it ends its transaction, and then every waiting thread can
get it. -/
theorem Run.reacquired
    (entries : ∀ thread program mutex, mutex.sessions thread = .idle → entry thread program →
      (locking entry critical).Safe thread program mutex)
    {thread : Nat} {before after : Mutex} {closing : Event (LockOp Op) (LockOp.Reply Reply) Err Mutex}
    (run : Run (lockSystem Reply Err entry) (.idle Mutex.free)
      (front ++ (thread, ⟨.tryLock, before, .ok true, after⟩) :: (middle ++ [(thread, closing)])) last)
    (goesOn : ∀ record ∈ middle, record.1 = thread → ¬ record.2.op.Ends) (ends : closing.op.Ends)
    {waiting : Nat}
    {next : Except Err Bool → Prog (LockOp Op) (LockOp.Reply Reply) Err A}
    (current : last.threads waiting = some (.ask .tryLock next)) :
    ∃ reached, Reaches (lockSystem Reply Err entry) last reached ∧
    reached.threads waiting = some (next (.ok true)) ∧
      reached.world.holder = some waiting := by
  obtain ⟨records, _, allSafe⟩ := run.guaranteed (locking entry critical) (fun _ => True)
    (fun thread program mutex _ idle allowed => entries thread program mutex idle allowed)
    (fun _ _ _ => trivial)
    (fun _ _ => trivial) trivial fun thread => rfl
  have opened : before.sessions thread = .opened :=
    (records (thread, ⟨.tryLock, before, (Except.ok true : Except Err Bool), after⟩) (by simp)).2
  obtain ⟨_, rfl⟩ : before.Grants thread ∧ after = before.granted thread :=
    run.performed (thread, ⟨.tryLock, before, (Except.ok true : Except Err Bool), after⟩) (by simp)
  have held :
      (before.granted thread).sessions thread = .opened ∧ (before.granted thread).holder = some thread := by
    simp [Mutex.granted, opened]
  obtain ⟨_, reached, _, _, start, rest⟩ := run.split
  rw [← show reached.world = before.granted thread from start] at held
  obtain ⟨pool, _, until_, reaches, ended, tail⟩ := rest.split
  have kept := (until_.keeps (fun mutex => mutex.sessions thread = .opened ∧ mutex.holder = some thread)
    Mutex.Drifts.holds_on held fun record member =>
      LockOp.holds_on (until_.performed record member) (goesOn record member)).2
  rw [reaches] at kept
  have released := LockOp.releases ends (rest.performed (thread, closing) (by simp)) kept.2
  rw [← ended] at released
  rcases (tail.keeps (Mutex.Released thread) Mutex.Drifts.released released
      (by simp)).2 with free | ⟨holds, left⟩
  · exact Mutex.grants allSafe free current
  · have drifted : last.world.Drifts (last.world.ended thread) := ⟨thread, left, rfl⟩
    obtain ⟨reached, path, resumed, got⟩ :=
      Mutex.grants (allSafe.drift drifted) (by simp [Mutex.ended, holds]) current
    exact ⟨reached, .head ⟨.drift, .drift drifted⟩ path, resumed, got⟩

end Runs

end CeramicAnchor.Concurrency
