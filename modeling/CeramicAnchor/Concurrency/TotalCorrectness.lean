import CeramicAnchor.Concurrency.Pool

/-
This file gives rules for programs that come to a value as long as no operation is rejected.
-/

namespace CeramicAnchor.Concurrency

universe u v

variable {Op : Type u} {Reply : Op → Type} {Err A B : Type} {State : Type v}

/-- Each operation can be performed, and whatever is replied, the program comes to a value that meets the
condition. -/
def Ensures (setting : Setting Op Reply Err State) (post : A → State → Prop) :
    Prog Op Reply Err A → State → Prop
  | .done value, state => post value state
  | .fail _, _ => False
  | .halted, _ => False
  | .ask op next, state => ∀ before, setting.rely state before →
      (∃ value after, setting.perform op before (.ok value) after) ∧
      ∀ value after, setting.perform op before (.ok value) after →
        Ensures setting post (next (.ok value)) after

/-- Without a rejection the program comes to a value. -/
def Prog.Resolute : Prog Op Reply Err A → Prop
  | .done _ => True
  | .fail _ => False
  | .halted => False
  | .ask _ next => ∀ value, (next (.ok value)).Resolute

namespace Prog

theorem resolute_call (op : Op) : (call op : Prog Op Reply Err (Reply op)).Resolute := fun _ => trivial

theorem resolute_bind {program : Prog Op Reply Err A} {continue_ : A → Prog Op Reply Err B}
    (head : program.Resolute) (tail : ∀ value, (continue_ value).Resolute) :
    (program >>= continue_).Resolute := by
  induction program with
  | done value => exact tail value
  | fail error => exact head.elim
  | halted => exact head.elim
  | ask op next ih => exact fun value => ih (.ok value) (head value)

theorem resolute_handle {program : Prog Op Reply Err A} {handler : Err → Prog Op Reply Err A}
    (body : program.Resolute) : (tryCatch program handler).Resolute := by
  induction program with
  | done value => trivial
  | fail error => exact body.elim
  | halted => exact body.elim
  | ask op next ih => exact fun value => ih (.ok value) (body value)

theorem resolute_attempt {program : Prog Op Reply Err A} (body : program.Resolute) :
    program.attempt.Resolute :=
  resolute_handle (resolute_bind body fun _ => trivial)

/-- Until an operation is rejected, the program performs only these operations, and it does not fail. -/
def Calm (inside : Op → Prop) : Prog Op Reply Err A → Prop
  | .done _ => True
  | .fail _ => False
  | .halted => True
  | .ask op next => inside op ∧ ∀ value, (next (.ok value)).Calm inside

theorem calm_call {inside : Op → Prop} (op : Op) (member : inside op) :
    (call op : Prog Op Reply Err (Reply op)).Calm inside := ⟨member, fun _ => trivial⟩

theorem calm_bind {inside : Op → Prop} {program : Prog Op Reply Err A}
    {continue_ : A → Prog Op Reply Err B} (head : program.Calm inside)
    (tail : ∀ value, (continue_ value).Calm inside) : (program >>= continue_).Calm inside := by
  induction program with
  | done value => exact tail value
  | fail error => exact head.elim
  | halted => trivial
  | ask op next ih => exact ⟨head.1, fun value => ih (.ok value) (head.2 value)⟩

theorem calm_handle {inside : Op → Prop} {program : Prog Op Reply Err A}
    {handler : Err → Prog Op Reply Err A} (body : program.Calm inside) :
    (tryCatch program handler).Calm inside := by
  induction program with
  | done value => trivial
  | fail error => exact body.elim
  | halted => trivial
  | ask op next ih => exact ⟨body.1, fun value => ih (.ok value) (body.2 value)⟩

/-- A calm program performs such an operation after operations that were not rejected. -/
theorem path_calm {setting : Setting Op Reply Err State} {inside : Op → Prop}
    {program residue : Prog Op Reply Err A} {start last : State}
    {front back : List (Event Op Reply Err State)} {event : Event Op Reply Err State}
    (path : Path setting program start (front ++ event :: back) residue last) (calm : program.Calm inside)
    (resolved : ∀ earlier ∈ front, ∃ value, earlier.reply = .ok value) : inside event.op := by
  induction front generalizing program start with
  | nil =>
      cases path with
      | perform others performed rest => exact calm.1
  | cons first front ih =>
      cases path with
      | @perform _ _ reply _ _ _ _ _ _ others performed rest =>
          obtain ⟨value, rfl⟩ : ∃ value, reply = .ok value := resolved _ List.mem_cons_self
          exact ih rest (calm.2 value) fun earlier member => resolved earlier (List.mem_cons_of_mem _ member)

end Prog

section Rules

variable {setting : Setting Op Reply Err State} {post : A → State → Prop} {state : State}

theorem ensures_call (op : Op) {post : Reply op → State → Prop}
    (ready : ∀ before, setting.rely state before → ∃ value after, setting.perform op before (.ok value) after)
    (resolves : ∀ before, setting.rely state before → ∀ value after,
      setting.perform op before (.ok value) after → post value after) :
    Ensures setting post (Prog.call op) state :=
  fun before others => ⟨ready before others, resolves before others⟩

theorem ensures_bind {program : Prog Op Reply Err A} {continue_ : A → Prog Op Reply Err B}
    {post : B → State → Prop} (middle : A → State → Prop) (head : Ensures setting middle program state)
    (tail : ∀ value reached, middle value reached → Ensures setting post (continue_ value) reached) :
    Ensures setting post (program >>= continue_) state := by
  induction program generalizing state with
  | done value => exact tail value state head
  | fail error => exact head.elim
  | halted => exact head.elim
  | ask op next ih =>
      intro before others
      obtain ⟨ready, rest⟩ := head before others
      exact ⟨ready, fun value after performed => ih (.ok value) (rest value after performed)⟩

/-- The handler is never entered. -/
theorem ensures_handle {program : Prog Op Reply Err A} {handler : Err → Prog Op Reply Err A}
    (body : Ensures setting post program state) : Ensures setting post (tryCatch program handler) state := by
  induction program generalizing state with
  | done value => exact body
  | fail error => exact body.elim
  | halted => exact body.elim
  | ask op next ih =>
      intro before others
      obtain ⟨ready, rest⟩ := body before others
      exact ⟨ready, fun value after performed => ih (.ok value) (rest value after performed)⟩

theorem ensures_mono {program : Prog Op Reply Err A} {post' : A → State → Prop}
    (body : Ensures setting post program state)
    (returned : ∀ value reached, post value reached → post' value reached) :
    Ensures setting post' program state := by
  induction program generalizing state with
  | done value => exact returned value state body
  | fail error => exact body.elim
  | halted => exact body.elim
  | ask op next ih =>
      intro before others
      obtain ⟨ready, rest⟩ := body before others
      exact ⟨ready, fun value after performed => ih (.ok value) (rest value after performed)⟩

/-- The others cannot keep a program from a condition that they keep. -/
theorem ensures_stable {program : Prog Op Reply Err A} {later : State}
    (stable : ∀ value {first second}, setting.rely first second → post value first → post value second)
    (body : Ensures setting post program state) (others : setting.rely state later) :
    Ensures setting post program later := by
  cases program with
  | done value => exact stable value others body
  | fail error => exact body.elim
  | halted => exact body.elim
  | ask op next => exact fun before further => body before (setting.rely_trans others further)

/-- What a program returns in any state can be used beside its condition. -/
theorem ensures_returns {program : Prog Op Reply Err A} {meets : A → Prop}
    (body : Ensures setting post program state) (returns : program.Returns meets) :
    Ensures setting (fun value reached => post value reached ∧ meets value) program state := by
  induction program generalizing state with
  | done value => exact ⟨body, returns⟩
  | fail error => exact body.elim
  | halted => exact body.elim
  | ask op next ih =>
      intro before others
      obtain ⟨ready, rest⟩ := body before others
      exact ⟨ready, fun value after performed => ih (.ok value) (rest value after performed)
        (returns (.ok value))⟩

/-- A resolute program of operations that keep a stable condition keeps it. -/
theorem ensures_keeps {inside : Op → Prop} (holds : State → Prop) {program : Prog Op Reply Err A}
    (confined : program.Confined inside) (resolute : program.Resolute)
    (stable : ∀ {first second}, setting.rely first second → holds first → holds second)
    (ready : ∀ op, inside op → ∀ before, holds before → ∃ value after,
      setting.perform op before (.ok value) after)
    (keeps : ∀ op, inside op → ∀ before value after, setting.perform op before (.ok value) after →
      holds before → holds after)
    (held : holds state) : Ensures setting (fun _ => holds) program state := by
  induction program generalizing state with
  | done value => exact held
  | fail error => exact resolute.elim
  | halted => exact resolute.elim
  | ask op next ih =>
      intro before others
      have now := stable others held
      refine ⟨ready op confined.1 before now, fun value after performed => ?_⟩
      exact ih (.ok value) (confined.2 (.ok value)) (resolute value)
        (keeps op confined.1 before value after performed now)

/-- Some path leads to a value. -/
theorem ensures_path {program : Prog Op Reply Err A} (body : Ensures setting post program state) :
    ∃ trace value last, Path setting program state trace (.done value) last ∧ post value last := by
  induction program generalizing state with
  | done value => exact ⟨[], value, state, .stop _ _, body⟩
  | fail error => exact body.elim
  | halted => exact body.elim
  | ask op next ih =>
      obtain ⟨⟨value, after, performed⟩, rest⟩ := body state (setting.rely_refl state)
      obtain ⟨trace, result, last, path, met⟩ := ih (.ok value) (rest value after performed)
      exact ⟨_, result, last, .reply setting op (.ok value) performed path, met⟩

end Rules

section Runs

variable {State : Type} {system : System Op Reply Err A State} {thread : Nat}
  {post : A → State → Prop} {program : Prog Op Reply Err A} {pool last : Pool Op Reply Err A State}

/-- One thread performs an operation that is not rejected, or the environment moves. -/
def Label.Solo (thread : Nat) : Label Op Reply Err → Prop
  | .start _ => False
  | .act actor _ reply => actor = thread ∧ ∃ value, reply = .ok value
  | .drift => True

/-- One thread goes on alone, and none of its operations is rejected. -/
def Solo (system : System Op Reply Err A State) (thread : Nat) :
    Pool Op Reply Err A State → Pool Op Reply Err A State → Prop :=
  ReachesUnder system fun _ label => label.Solo thread

/-- Only the environment moves between two operations of the thread. -/
def System.solo (system : System Op Reply Err A State) (thread : Nat) : Setting Op Reply Err State where
  perform := system.perform thread
  rely := Relation.ReflTransGen system.drift
  rely_refl _ := .refl
  rely_trans := .trans

/-- The thread still comes to its value. -/
theorem Solo.ensures (run : Solo system thread pool last)
    (stable : ∀ value {first second}, system.drift first second → post value first → post value second)
    (running : pool.threads thread = some program)
    (body : Ensures (system.solo thread) post program pool.world) :
    ∃ residue, last.threads thread = some residue ∧ Ensures (system.solo thread) post residue last.world := by
  have keeps : ∀ value {first second}, (system.solo thread).rely first second → post value first →
      post value second := by
    intro value first second others held
    induction others with
    | refl => exact held
    | tail _ moved ih => exact stable value moved ih
  induction run with
  | refl => exact ⟨program, running, body⟩
  | tail _ step ih =>
      obtain ⟨residue, current, rest⟩ := ih
      obtain ⟨label, step, alone⟩ := step
      cases step with
      | start free allowed => exact alone.elim
      | @act actor op next reply world other performed =>
          obtain ⟨rfl, value, rfl⟩ := alone
          obtain rfl := Option.some.inj (current.symm.trans other)
          refine ⟨next (.ok value), Function.update_self _ _ _, ?_⟩
          exact (rest _ .refl).2 value world performed
      | drift moved => exact ⟨residue, current, ensures_stable keeps rest (.single moved)⟩

/-- The thread can go on to its value. -/
theorem Solo.completes (running : pool.threads thread = some program)
    (body : Ensures (system.solo thread) post program pool.world) :
    ∃ last value, Solo system thread pool last ∧ last.threads thread = some (.done value) ∧
      post value last.world := by
  induction program generalizing pool with
  | done value => exact ⟨pool, value, .refl, running, body⟩
  | fail error => exact body.elim
  | halted => exact body.elim
  | ask op next ih =>
      obtain ⟨⟨value, after, performed⟩, rest⟩ := body pool.world .refl
      have resumed : (pool.resume thread (next (.ok value)) after).threads thread = some (next (.ok value)) :=
        Function.update_self _ _ _
      obtain ⟨last, result, run, returned, met⟩ := ih (.ok value) resumed (rest value after performed)
      exact ⟨last, result, .act thread op (.ok value) running performed ⟨rfl, value, rfl⟩ run, returned, met⟩

/-- Fresh threads run one program one after another, each alone and without a rejection. -/
inductive Rounds (system : System Op Reply Err A State) (program : Prog Op Reply Err A) :
    Nat → Pool Op Reply Err A State → Pool Op Reply Err A State → Prop where
  | rest (pool : Pool Op Reply Err A State) : Rounds system program 0 pool pool
  | round {count : Nat} {first pool last : Pool Op Reply Err A State} {thread : Nat} {value : A}
      (earlier : Rounds system program count first pool) (free : pool.threads thread = none)
      (run : Solo system thread (pool.resume thread program pool.world) last)
      (returned : last.threads thread = some (.done value)) : Rounds system program (count + 1) first last

namespace Rounds

variable {first : Pool Op Reply Err A State} {count : Nat}

theorem reaches (allowed : ∀ thread, system.entry thread program)
    (rounds : Rounds system program count first last) : Reaches system first last := by
  induction rounds with
  | rest pool => exact .refl
  | round earlier free run returned ih =>
      exact (ih.tail ⟨_, .start free (allowed _)⟩).trans (Reaches.of_under run)

/-- A round lowers the measure until it is zero. -/
structure Lowers (system : System Op Reply Err A State) (program : Prog Op Reply Err A)
    (holds : State → Prop) (measure : State → Nat) : Prop where
  round : ∀ thread state, holds state → Ensures (system.solo thread)
    (fun _ after => holds after ∧ measure after ≤ measure state - 1) program state
  drifts : ∀ {first second}, system.drift first second → holds first →
    holds second ∧ measure second = measure first

variable {holds : State → Prop} {measure : State → Nat}

theorem Lowers.stable (lowers : Lowers system program holds measure) (bound : Nat) (_ : A)
    {first second : State} (moved : system.drift first second)
    (held : holds first ∧ measure first ≤ bound) : holds second ∧ measure second ≤ bound := by
  obtain ⟨kept, same⟩ := lowers.drifts moved held.1
  exact ⟨kept, same ▸ held.2⟩

theorem settles (lowers : Lowers system program holds measure)
    (rounds : Rounds system program count first last) (held : holds first.world) :
    holds last.world ∧ measure last.world ≤ measure first.world - count := by
  induction rounds with
  | rest pool => exact ⟨held, Nat.le_refl _⟩
  | @round count first pool last thread value earlier free run returned ih =>
      obtain ⟨kept, bound⟩ := ih held
      obtain ⟨residue, current, met⟩ := run.ensures (lowers.stable _) (Function.update_self _ _ _)
        (lowers.round thread pool.world kept)
      obtain rfl := Option.some.inj (returned.symm.trans current)
      exact ⟨met.1, by have := met.2; omega⟩

/-- A round that has begun can be completed. -/
theorem goes_on (lowers : Lowers system program holds measure)
    (rounds : Rounds system program count first pool) (held : holds first.world)
    (run : Solo system thread (pool.resume thread program pool.world) last) :
    ∃ final value, Solo system thread last final ∧ final.threads thread = some (.done value) := by
  obtain ⟨residue, current, body⟩ := run.ensures (lowers.stable _) (Function.update_self _ _ _)
    (lowers.round thread pool.world (rounds.settles lowers held).1)
  obtain ⟨final, value, rest, returned, _⟩ := Solo.completes current body
  exact ⟨final, value, rest, returned⟩

end Rounds

end Runs

end CeramicAnchor.Concurrency
