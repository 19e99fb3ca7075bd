import CeramicAnchor.Concurrency.RelyGuarantee
import Mathlib.Logic.Function.Basic
import Mathlib.Logic.Relation

namespace CeramicAnchor.Concurrency

universe u

variable {Op : Type u} {Reply : Op → Type} {Err A State : Type}

/-- A pool holds the shared state and the residue of each started program. -/
structure Pool (Op : Type u) (Reply : Op → Type) (Err A State : Type) where
  world : State
  threads : Nat → Option (Prog Op Reply Err A)

/-- An empty pool has started no program. -/
def Pool.idle (world : State) : Pool Op Reply Err A State := ⟨world, fun _ => none⟩

def Pool.resume (pool : Pool Op Reply Err A State) (thread : Nat)
    (program : Prog Op Reply Err A) (world : State) : Pool Op Reply Err A State where
  world := world
  threads := Function.update pool.threads thread (some program)

/-- A system fixes the programs that a thread may run and the meaning of each operation. -/
structure System (Op : Type u) (Reply : Op → Type) (Err A State : Type) where
  entry : Nat → Prog Op Reply Err A → Prop
  perform : Nat → (op : Op) → State → Except Err (Reply op) → State → Prop
  drift : State → State → Prop

/-- A label names the thread, the operation and the reply of one step. -/
inductive Label (Op : Type u) (Reply : Op → Type) (Err : Type) where
  | start (thread : Nat)
  | act (thread : Nat) (op : Op) (reply : Except Err (Reply op))
  | drift

/-- One step starts a program, performs one operation of one thread, or lets the environment move. -/
inductive Step (system : System Op Reply Err A State) :
    Pool Op Reply Err A State → Label Op Reply Err → Pool Op Reply Err A State → Prop where
  | start {pool : Pool Op Reply Err A State} {thread : Nat} {program : Prog Op Reply Err A}
      (free : pool.threads thread = none) (allowed : system.entry thread program) :
      Step system pool (.start thread) (pool.resume thread program pool.world)
  | act {pool : Pool Op Reply Err A State} {thread : Nat} {op : Op}
      {next : Except Err (Reply op) → Prog Op Reply Err A} {reply : Except Err (Reply op)}
      {world : State} (current : pool.threads thread = some (.ask op next))
      (performed : system.perform thread op pool.world reply world) :
      Step system pool (.act thread op reply) (pool.resume thread (next reply) world)
  | drift {pool : Pool Op Reply Err A State} {world : State}
      (moved : system.drift pool.world world) :
      Step system pool .drift { pool with world := world }

/-- Every step of this run meets one condition on the state before it. -/
def ReachesUnder (system : System Op Reply Err A State)
    (condition : State → Label Op Reply Err → Prop) :
    Pool Op Reply Err A State → Pool Op Reply Err A State → Prop :=
  Relation.ReflTransGen fun first second =>
    ∃ label, Step system first label second ∧ condition first.world label

/-- A run is any sequence of steps. A crashed thread is one that the run no longer schedules. -/
def Reaches (system : System Op Reply Err A State) :
    Pool Op Reply Err A State → Pool Op Reply Err A State → Prop :=
  Relation.ReflTransGen fun first second => ∃ label, Step system first label second

theorem Reaches.of_under {system : System Op Reply Err A State}
    {condition : State → Label Op Reply Err → Prop} {first last : Pool Op Reply Err A State}
    (run : ReachesUnder system condition first last) : Reaches system first last :=
  Relation.ReflTransGen.mono (fun _ _ ⟨label, step, _⟩ => ⟨label, step⟩) _ _ run

theorem ReachesUnder.trans {system : System Op Reply Err A State}
    {condition : State → Label Op Reply Err → Prop} {first second third : Pool Op Reply Err A State}
    (run : ReachesUnder system condition first second) (rest : ReachesUnder system condition second third) :
    ReachesUnder system condition first third :=
  Relation.ReflTransGen.trans run rest

/-- A run that goes on by starting a program. -/
theorem ReachesUnder.start {system : System Op Reply Err A State}
    {condition : State → Label Op Reply Err → Prop} {pool last : Pool Op Reply Err A State}
    (thread : Nat) {program : Prog Op Reply Err A} (allowed : system.entry thread program)
    (free : pool.threads thread = none) (met : condition pool.world (.start thread))
    (rest : ReachesUnder system condition (pool.resume thread program pool.world) last) :
    ReachesUnder system condition pool last :=
  .head ⟨.start thread, .start free allowed, met⟩ rest

/-- A run that goes on with one operation of a thread. -/
theorem ReachesUnder.act {system : System Op Reply Err A State}
    {condition : State → Label Op Reply Err → Prop} {pool last : Pool Op Reply Err A State}
    (thread : Nat) (op : Op) (reply : Except Err (Reply op))
    {next : Except Err (Reply op) → Prog Op Reply Err A} {world : State}
    (current : pool.threads thread = some (.ask op next))
    (performed : system.perform thread op pool.world reply world)
    (met : condition pool.world (.act thread op reply))
    (rest : ReachesUnder system condition (pool.resume thread (next reply) world) last) :
    ReachesUnder system condition pool last :=
  .head ⟨.act thread op reply, .act current performed, met⟩ rest

/-- A step changes the world through one operation, through the environment, or not at all. -/
theorem Step.world_cases {system : System Op Reply Err A State}
    {first second : Pool Op Reply Err A State} {label : Label Op Reply Err}
    (step : Step system first label second) :
    (∃ thread op reply, label = .act thread op reply ∧
      system.perform thread op first.world reply second.world) ∨
    (label = .drift ∧ system.drift first.world second.world) ∨
    ((∃ thread, label = .start thread) ∧ second.world = first.world) := by
  cases step with
  | start free allowed => exact .inr (.inr ⟨⟨_, rfl⟩, rfl⟩)
  | act current performed => exact .inl ⟨_, _, _, rfl, performed⟩
  | drift moved => exact .inr (.inl ⟨rfl, moved⟩)

/-- A run starts finitely many threads. -/
theorem Reaches.free_above {system : System Op Reply Err A State} {world : State}
    {last : Pool Op Reply Err A State} (run : Reaches system (.idle world) last) :
    ∃ bound, ∀ thread, bound ≤ thread → last.threads thread = none := by
  induction run with
  | refl => exact ⟨0, fun _ _ => rfl⟩
  | tail _ step ih =>
      obtain ⟨bound, free⟩ := ih
      obtain ⟨label, step⟩ := step
      cases step with
      | @start actor program _ _ =>
          refine ⟨max bound (actor + 1), fun thread above => ?_⟩
          have different : thread ≠ actor := by omega
          simp only [Pool.resume, Function.update_of_ne different]
          exact free thread (by omega)
      | @act actor op next reply world _ _ =>
          refine ⟨max bound (actor + 1), fun thread above => ?_⟩
          have different : thread ≠ actor := by omega
          simp only [Pool.resume, Function.update_of_ne different]
          exact free thread (by omega)
      | drift _ => exact ⟨bound, free⟩

section Invariants

variable {system : System Op Reply Err A State}

/-- A preorder that contains every permitted step relates the two ends of a run. -/
theorem ReachesUnder.world_rel {condition : State → Label Op Reply Err → Prop}
    (relation : State → State → Prop) (refl : ∀ world, relation world world)
    (trans : ∀ {first second third}, relation first second → relation second third →
      relation first third)
    (performs : ∀ {thread op before reply after}, condition before (.act thread op reply) →
      system.perform thread op before reply after → relation before after)
    (drifts : ∀ {before after}, system.drift before after → relation before after)
    {first last : Pool Op Reply Err A State} (run : ReachesUnder system condition first last) :
    relation first.world last.world := by
  induction run with
  | refl => exact refl first.world
  | tail _ step ih =>
      obtain ⟨label, step, allowed⟩ := step
      refine trans ih ?_
      rcases step.world_cases with ⟨thread, op, reply, rfl, performed⟩ | ⟨_, moved⟩ | ⟨_, same⟩
      · exact performs allowed performed
      · exact drifts moved
      · rw [same]
        exact refl _

theorem Reaches.under {first last : Pool Op Reply Err A State} (run : Reaches system first last) :
    ReachesUnder system (fun _ _ => True) first last :=
  Relation.ReflTransGen.mono (fun _ _ ⟨label, step⟩ => ⟨label, step, trivial⟩) _ _ run

theorem Reaches.world_rel (relation : State → State → Prop) (refl : ∀ world, relation world world)
    (trans : ∀ {first second third}, relation first second → relation second third →
      relation first third)
    (performs : ∀ {thread op before reply after},
      system.perform thread op before reply after → relation before after)
    (drifts : ∀ {before after}, system.drift before after → relation before after)
    {first last : Pool Op Reply Err A State} (run : Reaches system first last) :
    relation first.world last.world :=
  run.under.world_rel relation refl trans (fun _ => performs) drifts

end Invariants

/-- The restricted system performs an operation only in a state that meets the condition. -/
def System.restrict (system : System Op Reply Err A State)
    (condition : State → Label Op Reply Err → Prop) : System Op Reply Err A State where
  entry := system.entry
  perform thread op before reply after :=
    system.perform thread op before reply after ∧ condition before (.act thread op reply)
  drift := system.drift

theorem ReachesUnder.restrict {system : System Op Reply Err A State}
    {condition : State → Label Op Reply Err → Prop} {first last : Pool Op Reply Err A State}
    (run : ReachesUnder system condition first last) : Reaches (system.restrict condition) first last := by
  induction run with
  | refl => exact .refl
  | tail _ step ih =>
      obtain ⟨label, step, met⟩ := step
      refine ih.tail ⟨label, ?_⟩
      cases step with
      | start free allowed => exact .start free allowed
      | act current performed => exact .act current ⟨performed, met⟩
      | drift moved => exact .drift moved

/-- Programs confined to some operations never take a step with another operation. -/
theorem Reaches.confine {system : System Op Reply Err A State} {inside : Op → Prop}
    (entries : ∀ thread program, system.entry thread program → program.Confined inside)
    {first last : Pool Op Reply Err A State} (run : Reaches system first last)
    (initially : ∀ thread program, first.threads thread = some program → program.Confined inside) :
    Reaches (system.restrict fun _ label => ∀ thread op reply, label = .act thread op reply → inside op)
      first last ∧
      ∀ thread program, last.threads thread = some program → program.Confined inside := by
  induction run with
  | refl => exact ⟨.refl, initially⟩
  | tail _ step ih =>
      obtain ⟨label, step⟩ := step
      obtain ⟨reached, confined⟩ := ih
      cases step with
      | start free allowed =>
          refine ⟨reached.tail ⟨_, .start free allowed⟩, fun thread program current => ?_⟩
          simp only [Pool.resume, Function.update_apply] at current
          split at current
          · obtain rfl := Option.some.inj current
            exact entries _ _ allowed
          · exact confined thread program current
      | @act actor op next reply world current performed =>
          obtain ⟨member, rest⟩ := confined actor _ current
          refine ⟨reached.tail ⟨_, .act current ⟨performed, ?_⟩⟩, fun thread program running => ?_⟩
          · rintro thread op' reply' same
            cases same
            exact member
          · simp only [Pool.resume, Function.update_apply] at running
            split at running
            · obtain rfl := Option.some.inj running
              exact rest reply
            · exact confined thread program running
      | drift moved => exact ⟨reached.tail ⟨_, .drift moved⟩, confined⟩

section ThreadLocal

/-- Each thread relies on a relation of its own and guarantees what the other threads rely on. -/
structure Discipline (system : System Op Reply Err A State) where
  rely : Nat → State → State → Prop
  rely_refl : ∀ thread world, rely thread world world
  rely_trans : ∀ {thread first second third}, rely thread first second →
    rely thread second third → rely thread first third
  guarantee : Nat → Guarantee Op Reply Err State
  dormant : Nat → State → Prop
  post : Nat → A → State → Prop
  dormant_stable : ∀ {thread first second}, rely thread first second → dormant thread first →
    dormant thread second
  post_stable : ∀ {thread value first second}, rely thread first second → post thread value first →
    post thread value second
  sound : ∀ {thread other op before reply after}, thread ≠ other →
    system.perform other op before reply after → guarantee other op before reply after →
    rely thread before after
  drifts : ∀ {thread before after}, system.drift before after → rely thread before after

variable {system : System Op Reply Err A State}

/-- This is the setting that one thread of the pool sees. -/
def Discipline.setting (discipline : Discipline system) (thread : Nat) :
    Setting Op Reply Err State where
  perform := system.perform thread
  rely := discipline.rely thread
  rely_refl := discipline.rely_refl thread
  rely_trans := discipline.rely_trans

/-- The thread meets its guarantee from this state on, and its result meets the condition. -/
def Discipline.Safe (discipline : Discipline system) (thread : Nat)
    (program : Prog Op Reply Err A) (world : State) : Prop :=
  Sat (discipline.setting thread) (discipline.guarantee thread) (discipline.post thread)
    (fun _ _ => True) program world

theorem Discipline.safe_stable (discipline : Discipline system) {thread : Nat}
    {program : Prog Op Reply Err A} {first second : State}
    (safe : discipline.Safe thread program first) (others : discipline.rely thread first second) :
    discipline.Safe thread program second :=
  sat_stable (fun _ _ _ moved => discipline.post_stable moved) (fun _ _ _ _ _ => trivial) safe others

/-- Every started thread is safe in the current world, and the others are dormant. -/
def Discipline.AllSafe (discipline : Discipline system) (pool : Pool Op Reply Err A State) : Prop :=
  ∀ thread, match pool.threads thread with
    | some program => discipline.Safe thread program pool.world
    | none => discipline.dormant thread pool.world

theorem Discipline.AllSafe.started {discipline : Discipline system}
    {pool : Pool Op Reply Err A State} (safe : discipline.AllSafe pool) {thread : Nat}
    {program : Prog Op Reply Err A} (current : pool.threads thread = some program) :
    discipline.Safe thread program pool.world := by
  have here := safe thread
  rwa [current] at here

theorem Discipline.AllSafe.unstarted {discipline : Discipline system}
    {pool : Pool Op Reply Err A State} (safe : discipline.AllSafe pool) {thread : Nat}
    (free : pool.threads thread = none) : discipline.dormant thread pool.world := by
  have here := safe thread
  rwa [free] at here

/-- A safe pool stays safe when one thread moves on and the others rely on the move. -/
theorem Discipline.AllSafe.resume {discipline : Discipline system}
    {pool : Pool Op Reply Err A State} (safe : discipline.AllSafe pool) {actor : Nat}
    {program : Prog Op Reply Err A} {world : State}
    (moved : ∀ thread, thread ≠ actor → discipline.rely thread pool.world world)
    (current : discipline.Safe actor program world) :
    discipline.AllSafe (pool.resume actor program world) := by
  intro thread
  by_cases same : thread = actor
  · subst same
    simpa [Pool.resume] using current
  · have here := safe thread
    simp only [Pool.resume, Function.update_of_ne same]
    cases running : pool.threads thread with
    | none =>
        rw [running] at here
        exact discipline.dormant_stable (moved thread same) here
    | some program =>
        rw [running] at here
        exact discipline.safe_stable here (moved thread same)

/-- A safe pool stays safe when the environment moves. -/
theorem Discipline.AllSafe.drift {discipline : Discipline system} {pool : Pool Op Reply Err A State}
    (safe : discipline.AllSafe pool) {world : State} (moved : system.drift pool.world world) :
    discipline.AllSafe { pool with world := world } := by
  intro thread
  have here := safe thread
  cases running : pool.threads thread with
  | none =>
      rw [running] at here
      simpa [running] using discipline.dormant_stable (discipline.drifts moved) here
  | some program =>
      rw [running] at here
      simpa [running] using discipline.safe_stable here (discipline.drifts moved)

/-- An invariant that the guarantees keep holds in every run of safe programs. -/
theorem Discipline.invariant (discipline : Discipline system) (holds : State → Prop)
    (entries : ∀ thread program world, holds world → discipline.dormant thread world →
      system.entry thread program → discipline.Safe thread program world)
    (performs : ∀ {thread op before reply after}, holds before →
      system.perform thread op before reply after →
      discipline.guarantee thread op before reply after → holds after)
    (drifts : ∀ {before after}, holds before → system.drift before after → holds after)
    {first last : Pool Op Reply Err A State} (run : Reaches system first last)
    (initially : holds first.world) (safe : discipline.AllSafe first) :
    holds last.world ∧ discipline.AllSafe last := by
  induction run with
  | refl => exact ⟨initially, safe⟩
  | @tail pool _ _ step ih =>
      obtain ⟨label, step⟩ := step
      obtain ⟨held, allSafe⟩ := ih
      cases step with
      | start free allowed =>
          exact ⟨held, allSafe.resume (fun thread _ => discipline.rely_refl thread _)
            (entries _ _ _ held (allSafe.unstarted free) allowed)⟩
      | @act actor op next reply world current performed =>
          obtain ⟨meets, rest⟩ :=
            allSafe.started current _ (discipline.rely_refl actor _) reply world performed
          exact ⟨performs held performed meets, allSafe.resume
            (fun thread different => discipline.sound different performed meets) rest⟩
      | @drift world moved => exact ⟨drifts held moved, allSafe.drift moved⟩

end ThreadLocal

end CeramicAnchor.Concurrency
