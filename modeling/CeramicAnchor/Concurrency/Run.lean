import CeramicAnchor.Concurrency.Pool

namespace CeramicAnchor.Concurrency

universe u

variable {Op : Type u} {Reply : Op → Type} {Err A State : Type}

/-- A record names the thread of an event. -/
abbrev Record (Op : Type u) (Reply : Op → Type) (Err State : Type) := Nat × Event Op Reply Err State

/-- A recorded run lists the performed operations of all threads, oldest first. -/
inductive Run (system : System Op Reply Err A State) :
    Pool Op Reply Err A State → List (Record Op Reply Err State) → Pool Op Reply Err A State → Prop where
  | refl (pool : Pool Op Reply Err A State) : Run system pool [] pool
  | start {first pool : Pool Op Reply Err A State} {trace : List (Record Op Reply Err State)} {thread : Nat}
      {program : Prog Op Reply Err A} (earlier : Run system first trace pool)
      (free : pool.threads thread = none) (allowed : system.entry thread program) :
      Run system first trace (pool.resume thread program pool.world)
  | act {first pool : Pool Op Reply Err A State} {trace : List (Record Op Reply Err State)} {thread : Nat}
      {op : Op} {next : Except Err (Reply op) → Prog Op Reply Err A} {reply : Except Err (Reply op)}
      {world : State} (earlier : Run system first trace pool)
      (current : pool.threads thread = some (.ask op next))
      (performed : system.perform thread op pool.world reply world) :
      Run system first (trace ++ [(thread, ⟨op, pool.world, reply, world⟩)])
        (pool.resume thread (next reply) world)
  | drift {first pool : Pool Op Reply Err A State} {trace : List (Record Op Reply Err State)} {world : State}
      (earlier : Run system first trace pool) (moved : system.drift pool.world world) :
      Run system first trace { pool with world := world }

/-- These are the events of one thread. -/
def eventsOf (thread : Nat) (trace : List (Record Op Reply Err State)) : List (Event Op Reply Err State) :=
  (trace.filter fun record => record.1 = thread).map Prod.snd

@[simp] theorem eventsOf_append (thread : Nat) (front back : List (Record Op Reply Err State)) :
    eventsOf thread (front ++ back) = eventsOf thread front ++ eventsOf thread back := by
  simp [eventsOf]

@[simp] theorem eventsOf_same (thread : Nat) (event : Event Op Reply Err State) :
    eventsOf thread [(thread, event)] = [event] := by
  simp [eventsOf]

theorem eventsOf_other {thread other : Nat} (different : other ≠ thread) (event : Event Op Reply Err State) :
    eventsOf thread [(other, event)] = [] := by
  simp [eventsOf, different]

@[simp] theorem eventsOf_map (thread : Nat) (events : List (Event Op Reply Err State)) :
    eventsOf thread (events.map fun event => (thread, event)) = events := by
  induction events with
  | nil => rfl
  | cons event events ih => simpa [eventsOf] using ih

theorem eventsOf_map_other {thread other : Nat} (different : other ≠ thread)
    (events : List (Event Op Reply Err State)) :
    eventsOf thread (events.map fun event => (other, event)) = [] := by
  simp [eventsOf, different]

theorem eventsOf_split (front back : List (Record Op Reply Err State)) (record : Record Op Reply Err State) :
    eventsOf record.1 (front ++ record :: back) =
      eventsOf record.1 front ++ record.2 :: eventsOf record.1 back := by
  rw [eventsOf_append, ← List.singleton_append, eventsOf_append, eventsOf_same]
  rfl

theorem mem_eventsOf {thread : Nat} {trace : List (Record Op Reply Err State)}
    {event : Event Op Reply Err State} : event ∈ eventsOf thread trace ↔ (thread, event) ∈ trace := by
  simp [eventsOf]

/-- A cut of the events of one thread is a cut of the trace. -/
theorem eventsOf_cut {thread : Nat} {trace : List (Record Op Reply Err State)}
    {front back : List (Event Op Reply Err State)} {event : Event Op Reply Err State}
    (split : eventsOf thread trace = front ++ event :: back) :
    ∃ before after, trace = before ++ (thread, event) :: after ∧ eventsOf thread before = front ∧
      eventsOf thread after = back := by
  induction trace generalizing front with
  | nil => simp [eventsOf] at split
  | cons record trace ih =>
      obtain ⟨actor, other⟩ := record
      rw [← List.singleton_append, eventsOf_append] at split
      by_cases same : actor = thread
      · subst same
        rw [eventsOf_same] at split
        cases front with
        | nil =>
            obtain ⟨rfl, rest⟩ := List.cons.inj split
            exact ⟨[], trace, rfl, rfl, rest⟩
        | cons first front =>
            obtain ⟨rfl, rest⟩ := List.cons.inj split
            obtain ⟨before, after, rfl, early, late⟩ := ih rest
            refine ⟨(actor, other) :: before, after, rfl, ?_, late⟩
            rw [← List.singleton_append, eventsOf_append, eventsOf_same, early]
            rfl
      · rw [eventsOf_other same, List.nil_append] at split
        obtain ⟨before, after, rfl, early, late⟩ := ih split
        refine ⟨(actor, other) :: before, after, rfl, ?_, late⟩
        rw [← List.singleton_append, eventsOf_append, eventsOf_other same, early]
        rfl

/-- Nothing is known about the moves of the others between two operations of one thread. -/
def System.exposed (system : System Op Reply Err A State) (thread : Nat) : Setting Op Reply Err State where
  perform := system.perform thread
  rely _ _ := True
  rely_refl _ := trivial
  rely_trans _ _ := trivial

/-- Nobody moves between two operations of one thread. -/
def System.undisturbed (system : System Op Reply Err A State) (thread : Nat) :
    Setting Op Reply Err State where
  perform := system.perform thread
  rely := Eq
  rely_refl _ := rfl
  rely_trans := Eq.trans

/-- A path goes on with one more operation. -/
theorem Path.snoc {setting : Setting Op Reply Err State} {program : Prog Op Reply Err A}
    {start before middle after : State} {trace : List (Event Op Reply Err State)} {op : Op}
    {next : Except Err (Reply op) → Prog Op Reply Err A} {reply : Except Err (Reply op)}
    (path : Path setting program start trace (.ask op next) middle) (others : setting.rely middle before)
    (performed : setting.perform op before reply after) :
    Path setting program start (trace ++ [⟨op, before, reply, after⟩]) (next reply) after := by
  generalize ending : Prog.ask op next = residue at path
  induction path with
  | stop program state =>
      subst ending
      exact .perform others performed (.stop _ _)
  | perform moved done _ ih => exact .perform moved done (ih others ending)

/-- Each event of a path belongs to an operation that the program is confined to. -/
theorem Path.confined {setting : Setting Op Reply Err State} {inside : Op → Prop}
    {program residue : Prog Op Reply Err A} {start last : State} {trace : List (Event Op Reply Err State)}
    (path : Path setting program start trace residue last) (confined : program.Confined inside) :
    ∀ event ∈ trace, inside event.op := by
  induction path with
  | stop program state => simp
  | perform others performed _ ih =>
      intro event member
      rcases List.mem_cons.mp member with rfl | member
      · exact confined.1
      · exact ih (confined.2 _) event member

namespace Run

variable {system : System Op Reply Err A State} {first middle last : Pool Op Reply Err A State}
  {trace front back : List (Record Op Reply Err State)}

theorem trans (earlier : Run system first front middle) (later : Run system middle back last) :
    Run system first (front ++ back) last := by
  induction later with
  | refl =>
      rw [List.append_nil]
      exact earlier
  | start _ free allowed ih => exact .start ih free allowed
  | act _ current performed ih =>
      rw [← List.append_assoc]
      exact .act ih current performed
  | drift _ moved ih => exact .drift ih moved

theorem reaches (run : Run system first trace last) : Reaches system first last := by
  induction run with
  | refl => exact .refl
  | start _ free allowed ih => exact ih.tail ⟨_, .start free allowed⟩
  | act _ current performed ih => exact ih.tail ⟨_, .act current performed⟩
  | drift _ moved ih => exact ih.tail ⟨_, .drift moved⟩

/-- Every run can be recorded. -/
theorem of_reaches (run : Reaches system first last) : ∃ trace, Run system first trace last := by
  induction run with
  | refl => exact ⟨[], .refl first⟩
  | tail _ step ih =>
      obtain ⟨trace, earlier⟩ := ih
      obtain ⟨label, step⟩ := step
      cases step with
      | start free allowed => exact ⟨_, .start earlier free allowed⟩
      | act current performed => exact ⟨_, .act earlier current performed⟩
      | drift moved => exact ⟨_, .drift earlier moved⟩

/-- A run that goes on by starting a program. -/
theorem starts {pool : Pool Op Reply Err A State} (thread : Nat) {program : Prog Op Reply Err A}
    (allowed : system.entry thread program) (free : pool.threads thread = none)
    (rest : Run system (pool.resume thread program pool.world) trace last) : Run system pool trace last :=
  trans (.start (.refl _) free allowed) rest

/-- A run that goes on with one operation of a thread. -/
theorem acts {pool : Pool Op Reply Err A State} (thread : Nat) (op : Op) (reply : Except Err (Reply op))
    {next : Except Err (Reply op) → Prog Op Reply Err A} {world : State}
    (current : pool.threads thread = some (.ask op next))
    (performed : system.perform thread op pool.world reply world)
    (rest : Run system (pool.resume thread (next reply) world) trace last) :
    Run system pool ((thread, ⟨op, pool.world, reply, world⟩) :: trace) last :=
  trans (.act (.refl _) current performed) rest

/-- A thread that starts in the run follows a path of its program through its own events. -/
theorem path (run : Run system first trace last) {thread : Nat} (free : first.threads thread = none) :
    match last.threads thread with
    | none => eventsOf thread trace = []
    | some residue => ∃ program start ended, system.entry thread program ∧
        Path (system.exposed thread) program start (eventsOf thread trace) residue ended := by
  induction run with
  | refl =>
      rw [free]
      rfl
  | @start pool trace actor program _ unstarted allowed ih =>
      by_cases same : thread = actor
      · subst same
        rw [unstarted] at ih
        simp only [Pool.resume, Function.update_self]
        rw [ih]
        exact ⟨program, pool.world, pool.world, allowed, .stop _ _⟩
      · simpa [Pool.resume, Function.update_of_ne same] using ih
  | @act pool trace actor op next reply world _ current performed ih =>
      by_cases same : thread = actor
      · subst same
        rw [current] at ih
        obtain ⟨program, start, ended, allowed, path⟩ := ih
        simp only [Pool.resume, Function.update_self, eventsOf_append, eventsOf_same]
        exact ⟨program, start, world, allowed, path.snoc trivial performed⟩
      · simpa [Pool.resume, Function.update_of_ne same, eventsOf_other (Ne.symm same)] using ih
  | drift _ _ ih => exact ih

/-- The events of a finished thread follow a path of its program to its value. -/
theorem finished (run : Run system first trace last) {thread : Nat} (free : first.threads thread = none)
    {residue : Prog Op Reply Err A} (current : last.threads thread = some residue) :
    ∃ program start ended, system.entry thread program ∧
      Path (system.exposed thread) program start (eventsOf thread trace) residue ended := by
  have here := run.path free
  rwa [current] at here

/-- A thread that performs an event of the run follows a path of its program. -/
theorem acting (run : Run system first trace last) {record : Record Op Reply Err State}
    (free : first.threads record.1 = none) (member : record ∈ trace) :
    ∃ program start residue ended, system.entry record.1 program ∧
      Path (system.exposed record.1) program start (eventsOf record.1 trace) residue ended := by
  have here := run.path free
  have own : record.2 ∈ eventsOf record.1 trace := mem_eventsOf.mpr member
  cases current : last.threads record.1 with
  | none =>
      rw [current] at here
      rw [here] at own
      exact absurd own List.not_mem_nil
  | some residue =>
      rw [current] at here
      obtain ⟨program, start, ended, allowed, path⟩ := here
      exact ⟨program, start, residue, ended, allowed, path⟩

/-- Each event of a thread belongs to an operation that its program is confined to. -/
theorem confined (inside : Nat → Op → Prop) (run : Run system first trace last)
    (idle : ∀ thread, first.threads thread = none)
    (entries : ∀ thread program, system.entry thread program → program.Confined (inside thread)) :
    ∀ record ∈ trace, inside record.1 record.2.op := by
  intro record member
  obtain ⟨program, start, residue, ended, allowed, path⟩ := run.acting (idle record.1) member
  exact path.confined (entries record.1 program allowed) record.2 (mem_eventsOf.mpr member)

/-- Each recorded event was performed by its thread. -/
theorem performed (run : Run system first trace last) :
    ∀ record ∈ trace,
      system.perform record.1 record.2.op record.2.before record.2.reply record.2.after := by
  induction run with
  | refl => simp
  | start _ _ _ ih => exact ih
  | act _ _ performed ih =>
      intro record member
      rcases List.mem_append.mp member with member | member
      · exact ih record member
      · rw [List.mem_singleton.mp member]
        exact performed
  | drift _ _ ih => exact ih

/-- A run can be cut before each of its events. -/
theorem split {record : Record Op Reply Err State} (run : Run system first (front ++ record :: back) last) :
    ∃ pool after, Run system first front pool ∧ pool.world = record.2.before ∧
      after.world = record.2.after ∧ Run system after back last := by
  generalize whole : front ++ record :: back = trace at run
  induction run generalizing back with
  | refl => simp at whole
  | start earlier free allowed ih =>
      obtain ⟨pool, after, head, before, reached, tail⟩ := ih whole
      exact ⟨pool, after, head, before, reached, .start tail free allowed⟩
  | @act pool trace actor op next reply world earlier current performed ih =>
      rcases List.eq_nil_or_concat back with rfl | ⟨rest, other, rfl⟩
      · obtain ⟨rfl, same⟩ := List.append_inj' whole rfl
        obtain rfl := List.head_eq_of_cons_eq same
        exact ⟨pool, _, earlier, rfl, rfl, .refl _⟩
      · rw [List.concat_eq_append, ← List.cons_append, ← List.append_assoc] at whole
        obtain ⟨cut, same⟩ := List.append_inj' whole rfl
        obtain rfl := List.head_eq_of_cons_eq same
        obtain ⟨before, after, head, started, reached, tail⟩ := ih cut
        rw [List.concat_eq_append]
        exact ⟨before, after, head, started, reached, .act tail current performed⟩
  | drift earlier moved ih =>
      obtain ⟨pool, after, head, before, reached, tail⟩ := ih whole
      exact ⟨pool, after, head, before, reached, .drift tail moved⟩

/-- What each event keeps holds before each event and at the end. -/
theorem keeps (holds : State → Prop)
    (drifts : ∀ {before after}, system.drift before after → holds before → holds after)
    (run : Run system first trace last) (initially : holds first.world)
    (events : ∀ record ∈ trace, holds record.2.before → holds record.2.after) :
    (∀ record ∈ trace, holds record.2.before) ∧ holds last.world := by
  induction run with
  | refl => exact ⟨by simp, initially⟩
  | start _ _ _ ih => exact ih events
  | @act pool trace actor op next reply world _ _ _ ih =>
      obtain ⟨before, held⟩ := ih fun record member => events record (List.mem_append_left _ member)
      refine ⟨fun record member => ?_, ?_⟩
      · rcases List.mem_append.mp member with member | member
        · exact before record member
        · rw [List.mem_singleton.mp member]
          exact held
      · exact events _ (List.mem_append_right _ (List.mem_singleton_self _)) held
  | drift _ moved ih =>
      obtain ⟨before, held⟩ := ih events
      exact ⟨before, drifts moved held⟩

/-- What each event keeps and one event establishes holds before each later event and at the end. -/
theorem after {record : Record Op Reply Err State} (holds : State → Prop)
    (drifts : ∀ {before after}, system.drift before after → holds before → holds after)
    (run : Run system first (front ++ record :: back) last)
    (events : ∀ later ∈ back, holds later.2.before → holds later.2.after)
    (established : holds record.2.after) :
    (∀ later ∈ back, holds later.2.before) ∧ holds last.world := by
  obtain ⟨_, reached, _, _, same, tail⟩ := run.split
  rw [← same] at established
  exact tail.keeps holds drifts established events

/-- Two events that each need what the other destroys for good are one event. -/
theorem once {one other : Record Op Reply Err State} (holds : State → Prop)
    (drifts : ∀ {before after}, system.drift before after → holds before → holds after)
    (run : Run system first trace last)
    (events : ∀ record ∈ trace, holds record.2.before → holds record.2.after)
    (member : one ∈ trace) (otherMember : other ∈ trace)
    (absent : ¬ holds one.2.before) (established : holds one.2.after)
    (otherAbsent : ¬ holds other.2.before) (otherEstablished : holds other.2.after) : one = other := by
  obtain ⟨front, back, rfl⟩ := List.append_of_mem member
  rcases List.mem_append.mp otherMember with early | late
  · obtain ⟨start, rest, rfl⟩ := List.append_of_mem early
    rw [List.append_assoc, List.cons_append] at run
    have reached := (run.after holds drifts
      (fun record inside => events record (List.mem_append.mpr (by
        rcases List.mem_append.mp inside with inside | inside
        · exact .inl (List.mem_append_right _ (List.mem_cons_of_mem _ inside))
        · exact .inr inside))) otherEstablished).1
    exact absurd (reached one (by simp)) absent
  · rcases List.mem_cons.mp late with same | late
    · exact same.symm
    · have reached := (run.after holds drifts
        (fun record inside => events record (by simp [inside])) established).1
      exact absurd (reached other late) otherAbsent

/-- A restricted run is a run. -/
theorem of_restrict {condition : State → Label Op Reply Err → Prop}
    (run : Run (system.restrict condition) first trace last) : Run system first trace last := by
  induction run with
  | refl => exact .refl _
  | start _ free allowed ih => exact .start ih free allowed
  | act _ current performed ih => exact .act ih current performed.1
  | drift _ moved ih => exact .drift ih moved

/-- A run whose events meet the condition is a restricted run. -/
theorem restrict {condition : State → Label Op Reply Err → Prop} (run : Run system first trace last)
    (met : ∀ record ∈ trace, condition record.2.before (.act record.1 record.2.op record.2.reply)) :
    Run (system.restrict condition) first trace last := by
  induction run with
  | refl => exact .refl _
  | start _ free allowed ih => exact .start (ih met) free allowed
  | act _ current performed ih =>
      have early := ih fun record member => met record (List.mem_append_left _ member)
      have last := met _ (List.mem_append_right _ (List.mem_singleton_self _))
      exact .act early current ⟨performed, last⟩
  | drift _ moved ih => exact .drift (ih met) moved

/-- A run whose events meet the condition is a run under it. -/
theorem under {condition : State → Label Op Reply Err → Prop} (run : Run system first trace last)
    (starts : ∀ world thread, condition world (.start thread)) (drifts : ∀ world, condition world .drift)
    (met : ∀ record ∈ trace, condition record.2.before (.act record.1 record.2.op record.2.reply)) :
    ReachesUnder system condition first last := by
  induction run with
  | refl => exact .refl
  | start _ free allowed ih => exact (ih met).tail ⟨_, .start free allowed, starts _ _⟩
  | act _ current performed ih =>
      have early := ih fun record member => met record (List.mem_append_left _ member)
      have last := met _ (List.mem_append_right _ (List.mem_singleton_self _))
      exact early.tail ⟨_, .act current performed, last⟩
  | drift _ moved ih => exact (ih met).tail ⟨_, .drift moved, drifts _⟩

/-- A whole call runs without a pause. -/
theorem call {thread : Nat} {program residue : Prog Op Reply Err A} {start world : State}
    {events : List (Event Op Reply Err State)}
    (path : Path (system.undisturbed thread) program start events residue world)
    (run : Run system first trace (last.resume thread program start)) :
    Run system first (trace ++ events.map fun event => (thread, event))
    (last.resume thread residue world) := by
  induction path generalizing trace with
  | stop program state =>
      rw [List.map_nil, List.append_nil]
      exact run
  | @perform op next reply start before after world events residue others performed _ ih =>
      obtain rfl : start = before := others
      have current : (last.resume thread (.ask op next) start).threads thread = some (.ask op next) := by
        simp [Pool.resume]
      have further := Run.act run current performed
      have same : (last.resume thread (.ask op next) start).resume thread (next reply) after =
          last.resume thread (next reply) after := by
        simp [Pool.resume]
      rw [same] at further
      simpa [Pool.resume] using ih further

/-- A free thread starts its program and runs without a pause. -/
theorem whole {thread : Nat} {program residue : Prog Op Reply Err A} {world : State}
    {events : List (Event Op Reply Err State)} (run : Run system first trace last)
    (free : last.threads thread = none) (allowed : system.entry thread program)
    (path : Path (system.undisturbed thread) program last.world events residue world) :
    Run system first (trace ++ events.map fun event => (thread, event)) (last.resume thread residue world) :=
  call path (.start run free allowed)

/-- Each recorded event of safe programs meets the guarantee of its thread, and the invariant holds
before it. -/
theorem guaranteed (discipline : Discipline system) (holds : State → Prop)
    (entries : ∀ thread program world, holds world → discipline.dormant thread world →
      system.entry thread program → discipline.Safe thread program world)
    (performs : ∀ {thread op before reply after}, holds before → system.perform thread op before reply after →
      discipline.guarantee thread op before reply after → holds after)
    (drifts : ∀ {before after}, holds before → system.drift before after → holds after)
    (run : Run system first trace last) (initially : holds first.world) (safe : discipline.AllSafe first) :
    (∀ record ∈ trace, holds record.2.before ∧
      discipline.guarantee record.1 record.2.op record.2.before record.2.reply record.2.after) ∧
      holds last.world ∧ discipline.AllSafe last := by
  induction run with
  | refl => exact ⟨by simp, initially, safe⟩
  | start _ free allowed ih =>
      obtain ⟨records, held, allSafe⟩ := ih
      exact ⟨records, held, allSafe.resume (fun thread _ => discipline.rely_refl thread _)
        (entries _ _ _ held (allSafe.unstarted free) allowed)⟩
  | @act pool trace actor op next reply world _ current performed ih =>
      obtain ⟨records, held, allSafe⟩ := ih
      obtain ⟨meets, rest⟩ := allSafe.started current _ (discipline.rely_refl actor _) reply world performed
      refine ⟨fun record member => ?_, performs held performed meets,
        allSafe.resume (fun thread different => discipline.sound different performed meets) rest⟩
      rcases List.mem_append.mp member with member | member
      · exact records record member
      · rw [List.mem_singleton.mp member]
        exact ⟨held, meets⟩
  | @drift pool trace world _ moved ih =>
      obtain ⟨records, held, allSafe⟩ := ih
      exact ⟨records, drifts held moved, allSafe.drift moved⟩

end Run

end CeramicAnchor.Concurrency
