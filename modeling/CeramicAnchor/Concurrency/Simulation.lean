import CeramicAnchor.Concurrency.Pool

/-
This file carries the runs of one system over to another one that takes a step for each of its steps.
-/

namespace CeramicAnchor.Concurrency

universe u

variable {Op Low : Type u} {Reply : Op → Type} {LowReply : Low → Type} {Err A B State LowState : Type}

/-- The lower system runs the translated programs, and each of their operations follows one of the upper
system. -/
structure Simulation (upper : System Op Reply Err A State) (lower : System Low LowReply Err B LowState)
    (condition : State → Label Op Reply Err → Prop) where
  translate : Prog Op Reply Err A → Prog Low LowReply Err B
  related : State → LowState → Prop
  starts : ∀ thread program, upper.entry thread program → lower.entry thread (translate program)
  acts : ∀ {thread op reply before after state}, related before state →
    condition before (.act thread op reply) → upper.perform thread op before reply after →
    ∃ low answer later, lower.perform thread low state answer later ∧ related after later ∧
      ∀ next, ∃ rest, translate (.ask op next) = .ask low rest ∧ rest answer = translate (next reply)
  drifts : ∀ {before after state}, related before state → upper.drift before after →
    ∃ later, lower.drift state later ∧ related after later

variable {upper : System Op Reply Err A State} {lower : System Low LowReply Err B LowState}
  {condition : State → Label Op Reply Err → Prop}

namespace Simulation

/-- The lower pool runs the translations of what the upper pool runs, in a related state. -/
structure Follows (simulation : Simulation upper lower condition) (pool : Pool Op Reply Err A State)
    (follower : Pool Low LowReply Err B LowState) : Prop where
  world : simulation.related pool.world follower.world
  free : ∀ thread, pool.threads thread = none → follower.threads thread = none
  running : ∀ thread program, pool.threads thread = some program →
    follower.threads thread = some (simulation.translate program)

variable {simulation : Simulation upper lower condition} {pool : Pool Op Reply Err A State}
  {follower : Pool Low LowReply Err B LowState}

theorem Follows.resume (follows : simulation.Follows pool follower) (thread : Nat)
    (program : Prog Op Reply Err A) {world : State} {state : LowState}
    (related : simulation.related world state) :
    simulation.Follows (pool.resume thread program world)
      (follower.resume thread (simulation.translate program) state) := by
  refine ⟨related, fun other none_ => ?_, fun other residue current => ?_⟩
  · by_cases same : other = thread
    · subst same
      simp [Pool.resume] at none_
    · simp only [Pool.resume, Function.update_of_ne same] at none_ ⊢
      exact follows.free other none_
  · by_cases same : other = thread
    · subst same
      simp only [Pool.resume, Function.update_self] at current ⊢
      rw [Option.some.inj current]
    · simp only [Pool.resume, Function.update_of_ne same] at current ⊢
      exact follows.running other residue current

/-- The lower pool follows one step of the upper pool. -/
theorem Follows.step (follows : simulation.Follows pool follower) {label : Label Op Reply Err}
    {next : Pool Op Reply Err A State} (step : Step upper pool label next)
    (met : condition pool.world label) :
    ∃ label later, Step lower follower label later ∧ simulation.Follows next later := by
  cases step with
  | @start thread program free allowed =>
      exact ⟨_, _, .start (follows.free thread free) (simulation.starts thread program allowed),
        follows.resume thread program follows.world⟩
  | @act thread op rest reply world current performed =>
      obtain ⟨low, answer, later, acted, related, goes⟩ := simulation.acts follows.world met performed
      obtain ⟨lowRest, asks, residue⟩ := goes rest
      have running := follows.running thread _ current
      rw [asks] at running
      refine ⟨_, _, .act running acted, ?_⟩
      rw [residue]
      exact follows.resume thread (rest reply) related
  | @drift world moved =>
      obtain ⟨later, drifted, related⟩ := simulation.drifts follows.world moved
      exact ⟨_, _, .drift drifted, related, follows.free, follows.running⟩

/-- The lower system follows every run of the upper one. -/
theorem Follows.run (follows : simulation.Follows pool follower) {last : Pool Op Reply Err A State}
    (run : ReachesUnder upper condition pool last) :
    ∃ later, Reaches lower follower later ∧ simulation.Follows last later := by
  induction run with
  | refl => exact ⟨follower, .refl, follows⟩
  | tail _ step ih =>
      obtain ⟨middle, reached, still⟩ := ih
      obtain ⟨label, step, met⟩ := step
      obtain ⟨other, later, taken, after⟩ := still.step step met
      exact ⟨later, reached.tail ⟨other, taken⟩, after⟩

end Simulation

end CeramicAnchor.Concurrency
