import CeramicAnchor.Proof.FailedBatch
import CeramicAnchor.Storage.Evaluation

/-
This file follows one worker that goes on alone, while time passes and no operation is rejected.
-/

namespace CeramicAnchor
open Concurrency Storage RequestRepository Prog

variable {formats : Formats} {deployed : Task → Prop} {thread : Nat} {world next : World}

/-- Time passes while one worker goes on alone. -/
abbrev alone (formats : Formats) (deployed : Task → Prop) (thread : Nat) :
    Setting WorldOp WorldOp.Reply Failure World :=
  (casSystem formats deployed).solo thread

theorem World.Drifts.trans {first second third : World} (head : first.Drifts second)
    (tail : second.Drifts third) : first.Drifts third := by
  obtain ⟨middle, early, rfl⟩ := head
  obtain ⟨last, late, rfl⟩ := tail
  exact ⟨last, Int.le_trans early late, rfl⟩

theorem alone_drifts (others : (alone formats deployed thread).rely world next) : world.Drifts next := by
  induction others with
  | refl => exact ⟨world.clock, Int.le_refl _, rfl⟩
  | tail _ moved ih => exact World.Drifts.trans ih moved

/-- The table stays as it is, and this time has come. -/
structure World.Rests (requests : RequestTable) (clock : Int) (world : World) : Prop where
  requests : world.requests = requests
  later : clock ≤ world.clock

variable {requests : RequestTable} {clock : Int}

theorem World.Rests.drifts (rests : world.Rests requests clock) (drifts : world.Drifts next) :
    next.Rests requests clock := by
  obtain ⟨later, passed, rfl⟩ := drifts
  exact ⟨rests.requests, Int.le_trans rests.later passed⟩

theorem World.Rests.alone (rests : world.Rests requests clock)
    (others : (alone formats deployed thread).rely world next) : next.Rests requests clock :=
  rests.drifts (alone_drifts others)

/-- A quiet operation can always be performed. -/
theorem WorldOp.Quiet.ready {op : WorldOp} (quiet : op.Quiet) (formats : Formats) (thread : Nat)
    (world : World) : ∃ value next, op.Resolves formats thread world value next := by
  cases op with
  | selectReady maxStreamLimit => exact ⟨_, world, _, .refl _, rfl, rfl⟩
  | countByStatus status => exact ⟨_, world, rfl, rfl⟩
  | findAnchors requestIds => exact ⟨_, world, .refl _, rfl⟩
  | sleep milliseconds => exact ⟨(), world, rfl⟩
  | aborted => exact ⟨false, world, rfl⟩
  | importCAR car => exact ⟨(), world, rfl⟩
  | storeRecord record => exact ⟨(), world, rfl⟩
  | publishAnchorCommit anchorCid streamId => exact ⟨(), world, rfl⟩
  | storeWitness anchorCommitCid car => exact ⟨(), _, rfl⟩
  | _ => exact quiet.elim

theorem WorldOp.LeavesRequests.rests {op : WorldOp} (leaves : op.LeavesRequests)
    {reply : Except Failure op.Reply} (performed : op.perform formats thread world reply next)
    (rests : world.Rests requests clock) : next.Rests requests clock := by
  have moves := WorldOp.perform_moves performed
  refine ⟨(moves.requests_same leaves).trans rests.requests, ?_⟩
  have same : next.clock = world.clock := by
    cases moves <;> rfl
  exact same ▸ rests.later

/-- A resolute program of quiet operations leaves the table alone. -/
theorem quiet_ensures {A : Type} {program : Code A} (quiet : program.Confined WorldOp.Quiet)
    (resolute : program.Resolute) (rests : world.Rests requests clock) :
    Ensures (alone formats deployed thread) (fun _ reached => reached.Rests requests clock)
      program world := by
  refine ensures_keeps _ quiet resolute (fun others held => held.alone others)
    (fun op inside before _ => inside.ready formats thread before) ?_ rests
  intro op inside before value after performed held
  change op.perform formats thread before (.ok value) after at performed
  exact inside.leavesRequests.rests performed held

/-- The thread has begun a transaction on the present table. -/
structure World.Transacts (thread : Nat) (requests : RequestTable) (clock : Int) (world : World) : Prop where
  rests : world.Rests requests clock
  opened : ∃ began, world.transactions thread = some ⟨requests, began⟩ ∧ clock ≤ began ∧ began ≤ world.clock

theorem World.Transacts.alone (transacts : world.Transacts thread requests clock)
    (others : (alone formats deployed thread).rely world next) : next.Transacts thread requests clock := by
  obtain ⟨began, opened, since, passed⟩ := transacts.opened
  refine ⟨transacts.rests.alone others, began, ?_⟩
  obtain ⟨later, moved, rfl⟩ := alone_drifts others
  exact ⟨opened, since, Int.le_trans passed moved⟩

theorem begin_ensures (rests : world.Rests requests clock) :
    Ensures (alone formats deployed thread) (fun _ reached => reached.Transacts thread requests clock)
      (Prog.call WorldOp.begin) world := by
  refine ensures_call WorldOp.begin (fun before _ => ⟨(), _, rfl⟩) ?_
  intro before others _ after performed
  have rested := rests.alone others
  have next : after = { before with
      transactions := Function.update before.transactions thread (some ⟨before.requests, before.clock⟩) } :=
    performed
  subst next
  refine ⟨⟨rested.requests, rested.later⟩, before.clock, ?_, rested.later, Int.le_refl _⟩
  exact (Function.update_self _ _ _).trans (by rw [rested.requests])

/-- A transaction that nobody disturbs can be committed. -/
theorem World.Transacts.ready {A : Type} {body : RequestBody A}
    (transacts : world.Transacts thread requests clock)
    (comes : ∀ began, Ensures (promptSetting Request.id requests) (fun _ _ => True) body (.fresh began)) :
    ∃ value table, world.Committed thread body value table := by
  obtain ⟨began, opened, _, passed⟩ := transacts.opened
  obtain ⟨value, last, evaluates, same⟩ := evaluates_prompt (comes began)
  exact ⟨value, _,
    ⟨_, last, opened, evaluates, same ▸ passed, fun _ _ => by rw [transacts.rests.requests], rfl⟩⟩

end CeramicAnchor
