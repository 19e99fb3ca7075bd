import CeramicAnchor.Proof.LoneRequest

/-
This file proves when a completed request stays completed.
-/

namespace CeramicAnchor
open Concurrency Storage RequestRepository

/-- Each completed request stays completed. -/
def World.KeepsCompleted (world next : World) : Prop :=
  ∀ request ∈ world.requests.rows, request.status = .COMPLETED →
    ∃ later ∈ next.requests.rows, later.Same request ∧ later.status = .COMPLETED

theorem World.KeepsCompleted.refl (world : World) : world.KeepsCompleted world :=
  fun request member completed => ⟨request, member, .refl request, completed⟩

theorem World.KeepsCompleted.trans {first second third : World} (head : first.KeepsCompleted second)
    (tail : second.KeepsCompleted third) : first.KeepsCompleted third := by
  intro request member completed
  obtain ⟨middle, inSecond, same, stillCompleted⟩ := head request member completed
  obtain ⟨later, inThird, sameLater, finally_⟩ := tail middle inSecond stillCompleted
  exact ⟨later, inThird, sameLater.trans same, finally_⟩

/-- An update that chooses no completed request, or that completes its requests, keeps them. -/
theorem World.KeepsCompleted.update {world next : World} {chosen : Request → Bool} {edit : RequestEdit}
    {status : RequestStatus} (sets : SetsStatus edit status)
    (spares : ∀ request ∈ world.requests.rows, chosen request = true → request.status = .COMPLETED →
      status = .COMPLETED)
    (written : next.requests = world.requests.update chosen edit) : world.KeepsCompleted next := by
  intro request member completed
  rw [written]
  refine ⟨_, Table.mem_update.mpr ⟨request, member, rfl⟩, ?_⟩
  split
  · rename_i picked
    refine ⟨sets.same request, ?_⟩
    rw [sets.moved request, spares request member picked completed]
  · exact ⟨.refl request, completed⟩

/-- No failed batch and no claim acts on a request that is completed. -/
def SparesCompleted (world : World) : Label WorldOp WorldOp.Reply Failure → Prop
  | .act _ (.updateRequests _ _ ids) _ => ∀ request ∈ world.requests.rows, request.id ∈ ids →
      request.status ≠ .COMPLETED
  | .act _ (.claim ids) _ => ∀ request ∈ world.requests.rows, request.id ∈ ids → request.status ≠ .COMPLETED
  | _ => True

theorem RequestTransaction.Takes.not_completed {transaction : RequestTransaction} {request : Request}
    (takes : transaction.Takes request) : request.status ≠ .COMPLETED := by
  intro completed
  cases transaction with
  | markReady => simp [RequestTransaction.Takes, findRequestsToAnchor, completed] at takes
  | refreshReady => simp [RequestTransaction.Takes, completed] at takes
  | markAsProcessing => simp [RequestTransaction.Takes, completed] at takes

theorem World.KeepsCompleted.moves {formats : Formats} {thread : Nat} {op : WorldOp}
    {reply : Except Failure op.Reply} {world next : World}
    (spares : SparesCompleted world (.act thread op reply))
    (regular : op.Regular) (moves : world.Moves formats thread op next) : world.KeepsCompleted next := by
  cases moves with
  | insert fresh =>
      intro request member completed
      exact ⟨request, Table.subset_insert _ _ fresh member, .refl request, completed⟩
  | @replace origin streamId cid ordered permuted sorted =>
      refine World.KeepsCompleted.update (replacedEdit_setsStatus cid) ?_ rfl
      intro request member picked completed
      obtain ⟨other, behind, same⟩ := List.mem_map.mp (of_decide_eq_true picked)
      have found := List.mem_filter.mp (permuted.mem_iff.mp (List.mem_of_mem_drop behind))
      obtain rfl := Table.eq_of_column id_indexed found.1 member same
      simp [completed] at found
  | @revert fields updatedAt ids =>
      obtain rfl : fields = ⟨none, some .PENDING, none⟩ := regular
      refine World.KeepsCompleted.update (RequestUpdateFields.setsStatus rfl updatedAt) ?_ rfl
      intro request member picked completed
      exact absurd completed (spares request member (of_decide_eq_true picked))
  | claim claimed =>
      refine World.KeepsCompleted.update claimEdit_setsStatus ?_ claimed
      intro request member picked completed
      exact absurd completed (spares request member (of_decide_eq_true picked))
  | @mark transaction stamp marked requests wrote takes =>
      refine World.KeepsCompleted.update (RequestUpdateFields.setsStatus rfl stamp) ?_ wrote.written
      intro request member picked completed
      exact absurd completed (takes request member (of_decide_eq_true picked)).not_completed
  | @complete anchors acceptedRequests stamp marked requests wrote accepted =>
      exact World.KeepsCompleted.update (RequestUpdateFields.setsStatus rfl stamp) (fun _ _ _ _ => rfl)
        wrote.written
  | idle => exact .refl world
  | begin_ => exact .refl world
  | publish => exact .refl world
  | submit => exact .refl world
  | storeCar => exact .refl world
  | storeWitness => exact .refl world

theorem Cas.keepsCompleted {formats : Formats} {deployed : Task → Prop} {clock : Int} {middle last : Cas}
    (earlier : ReachesUnder (casSystem formats deployed) SparesCompleted (Cas.start clock) middle)
    (run : ReachesUnder (casSystem formats deployed) SparesCompleted middle last) :
    middle.world.KeepsCompleted last.world :=
  Cas.preserves World.KeepsCompleted World.KeepsCompleted.refl World.KeepsCompleted.trans
    (fun spares regular moved => World.KeepsCompleted.moves spares regular moved)
    (by rintro world next ⟨later, _, rfl⟩; exact .refl world) earlier run

/-- In every run that spares completed requests, a completed request stays completed. -/
theorem completed_stays {formats : Formats} {deployed : Task → Prop} {clock : Int} {middle last : Cas}
    (earlier : ReachesUnder (casSystem formats deployed) SparesCompleted (Cas.start clock) middle)
    (run : ReachesUnder (casSystem formats deployed) SparesCompleted middle last) {request : Request}
    (member : request ∈ middle.world.requests.rows) (completed : request.status = .COMPLETED) :
    ∃ later ∈ last.world.requests.rows, later.Same request ∧ later.status = .COMPLETED :=
  Cas.keepsCompleted earlier run request member completed

section Runs

def postAndWorker (task : Task) : Prop := task = post "bafkqaaa" 1 ∨ task = .anchorRequests loneWorker 1

/-- The worker reports its batch, and the request stays completed. -/
theorem completed_stays_after_report : ∃ middle last : Cas, ∃ request ∈ middle.world.requests.rows,
    request.status = .COMPLETED ∧ last.threads 1 = some (.done none) ∧
      ∃ later ∈ last.world.requests.rows, later.Same request ∧ later.status = .COMPLETED := by
  have met : ∀ world label, Ordinary 0 world label → SparesCompleted world label := by
    intro world label ordinary
    cases label with
    | act thread op reply =>
        cases op with
        | updateRequests => exact ordinary.elim
        | claim ids =>
            intro request member chosen completed
            rw [(ordinary request member chosen).1] at completed
            cases completed
        | _ => trivial
    | _ => trivial
  obtain ⟨middle, earlier, running, request, rows, _, completed⟩ :=
    @lone_request_completed postAndWorker SparesCompleted (.inl rfl) (.inr rfl) fun world label _ =>
    met world label
  have member : request ∈ middle.world.requests.rows := by simp [rows]
  have run : ∃ last : Cas, ReachesUnder (casSystem loneFormats postAndWorker) SparesCompleted middle last ∧
      last.threads 1 = some (.done none) := by
    apply Exists.intro
    constructor
    · apply resolves 1 (.countByStatus .PENDING) _ running
      · exact ⟨rfl, rfl⟩
      · trivial
      apply resolves 1 (.sleep 5000) () rfl
      · exact rfl
      · trivial
      exact .refl
    · rfl
  obtain ⟨last, run, finished⟩ := run
  exact ⟨middle, last, request, member, completed, finished, completed_stays earlier run member completed⟩

/-- The report fails after the results are stored, and the handler sets the completed request back. -/
theorem completed_set_back : ¬ ∀ (formats : Formats) (deployed : Task → Prop),
    (∀ task, deployed task → task.Queueless) → ∀ (clock : Int) (middle last : Cas),
      Reaches (casSystem formats deployed) (Cas.start clock) middle →
      Reaches (casSystem formats deployed) middle last →
      ∀ request ∈ middle.world.requests.rows, request.status = .COMPLETED →
        ∃ later ∈ last.world.requests.rows, later.Same request ∧ later.status = .COMPLETED := by
  intro stays
  obtain ⟨middle, earlier, running, request, rows, same, completed⟩ :=
    @lone_request_completed postAndWorker (fun _ _ => True) (.inl rfl) (.inr rfl) fun _ _ _ _ => trivial
  have member : request ∈ middle.world.requests.rows := by simp [rows]
  have run : ∃ last : Cas,
      ReachesUnder (casSystem loneFormats postAndWorker) (fun _ _ => True) middle last ∧
        ∀ later ∈ last.world.requests.rows, later.status = .PENDING := by
    apply Exists.intro
    constructor
    · apply ReachesUnder.act 1 (.countByStatus .PENDING) (.error (.rejected "timeout")) running
      · exact .inl rfl
      · trivial
      apply resolves 1 .now _ rfl
      · exact ⟨rfl, rfl⟩
      · trivial
      apply resolves 1 (.updateRequests _ _ _) _ rfl
      · exact ⟨rfl, rfl⟩
      · trivial
      exact .refl
    · intro later inLast
      obtain ⟨old, inside, rfl⟩ := Table.mem_update.mp inLast
      have only : old ∈ middle.world.requests.rows := inside
      rw [rows, List.mem_singleton] at only
      have chosen : old.id ∈ ["1"] := by simp [only, same]
      exact congrArg Request.status (if_pos (decide_eq_true chosen))
  obtain ⟨last, run, setBack⟩ := run
  have queueless : ∀ task, postAndWorker task → task.Queueless := by
    rintro task (rfl | rfl) <;> rfl
  obtain ⟨later, inLast, _, stillCompleted⟩ := stays loneFormats postAndWorker queueless 0 middle last
    (.of_under earlier) (.of_under run) request member completed
  rw [setBack later inLast] at stillCompleted
  cases stillCompleted

end Runs

end CeramicAnchor
