import CeramicAnchor.Concurrency.Run
import CeramicAnchor.Proof.Redelivery

/-
This file proves when a new batch of ready requests starts only after the last one was claimed.
-/

namespace CeramicAnchor
open Concurrency Storage RequestRepository Prog

variable {formats : Formats} {thread : Nat} {world next : World}

/-- No request is ready. -/
def World.NoneReady (world : World) : Prop := ∀ request ∈ world.requests.rows, request.status ≠ .READY

/-- The operation commits a transaction of findAndMarkReady. -/
def WorldOp.IsMarkReady (op : WorldOp) : Prop :=
  ∃ maxStreamLimit minStreamLimit anchoringDeadline now,
    op = .commit (.markReady maxStreamLimit minStreamLimit anchoringDeadline now)

/-- The transaction of findAndMarkReady makes a request ready that was not. -/
def MarksReady (event : Happening) : Prop :=
  event.op.IsMarkReady ∧ ∃ request ∈ event.after.requests.rows, request.status = .READY ∧
    ∀ old ∈ event.before.requests.rows, old.id = request.id → old.status ≠ .READY

section Moves

variable {op : WorldOp} {reply : Except Failure op.Reply}

/-- The operation makes no request ready and stamps no ready request. -/
def WorldOp.LeavesReady : WorldOp → Prop
  | .commit (.markReady _ _ _ _) => False
  | .commit (.refreshReady _) => False
  | op => op.Regular

/-- Such an operation adds no ready request. -/
theorem World.Moves.ready_subset {op : WorldOp} (moves : world.Moves formats thread op next)
    (leaves : op.LeavesReady) :
    ∀ request ∈ next.requests.rows, request.status = .READY → request ∈ world.requests.rows := by
  intro row member ready
  have unmoved : ∀ {edit : RequestEdit} {status : RequestStatus} {chosen : Request → Bool},
      SetsStatus edit status → status ≠ .READY → row ∈ (world.requests.update chosen edit).rows →
      row ∈ world.requests.rows :=
    fun sets other inside => (sets.unmoved inside (by rw [ready]; exact other.symm)).1
  cases moves with
  | @insert request id fresh =>
      rcases (Table.mem_insert _ _ fresh).mp member with old | rfl
      · exact old
      · have pending : RequestStatus.READY = .PENDING := ready.symm.trans leaves
        cases pending
  | @replace origin streamId cid ordered permuted sorted =>
      exact unmoved (replacedEdit_setsStatus cid) (by decide) member
  | @revert fields updatedAt ids =>
      obtain rfl : fields = ⟨none, some .PENDING, none⟩ := leaves
      exact unmoved (RequestUpdateFields.setsStatus rfl updatedAt) (by decide) member
  | claim claimed =>
      subst claimed
      exact unmoved claimEdit_setsStatus (by decide) member
  | @mark transaction stamp marked requests wrote takes =>
      cases transaction with
      | markReady => exact leaves.elim
      | refreshReady => exact leaves.elim
      | markAsProcessing =>
          obtain rfl := wrote.written
          exact unmoved (RequestUpdateFields.setsStatus rfl stamp) (by decide) member
  | @complete anchors acceptedRequests stamp marked requests wrote accepted =>
      obtain rfl := wrote.written
      exact unmoved (RequestUpdateFields.setsStatus rfl stamp) (by decide) member
  | _ => exact member

/-- Without findAndMarkReady no request becomes ready. -/
theorem World.NoneReady.moves (none_ : world.NoneReady) (regular : op.Regular)
    (moves : world.Moves formats thread op next) (unmarked : ¬ MarksReady ⟨op, world, reply, next⟩) :
    next.NoneReady := by
  by_cases leaves : op.LeavesReady
  · intro request member ready
    exact none_ request (moves.ready_subset leaves request member ready) ready
  · cases moves with
    | @mark transaction stamp marked requests wrote takes =>
        cases transaction with
        | markReady maxStreamLimit minStreamLimit anchoringDeadline now =>
            intro row member ready
            refine unmarked ⟨⟨_, _, _, _, rfl⟩, row, member, ready, fun old inside _ => none_ old inside⟩
        | refreshReady readyRetryIntervalMS =>
            intro row member ready
            rw [wrote.written] at member
            obtain ⟨old, inside, rfl⟩ := Table.mem_update.mp member
            split at ready
            · next chosen => exact none_ old inside (takes old inside (of_decide_eq_true chosen))
            · exact none_ old inside ready
        | markAsProcessing => exact absurd regular leaves
    | idle => exact none_
    | _ => exact absurd regular leaves

/-- A count of none finds no request ready. -/
theorem noneReady_of_count
    (counted : (WorldOp.countByStatus .READY).perform formats thread world (.ok (0 : Nat)) next) :
    next.NoneReady := by
  obtain ⟨count, unchanged⟩ := counted
  intro request inside ready
  rw [unchanged] at inside
  have found : request ∈ world.requests.rows.filter fun request => request.status = .READY :=
    List.mem_filter.mpr ⟨inside, decide_eq_true ready⟩
  rw [List.length_eq_zero_iff.mp count.symm] at found
  cases found

end Moves

section Tasks

/-- The thread has counted the ready requests, and there was none. -/
def CountedNone (history : List Happening) : Prop :=
  ∃ before after, ⟨.countByStatus .READY, before, .ok (0 : Nat), after⟩ ∈ history

/-- The thread marks requests only after it has counted none. -/
def ChecksFirst : Guarantee WorldOp WorldOp.Reply Failure (World × List Happening) := fun op before _ _ =>
  op.IsMarkReady → CountedNone before.2

variable {setting : Setting WorldOp WorldOp.Reply Failure World} {state : World × List Happening}

theorem plain_checksFirst {A : Type} {program : Code A} (plain : program.Confined WorldOp.Plain) :
    Sat setting.recorded ChecksFirst (fun _ _ => True) (fun _ _ => True) program state := by
  refine sat_confined plain ?_
  rintro op inside before reply after _ ⟨maxStreamLimit, minStreamLimit, anchoringDeadline, now, rfl⟩
  exact inside.elim

/-- After a count of none, any program marks requests. -/
theorem counted_checksFirst {A : Type} (program : Code A) (counted : CountedNone state.2) :
    Sat setting.recorded ChecksFirst (fun _ _ => True) (fun _ _ => True) program state := by
  obtain ⟨world, history⟩ := state
  have traced : Sat setting _ _ _ program world := sat_trivial program world
  have body := sat_recorded CountedNone (fun past _ => by
    obtain ⟨before, after, member⟩ := past
    exact ⟨before, after, List.mem_append_left _ member⟩) traced counted
  exact sat_mono body (fun _ _ _ _ met _ => met.1) (fun _ _ _ => trivial) fun _ _ _ => trivial

/-- The count of the ready requests is recorded. -/
theorem count_checksFirst :
    Sat setting.recorded ChecksFirst (fun count reached => count = 0 → CountedNone reached.2)
    (fun _ _ => True)
      (countByStatus .READY) state := by
  obtain ⟨world, history⟩ := state
  refine sat_recorded_call (WorldOp.countByStatus .READY) ?_ ?_
  · intro before _ count after _
    refine ⟨?_, ?_⟩
    · rintro ⟨_, _, _, _, same⟩
      cases same
    · rintro rfl
      exact ⟨before, after, List.mem_append_right _ (List.mem_singleton_self _)⟩
  · intro before _ error after _
    refine ⟨?_, trivial⟩
    rintro ⟨_, _, _, _, same⟩
    cases same

/-- Each task marks requests only after it has counted none. -/
theorem Task.run_checksFirst (task : Task) :
    Sat setting.recorded ChecksFirst (fun _ _ => True) (fun _ _ => True) (task.run formats) state := by
  cases task with
  | createRequest service req validation =>
      have creates := RequestController.createRequest_creates service req validation
      exact plain_checksFirst
        (confined_bind (confined_mono creates fun _ => WorldOp.Creates.plain) fun _ => trivial)
  | emitAnchorEventIfReady service fuel =>
      refine sat_bind (fun _ _ => True) (sat_bind _ count_checksFirst fun count counted known => ?_)
        fun _ _ _ => trivial
      refine sat_bind (fun _ _ => True) ?_ fun emits _ _ => ?_
      · unfold AnchorService.prepareAnchorEvent
        split
        · have refreshes := updateExpiringReadyRequests_refreshes service.requestRepository fuel
          exact plain_checksFirst (confined_bind (confined_mono refreshes fun _ => WorldOp.Refreshes.plain)
            fun _ => trivial)
        · exact counted_checksFirst _ (known (by omega))
      · apply plain_checksFirst
        split
        · exact confined_bind (confined_attempt (confined_call WorldOp.emitAnchorEvent trivial))
            fun _ => trivial
        · trivial
  | anchorRequests service fuel =>
      refine sat_bind (fun _ _ => True) ?_ fun _ _ _ => trivial
      unfold AnchorService.anchorRequests
      split
      · exact plain_checksFirst (service.anchorNextQueuedBatch_plain formats fuel)
      · refine sat_bind _ count_checksFirst fun count counted known => ?_
        refine sat_bind (fun _ _ => True) ?_ fun _ _ _ => ?_
        · unfold AnchorService.refill
          split
          · next zero => exact counted_checksFirst _ (known zero)
          · trivial
        · exact plain_checksFirst
            (confined_bind (service.anchorReadyRequests_plain formats fuel) fun _ => trivial)
  | findAndMarkAsProcessing fuel =>
      have refreshes := findAndMarkAsProcessing_refreshes fuel
      exact plain_checksFirst (confined_bind (confined_mono refreshes fun _ => WorldOp.Refreshes.plain)
        fun _ => trivial)

end Tasks

section Runs

variable {deployed : Task → Prop} {first last : Cas}
    {trace : List (Record WorldOp WorldOp.Reply Failure World)}

/-- Each transaction of findAndMarkReady comes after a count of none by the same thread. -/
theorem counted_before_marking (run : Run (casSystem formats deployed) first trace last)
    (free : first.threads thread = none) {front back : List (Record WorldOp WorldOp.Reply Failure World)}
    {event : Happening} (split : trace = front ++ (thread, event) :: back) (marks : event.op.IsMarkReady) :
    ∃ before after, (thread, ⟨.countByStatus .READY, before, .ok (0 : Nat), after⟩) ∈ front := by
  subst split
  have member : (thread, event) ∈ front ++ (thread, event) :: back := List.mem_append_right _ (.head _)
  obtain ⟨program, start, residue, ended, ⟨task, _, rfl⟩, path⟩ := run.acting free member
  rw [eventsOf_split front back (thread, event)] at path
  obtain ⟨events, _⟩ := sat_recorded_path path [] task.run_checksFirst
  obtain ⟨before, after, member⟩ := events _ event _ rfl marks
  rw [List.nil_append] at member
  exact ⟨before, after, mem_eventsOf.mp member⟩

/-- While a thread acts on its count, no thread makes a request ready. -/
def Unraced (trace : List (Record WorldOp WorldOp.Reply Failure World)) : Prop :=
  ∀ front middle back thread count mark,
  trace = front ++ (thread, count) :: (middle ++ (thread, mark) :: back) →
    count.op = .countByStatus .READY → MarksReady mark → ∀ record ∈ middle, ¬ MarksReady record.2

/-- In a run without such races, requests become ready only when none is ready. -/
theorem ready_batches_alone (run : Run (casSystem formats deployed) first trace last)
    (idle : ∀ thread, first.threads thread = none) (unraced : Unraced trace) :
    ∀ record ∈ trace, MarksReady record.2 → record.2.before.NoneReady := by
  rintro ⟨thread, mark⟩ member marks
  have regular := run.confined (fun _ => WorldOp.Regular) idle (by
    rintro other program ⟨task, _, rfl⟩
    exact task.run_regular formats)
  have performed := run.performed
  obtain ⟨early, back, rfl⟩ := List.append_of_mem member
  obtain ⟨before, after, counted⟩ := counted_before_marking run (idle thread) rfl marks.1
  obtain ⟨front, middle, rfl⟩ := List.append_of_mem counted
  obtain ⟨pool, _, head, same, _, _⟩ := run.split
  rw [List.append_assoc, List.cons_append] at unraced regular performed
  have calm := unraced _ _ _ _ _ _ rfl rfl marks
  have counts := performed _ (List.mem_append_right _ List.mem_cons_self)
  have none_ : World.NoneReady after := @noneReady_of_count formats thread before after counts
  rw [← same]
  refine (head.after World.NoneReady ?_ (fun record inside held => ?_) none_).2
  · rintro world next ⟨later, _, rfl⟩ held
    exact held
  · have inTrace : record ∈ front ++ (thread, ⟨.countByStatus .READY, before, .ok (0 : Nat), after⟩) ::
        (middle ++ (thread, mark) :: back) :=
      List.mem_append_right _ (List.mem_cons_of_mem _ (List.mem_append_left _ inside))
    exact held.moves (regular record inTrace) (WorldOp.perform_moves (performed record inTrace))
      (calm record inside)

end Runs

section Schedulers

/-- Two schedulers run beside the API. -/
def schedulersAndPost (task : Task) : Prop :=
    task = .emitAnchorEventIfReady loneWorker 1 ∨ task = post "bafkqaalb" 1

def waitingPool : Cas := .idle (loneWorld .PENDING .empty)

/-- This request comes in after the first one has become ready. -/
def laterRequest : Request :=
  ⟨"2", .PENDING, "bafkqaalb", "kfuxy3vd4lq8", "Request is pending.", true, 0, 0, 1, some "did:key:z6Mk"⟩

/-- A recorded run goes on by starting a deployed task. -/
theorem Cas.launches {deployed : Task → Prop} {pool last : Cas}
    {trace : List (Record WorldOp WorldOp.Reply Failure World)}
    (thread : Nat) {task : Task} (allowed : deployed task) (free : pool.threads thread = none)
    (rest : Run (casSystem formats deployed) (pool.resume thread (task.run formats) pool.world) trace last) :
    Run (casSystem formats deployed) pool trace last :=
  .starts thread ⟨task, allowed, rfl⟩ free rest

/-- A run ends with the scheduler's only transaction. -/
theorem unraced_last {trace : List (Record WorldOp WorldOp.Reply Failure World)}
    {final : Record WorldOp WorldOp.Reply Failure World} (calm : ∀ record ∈ trace, ¬ MarksReady record.2) :
    Unraced (trace ++ [final]) := by
  intro front middle back thread count mark same _ _ record inside
  refine calm record ?_
  have shorter := congrArg List.dropLast same
  rw [List.dropLast_concat, List.dropLast_append_of_ne_nil (by simp), List.dropLast_cons_of_ne_nil (by simp),
    List.dropLast_append_of_ne_nil (by simp)] at shorter
  rw [shorter]
  exact List.mem_append_right _ (List.mem_cons_of_mem _ (List.mem_append_left _ inside))

/-- One scheduler makes the waiting request ready when none is ready. -/
theorem ready_batches_alone_lone :
    ∃ trace last, Run (casSystem loneFormats schedulersAndPost) waitingPool trace last ∧
    ∃ record ∈ trace, MarksReady record.2 ∧ record.2.before.NoneReady := by
  have run : ∃ final last one two three,
      Run (casSystem loneFormats schedulersAndPost) waitingPool [one, two, three, final] last ∧
      (∀ record ∈ [one, two, three], ¬ record.2.op.IsMarkReady) ∧ MarksReady final.2 := by
    repeat apply Exists.intro
    constructor
    · apply Cas.launches 0 (.inl rfl) rfl
      apply Run.acts 0 (WorldOp.countByStatus .READY) (.ok (0 : Nat)) rfl
      · exact ⟨rfl, rfl⟩
      apply Run.acts 0 WorldOp.now (.ok (0 : Int)) rfl
      · exact ⟨rfl, rfl⟩
      apply Run.acts 0 WorldOp.begin (.ok ()) rfl
      · exact rfl
      apply Run.acts 0 (WorldOp.commit (.markReady _ _ _ _))
        (.ok [loneRequest .PENDING "Request is pending."]) rfl
      · refine ⟨_,
          ⟨_, _, rfl, evaluates_markReady rfl (by decide) (by decide) _ _ _, by decide, ?_, rfl⟩, rfl⟩
        exact fun _ _ => rfl
      exact .refl _
    · refine ⟨?_, ⟨_, _, _, _, rfl⟩, _, .head _, rfl, by decide⟩
      simp [WorldOp.IsMarkReady]
  obtain ⟨final, last, one, two, three, run, calm, marks⟩ := run
  have unraced : Unraced ([one, two, three] ++ [final]) :=
    unraced_last fun record member marked => calm record member marked.1
  have member : final ∈ [one, two, three, final] := by simp
  exact ⟨_, last, run, final, member, marks,
    ready_batches_alone run (fun _ => rfl) unraced final member marks⟩

/-- Both schedulers count before either marks, and the second batch starts beside the first. -/
theorem second_batch_starts : ¬ ∀ (formats : Formats) (deployed : Task → Prop) (first last : Cas)
    (trace : List (Record WorldOp WorldOp.Reply Failure World)),
      Run (casSystem formats deployed) first trace last → (∀ thread, first.threads thread = none) →
      ∀ record ∈ trace, MarksReady record.2 → record.2.before.NoneReady := by
  intro alone
  have run : ∃ trace last, Run (casSystem loneFormats schedulersAndPost) waitingPool trace last ∧
      ∃ record ∈ trace, MarksReady record.2 ∧ ∃ request ∈ record.2.before.requests.rows,
      request.status = .READY := by
    apply Exists.intro
    apply Exists.intro
    constructor
    · apply Cas.launches 0 (.inl rfl) rfl
      apply Cas.launches 1 (.inl rfl) rfl
      apply Cas.launches 2 (.inr rfl) rfl
      apply Run.acts 0 (WorldOp.countByStatus .READY) (.ok (0 : Nat)) rfl
      · exact ⟨rfl, rfl⟩
      apply Run.acts 1 (WorldOp.countByStatus .READY) (.ok (0 : Nat)) rfl
      · exact ⟨rfl, rfl⟩
      apply Run.acts 0 WorldOp.now (.ok (0 : Int)) rfl
      · exact ⟨rfl, rfl⟩
      apply Run.acts 0 WorldOp.begin (.ok ()) rfl
      · exact rfl
      apply Run.acts 0 (WorldOp.commit (.markReady _ _ _ _))
        (.ok [loneRequest .PENDING "Request is pending."]) rfl
      · refine ⟨_,
          ⟨_, _, rfl, evaluates_markReady rfl (by decide) (by decide) _ _ _, by decide, ?_, rfl⟩, rfl⟩
        exact fun _ _ => rfl
      apply Run.acts 2 (WorldOp.insertRequest _) (.ok (some laterRequest)) rfl
      · exact Or.inr ⟨"2", by decide, rfl, rfl⟩
      apply Run.acts 1 WorldOp.now (.ok (0 : Int)) rfl
      · exact ⟨rfl, rfl⟩
      apply Run.acts 1 WorldOp.begin (.ok ()) rfl
      · exact rfl
      apply Run.acts 1 (WorldOp.commit (.markReady _ _ _ _)) (.ok [laterRequest]) rfl
      · refine ⟨_,
          ⟨_, _, rfl, evaluates_markReady_one (by decide) (by decide) _ _ _, by decide, ?_, rfl⟩, rfl⟩
        exact fun _ _ => rfl
      exact .refl _
    · refine ⟨_,
        .tail _ (.tail _ (.tail _ (.tail _ (.tail _ (.tail _ (.tail _ (.tail _ (.head _)))))))), ?_, ?_⟩
      · exact ⟨⟨_, _, _, _, rfl⟩, _, .tail _ (.head _), rfl, by decide⟩
      · exact ⟨_, .head _, rfl⟩
  obtain ⟨trace, last, run, record, member, marks, request, inside, ready⟩ := run
  exact alone _ _ _ _ _ run (fun _ => rfl) record member marks request inside ready

end Schedulers

end CeramicAnchor
