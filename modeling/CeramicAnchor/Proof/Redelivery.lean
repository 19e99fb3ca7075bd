import CeramicAnchor.Concurrency.Run
import CeramicAnchor.Proof.LoneRequest
import CeramicAnchor.Proof.QueuedBatch
import CeramicAnchor.Proof.WorkerOperations

/-
This file proves when a queued batch is acknowledged and what its redelivery repeats.
-/

namespace CeramicAnchor
open Concurrency Storage RequestRepository Prog

variable {formats : Formats} {thread : Nat} {service : AnchorService} {fuel : Nat} {start last : World}
  {trace : List Happening} {residue : Code Bool}

/-- A batch is acknowledged only when each of its requests was replaced or is anchored, and a worker that
rejects has put its message back. -/
theorem acked_when_done
    (path : Path (worker formats thread) (service.anchorNextQueuedBatch formats fuel)
      start trace residue last) :
    (∀ front event back message, trace = front ++ event :: back → event.op = .ack message →
      Done message (event.before, front)) ∧
    ∀ error, residue = .fail error → PutBack trace := by
  obtain ⟨events, ending⟩ := sat_recorded_path path [] (anchorNextQueuedBatch_recorded service fuel start)
  rw [List.nil_append] at ending
  constructor
  · intro front event back message split acks
    have done := events front event back split message acks
    rwa [List.nil_append] at done
  · intro error rejected
    rw [rejected] at ending
    exact ending.2

/-- The whole history of a worker that has ended. -/
theorem ended_outcome
    (path : Path (worker formats thread) (service.anchorNextQueuedBatch formats fuel)
      start trace residue last)
    (ended : (∃ value, residue = .done value) ∨ ∃ error, residue = .fail error) : Outcome trace := by
  have ending := (sat_recorded_path path [] (anchorNextQueuedBatch_recorded service fuel start)).2
  rw [List.nil_append] at ending
  rcases ended with ⟨value, rfl⟩ | ⟨error, rfl⟩
  · exact ending
  · exact ending.1

/-- The redelivery repeats no work, and its message is acknowledged. -/
structure Idempotent (message : AnchorBatchQMessage) (history : List Happening) : Prop where
  idle : Idle history
  acked : Occurred history (.ack message) (.ok ())

section Loaded

variable {message : AnchorBatchQMessage} {rows : List Request} {table : RequestTable}

/-- All requests of the loaded batch were replaced when its rows in the table were. -/
theorem allReplaced_iff
    (selected : rows.Perm (table.rows.filter fun request => request.id ∈ uniqueIds message.rids)) :
    AllReplaced message rows ↔
      ∀ rid ∈ message.rids, ∃ row ∈ table.rows, row.id = rid ∧ row.status = .REPLACED := by
  have member : ∀ row, row ∈ rows ↔ row ∈ table.rows ∧ row.id ∈ message.rids := by
    intro row
    rw [selected.mem_iff, List.mem_filter, decide_eq_true_iff, mem_uniqueIds]
  constructor
  · rintro ⟨found, empty⟩ rid wanted
    obtain ⟨row, inRows, same⟩ := covers_of_length selected found (mem_uniqueIds.mpr wanted)
    refine ⟨row, ((member row).mp inRows).1, same, ?_⟩
    by_contra kept
    have remains := mem_unreplaced.mpr ⟨inRows, kept⟩
    rw [empty] at remains
    cases remains
  · intro replaced
    constructor
    · have same : (rows.map Request.id).Perm (uniqueIds message.rids) := by
        rw [List.perm_ext_iff_of_nodup (RequestRepository.ids_nodup selected) (nodup_uniqueIds _)]
        intro id
        rw [mem_uniqueIds]
        constructor
        · intro mapped
          obtain ⟨row, inRows, rfl⟩ := List.mem_map.mp mapped
          exact ((member row).mp inRows).2
        · intro wanted
          obtain ⟨row, inTable, rfl, _⟩ := replaced id wanted
          exact List.mem_map.mpr ⟨row, (member row).mpr ⟨inTable, wanted⟩, rfl⟩
      rw [← same.length_eq, List.length_map]
    · rw [List.eq_nil_iff_forall_not_mem]
      intro row remains
      obtain ⟨inRows, kept⟩ := mem_unreplaced.mp remains
      obtain ⟨inTable, wanted⟩ := (member row).mp inRows
      obtain ⟨other, otherInTable, same, gone⟩ := replaced row.id wanted
      rw [Table.eq_of_column id_indexed otherInTable inTable same] at gone
      exact kept gone

/-- A loaded request is no leaf of the tree when it was replaced, and only then. -/
theorem leaf_iff (selected : rows.Perm (table.rows.filter fun request => request.id ∈ uniqueIds message.rids))
    {tree : MerkleCAR} (leaves : (tree.leafNodes.map Candidate.request).Perm (unreplaced rows))
    {row : Request}
    (inTable : row ∈ table.rows) (wanted : row.id ∈ message.rids) :
    (∀ leaf ∈ tree.leafNodes, leaf.request.id ≠ row.id) ↔ row.status = .REPLACED := by
  have inRows : row ∈ rows := by
    rw [selected.mem_iff, List.mem_filter, decide_eq_true_iff, mem_uniqueIds]
    exact ⟨inTable, wanted⟩
  constructor
  · intro absent
    by_contra kept
    have mapped := leaves.mem_iff.mpr (mem_unreplaced.mpr ⟨inRows, kept⟩)
    obtain ⟨leaf, inTree, same⟩ := List.mem_map.mp mapped
    exact absent leaf inTree (congrArg Request.id same)
  · intro replaced leaf inTree same
    have mapped := leaves.mem_iff.mp (List.mem_map.mpr ⟨leaf, inTree, rfl⟩)
    obtain ⟨leafInRows, kept⟩ := mem_unreplaced.mp mapped
    have leafInTable := (List.mem_filter.mp (selected.mem_iff.mp leafInRows)).1
    rw [Table.eq_of_column id_indexed leafInTable inTable same] at kept
    exact kept replaced

end Loaded

section Progress

variable {message : AnchorBatchQMessage} {rows : List Request} {steps : Nat} {before after : World}

/-- The call has returned, or it waits for an operation and has performed fewer operations than these. -/
def EndsWithin (steps : Nat) (trace : List Happening) (residue : Code Bool) : Prop :=
  residue = .done true ∨ trace.length < steps ∧ ∃ op next, residue = .ask op next

/-- A call that waits for an operation ends when it ends after each undisturbed answer. -/
theorem EndsWithin.ask {op : WorldOp} {next : Except Failure op.Reply → Code Bool}
    (path : Path (worker formats thread) (.ask op next) start trace residue last) (calm : ¬ Disturbed trace)
    (rest : ∀ before value after back, trace = ⟨op, before, .ok value, after⟩ :: back → ¬ Disturbed back →
      Path (worker formats thread) (next (.ok value)) after back residue last →
      EndsWithin steps back residue) :
    EndsWithin (steps + 1) trace residue := by
  cases path with
  | stop => exact .inr ⟨Nat.succ_pos steps, op, next, rfl⟩
  | @perform _ _ reply _ before after _ back _ others performed path =>
      have later : ¬ Disturbed back := fun ⟨event, member, disturbs⟩ =>
        calm ⟨event, List.mem_cons_of_mem _ member, disturbs⟩
      cases reply with
      | ok value =>
          rcases rest before value after back rfl later path with returned | ⟨fewer, waits⟩
          · exact .inl returned
          · exact .inr ⟨Nat.succ_lt_succ fewer, waits⟩
      | error error => exact absurd ⟨_, List.mem_cons_self, .inl ⟨error, rfl⟩⟩ calm

theorem EndsWithin.returned (path : Path (worker formats thread) (.done true) start trace residue last) :
    EndsWithin steps trace residue := by
  cases path
  exact .inl rfl

/-- An undisturbed worker has not been told to abort. -/
theorem calm_proceeds {aborted : Bool} {back : List Happening}
    (calm : ¬ Disturbed (⟨.aborted, before, .ok aborted, after⟩ :: back)) : aborted = false := by
  cases aborted with
  | false => rfl
  | true => exact absurd ⟨_, List.mem_cons_self, .inr ⟨before, after, rfl⟩⟩ calm

/-- The operation loads no rows by their ids. -/
def WorldOp.Unselecting : WorldOp → Prop
  | .selectByIds _ => False
  | _ => True

/-- A batch of replaced requests is acknowledged without any work. -/
theorem anchorBatch_ends
    (path : Path (worker formats thread) (service.anchorBatch formats fuel message) start trace residue last)
    (calm : ¬ Disturbed trace)
    (loaded : (⟨.selectByIds (uniqueIds message.rids), before, .ok rows, after⟩ : Happening) ∈ trace)
    (all : AllReplaced message rows) : EndsWithin 4 trace residue := by
  refine EndsWithin.ask path calm fun selected requests reached back same calm path => ?_
  have works : ∀ event ∈ back, WorldOp.Unselecting event.op := by
    refine path.confined (confined_handle
      (confined_bind (confined_bind ?_ fun requests => ?_) fun requests => ?_) fun error => ?_)
    · trivial
    · split <;> trivial
    · refine service.anchorLoaded_confined formats fuel message ?_ trivial requests
      rintro op works
      cases op <;> trivial
    · exact confined_bind (confined_call (WorldOp.nack message) trivial) fun _ => trivial
  rw [same] at loaded
  rcases List.mem_cons.mp loaded with first | later
  · cases first
    change Path (worker formats thread) (tryCatch
      ((if rows.length ≠ (uniqueIds message.rids).length then _ else pure rows) >>=
        fun requests => service.anchorLoaded formats fuel message requests) _) _ _ _ _ at path
    rw [if_neg (by simpa using all.1)] at path
    refine EndsWithin.ask path calm fun _ aborted _ back same calm' path => ?_
    obtain rfl : aborted = false := calm_proceeds (same ▸ calm)
    change Path (worker formats thread) (tryCatch (service.anchorRequestsOf formats fuel rows >>= fun _ =>
      Prog.call (WorldOp.sleep 5000) >>= fun _ => Prog.call (WorldOp.ack message) >>= fun _ => pure true) _)
      _ _ _ _ at path
    rw [service.anchorRequestsOf_replaced all.2] at path
    refine EndsWithin.ask path calm' fun _ _ _ back _ calm path => ?_
    exact EndsWithin.ask path calm fun _ _ _ back _ _ path => .returned path
  · exact (works _ later).elim

/-- An undisturbed worker acknowledges a batch of replaced requests after six operations. -/
theorem replaced_ends
    (path : Path (worker formats thread) (service.anchorNextQueuedBatch formats fuel)
      start trace residue last)
    (calm : ¬ Disturbed trace) (heard : Occurred trace .receiveMessage (.ok (some message)))
    (loaded : (⟨.selectByIds (uniqueIds message.rids), before, .ok rows, after⟩ : Happening) ∈ trace)
    (all : AllReplaced message rows) : EndsWithin 6 trace residue := by
  obtain ⟨told, since, heard⟩ := heard
  refine EndsWithin.ask path calm fun _ aborted _ back same calm' path => ?_
  obtain rfl : aborted = false := calm_proceeds (same ▸ calm)
  rw [same] at heard loaded
  replace heard := List.mem_of_ne_of_mem (by simp) heard
  replace loaded := List.mem_of_ne_of_mem (by simp) loaded
  by_cases queued : service.useQueueBatches = true
  · change Path (worker formats thread) (if ¬ service.useQueueBatches = true then _ else
      Prog.call WorldOp.receiveMessage >>= fun batchMessage => _) _ _ _ _ at path
    rw [if_neg (by simp [queued])] at path
    refine EndsWithin.ask path calm' fun _ batchMessage _ back same calm path => ?_
    rw [same] at heard loaded
    replace loaded := List.mem_of_ne_of_mem (by simp) loaded
    cases batchMessage with
    | none =>
        cases path
        cases loaded
    | some other =>
        have unheard : (service.anchorBatch formats fuel other).Confined (· ≠ .receiveMessage) := by
          refine service.anchorBatch_confined formats fuel other ?_ (by simp) (by simp) (by simp)
          rintro op works rfl
          exact works
        rcases List.mem_cons.mp heard with first | later
        · cases first
          exact anchorBatch_ends path calm loaded all
        · exact absurd rfl (path.confined unheard _ later)
  · change Path (worker formats thread)
      (if ¬ service.useQueueBatches = true then throw _ else _) _ _ _ _ at path
    rw [if_pos queued] at path
    cases path
    cases heard

end Progress

/-- A delivered batch repeats no work when all its requests were replaced, and only then. An undisturbed call
with such a batch ends. -/
theorem redelivery_idempotent_iff {before after : World} {message : AnchorBatchQMessage} {rows : List Request}
    (path : Path (worker formats thread) (service.anchorNextQueuedBatch formats fuel)
      start trace residue last)
    (heard : Occurred trace .receiveMessage (.ok (some message)))
    (loaded : (⟨.selectByIds (uniqueIds message.rids), before, .ok rows, after⟩ : Happening) ∈ trace) :
    (¬ Disturbed trace →
      (∀ rid ∈ message.rids, ∃ row ∈ before.requests.rows, row.id = rid ∧ row.status = .REPLACED) →
      EndsWithin 6 trace residue) ∧
    ((∃ value, residue = .done value) ∨ (∃ error, residue = .fail error) →
      (¬ Disturbed trace → (Idempotent message trace ↔
        ∀ rid ∈ message.rids, ∃ row ∈ before.requests.rows, row.id = rid ∧ row.status = .REPLACED)) ∧
      ∀ candidates tree, Occurred trace (.buildMerkleTree candidates) (.ok tree) →
        ∀ row ∈ before.requests.rows, row.id ∈ message.rids →
          ((∀ leaf ∈ tree.leafNodes, leaf.request.id ≠ row.id) ↔ row.status = .REPLACED)) := by
  obtain ⟨selected, _, _⟩ := path.performed _ loaded
  have occurs : Occurred trace (.selectByIds (uniqueIds message.rids)) (.ok rows) := ⟨before, after, loaded⟩
  refine ⟨fun calm replaced => ?_, fun ended => ?_⟩
  · exact replaced_ends path calm heard loaded ((allReplaced_iff selected).mpr replaced)
  have outcome := ended_outcome path ended
  constructor
  · intro calm
    rw [← allReplaced_iff selected]
    constructor
    · rintro ⟨idle, acked⟩
      by_contra some_
      obtain ⟨root, tx, sentBefore, sentAfter, sent⟩ := outcome.others message rows heard occurs some_ acked
      exact idle _ sent trivial
    · intro all
      obtain ⟨idle, disturbed | acked⟩ := outcome.replaced message rows heard occurs all
      · exact absurd disturbed calm
      · exact ⟨idle, acked⟩
  · intro candidates tree built row inTable wanted
    exact leaf_iff selected (outcome.trees _ rows candidates tree occurs built) inTable wanted

section Runs

/-- The worker anchors the batches of a queue. -/
def queueWorker : AnchorService := ⟨0, 1, false, true, false, false, ⟨0, 0⟩⟩

def loneBatch : AnchorBatchQMessage := ⟨"batch", ["1"]⟩

/-- The table has the lone request, and it may have anchors. -/
def loneWorld (status : RequestStatus) (anchors : AnchorTable) : World :=
  { World.empty 0 with
    requests := Table.insert .empty (loneRequest status "Request is pending.") (by rintro column _ old ⟨⟩)
    anchors := anchors }

/-- An event that leaves the world of the replaced request as it is. -/
abbrev replacedEvent (op : WorldOp) (reply : Except Failure op.Reply) : Happening :=
  ⟨op, loneWorld .REPLACED .empty, reply, loneWorld .REPLACED .empty⟩

/-- The history of a batch whose request was replaced. -/
def replacedTrace : List Happening := [
  replacedEvent .aborted (.ok false),
  replacedEvent .receiveMessage (.ok (some loneBatch)),
  replacedEvent (.selectByIds ["1"]) (.ok [loneRequest .REPLACED "Request is pending."]),
  replacedEvent .aborted (.ok false),
  replacedEvent (.sleep 5000) (.ok ()),
  replacedEvent (.ack loneBatch) (.ok ())]

theorem replaced_path :
    Path (worker loneFormats 1) (queueWorker.anchorNextQueuedBatch loneFormats 1) (loneWorld .REPLACED .empty)
      replacedTrace (.done true) (loneWorld .REPLACED .empty) := by
  have selected : [loneRequest .REPLACED "Request is pending."].Perm
      ((loneWorld .REPLACED .empty).requests.rows.filter fun request => request.id ∈ ["1"]) := .refl _
  apply Path.reply (worker loneFormats 1) WorldOp.aborted (.ok false)
  · exact rfl
  apply Path.reply (worker loneFormats 1) WorldOp.receiveMessage (.ok (some loneBatch))
  · exact rfl
  apply Path.reply (worker loneFormats 1) (WorldOp.selectByIds ["1"])
    (.ok [loneRequest .REPLACED "Request is pending."])
  · exact ⟨selected, List.pairwise_singleton _ _, rfl⟩
  apply Path.reply (worker loneFormats 1) WorldOp.aborted (.ok false)
  · exact rfl
  apply Path.reply (worker loneFormats 1) (WorldOp.sleep 5000) (.ok ())
  · exact rfl
  apply Path.reply (worker loneFormats 1) (WorldOp.ack loneBatch) (.ok ())
  · exact rfl
  exact .stop _ _

/-- The history of a batch whose requests could not be loaded. -/
def unloadedTrace : List Happening := [
  replacedEvent .aborted (.ok false),
  replacedEvent .receiveMessage (.ok (some loneBatch)),
  replacedEvent (.selectByIds ["1"]) (.error (.rejected "Connection terminated")),
  replacedEvent (.nack loneBatch) (.ok ())]

theorem unloaded_path :
    Path (worker loneFormats 1) (queueWorker.anchorNextQueuedBatch loneFormats 1) (loneWorld .REPLACED .empty)
      unloadedTrace (.fail (.rejected "Connection terminated")) (loneWorld .REPLACED .empty) := by
  apply Path.reply (worker loneFormats 1) WorldOp.aborted (.ok false)
  · exact rfl
  apply Path.reply (worker loneFormats 1) WorldOp.receiveMessage (.ok (some loneBatch))
  · exact rfl
  apply Path.reply (worker loneFormats 1) (WorldOp.selectByIds ["1"])
    (.error (.rejected "Connection terminated"))
  · exact .inl rfl
  apply Path.reply (worker loneFormats 1) (WorldOp.nack loneBatch) (.ok ())
  · exact rfl
  exact .stop _ _

/-- The replaced request lets the worker acknowledge its batch, and a rejection makes it put its batch
back. -/
theorem acked_when_done_replaced :
    (Path (worker loneFormats 1) (queueWorker.anchorNextQueuedBatch loneFormats 1)
        (loneWorld .REPLACED .empty) replacedTrace (.done true) (loneWorld .REPLACED .empty) ∧
      Done loneBatch (loneWorld .REPLACED .empty, replacedTrace.take 5)) ∧
    Path (worker loneFormats 1) (queueWorker.anchorNextQueuedBatch loneFormats 1)
        (loneWorld .REPLACED .empty) unloadedTrace (.fail (.rejected "Connection terminated"))
        (loneWorld .REPLACED .empty) ∧
      PutBack unloadedTrace := by
  refine ⟨⟨replaced_path, ?_⟩, unloaded_path, (acked_when_done unloaded_path).2 _ rfl⟩
  exact (acked_when_done replaced_path).1 (replacedTrace.take 5)
    (replacedEvent (.ack loneBatch) (.ok ())) [] loneBatch rfl rfl

theorem replaced_calm : ¬ Disturbed replacedTrace := by
  rintro ⟨event, member, disturbs⟩
  simp only [replacedTrace, List.mem_cons, List.not_mem_nil, or_false] at member
  rcases member with rfl | rfl | rfl | rfl | rfl | rfl
  all_goals rcases disturbs with ⟨error, rejected⟩ | ⟨before, after, aborted⟩
  all_goals first | cases rejected | cases aborted

/-- The replaced batch repeats no work when it is delivered. -/
theorem redelivery_idempotent_replaced :
    Path (worker loneFormats 1) (queueWorker.anchorNextQueuedBatch loneFormats 1)
      (loneWorld .REPLACED .empty) replacedTrace (.done true) (loneWorld .REPLACED .empty) ∧
    Idempotent loneBatch replacedTrace := by
  have heard : Occurred replacedTrace .receiveMessage (.ok (some loneBatch)) :=
    ⟨_, _, .tail _ (.head _)⟩
  have loaded : (⟨.selectByIds (uniqueIds loneBatch.rids), loneWorld .REPLACED .empty,
      .ok [loneRequest .REPLACED "Request is pending."], loneWorld .REPLACED .empty⟩ :
      Happening) ∈ replacedTrace :=
    .tail _ (.tail _ (.head _))
  obtain ⟨_, ended⟩ := redelivery_idempotent_iff replaced_path heard loaded
  refine ⟨replaced_path, ((ended (.inl ⟨true, rfl⟩)).1 replaced_calm).mpr fun rid wanted => ?_⟩
  obtain rfl := List.mem_singleton.mp wanted
  exact ⟨_, .head _, rfl, rfl⟩

/-- The anchor that the first delivery of the batch has stored. -/
def firstAnchor : FreshAnchor := ⟨"1", .foreign "proof", "0", .foreign "commit"⟩

def anchoredWorld : World :=
  loneWorld .COMPLETED (Table.insert .empty firstAnchor (by rintro column _ old ⟨⟩))

/-- Each request of the batch was replaced or has an anchor. -/
def World.Redelivers (world : World) (message : AnchorBatchQMessage) : Prop :=
  ∀ rid ∈ message.rids, ∃ row ∈ world.requests.rows, row.id = rid ∧
    (row.status = .REPLACED ∨ ∃ anchor ∈ world.anchors.rows, anchor.requestId = rid)

def anchoredCandidate : Candidate :=
  ⟨.foreign "bafkqaaa", loneRequest .COMPLETED "Request is pending.", .foreign "bafkqaaa", true⟩

def anchoredTree : MerkleCAR := ⟨.record loneRoot, [anchoredCandidate], fun _ => [.L], ⟨[], [loneRoot]⟩⟩

theorem anchoredTree_treeFor : anchoredTree.TreeFor [anchoredCandidate] := lone_treeFor rfl

/-- The worker stores the results of the batch and acknowledges it when it has handed the witnesses over. -/
def acknowledgeRest (candidate : Candidate) (witnesses : Code Unit) : Code Bool :=
  let batch : Code AnchorSummary := do
    witnesses
    let persistedAnchorsCount ← AnchorService.persistAnchorResult [loneAnchor] [candidate] 1
    pure ⟨1, 0, 1, 1 - persistedAnchorsCount⟩
  tryCatch (do
    tryCatch (do
      let _results ← batch
      AnchorService.logAnchorSummary) fun err => do
        queueWorker.giveBack [candidate.request]
        AnchorService.logAnchorSummary
        throw err
    Prog.call (WorldOp.sleep 5000)
    Prog.call (WorldOp.ack loneBatch)
    pure true) fun err => do
      Prog.call (WorldOp.nack loneBatch)
      throw err

/-- The redelivered batch is anchored a second time. -/
theorem anchored_path : ∃ trace last,
    Path (worker loneFormats 1) (queueWorker.anchorNextQueuedBatch loneFormats 1) anchoredWorld trace
      (.done true) last ∧
    ¬ Disturbed trace ∧ Occurred trace .receiveMessage (.ok (some loneBatch)) ∧
    Occurred trace (.sendTransaction anchoredTree.root) (.ok loneTransaction) := by
  have selected : [loneRequest .COMPLETED "Request is pending."].Perm
      (anchoredWorld.requests.rows.filter fun request => request.id ∈ ["1"]) := .refl _
  have found :
      [firstAnchor].Perm (anchoredWorld.anchors.rows.filter fun anchor => anchor.requestId ∈ ["1"]) :=
    .refl _
  have rows : anchoredWorld.requests.rows = [loneRequest .COMPLETED "Request is pending."] := rfl
  apply Exists.intro
  apply Exists.intro
  constructor
  · apply Path.reply (worker loneFormats 1) WorldOp.aborted (.ok false)
    · exact rfl
    apply Path.reply (worker loneFormats 1) WorldOp.receiveMessage (.ok (some loneBatch))
    · exact rfl
    apply Path.reply (worker loneFormats 1) (WorldOp.selectByIds ["1"])
      (.ok [loneRequest .COMPLETED "Request is pending."])
    · exact ⟨selected, List.pairwise_singleton _ _, rfl⟩
    apply Path.reply (worker loneFormats 1) WorldOp.aborted (.ok false)
    · exact rfl
    apply Path.reply (worker loneFormats 1) (WorldOp.findAnchors ["1"]) (.ok [firstAnchor])
    · exact ⟨found, rfl⟩
    apply Path.reply (worker loneFormats 1) (WorldOp.buildMerkleTree [anchoredCandidate]) (.ok anchoredTree)
    · exact ⟨anchoredTree_treeFor, rfl⟩
    apply Path.reply (worker loneFormats 1) (WorldOp.sendTransaction anchoredTree.root) (.ok loneTransaction)
    · exact ⟨_, rfl, by rintro entry ⟨⟩, rfl⟩
    apply Path.reply (worker loneFormats 1) (WorldOp.storeCarFile _ _) (.ok ())
    · exact rfl
    change Path _
      (acknowledgeRest anchoredCandidate (AnchorService.storeWitnessCARs loneCar [loneAnchor])) _ _ _ _
    rw [lone_witnesses]
    apply Path.reply (worker loneFormats 1) (WorldOp.storeWitness loneAnchor.cid loneWitness) (.ok ())
    · exact rfl
    apply Path.reply (worker loneFormats 1) WorldOp.begin (.ok ())
    · exact rfl
    apply Path.reply (worker loneFormats 1) (WorldOp.persist _ _) (.ok (0 : Nat))
    · exact ⟨_, _, ⟨_, _, rfl, evaluates_persist rows rfl _, Int.le_refl _, fun _ _ => rfl, rfl⟩, rfl, rfl⟩
    apply Path.reply (worker loneFormats 1) (WorldOp.countByStatus .PENDING) (.ok (0 : Nat))
    · exact ⟨rfl, rfl⟩
    apply Path.reply (worker loneFormats 1) (WorldOp.sleep 5000) (.ok ())
    · exact rfl
    apply Path.reply (worker loneFormats 1) (WorldOp.ack loneBatch) (.ok ())
    · exact rfl
    exact .stop _ _
  · refine ⟨?_, ⟨_, _, .tail _ (.head _)⟩, ?_⟩
    · rintro ⟨event, member, disturbs⟩
      simp only [List.mem_cons, List.not_mem_nil, or_false] at member
      rcases member with rfl | rfl | rfl | rfl | rfl | rfl | rfl | rfl | rfl | rfl | rfl | rfl | rfl | rfl
      all_goals rcases disturbs with ⟨error, rejected⟩ | ⟨before, after, aborted⟩
      all_goals first | cases rejected | cases aborted
    · exact ⟨_, _, .tail _ (.tail _ (.tail _ (.tail _ (.tail _ (.tail _ (.head _))))))⟩

/-- A batch that is delivered again sends a second transaction. -/
theorem redelivery_repeats : ¬ ∀ (formats : Formats) (thread : Nat) (service : AnchorService) (fuel : Nat)
    (start last : World) (trace : List Happening) (residue : Code Bool) (message : AnchorBatchQMessage),
      Path (worker formats thread) (service.anchorNextQueuedBatch formats fuel) start trace residue last →
      ((∃ value, residue = .done value) ∨ ∃ error, residue = .fail error) → start.Redelivers message →
      ¬ Disturbed trace → Occurred trace .receiveMessage (.ok (some message)) → Idempotent message trace := by
  intro repeatsNothing
  obtain ⟨trace, last, path, calm, heard, before, after, sent⟩ := anchored_path
  have redelivers : anchoredWorld.Redelivers loneBatch := by
    intro rid wanted
    obtain rfl := List.mem_singleton.mp wanted
    exact ⟨_, .head _, rfl, .inr ⟨firstAnchor, .head _, rfl⟩⟩
  have idempotent := repeatsNothing _ _ _ _ _ _ _ _ _ path (.inl ⟨true, rfl⟩) redelivers calm heard
  exact idempotent.idle _ sent trivial

end Runs

end CeramicAnchor
