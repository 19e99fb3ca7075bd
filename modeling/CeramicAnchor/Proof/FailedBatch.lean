import CeramicAnchor.Proof.ProcessingTimeout
import CeramicAnchor.Proof.Redelivery

/-
This file proves when a batch that rejects has released the requests that it had claimed.
-/

namespace CeramicAnchor
open Concurrency Storage RequestRepository Prog

variable {formats : Formats} {thread : Nat} {ids : List String} {world next : World}

section Statuses

/-- Each of these requests is in the table with this status. -/
def World.HasStatus (ids : List String) (status : RequestStatus) (world : World) : Prop :=
  ∀ id ∈ ids, ∃ request ∈ world.requests.rows, request.id = id ∧ request.status = status

/-- Each of these requests is pending or completed. -/
def World.Released (ids : List String) (world : World) : Prop :=
  ∀ id ∈ ids, ∃ request ∈ world.requests.rows, request.id = id ∧
    (request.status = .PENDING ∨ request.status = .COMPLETED)

/-- The status of each of these requests stays the same. -/
def World.Spares (ids : List String) (world next : World) : Prop :=
  ∀ request ∈ world.requests.rows, request.id ∈ ids →
    ∃ later ∈ next.requests.rows, later.id = request.id ∧ later.status = request.status

theorem World.HasStatus.spared {status : RequestStatus} (held : world.HasStatus ids status)
    (spares : world.Spares ids next) : next.HasStatus ids status := by
  intro id member
  obtain ⟨request, inside, rfl, same⟩ := held id member
  obtain ⟨later, inNext, sameId, sameStatus⟩ := spares request inside member
  exact ⟨later, inNext, sameId, sameStatus.trans same⟩

theorem World.HasStatus.same {status : RequestStatus} (held : world.HasStatus ids status)
    (requests : next.requests = world.requests) : next.HasStatus ids status := by
  intro id member
  rw [requests]
  exact held id member

theorem World.HasStatus.released {status : RequestStatus} (held : world.HasStatus ids status)
    (final : status = .PENDING ∨ status = .COMPLETED) : world.Released ids := by
  intro id member
  obtain ⟨request, inside, sameId, same⟩ := held id member
  exact ⟨request, inside, sameId, by rwa [same]⟩

/-- A request that is processing is not released. -/
theorem World.HasStatus.not_released (held : world.HasStatus ids .PROCESSING) (nonempty : ids ≠ []) :
    ¬ world.Released ids := by
  obtain ⟨id, rest, rfl⟩ := List.exists_cons_of_ne_nil nonempty
  intro released
  obtain ⟨request, inside, sameId, same⟩ := held id List.mem_cons_self
  obtain ⟨other, member, otherId, final⟩ := released id List.mem_cons_self
  obtain rfl := Table.eq_of_column id_indexed inside member (sameId.trans otherId.symm)
  simp [same] at final

/-- An update moves the requests that it chooses. -/
theorem World.HasStatus.update {status : RequestStatus} {edit : RequestEdit} {chosen : Request → Bool}
    (sets : SetsStatus edit status)
    (covers : ∀ request ∈ world.requests.rows, request.id ∈ ids → chosen request = true)
    (present : ∀ id ∈ ids, ∃ request ∈ world.requests.rows, request.id = id)
    (written : next.requests = world.requests.update chosen edit) : next.HasStatus ids status := by
  intro id member
  obtain ⟨request, inside, rfl⟩ := present id member
  rw [written]
  refine ⟨_, Table.mem_update.mpr ⟨request, inside, rfl⟩, ?_⟩
  rw [if_pos (covers request inside member)]
  exact ⟨(sets.same request).id, sets.moved request⟩

theorem World.HasStatus.present {status : RequestStatus} (held : world.HasStatus ids status) :
    ∀ id ∈ ids, ∃ request ∈ world.requests.rows, request.id = id := by
  intro id member
  obtain ⟨request, inside, same, _⟩ := held id member
  exact ⟨request, inside, same⟩

end Statuses

section Setting

/-- The others and the clock move the world, and they leave the statuses of these requests alone. -/
def World.OthersSpare (formats : Formats) (thread : Nat) (ids : List String) : World → World → Prop :=
  Relation.ReflTransGen fun world next =>
    ((∃ (other : Nat) (op : WorldOp) (reply : Except Failure op.Reply), other ≠ thread ∧
      op.perform formats other world reply next) ∨ world.Drifts next) ∧ world.Spares ids next

theorem World.OthersSpare.spares (others : World.OthersSpare formats thread ids world next) :
    ∀ status, world.HasStatus ids status → next.HasStatus ids status := by
  intro status held
  induction others with
  | refl => exact held
  | tail _ step ih => exact ih.spared step.2

theorem World.OthersSpare.own (others : World.OthersSpare formats thread ids world next) :
    next.transactions thread = world.transactions thread := by
  induction others with
  | refl => rfl
  | tail _ step ih =>
      obtain ⟨⟨other, op, reply, different, performed⟩ | ⟨later, _, rfl⟩, _⟩ := step
      · exact ((WorldOp.perform_moves performed).others different.symm).2.trans ih
      · exact ih

/-- One thread works on a batch that the others leave alone. -/
def sparing (formats : Formats) (thread : Nat) (ids : List String) :
    Setting WorldOp WorldOp.Reply Failure World where
  perform op := op.perform formats thread
  rely := World.OthersSpare formats thread ids
  rely_refl _ := .refl
  rely_trans first second := Relation.ReflTransGen.trans first second

end Setting

section Claim

/-- The claimed requests are in the table, and they are processing. -/
theorem claimBatch_path {maxStreamLimit : Nat} {start reached : World} {trace : List Happening}
    {requests : List Request} (claimed :
      Path (worker formats thread) (claimBatch maxStreamLimit) start trace (.done requests) reached) :
    reached.HasStatus (requests.map Request.id) .PROCESSING ∧ ∀ request ∈ requests,
    request.status = .PROCESSING := by
  have claims : Sat (worker formats thread) (fun _ _ _ _ => True) (fun requests reached =>
      reached.HasStatus (requests.map Request.id) .PROCESSING ∧ ∀ request ∈ requests,
      request.status = .PROCESSING)
      (fun _ _ => True) (claimBatch maxStreamLimit) start := by
    refine sat_bind _ (sat_trivial (Prog.call (WorldOp.selectReady maxStreamLimit)) start)
      fun ids selected _ => ?_
    refine sat_call (WorldOp.claim ids) ?_ fun _ _ _ _ _ => ⟨trivial, trivial⟩
    rintro before _ returned after ⟨requests, written, permuted, rfl⟩
    have member : ∀ request ∈ returned, request ∈ requests.rows ∧ request.status = .PROCESSING := by
      intro request inside
      obtain ⟨inTable, picked⟩ := List.mem_filter.mp (permuted.mem_iff.mp inside)
      refine ⟨inTable, ?_⟩
      rw [written] at inTable
      obtain ⟨old, _, same, ⟨_, _, moved⟩ | ⟨skipped, rfl⟩⟩ := claimEdit_setsStatus.cases inTable
      · exact moved
      · rw [skipped] at picked
        cases picked
    refine ⟨trivial, fun id listed => ?_, fun request inside => (member request inside).2⟩
    obtain ⟨request, inside, rfl⟩ := List.mem_map.mp listed
    exact ⟨request, (member request inside).1, rfl, (member request inside).2⟩
  exact (sat_path claimed claims).2

end Claim

section Histories

/-- The identifiers of the request can be read. -/
def Request.Readable (formats : Formats) (request : Request) : Prop :=
  (∃ streamId, formats.parseStreamId request.streamId = some streamId) ∧ request.cid ≠ "" ∧
    ∃ cid, formats.parseCid request.cid = some cid

/-- The results were stored, also when the answer was lost. -/
def StoresResults (formats : Formats) (thread : Nat) : Happening → Prop
  | ⟨.persist anchors acceptedRequests, before, _, after⟩ => ∃ count,
      (WorldOp.persist anchors acceptedRequests).Resolves formats thread before count after
  | _ => False

/-- An attempt to store results that stored none has changed nothing. -/
theorem unstored_same {anchors : List FreshAnchor} {acceptedRequests : List Request}
    {reply : Except Failure Nat} {before after : World}
    (performed : (WorldOp.persist anchors acceptedRequests).perform formats thread before reply after)
    (unstored : ¬ StoresResults formats thread ⟨.persist anchors acceptedRequests, before, reply, after⟩) :
    after = before := by
  match reply, performed, unstored with
  | .ok count, resolves, unstored => exact absurd ⟨count, resolves⟩ unstored
  | .error (.rejected _), .inl same, _ => exact same
  | .error (.rejected _), .inr ⟨count, resolves⟩, unstored => exact absurd ⟨count, resolves⟩ unstored
  | .error .serialization, ⟨_, same⟩, _ => exact same
  | .error (.thrown _), ⟨_, same⟩, _ => exact same

/-- The requests of the failed batch were not set back. -/
def Withholds (formats : Formats) (thread : Nat) : Happening → Prop
  | ⟨.now, _, .error _, _⟩ => True
  | ⟨.updateRequests fields updatedAt ids, before, _, after⟩ => ¬ ∃ count,
      (WorldOp.updateRequests fields updatedAt ids).Resolves formats thread before count after
  | _ => False

/-- The first operation has found the existing anchors. -/
def LookedUp (history : List Happening) : Prop :=
  ∃ ids before found after rest, history = ⟨.findAnchors ids, before, .ok found, after⟩ :: rest

/-- The batch reached its guarded part, and it stored its results or could set its requests back. -/
structure Releasable (formats : Formats) (thread : Nat) (requests : List Request) (history : List Happening) :
    Prop where
  readable : ∀ request ∈ requests, request.Readable formats
  lookedUp : LookedUp history
  written : (∃ event ∈ history, StoresResults formats thread event) ∨
    ∀ event ∈ history, ¬ Withholds formats thread event

/-- The operation writes no request, and it does not read the clock. -/
def WorldOp.LeavesRequests : WorldOp → Prop
  | .now => False
  | .insertRequest _ => False
  | .markReplaced _ _ _ => False
  | .updateRequests _ _ _ => False
  | .claim _ => False
  | .commit _ => False
  | .persist _ _ => False
  | _ => True

theorem WorldOp.Quiet.leavesRequests {op : WorldOp} (quiet : op.Quiet) : op.LeavesRequests := by
  cases op with
  | now | insertRequest | markReplaced | updateRequests | claim | commit | persist => exact quiet.elim
  | _ => trivial

theorem World.Moves.requests_same {op : WorldOp} (moves : world.Moves formats thread op next)
    (leaves : op.LeavesRequests) : next.requests = world.requests := by
  cases moves with
  | insert | replace | revert | claim | mark | complete => exact leaves.elim
  | _ => rfl

theorem WorldOp.LeavesRequests.not_stores {op : WorldOp} {reply : Except Failure op.Reply}
    (leaves : op.LeavesRequests) : ¬ StoresResults formats thread ⟨op, world, reply, next⟩ := by
  cases op with
  | persist => exact leaves.elim
  | _ => exact id

theorem WorldOp.LeavesRequests.not_withholds {op : WorldOp} {reply : Except Failure op.Reply}
    (leaves : op.LeavesRequests) : ¬ Withholds formats thread ⟨op, world, reply, next⟩ := by
  cases op with
  | now | updateRequests => exact leaves.elim
  | _ => exact id

theorem LookedUp.append {history : List Happening} (lookedUp : LookedUp history) (later : List Happening) :
    LookedUp (history ++ later) := by
  obtain ⟨ids, before, found, after, rest, rfl⟩ := lookedUp
  exact ⟨ids, before, found, after, rest ++ later, rfl⟩

end Histories

section Stages

/-- The batch is processing, and nothing of it was written. -/
structure Held (formats : Formats) (thread : Nat) (ids : List String)
    (reached : World × List Happening) : Prop where
  processing : reached.1.HasStatus ids .PROCESSING
  unstored : ∀ event ∈ reached.2, ¬ StoresResults formats thread event
  kept : ∀ event ∈ reached.2, ¬ Withholds formats thread event

/-- The results of the batch are stored. -/
structure Stored (formats : Formats) (thread : Nat) (ids : List String)
    (reached : World × List Happening) : Prop where
  completed : reached.1.HasStatus ids .COMPLETED
  stored : ∃ event ∈ reached.2, StoresResults formats thread event

/-- The batch has looked for existing anchors, and its results are stored or they are not. -/
structure Underway (formats : Formats) (thread : Nat) (ids : List String)
    (reached : World × List Happening) : Prop where
  lookedUp : LookedUp reached.2
  either : Held formats thread ids reached ∨ Stored formats thread ids reached

variable {first second before after : World × List Happening}

theorem Held.rely (others : (sparing formats thread ids).recorded.rely first second)
    (held : Held formats thread ids first) : Held formats thread ids second := by
  obtain ⟨moved, same⟩ := others
  exact ⟨moved.spares _ held.processing, by rw [same]; exact held.unstored, by rw [same]; exact held.kept⟩

theorem Stored.rely (others : (sparing formats thread ids).recorded.rely first second)
    (stored : Stored formats thread ids first) : Stored formats thread ids second := by
  obtain ⟨moved, same⟩ := others
  exact ⟨moved.spares _ stored.completed, by rw [same]; exact stored.stored⟩

theorem Underway.rely (others : (sparing formats thread ids).recorded.rely first second)
    (underway : Underway formats thread ids first) : Underway formats thread ids second := by
  refine ⟨?_, underway.either.imp (Held.rely others) (Stored.rely others)⟩
  rw [others.2]
  exact underway.lookedUp

variable {op : WorldOp} {reply : Except Failure op.Reply}

/-- An event that writes no request keeps what is written. -/
theorem Stored.perform (performed : (sparing formats thread ids).recorded.perform op before reply after)
    (same : after.1.requests = before.1.requests) (stored : Stored formats thread ids before) :
    Stored formats thread ids after := by
  obtain ⟨event, member, stores⟩ := stored.stored
  refine ⟨stored.completed.same same, event, ?_, stores⟩
  rw [performed.2]
  exact List.mem_append_left _ member

theorem Held.perform (performed : (sparing formats thread ids).recorded.perform op before reply after)
    (same : after.1.requests = before.1.requests)
    (unstored : ¬ StoresResults formats thread ⟨op, before.1, reply, after.1⟩)
    (kept : ¬ Withholds formats thread ⟨op, before.1, reply, after.1⟩)
    (held : Held formats thread ids before) :
    Held formats thread ids after := by
  refine ⟨held.processing.same same, fun event member => ?_, fun event member => ?_⟩
  · rw [performed.2] at member
    rcases List.mem_append.mp member with old | new
    · exact held.unstored event old
    · rwa [List.mem_singleton.mp new]
  · rw [performed.2] at member
    rcases List.mem_append.mp member with old | new
    · exact held.kept event old
    · rwa [List.mem_singleton.mp new]

theorem Underway.perform (performed : (sparing formats thread ids).recorded.perform op before reply after)
    (leaves : op.LeavesRequests) (underway : Underway formats thread ids before) :
    Underway formats thread ids after := by
  have same := (WorldOp.perform_moves performed.1).requests_same leaves
  refine ⟨?_, underway.either.imp (Held.perform performed same leaves.not_stores leaves.not_withholds)
    (Stored.perform performed same)⟩
  rw [performed.2]
  exact underway.lookedUp.append _

end Stages

section Results

/-- The open transaction of the thread has seen these requests. -/
def World.Opened (thread : Nat) (ids : List String) (world : World) : Prop :=
  ∃ transaction, world.transactions thread = some transaction ∧
    ∀ id ∈ ids, ∃ request ∈ transaction.snapshot.rows, request.id = id

/-- Stored results complete each accepted request that the transaction has seen. -/
theorem World.Opened.completes {anchors : List FreshAnchor} {acceptedRequests : List Request} {count : Nat}
    (opened : world.Opened thread ids) (accepted : ∀ id ∈ ids, id ∈ acceptedRequests.map Request.id)
    (present : ∀ id ∈ ids, ∃ request ∈ world.requests.rows, request.id = id)
    (resolves : (WorldOp.persist anchors acceptedRequests).Resolves formats thread world count next) :
    next.HasStatus ids .COMPLETED := by
  obtain ⟨requests, _, committed, _, rfl⟩ := resolves
  obtain ⟨transaction, last, current, evaluates, _, commit⟩ := committed.exists_
  obtain ⟨own, sameOwn, seen⟩ := opened
  obtain rfl := Option.some.inj (sameOwn.symm.trans current)
  obtain ⟨stamp, targets, _, _, writes⟩ := evaluates.spec
    (updateRequests_writes (.fresh own.began) _ acceptedRequests)
  have distinct : targets.Nodup := by
    rw [writes.found.nodup_iff]
    exact (own.snapshot.distinct Request.id id_indexed).filter _
  have written : requests = world.requests.update (fun request => request.id ∈ targets)
      (RequestUpdateFields.edit ⟨some "CID successfully anchored.", some .COMPLETED, some true⟩ stamp) := by
    rw [commit.published, writes.pending]
    exact Table.publish_map distinct world.requests _
  refine World.HasStatus.update (RequestUpdateFields.setsStatus rfl stamp) (fun request _ member => ?_)
    present written
  obtain ⟨row, inSnapshot, same⟩ := seen request.id member
  refine decide_eq_true
    (writes.found.mem_iff.mpr (List.mem_filter.mpr ⟨?_, decide_eq_true (accepted _ member)⟩))
  exact List.mem_map.mpr ⟨row, inSnapshot, same⟩

variable {before after : World × List Happening}

/-- The stored results complete the batch, and a rejection without effect changes nothing. -/
theorem Underway.persist {anchors : List FreshAnchor} {acceptedRequests : List Request}
    {reply : Except Failure Nat} (underway : Underway formats thread ids before)
    (opened : before.1.Opened thread ids) (accepted : ∀ id ∈ ids, id ∈ acceptedRequests.map Request.id)
    (performed : (sparing formats thread ids).recorded.perform (.persist anchors acceptedRequests)
      before reply after) :
    Underway formats thread ids after ∧ ∀ count, reply = .ok count → Stored formats thread ids after := by
  have present : ∀ id ∈ ids, ∃ request ∈ before.1.requests.rows, request.id = id := by
    rcases underway.either with held | stored
    · exact held.processing.present
    · exact stored.completed.present
  have lookedUp : LookedUp after.2 := by
    rw [performed.2]
    exact underway.lookedUp.append _
  have done :
      ∀ count, (WorldOp.persist anchors acceptedRequests).Resolves formats thread before.1 count after.1 →
      Stored formats thread ids after := by
    intro count resolves
    refine ⟨opened.completes accepted present resolves,
      ⟨.persist anchors acceptedRequests, before.1, reply, after.1⟩, ?_, count, resolves⟩
    rw [performed.2]
    exact List.mem_append_right _ (List.mem_singleton_self _)
  constructor
  · by_cases stores :
        StoresResults formats thread ⟨.persist anchors acceptedRequests, before.1, reply, after.1⟩
    · obtain ⟨count, resolves⟩ := stores
      exact ⟨lookedUp, .inr (done count resolves)⟩
    · have requests := congrArg World.requests (unstored_same performed.1 stores)
      exact ⟨lookedUp, underway.either.imp (Held.perform performed requests stores id)
        (Stored.perform performed requests)⟩
  · rintro count rfl
    exact done count performed.1

end Results

section Batch

/-- The outline of a batch that is given back when it fails. -/
def releasing (formats : Formats) (thread : Nat) (requests : List Request) :
    Outline (sparing formats thread (requests.map Request.id)).recorded (fun _ _ _ _ => True)
    formats requests where
  holds stage reached := Underway formats thread (requests.map Request.id) reached ∧ match stage with
    | .opened _ _ => reached.1.Opened thread (requests.map Request.id)
    | .persisted _ => Stored formats thread (requests.map Request.id) reached
    | _ => True
  stable := by
    rintro stage first second others ⟨underway, known⟩
    refine ⟨underway.rely others, ?_⟩
    cases stage with
    | opened proofCid car =>
        obtain ⟨transaction, current, seen⟩ := known
        exact ⟨transaction, others.1.own.trans current, seen⟩
    | persisted anchors => exact known.rely others
    | _ => trivial
  fails held := ⟨held.1, trivial⟩
  quiet := by
    rintro stage op before reply ⟨reached, history⟩ quiet performed ⟨underway, known⟩
    refine ⟨trivial, underway.perform performed quiet.leavesRequests, ?_⟩
    have moves : before.1.Moves formats thread op reached := WorldOp.perform_moves performed.1
    cases stage with
    | opened proofCid car =>
        obtain ⟨transaction, current, seen⟩ := known
        refine ⟨transaction, ?_, seen⟩
        rw [← current]
        cases moves with
        | begin_ | mark | complete => exact quiet.elim
        | _ => rfl
    | persisted anchors => exact known.perform performed (moves.requests_same quiet.leavesRequests)
    | _ => trivial
  builds := by
    rintro candidates before reply after _ performed ⟨underway, _⟩
    refine ⟨trivial, ⟨underway.perform performed trivial, trivial⟩, ?_⟩
    rintro tree rfl
    exact performed.1.1
  submits := by
    rintro root before reply after performed ⟨underway, _⟩
    have kept := underway.perform performed trivial
    cases reply with
    | ok tx => exact ⟨trivial, kept, trivial⟩
    | error error => exact ⟨trivial, kept, trivial⟩
  stores := by
    rintro txHash proofCid car before reply after _ performed ⟨underway, _⟩
    have kept := underway.perform performed trivial
    cases reply with
    | ok _ => exact ⟨trivial, kept, trivial⟩
    | error error => exact ⟨trivial, kept, trivial⟩
  begins := by
    rintro proofCid car before reply after performed ⟨underway, _⟩
    have kept := underway.perform performed trivial
    refine ⟨trivial, ⟨kept, trivial⟩, ?_⟩
    rintro rfl
    have next : after.1 = { before.1 with
        transactions :=
        Function.update before.1.transactions thread (some ⟨before.1.requests, before.1.clock⟩) } :=
      performed.1
    refine ⟨kept, ⟨before.1.requests, before.1.clock⟩, ?_, ?_⟩
    · rw [next]
      exact Function.update_self _ _ _
    · rcases underway.either with held | stored
      · exact held.processing.present
      · exact stored.completed.present
  persists := by
    rintro proofCid car anchors acceptedRequests before reply after _ same performed ⟨underway, opened⟩
    have accepted : ∀ id ∈ requests.map Request.id, id ∈ acceptedRequests.map Request.id :=
      fun id member => (same.map Request.id).mem_iff.mpr member
    obtain ⟨kept, done⟩ := underway.persist opened accepted performed
    exact ⟨trivial, ⟨kept, trivial⟩, fun count ok => ⟨kept, done count ok⟩⟩

end Batch

section Verdict

variable {requests : List Request} {before after reached : World × List Happening}

/-- The batch has released its requests exactly when it could. -/
def Judged (formats : Formats) (thread : Nat) (requests : List Request)
    (reached : World × List Happening) : Prop :=
  reached.1.Released (requests.map Request.id) ↔ Releasable formats thread requests reached.2

/-- The requests of the failed batch are pending again. -/
structure Returned (formats : Formats) (thread : Nat) (requests : List Request)
    (reached : World × List Happening) : Prop where
  pending : reached.1.HasStatus (requests.map Request.id) .PENDING
  releasable : Releasable formats thread requests reached.2

theorem Returned.judged (returned : Returned formats thread requests reached) :
    Judged formats thread requests reached :=
  iff_of_true (returned.pending.released (.inl rfl)) returned.releasable

theorem Stored.judged (stored : Stored formats thread (requests.map Request.id) reached)
    (readable : ∀ request ∈ requests, request.Readable formats) (lookedUp : LookedUp reached.2) :
    Judged formats thread requests reached :=
  iff_of_true (stored.completed.released (.inr rfl)) ⟨readable, lookedUp, .inl stored.stored⟩

/-- A batch that was not given back is still processing, or its results are stored. -/
theorem Underway.withheld {op : WorldOp} {reply : Except Failure op.Reply} (nonempty : requests ≠ [])
    (readable : ∀ request ∈ requests, request.Readable formats)
    (underway : Underway formats thread (requests.map Request.id) before)
    (performed : (sparing formats thread (requests.map Request.id)).recorded.perform op before reply after)
    (same : after.1.requests = before.1.requests)
    (unstored : ¬ StoresResults formats thread ⟨op, before.1, reply, after.1⟩)
    (withholds : Withholds formats thread ⟨op, before.1, reply, after.1⟩) :
    Judged formats thread requests after := by
  rcases underway.either with held | stored
  · have processing := held.processing.same same
    refine iff_of_false (processing.not_released (by simpa using nonempty)) fun releasable => ?_
    rw [performed.2] at releasable
    rcases releasable.written with ⟨event, member, stores⟩ | kept
    · rcases List.mem_append.mp member with old | new
      · exact held.unstored event old stores
      · rw [List.mem_singleton.mp new] at stores
        exact unstored stores
    · exact kept _ (List.mem_append_right _ (List.mem_singleton_self _)) withholds
  · refine (stored.perform performed same).judged readable ?_
    rw [performed.2]
    exact underway.lookedUp.append _

/-- Requests that are set back are pending. -/
theorem Underway.returned {updatedAt : Int} {acceptedRequests : List Request}
    {reply : Except Failure Nat} {count : Nat}
    (readable : ∀ request ∈ requests, request.Readable formats) (accepted : acceptedRequests.Perm requests)
    (underway : Underway formats thread (requests.map Request.id) before)
    (performed : (sparing formats thread (requests.map Request.id)).recorded.perform
      (.updateRequests ⟨none, some .PENDING, none⟩ updatedAt (acceptedRequests.map Request.id))
      before reply after)
    (resolves : (WorldOp.updateRequests ⟨none, some .PENDING, none⟩ updatedAt
      (acceptedRequests.map Request.id)).Resolves formats thread before.1 count after.1) :
    Returned formats thread requests after := by
  have present : ∀ id ∈ requests.map Request.id, ∃ request ∈ before.1.requests.rows, request.id = id := by
    rcases underway.either with held | stored
    · exact held.processing.present
    · exact stored.completed.present
  refine ⟨?_, readable, ?_, ?_⟩
  · refine World.HasStatus.update (RequestUpdateFields.setsStatus rfl updatedAt)
      (fun request _ member => ?_) present (congrArg World.requests resolves.2)
    exact decide_eq_true ((accepted.map Request.id).mem_iff.mpr member)
  · rw [performed.2]
    exact underway.lookedUp.append _
  · rw [performed.2]
    rcases underway.either with held | stored
    · refine .inr fun event member => ?_
      rcases List.mem_append.mp member with old | new
      · exact held.kept event old
      · rw [List.mem_singleton.mp new]
        exact not_not.mpr ⟨count, resolves⟩
    · obtain ⟨event, member, stores⟩ := stored.stored
      exact .inl ⟨event, List.mem_append_left _ member, stores⟩

/-- The handler of a failed batch gives its requests back, or its write was withheld. -/
theorem giveBack_sat {service : AnchorService} (queueless : service.useQueueBatches = false)
    (nonempty : requests ≠ [])
    (readable : ∀ request ∈ requests, request.Readable formats) {acceptedRequests : List Request}
    (accepted : acceptedRequests.Perm requests)
    (underway : Underway formats thread (requests.map Request.id) reached) :
    Sat (sparing formats thread (requests.map Request.id)).recorded (fun _ _ _ _ => True)
      (fun _ => Returned formats thread requests) (fun _ => Judged formats thread requests)
      (service.giveBack acceptedRequests) reached := by
  unfold AnchorService.giveBack
  rw [if_neg (by simp [queueless])]
  refine sat_bind _ (sat_bind (fun _ => Underway formats thread (requests.map Request.id))
    (sat_call WorldOp.now ?_ ?_) ?_) fun _ _ returned => returned
  · intro before others time after performed
    have same : after.1.requests = before.1.requests := congrArg World.requests performed.1.2
    have kept := underway.rely others
    refine ⟨trivial, ?_, kept.either.imp (Held.perform performed same id id) (Stored.perform performed same)⟩
    rw [performed.2]
    exact kept.lookedUp.append _
  · intro before others error after performed
    have idle := WorldOp.perform_moves performed.1
    refine ⟨trivial, (underway.rely others).withheld nonempty readable performed ?_ id trivial⟩
    generalize after.1 = next at idle
    cases idle
    rfl
  · intro updatedAt read still
    refine sat_call (WorldOp.updateRequests _ updatedAt _) ?_ ?_
    · intro before others count after performed
      exact ⟨trivial, (still.rely others).returned readable accepted performed performed.1⟩
    · intro before others error after performed
      refine ⟨trivial, ?_⟩
      by_cases withholds : Withholds formats thread
          ⟨.updateRequests ⟨none, some .PENDING, none⟩ updatedAt (acceptedRequests.map Request.id), before.1,
            .error error, after.1⟩
      · refine (still.rely others).withheld nonempty readable performed ?_ id withholds
        match error, performed.1 with
        | .rejected _, .inl same => exact congrArg World.requests same
        | .rejected _, .inr ⟨count, resolves⟩ => exact absurd ⟨count, resolves⟩ withholds
        | .serialization, ⟨_, same⟩ => exact congrArg World.requests same
        | .thrown _, ⟨_, same⟩ => exact congrArg World.requests same
      · obtain ⟨count, resolves⟩ := not_not.mp withholds
        exact ((still.rely others).returned readable accepted performed resolves).judged

theorem Returned.rely (others : (sparing formats thread (requests.map Request.id)).recorded.rely before after)
    (returned : Returned formats thread requests before) : Returned formats thread requests after := by
  refine ⟨others.1.spares _ returned.pending, ?_⟩
  rw [others.2]
  exact returned.releasable

theorem Returned.perform {op : WorldOp} {reply : Except Failure op.Reply} (leaves : op.LeavesRequests)
    (performed : (sparing formats thread (requests.map Request.id)).recorded.perform op before reply after)
    (returned : Returned formats thread requests before) : Returned formats thread requests after := by
  obtain ⟨readable, lookedUp, written⟩ := returned.releasable
  refine ⟨returned.pending.same ((WorldOp.perform_moves performed.1).requests_same leaves), readable, ?_, ?_⟩
  · rw [performed.2]
    exact lookedUp.append _
  · rw [performed.2]
    rcases written with ⟨event, member, stores⟩ | kept
    · exact .inl ⟨event, List.mem_append_left _ member, stores⟩
    · refine .inr fun event member => ?_
      rcases List.mem_append.mp member with old | new
      · exact kept event old
      · rw [List.mem_singleton.mp new]
        exact leaves.not_withholds

/-- The handler reports, and then it rejects again. -/
theorem report_sat {error : Failure} (returned : Returned formats thread requests reached) :
    Sat (sparing formats thread (requests.map Request.id)).recorded (fun _ _ _ _ => True)
    (fun (_ : Unit) _ => False)
      (fun _ => Judged formats thread requests)
      (do
        AnchorService.logAnchorSummary
        throw error) reached := by
  have summary : Sat (sparing formats thread (requests.map Request.id)).recorded (fun _ _ _ _ => True)
      (fun _ => Returned formats thread requests) (fun _ => Returned formats thread requests)
      AnchorService.logAnchorSummary reached :=
    sat_keeps _ AnchorService.logAnchorSummary_quiet Returned.rely
      (fun op quiet before reply after performed held =>
        ⟨trivial, held.perform quiet.leavesRequests performed⟩) returned
  refine sat_bind (fun _ => Returned formats thread requests) ?_ fun _ _ still => still.judged
  exact sat_results summary (fun _ _ held => held) fun _ _ held => held.judged

end Verdict

section Candidates

theorem buildCandidate_cases (request : Request) :
    (request.Readable formats ∧ ∃ candidate, AnchorService.buildCandidate formats request = .done candidate) ∨
    (¬ request.Readable formats ∧ ∃ error, AnchorService.buildCandidate formats request = .fail error) := by
  unfold AnchorService.buildCandidate
  split
  · next unreadable =>
      refine .inr ⟨?_, _, rfl⟩
      rintro ⟨⟨streamId, parsed⟩, _⟩
      rw [unreadable] at parsed
      cases parsed
  · next streamId parsedStream =>
      split
      · next empty => exact .inr ⟨fun readable => readable.2.1 empty, _, rfl⟩
      · next present =>
          split
          · next unreadable =>
              refine .inr ⟨?_, _, rfl⟩
              rintro ⟨_, _, cid, parsed⟩
              rw [unreadable] at parsed
              cases parsed
          · next cid parsedCid => exact .inl ⟨⟨⟨streamId, parsedStream⟩, present, cid, parsedCid⟩, _, rfl⟩

/-- The candidates are built exactly when all identifiers can be read. -/
theorem buildCandidates_cases (requests : List Request) :
    ((∀ request ∈ requests, request.Readable formats) ∧
      ∃ candidates, AnchorService.buildCandidates formats requests = .done candidates) ∨
    ((¬ ∀ request ∈ requests, request.Readable formats) ∧
      ∃ error, AnchorService.buildCandidates formats requests = .fail error) := by
  have all : ((∀ request ∈ requests, request.Readable formats) ∧
      ∃ candidates, requests.mapM (AnchorService.buildCandidate formats) = .done candidates) ∨
    ((¬ ∀ request ∈ requests, request.Readable formats) ∧
      ∃ error, requests.mapM (AnchorService.buildCandidate formats) = .fail error) := by
    induction requests with
    | nil => exact .inl ⟨by simp, [], rfl⟩
    | cons request rest ih =>
        rw [List.mapM_cons, List.forall_mem_cons]
        rcases buildCandidate_cases request with ⟨readable, candidate, built⟩ | ⟨unreadable, error, failed⟩
        · rw [built, done_bind]
          rcases ih with ⟨others, candidates, builtRest⟩ | ⟨others, error, failed⟩
          · rw [builtRest]
            exact .inl ⟨⟨readable, others⟩, candidate :: candidates, rfl⟩
          · rw [failed]
            exact .inr ⟨fun readable => others readable.2, error, rfl⟩
        · rw [failed]
          exact .inr ⟨fun readable => unreadable readable.1, error, rfl⟩
  unfold AnchorService.buildCandidates
  rcases all with ⟨readable, candidates, built⟩ | ⟨unreadable, error, failed⟩
  · rw [built]
    exact .inl ⟨readable, _, rfl⟩
  · rw [failed]
    exact .inr ⟨unreadable, error, rfl⟩

variable {requests : List Request}

/-- A batch whose candidates were not found is still processing. -/
theorem findCandidates_sat (nonempty : requests ≠ [])
    (processing : world.HasStatus (requests.map Request.id) .PROCESSING)
    (candidateLimit : Nat) :
    Sat (sparing formats thread (requests.map Request.id)).recorded (fun _ _ _ _ => True)
      (fun _ reached => (∀ request ∈ requests, request.Readable formats) ∧
        Underway formats thread (requests.map Request.id) reached)
      (fun _ => Judged formats thread requests) (AnchorService.findCandidates formats requests candidateLimit)
      (world, []) := by
  have nonemptyIds : requests.map Request.id ≠ [] := by simpa using nonempty
  unfold AnchorService.findCandidates
  rcases buildCandidates_cases requests with ⟨readable, candidates, built⟩ | ⟨unreadable, error, failed⟩
  · rw [built, done_bind]
    unfold AnchorService.loadCandidateStreams
    refine sat_bind (fun _ reached => Underway formats thread (requests.map Request.id) reached)
      (sat_bind (fun _ reached => Underway formats thread (requests.map Request.id) reached) ?_
        fun _ _ underway => underway) fun _ _ underway => ⟨readable, underway⟩
    refine sat_recorded_call (WorldOp.findAnchors _) ?_ ?_
    · intro before others found after performed
      have kept : after.requests = before.requests := congrArg World.requests performed.2
      refine ⟨trivial, ⟨_, before, found, after, [], rfl⟩,
        .inl ⟨(others.spares _ processing).same kept, ?_, ?_⟩⟩
      · intro event member
        rw [List.mem_singleton.mp member]
        exact id
      · intro event member
        rw [List.mem_singleton.mp member]
        exact id
    · intro before others error after performed
      have moves : before.Moves formats thread (.findAnchors _) after := WorldOp.perform_moves performed
      have kept := moves.requests_same trivial
      have still := (others.spares _ processing).same kept
      refine ⟨trivial, iff_of_false (still.not_released nonemptyIds) fun releasable => ?_⟩
      obtain ⟨ids, before, found, after, rest, same⟩ := releasable.lookedUp
      simp at same
  · rw [failed]
    exact iff_of_false (processing.not_released nonemptyIds) fun releasable => unreadable releasable.readable

end Candidates

section Rejection

variable {requests : List Request} {service : AnchorService}

/-- A batch that rejects is judged, and one that returns has stored its results. -/
theorem anchorRequestsOf_judged (queueless : service.useQueueBatches = false) (nonempty : requests ≠ [])
    (claimed : ∀ request ∈ requests, request.status = .PROCESSING)
    (processing : world.HasStatus (requests.map Request.id) .PROCESSING) (fuel : Nat) :
    Sat (sparing formats thread (requests.map Request.id)).recorded (fun _ _ _ _ => True)
      (fun _ reached => (∀ request ∈ requests, request.Readable formats) ∧ LookedUp reached.2 ∧
        Stored formats thread (requests.map Request.id) reached)
      (fun _ => Judged formats thread requests) (service.anchorRequestsOf formats fuel requests)
      (world, []) := by
  have filtered : (requests.filter fun request => request.status ≠ .REPLACED) = requests := by
    apply List.filter_eq_self.mpr
    intro request member
    simp [claimed request member]
  unfold AnchorService.anchorRequestsOf
  dsimp only
  rw [filtered, if_neg (by simpa using nonempty)]
  refine sat_bind _ (sat_returns (findCandidates_sat nonempty processing _) (findCandidates_returns _ _)) ?_
  rintro ⟨candidates, groupedRequests⟩ found ⟨⟨readable, underway⟩, selected⟩
  dsimp only at selected ⊢
  have some_ : candidates.length ≠ 0 := by
    have same := selected.requests.length_eq
    rw [List.length_map] at same
    rw [same]
    simpa using nonempty
  rw [if_neg some_]
  let outline := releasing formats thread requests
  have summary : ∀ {stage : Stage} {reached : World × List Happening}, outline.holds stage reached →
      Sat (sparing formats thread (requests.map Request.id)).recorded (fun _ _ _ _ => True)
        (fun _ => outline.holds stage) (fun _ => outline.holds .failed)
        AnchorService.logAnchorSummary reached :=
    fun kept => outline.quiet_sat AnchorService.logAnchorSummary_quiet kept
  refine sat_handle (fun _ => outline.holds .failed) ?_ ?_
  · refine sat_bind _ (outline.anchorCandidates_sat selected fuel ⟨underway, trivial⟩) ?_
    rintro _ reached ⟨proofCid, car, anchors, complete, persisted⟩
    exact sat_results (summary persisted)
      (fun _ _ still => ⟨readable, still.1.lookedUp, still.2⟩) fun _ _ failed => failed
  · intro error reached failed
    refine sat_bind _ (giveBack_sat queueless nonempty readable selected.requests failed.1) ?_
    intro _ back returned
    exact sat_results (report_sat returned) (fun _ _ absurd_ => absurd_.elim) fun _ _ held => held

/-- What a worker does after it has claimed its batch. -/
def afterClaim (service : AnchorService) (formats : Formats) (fuel : Nat) (requests : List Request) :
    Code Unit := do
  service.anchorRequestsOf formats fuel requests
  Prog.call (WorldOp.sleep 5000)

/-- A batch that rejects has released what it claimed exactly when it reached its guarded part, and it
stored its results or could set its requests back. -/
theorem failed_batch_releases_iff (queueless : service.useQueueBatches = false) {fuel : Nat}
    {start claimed last : World} {earlier trace : List Happening} {error : Failure}
    (claims : Path (worker formats thread) (claimBatch service.maxStreamLimit) start earlier
      (.done requests) claimed)
    (rejects :
      Path (sparing formats thread (requests.map Request.id)) (afterClaim service formats fuel requests)
      claimed trace (.fail error) last) :
    last.Released (requests.map Request.id) ↔ requests = [] ∨ Releasable formats thread requests trace := by
  by_cases empty : requests = []
  · subst empty
    exact iff_of_true (fun _ member => by cases member) (.inl rfl)
  · rw [or_iff_right empty]
    obtain ⟨processing, statuses⟩ := claimBatch_path claims
    have judged : Sat (sparing formats thread (requests.map Request.id)).recorded (fun _ _ _ _ => True)
        (fun _ _ => True) (fun _ => Judged formats thread requests) (afterClaim service formats fuel requests)
        (claimed, []) := by
      refine sat_bind _ (anchorRequestsOf_judged queueless empty statuses processing fuel) ?_
      rintro _ reached ⟨readable, lookedUp, stored⟩
      refine sat_call (WorldOp.sleep 5000) (fun _ _ _ _ _ => ⟨trivial, trivial⟩) ?_
      intro before others error after performed
      have moves : before.1.Moves formats thread (.sleep 5000) after.1 := WorldOp.perform_moves performed.1
      have same := moves.requests_same trivial
      refine ⟨trivial, ((stored.rely others).perform performed same).judged readable ?_⟩
      rw [performed.2, others.2]
      exact lookedUp.append _
    exact (sat_recorded_path rejects [] judged).2

end Rejection

section Runs

/-- The worker has claimed the lone request. -/
def processingRequest : Request := loneRequest .PROCESSING "Request is pending."

theorem lone_claim : ∃ earlier claimed, Path (worker loneFormats 1) (claimBatch loneWorker.maxStreamLimit)
    (loneWorld .READY .empty) earlier (.done [processingRequest]) claimed ∧
      claimed.requests.rows = [processingRequest] ∧ claimed.anchors = .empty := by
  have ready : [loneRequest .READY "Request is pending."].Perm
      ((loneWorld .READY .empty).requests.rows.filter fun request => request.status = .READY) := .refl _
  apply Exists.intro
  apply Exists.intro
  constructor
  · apply Path.reply (worker loneFormats 1) (WorldOp.selectReady 0) (.ok ["1"])
    · exact ⟨_, ready, rfl, rfl⟩
    apply Path.reply (worker loneFormats 1) (WorldOp.claim ["1"]) (.ok [processingRequest])
    · exact ⟨_, rfl, .refl _, rfl⟩
    exact .stop _ _
  · exact ⟨rfl, rfl⟩

/-- The lookup of the anchors fails after the claim, and the request stays claimed. -/
theorem claim_leaks : ¬ ∀ (formats : Formats) (thread : Nat) (service : AnchorService) (fuel : Nat)
    (start claimed last : World) (earlier trace : List Happening) (requests : List Request) (error : Failure),
      service.useQueueBatches = false →
      Path (worker formats thread) (claimBatch service.maxStreamLimit) start earlier (.done requests)
      claimed →
      Path (sparing formats thread (requests.map Request.id)) (afterClaim service formats fuel requests)
      claimed trace
        (.fail error) last → last.Released (requests.map Request.id) := by
  intro releases
  obtain ⟨earlier, claimed, claims, rows, _⟩ := lone_claim
  have rejects :
      Path (sparing loneFormats 1 ["1"]) (afterClaim loneWorker loneFormats 1 [processingRequest]) claimed
      [⟨.findAnchors ["1"], claimed, .error (.rejected "connection lost"), claimed⟩]
      (.fail (.rejected "connection lost")) claimed := by
    apply Path.reply (sparing loneFormats 1 ["1"]) (WorldOp.findAnchors ["1"])
      (.error (.rejected "connection lost"))
    · exact .inl rfl
    exact .stop _ _
  obtain ⟨request, inside, _, final⟩ := releases _ _ _ _ _ _ _ _ _ _ _ rfl claims rejects "1" (.head _)
  rw [rows, List.mem_singleton] at inside
  subst inside
  exact absurd final (by decide)

/-- The tree cannot be built, and the handler sets the request back. -/
theorem failed_batch_releases_lone : ∃ claimed last trace, Path (sparing loneFormats 1 ["1"])
    (afterClaim loneWorker loneFormats 1 [processingRequest]) claimed trace
      (.fail (.thrown "Merkle tree cannot be created")) last ∧ last.Released ["1"] := by
  obtain ⟨earlier, claimed, claims, rows, anchors⟩ := lone_claim
  have found : [].Perm (claimed.anchors.rows.filter fun anchor => anchor.requestId ∈ ["1"]) := by
    rw [anchors]
    exact .refl _
  have rejects : ∃ last trace, Path (sparing loneFormats 1 ["1"])
      (afterClaim loneWorker loneFormats 1 [processingRequest]) claimed trace
        (.fail (.thrown "Merkle tree cannot be created")) last ∧ LookedUp trace ∧
      ∀ event ∈ trace, ¬ Withholds loneFormats 1 event := by
    apply Exists.intro
    apply Exists.intro
    constructor
    · apply Path.reply (sparing loneFormats 1 ["1"]) (WorldOp.findAnchors ["1"]) (.ok [])
      · exact ⟨found, rfl⟩
      apply Path.reply (sparing loneFormats 1 ["1"]) (WorldOp.buildMerkleTree _)
        (.error (.rejected "out of memory"))
      · exact .inl rfl
      apply Path.reply (sparing loneFormats 1 ["1"]) WorldOp.now (.ok claimed.clock)
      · exact ⟨rfl, rfl⟩
      apply Path.reply (sparing loneFormats 1 ["1"])
        (WorldOp.updateRequests ⟨none, some .PENDING, none⟩ _ ["1"]) (.ok _)
      · exact ⟨rfl, rfl⟩
      apply Path.reply (sparing loneFormats 1 ["1"]) (WorldOp.countByStatus .PENDING) (.ok _)
      · exact ⟨rfl, rfl⟩
      exact .stop _ _
    · refine ⟨⟨_, _, _, _, _, rfl⟩, ?_⟩
      refine List.forall_mem_cons.mpr ⟨id, List.forall_mem_cons.mpr ⟨id, List.forall_mem_cons.mpr ⟨id, ?_⟩⟩⟩
      exact List.forall_mem_cons.mpr
        ⟨not_not.mpr ⟨_, rfl, rfl⟩, List.forall_mem_cons.mpr ⟨id, by rintro _ ⟨⟩⟩⟩
  obtain ⟨last, trace, path, lookedUp, kept⟩ := rejects
  refine ⟨claimed, last, trace, path,
    (failed_batch_releases_iff rfl claims path).mpr (.inr ⟨?_, lookedUp, .inr kept⟩)⟩
  intro request member
  obtain rfl := List.mem_singleton.mp member
  exact ⟨⟨_, rfl⟩, by decide, _, rfl⟩

end Runs

end CeramicAnchor
