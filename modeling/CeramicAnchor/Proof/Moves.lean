import CeramicAnchor.Proof.Confinement
import CeramicAnchor.Proof.RequestTransactions

/-
This file says once what each operation can do to the world.
-/

namespace CeramicAnchor
open Concurrency Storage RequestRepository

/-- Two versions of one request agree in all that no operation writes. -/
structure Request.Same (first second : Request) : Prop where
  id : first.id = second.id
  cid : first.cid = second.cid
  streamId : first.streamId = second.streamId
  origin : first.origin = second.origin
  timestamp : first.timestamp = second.timestamp

theorem Request.Same.refl (request : Request) : request.Same request := ⟨rfl, rfl, rfl, rfl, rfl⟩

theorem Request.Same.trans {first second third : Request} (head : first.Same second)
    (tail : second.Same third) : first.Same third :=
  ⟨head.id.trans tail.id, head.cid.trans tail.cid, head.streamId.trans tail.streamId,
    head.origin.trans tail.origin, head.timestamp.trans tail.timestamp⟩

theorem Request.Same.inGroup {first second : Request} (same : first.Same second) {origin : Option String}
    {streamId : String} (inside : second.InGroup origin streamId) : first.InGroup origin streamId :=
  ⟨same.origin.trans inside.1, same.streamId.trans inside.2⟩

/-- The edit moves a request to one status. -/
structure SetsStatus (edit : RequestEdit) (status : RequestStatus) : Prop where
  moved : ∀ request, (edit.apply request).status = status
  same : ∀ request, (edit.apply request).Same request

theorem RequestUpdateFields.setsStatus {fields : RequestUpdateFields} {status : RequestStatus}
    (given : fields.status = some status) (updatedAt : Int) : SetsStatus (fields.edit updatedAt) status where
  moved request := by simp [edit, given]
  same request := ⟨rfl, rfl, rfl, rfl, rfl⟩

theorem claimEdit_setsStatus : SetsStatus claimEdit .PROCESSING :=
  ⟨fun _ => rfl, fun _ => ⟨rfl, rfl, rfl, rfl, rfl⟩⟩

theorem replacedEdit_setsStatus (cid : String) : SetsStatus (replacedEdit cid) .REPLACED :=
  ⟨fun _ => rfl, fun _ => ⟨rfl, rfl, rfl, rfl, rfl⟩⟩

section Updates

variable {table : RequestTable} {chosen : Request → Bool} {edit : RequestEdit} {status : RequestStatus}
  {row : Request}

/-- A row of an updated table was moved, or it is as before. -/
theorem SetsStatus.cases (sets : SetsStatus edit status) (member : row ∈ (table.update chosen edit).rows) :
    ∃ old ∈ table.rows, row.Same old ∧
      ((chosen old = true ∧ row = edit.apply old ∧ row.status = status) ∨
        (chosen old = false ∧ row = old)) := by
  obtain ⟨old, inTable, rfl⟩ := Table.mem_update.mp member
  refine ⟨old, inTable, ?_⟩
  cases picked : chosen old with
  | true => exact ⟨sets.same old, .inl ⟨rfl, rfl, sets.moved old⟩⟩
  | false => exact ⟨.refl old, .inr ⟨rfl, rfl⟩⟩

/-- An update keeps each row in some version. -/
theorem SetsStatus.keeps (sets : SetsStatus edit status) (chosen : Request → Bool)
    (member : row ∈ table.rows) :
    ∃ later ∈ (table.update chosen edit).rows, later.Same row ∧ (later = row ∨ later.status = status) := by
  refine ⟨_, Table.mem_update.mpr ⟨row, member, rfl⟩, ?_⟩
  split
  · exact ⟨sets.same row, .inr (sets.moved row)⟩
  · exact ⟨.refl row, .inl rfl⟩

/-- A row with another status was not moved. -/
theorem SetsStatus.unmoved (sets : SetsStatus edit status) (member : row ∈ (table.update chosen edit).rows)
    (different : row.status ≠ status) : row ∈ table.rows ∧ chosen row = false := by
  obtain ⟨old, inTable, _, ⟨_, _, moved⟩ | ⟨skipped, rfl⟩⟩ := sets.cases member
  · exact absurd moved different
  · exact ⟨inTable, skipped⟩

end Updates

/-- The status that the transaction writes. -/
def RequestTransaction.target : RequestTransaction → RequestStatus
  | .markReady _ _ _ _ => .READY
  | .refreshReady _ => .READY
  | .markAsProcessing => .PROCESSING

theorem RequestTransaction.target_cases (transaction : RequestTransaction) :
    transaction.target = .READY ∨ transaction.target = .PROCESSING := by
  cases transaction with
  | markReady => exact .inl rfl
  | refreshReady => exact .inl rfl
  | markAsProcessing => exact .inr rfl

/-- The rows that the transaction may write. -/
def RequestTransaction.Takes : RequestTransaction → Request → Prop
  | .markReady _ _ _ now, request => findRequestsToAnchor now request = true
  | .refreshReady _, request => request.status = .READY
  | .markAsProcessing, request => request.status = .READY

/-- A committed transaction has written its rows with one stamp, as its snapshot has them. -/
structure World.Wrote (world : World) (thread : Nat) (fields : RequestUpdateFields) (stamp : Int)
    (marked : List String) (requests : RequestTable) : Prop where
  opened : ∃ transaction, world.transactions thread = some transaction ∧ transaction.began ≤ stamp ∧
    ∀ request ∈ world.requests.rows, request.id ∈ marked → request ∈ transaction.snapshot.rows
  passed : stamp ≤ world.clock
  written : requests = world.requests.update (fun request => request.id ∈ marked) (fields.edit stamp)

/-- Pending edits of distinct rows are written as one update. -/
theorem World.wrote {world : World} {thread : Nat} {transaction : OpenTransaction}
    {requests : RequestTable} {pending : Pending Request String requestColumns}
    {fields : RequestUpdateFields} {stamp : Int} {targets : List String}
    (opened : world.transactions thread = some transaction) (later : transaction.began ≤ stamp)
    (passed : stamp ≤ world.clock) (distinct : targets.Nodup)
    (edits : pending = targets.map fun target => (target, fields.edit stamp))
    (commit : CommitsSnapshot Request.id transaction.snapshot world.requests pending requests) :
    world.Wrote thread fields stamp targets requests := by
  have keys : pending.map Prod.fst = targets := by
    rw [edits, List.map_map]
    exact List.map_id targets
  refine ⟨⟨transaction, opened, later, fun request member edited => ?_⟩, passed, ?_⟩
  · rw [← keys] at edited
    exact commit.mem_snapshot id_indexed member edited
  · rw [commit.published, edits]
    exact Table.publish_map distinct world.requests (fields.edit stamp)

/-- A transaction whose body marks rows has written only rows of its kind. -/
theorem World.Committed.of_marks {A : Type} {world : World} {thread : Nat} {body : RequestBody A} {value : A}
    {requests : RequestTable} {fields : RequestUpdateFields} {allowed : Request → Prop}
    (committed : world.Committed thread body value requests)
    (marks : ∀ snapshot earliest last, Evaluates Request.id snapshot earliest body value last →
      ∃ marked, Marks snapshot fields allowed earliest marked last) :
    ∃ stamp marked, world.Wrote thread fields stamp marked requests ∧
      ∀ request ∈ world.requests.rows, request.id ∈ marked → allowed request := by
  obtain ⟨transaction, last, opened, evaluates, passed, commit⟩ := committed.exists_
  obtain ⟨rows, inside, distinct, stamp, targets, later, early, permuted, pending⟩ := marks _ _ _ evaluates
  have nodup : targets.Nodup := permuted.nodup_iff.mpr distinct
  have wrote := World.wrote opened later (Int.le_trans early passed) nodup pending commit
  refine ⟨stamp, targets, wrote, fun request member edited => ?_⟩
  obtain ⟨row, inRows, same⟩ := List.mem_map.mp (permuted.mem_iff.mp edited)
  have inSnapshot : request ∈ transaction.snapshot.rows := by
    apply commit.mem_snapshot id_indexed member
    rw [pending, List.map_map]
    exact List.mem_map.mpr ⟨request.id, edited, rfl⟩
  rw [← Table.eq_of_column id_indexed (inside row inRows).1 inSnapshot same]
  exact (inside row inRows).2.2

/-- Each transaction of the repository writes its status to the rows that it may take. -/
theorem World.Committed.transaction {world : World} {thread : Nat} {transaction : RequestTransaction}
    {value : transaction.Result} {requests : RequestTable}
    (committed : world.Committed thread transaction.body value requests) :
    ∃ stamp marked, world.Wrote thread ⟨none, some transaction.target, none⟩ stamp marked requests ∧
      ∀ request ∈ world.requests.rows, request.id ∈ marked → transaction.Takes request := by
  cases transaction with
  | markReady maxStreamLimit minStreamLimit anchoringDeadline now =>
      apply committed.of_marks
      intro snapshot earliest last evaluates
      exact ⟨_, evaluates.spec (markReady_sat maxStreamLimit minStreamLimit anchoringDeadline now earliest)⟩
  | refreshReady readyRetryIntervalMS =>
      apply committed.of_marks
      intro snapshot earliest last evaluates
      exact evaluates.spec (refreshReady_sat readyRetryIntervalMS earliest)
  | markAsProcessing =>
      apply committed.of_marks
      intro snapshot earliest last evaluates
      exact ⟨_, evaluates.spec (markAsProcessing_sat earliest)⟩

/-- The stored results complete only the accepted requests. -/
theorem World.Committed.persist {world : World} {thread : Nat} {acceptedRequests : List Request} {count : Nat}
    {requests : RequestTable}
    (committed : world.Committed thread (persistRequests acceptedRequests) count requests) :
    ∃ stamp marked, world.Wrote thread ⟨some "CID successfully anchored.", some .COMPLETED, some true⟩
        stamp marked requests ∧
      ∀ id ∈ marked, id ∈ acceptedRequests.map Request.id := by
  obtain ⟨transaction, last, opened, evaluates, passed, commit⟩ := committed.exists_
  obtain ⟨stamp, targets, _, _, writes⟩ := evaluates.spec
    (updateRequests_writes (.fresh transaction.began) _ acceptedRequests)
  have distinct : targets.Nodup := by
    rw [writes.found.nodup_iff]
    exact (transaction.snapshot.distinct Request.id id_indexed).filter _
  refine ⟨stamp, targets, World.wrote opened writes.later (Int.le_trans writes.passed passed) distinct
    writes.pending commit, fun id member => ?_⟩
  have found := writes.found.mem_iff.mp member
  exact of_decide_eq_true (List.mem_filter.mp found).2

/-- These are the moves of the world, one for each operation that changes it. -/
inductive World.Moves (formats : Formats) (thread : Nat) (world : World) : WorldOp → World → Prop where
  | idle (op : WorldOp) : Moves formats thread world op world
  | insert {request : NewRequest} {id : String}
      (fresh : ∀ column ∈ requestColumns, ∀ old ∈ world.requests.rows,
        column old ≠ column (request.stored id world.clock)) :
      Moves formats thread world (.insertRequest request) { world with
        requests := world.requests.insert (request.stored id world.clock) fresh
        history := world.history.insert thread (request.stored id world.clock) }
  | replace {origin : Option String} {streamId cid : String} {ordered : List Request}
      (permuted : ordered.Perm (world.requests.rows.filter fun request =>
        request.InGroup origin streamId ∧ request.status = .PENDING))
      (sorted : ordered.Pairwise fun first second => second.timestamp ≤ first.timestamp) :
      Moves formats thread world (.markReplaced origin streamId cid) { world with
        requests := world.requests.update (fun request => request.id ∈ (ordered.drop 1).map Request.id)
          (replacedEdit cid)
        history := world.history.replace world.requests origin streamId cid }
  | revert {fields : RequestUpdateFields} {updatedAt : Int} {ids : List String} :
      Moves formats thread world (.updateRequests fields updatedAt ids) { world with
        requests := world.requests.update (fun request => request.id ∈ ids) (fields.edit updatedAt)
        history := world.history.revert thread ids }
  | claim {ids : List String} {requests : RequestTable}
      (claimed : requests = world.requests.update (fun request => request.id ∈ ids) claimEdit) :
      Moves formats thread world (.claim ids) { world with
        requests := requests
        history := world.history.claim world.requests requests world.clock .batchProcessing thread }
  | begin_ : Moves formats thread world .begin { world with
      transactions := Function.update world.transactions thread (some ⟨world.requests, world.clock⟩) }
  | mark {transaction : RequestTransaction} {stamp : Int} {marked : List String} {requests : RequestTable}
      (wrote : world.Wrote thread ⟨none, some transaction.target, none⟩ stamp marked requests)
      (takes : ∀ request ∈ world.requests.rows, request.id ∈ marked → transaction.Takes request) :
      Moves formats thread world (.commit transaction) { world.closeTransaction thread with
        requests := requests
        history := world.history.claim world.requests requests world.clock .findAndMarkAsProcessing thread }
  | complete {anchors : List FreshAnchor} {acceptedRequests : List Request} {stamp : Int}
      {marked : List String} {requests : RequestTable}
      (wrote : world.Wrote thread ⟨some "CID successfully anchored.", some .COMPLETED, some true⟩ stamp
        marked requests)
      (accepted : ∀ id ∈ marked, id ∈ acceptedRequests.map Request.id) :
      Moves formats thread world (.persist anchors acceptedRequests) { world.closeTransaction thread with
        requests := requests
        anchors := createAnchors world.anchors anchors }
  | publish {message : RequestQMessage} :
      Moves formats thread world (.sendMessage message)
        { world with published := world.published ++ [message] }
  | submit {root hash : Cid} (fresh : ∀ entry ∈ world.ledger, entry.2 ≠ hash) :
      Moves formats thread world (.sendTransaction root)
        { world with ledger := world.ledger ++ [(thread, hash)] }
  | storeCar {anchorProofCid : Cid} {car : Car} :
      Moves formats thread world (.storeCarFile anchorProofCid car)
        { world with merkleCars := Function.update world.merkleCars anchorProofCid (some car) }
  | storeWitness {anchorCommitCid : Cid} {car : Car} :
      Moves formats thread world (.storeWitness anchorCommitCid car)
        { world with witnessCars := Function.update world.witnessCars anchorCommitCid (some car) }

/-- No operation removes a request or changes what identifies it. -/
theorem World.Moves.keeps {formats : Formats} {thread : Nat} {op : WorldOp} {world next : World}
    (moves : world.Moves formats thread op next) {request : Request}
    (member : request ∈ world.requests.rows) :
    ∃ later ∈ next.requests.rows, later.Same request := by
  have updated : ∀ (chosen : Request → Bool) (edit : RequestEdit),
      (∀ row, (edit.apply row).Same row) →
      ∃ later ∈ (world.requests.update chosen edit).rows, later.Same request := by
    intro chosen edit same
    refine ⟨_, Table.mem_update.mpr ⟨request, member, rfl⟩, ?_⟩
    split
    · exact same request
    · exact .refl request
  cases moves with
  | insert fresh => exact ⟨request, Table.subset_insert _ _ fresh member, .refl request⟩
  | @replace origin streamId cid ordered permuted sorted =>
      exact updated _ _ (replacedEdit_setsStatus cid).same
  | revert => exact updated _ _ fun _ => ⟨rfl, rfl, rfl, rfl, rfl⟩
  | claim claimed =>
      subst claimed
      exact updated _ _ claimEdit_setsStatus.same
  | mark wrote takes =>
      obtain rfl := wrote.written
      exact updated _ _ fun _ => ⟨rfl, rfl, rfl, rfl, rfl⟩
  | complete wrote accepted =>
      obtain rfl := wrote.written
      exact updated _ _ fun _ => ⟨rfl, rfl, rfl, rfl, rfl⟩
  | _ => exact ⟨request, member, .refl request⟩

section Anchors

variable {anchors : AnchorTable} {fresh : List FreshAnchor}

/-- A stored anchor is never replaced. -/
theorem createAnchors_subset {row : FreshAnchor} (member : row ∈ anchors.rows) :
    row ∈ (createAnchors anchors fresh).rows := by
  induction fresh generalizing anchors with
  | nil => exact member
  | cons anchor rest ih =>
      unfold createAnchors
      split
      · exact ih (Table.subset_insert _ _ _ member)
      · exact ih member

theorem createAnchors_cases {row : FreshAnchor} (member : row ∈ (createAnchors anchors fresh).rows) :
    row ∈ anchors.rows ∨ row ∈ fresh := by
  induction fresh generalizing anchors with
  | nil => exact .inl member
  | cons anchor rest ih =>
      unfold createAnchors at member
      split at member
      · rcases ih member with inserted | below
        · rcases (Table.mem_insert _ _ _).mp inserted with old | rfl
          · exact .inl old
          · exact .inr List.mem_cons_self
        · exact .inr (List.mem_cons_of_mem _ below)
      · rcases ih member with old | below
        · exact .inl old
        · exact .inr (List.mem_cons_of_mem _ below)

/-- Each request of the new anchors has an anchor afterwards. -/
theorem createAnchors_covers {anchor : FreshAnchor} (member : anchor ∈ fresh) :
    ∃ row ∈ (createAnchors anchors fresh).rows, row.requestId = anchor.requestId := by
  induction fresh generalizing anchors with
  | nil => cases member
  | cons first rest ih =>
      unfold createAnchors
      rcases List.mem_cons.mp member with rfl | below
      · split
        · rename_i fresh
          exact ⟨anchor, createAnchors_subset ((Table.mem_insert _ _ _).mpr (.inr rfl)), rfl⟩
        · rename_i known
          push Not at known
          obtain ⟨row, inside, same⟩ := known
          exact ⟨row, createAnchors_subset inside, same⟩
      · split
        · exact ih below
        · exact ih below

end Anchors

/-- Requests, anchors and messages are never lost. -/
structure World.Extends (world next : World) : Prop where
  requests : ∀ request ∈ world.requests.rows, ∃ later ∈ next.requests.rows, later.Same request
  anchors : ∀ anchor ∈ world.anchors.rows, anchor ∈ next.anchors.rows
  published : ∀ message ∈ world.published, message ∈ next.published

theorem World.Extends.refl (world : World) : world.Extends world :=
  ⟨fun request member => ⟨request, member, .refl request⟩, fun _ member => member, fun _ member => member⟩

theorem World.Extends.trans {first second third : World} (head : first.Extends second)
    (tail : second.Extends third) : first.Extends third where
  requests request member := by
    obtain ⟨middle, inSecond, same⟩ := head.requests request member
    obtain ⟨later, inThird, sameLater⟩ := tail.requests middle inSecond
    exact ⟨later, inThird, sameLater.trans same⟩
  anchors anchor member := tail.anchors anchor (head.anchors anchor member)
  published message member := tail.published message (head.published message member)

theorem World.Drifts.extends {world next : World} (drifts : world.Drifts next) : world.Extends next := by
  obtain ⟨later, _, rfl⟩ := drifts
  exact ⟨fun request member => ⟨request, member, .refl request⟩, fun _ member => member, fun _ member =>
    member⟩

theorem World.Moves.extends {formats : Formats} {thread : Nat} {op : WorldOp} {world next : World}
    (moves : world.Moves formats thread op next) : world.Extends next where
  requests request member := moves.keeps member
  anchors anchor member := by
    cases moves with
    | complete => exact createAnchors_subset member
    | _ => exact member
  published message member := by
    cases moves with
    | publish => exact List.mem_append_left _ member
    | _ => exact member

/-- The requests are in the table, in some version. -/
def World.Knows (requests : List Request) (world : World) : Prop :=
  ∀ request ∈ requests, ∃ row ∈ world.requests.rows, row.Same request

theorem World.Knows.extends {requests : List Request} {world next : World} (knows : world.Knows requests)
    (extends_ : world.Extends next) : next.Knows requests := by
  intro request member
  obtain ⟨row, inside, same⟩ := knows request member
  obtain ⟨later, inNext, sameLater⟩ := extends_.requests row inside
  exact ⟨later, inNext, sameLater.trans same⟩

theorem World.Knows.of_mem {requests : List Request} {world : World}
    (inside : ∀ request ∈ requests, request ∈ world.requests.rows) : world.Knows requests :=
  fun request member => ⟨request, inside request member, .refl request⟩

theorem WorldOp.Resolves.moves {formats : Formats} {thread : Nat} {op : WorldOp} {world next : World}
    {value : op.Reply} (resolves : op.Resolves formats thread world value next) :
    world.Moves formats thread op next := by
  cases op with
  | insertRequest request =>
      rcases resolves with ⟨_, _, rfl⟩ | ⟨id, fresh, _, rfl⟩
      · exact .idle _
      · exact .insert fresh
  | markReplaced origin streamId cid =>
      obtain ⟨ordered, permuted, sorted, _, rfl⟩ := resolves
      exact .replace permuted sorted
  | updateRequests fields updatedAt ids =>
      obtain ⟨_, rfl⟩ := resolves
      exact .revert
  | claim ids =>
      obtain ⟨requests, claimed, _, rfl⟩ := resolves
      exact .claim claimed
  | begin =>
      obtain rfl := resolves
      exact .begin_
  | commit transaction =>
      obtain ⟨requests, committed, rfl⟩ := resolves
      obtain ⟨stamp, marked, wrote, takes⟩ := committed.transaction
      exact .mark wrote takes
  | persist anchors acceptedRequests =>
      obtain ⟨requests, count, committed, _, rfl⟩ := resolves
      obtain ⟨stamp, marked, wrote, accepted⟩ := committed.persist
      exact .complete wrote accepted
  | sendMessage message =>
      obtain rfl := resolves
      exact .publish
  | sendTransaction root =>
      obtain ⟨hash, _, fresh, rfl⟩ := resolves
      exact .submit fresh
  | storeCarFile anchorProofCid car =>
      obtain rfl := resolves
      exact .storeCar
  | storeWitness anchorCommitCid car =>
      obtain rfl := resolves
      exact .storeWitness
  | now | findByCid | replicaFindByCid | countByStatus | findAnchors | buildMerkleTree =>
      obtain ⟨_, rfl⟩ := resolves
      exact .idle _
  | selectByIds ids =>
      obtain ⟨_, _, rfl⟩ := resolves
      exact .idle _
  | selectReady maxStreamLimit =>
      obtain ⟨_, _, _, rfl⟩ := resolves
      exact .idle _
  | sleep | aborted | receiveMessage | ack | nack | importCAR | storeRecord | publishAnchorCommit
  | presentBody | emitAnchorEvent =>
      obtain rfl := resolves
      exact .idle _

/-- A performed operation makes one of the moves, whatever the caller learns about it. -/
theorem WorldOp.perform_moves {formats : Formats} {thread : Nat} {op : WorldOp} {world next : World}
    {reply : Except Failure op.Reply} (performed : op.perform formats thread world reply next) :
    world.Moves formats thread op next := by
  match reply, performed with
  | .ok value, resolves => exact resolves.moves
  | .error (.rejected _), .inl same =>
      rw [same]
      exact .idle op
  | .error (.rejected _), .inr ⟨value, resolves⟩ => exact resolves.moves
  | .error .serialization, ⟨_, same⟩ =>
      rw [same]
      exact .idle op
  | .error (.thrown _), ⟨_, same⟩ =>
      rw [same]
      exact .idle op

section Runs

variable {formats : Formats} {deployed : Task → Prop}
    {condition : World → Label WorldOp WorldOp.Reply Failure → Prop}
  {clock : Int}

/-- Tasks that are confined to some operations relate the worlds of a run by what these operations do. -/
theorem Cas.preserves_inside {inside : WorldOp → Prop} (relation : World → World → Prop)
    (confined : ∀ task, deployed task → (task.run formats).Confined inside)
    (refl : ∀ world, relation world world)
    (trans : ∀ {first second third}, relation first second → relation second third → relation first third)
    (moves : ∀ {thread op reply world next}, condition world (.act thread op reply) → inside op →
      world.Moves formats thread op next → relation world next)
    (drifts : ∀ {world next}, World.Drifts world next → relation world next)
    {middle last : Cas}
    (earlier : ReachesUnder (casSystem formats deployed) condition (Cas.start clock) middle)
    (run : ReachesUnder (casSystem formats deployed) condition middle last) :
    relation middle.world last.world := by
  have entries : ∀ thread program, ((casSystem formats deployed).restrict condition).entry thread program →
      program.Confined inside := by
    rintro thread program ⟨task, allowed, rfl⟩
    exact confined task allowed
  have before := earlier.restrict.confine entries (fun thread program current => by cases current)
  have after := run.restrict.confine entries before.2
  apply after.1.world_rel relation refl trans
  · rintro thread op world reply next ⟨⟨performed, met⟩, member⟩
    exact moves met (member thread op reply rfl) (WorldOp.perform_moves performed)
  · exact drifts

/-- Every run of the service relates its worlds by what the regular operations do. -/
theorem Cas.preserves (relation : World → World → Prop) (refl : ∀ world, relation world world)
    (trans : ∀ {first second third}, relation first second → relation second third → relation first third)
    (moves : ∀ {thread op reply world next}, condition world (.act thread op reply) → op.Regular →
      world.Moves formats thread op next → relation world next)
    (drifts : ∀ {world next}, World.Drifts world next → relation world next)
    {middle last : Cas}
    (earlier : ReachesUnder (casSystem formats deployed) condition (Cas.start clock) middle)
    (run : ReachesUnder (casSystem formats deployed) condition middle last) :
    relation middle.world last.world :=
  Cas.preserves_inside relation (fun task _ => task.run_regular formats) refl trans moves drifts earlier run

/-- An invariant of the regular operations holds in every world of a run. -/
theorem Cas.invariant (holds : World → Prop) (initially : holds (.empty clock))
    (moves : ∀ {thread op reply world next}, holds world → condition world (.act thread op reply) →
      op.Regular → world.Moves formats thread op next → holds next)
    (drifts : ∀ {world next}, holds world → World.Drifts world next → holds next)
    {last : Cas} (run : ReachesUnder (casSystem formats deployed) condition (Cas.start clock) last) :
    holds last.world :=
  Cas.preserves (fun world next => holds world → holds next) (fun _ => id)
  (fun first second => second ∘ first)
    (fun met regular moved start => moves start met regular moved)
    (fun moved start => drifts start moved) .refl run initially

end Runs

end CeramicAnchor
