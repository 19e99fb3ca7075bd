import CeramicAnchor.Proof.AdmittedRequests
import CeramicAnchor.Proof.Completion
import CeramicAnchor.Proof.OldestStreams
import Mathlib.Data.Set.Finite.Basic

/-
This file proves that no request is stuck: whatever a run has left behind, further workers anchor it.
-/

namespace CeramicAnchor
open Concurrency Storage RequestRepository Prog

variable {formats : Formats} {deployed : Task → Prop} {thread : Nat} {world next : World}

section Requests

/-- The request still waits for its anchor. -/
def Request.Unfinished (request : Request) : Prop :=
  request.status = .PENDING ∨ request.status = .READY ∨ request.status = .PROCESSING

instance : DecidablePred Request.Unfinished := fun _ => inferInstanceAs (Decidable (_ ∨ _ ∨ _))

/-- The request has waited for long enough, and its processing has timed out. -/
structure Request.Due (repository : RequestRepository) (now : Int) (request : Request) : Prop where
  waited : request.createdAt < now - repository.maxAnchoringDelayMS
  timedOut : request.status = .PROCESSING → request.updatedAt < now - PROCESSING_TIMEOUT

theorem Request.Due.later {repository : RequestRepository} {now later : Int} {request : Request}
    (due : request.Due repository now) (passed : now ≤ later) : request.Due repository later where
  waited := by have := due.waited; omega
  timedOut processing := by have := due.timedOut processing; omega

/-- The request is as before, or it has become ready or completed. -/
structure Request.Advances (request later : Request) : Prop where
  same : later.Same request
  createdAt : later.createdAt = request.createdAt
  moved : later = request ∨ (request.Unfinished ∧ (later.status = .READY ∨ later.status = .COMPLETED))

theorem Request.Advances.refl (request : Request) : request.Advances request :=
  ⟨.refl request, rfl, .inl rfl⟩

theorem Request.Advances.trans {first second third : Request} (head : first.Advances second)
    (tail : second.Advances third) : first.Advances third where
  same := tail.same.trans head.same
  createdAt := tail.createdAt.trans head.createdAt
  moved := by
    rcases tail.moved with rfl | ⟨waits, moved⟩
    · exact head.moved
    · rcases head.moved with rfl | ⟨waited, _⟩
      · exact .inr ⟨waits, moved⟩
      · exact .inr ⟨waited, moved⟩

theorem Request.Advances.unfinished {request later : Request} (advances : request.Advances later)
    (waits : later.Unfinished) : request.Unfinished := by
  rcases advances.moved with rfl | ⟨waited, _⟩
  · exact waits
  · exact waited

theorem Request.Advances.due {repository : RequestRepository} {now : Int} {request later : Request}
    (advances : request.Advances later) (due : request.Due repository now) : later.Due repository now := by
  rcases advances.moved with rfl | ⟨_, moved⟩
  · exact due
  · refine ⟨advances.createdAt ▸ due.waited, fun processing => ?_⟩
    rw [processing] at moved
    rcases moved with moved | moved <;> cases moved

/-- The rows of a table advance. -/
def Advance (table next : RequestTable) : Prop :=
  ∃ move : Request → Request, next.rows = table.rows.map move ∧
    ∀ request ∈ table.rows, request.Advances (move request)

variable {table middle last : RequestTable}

theorem Advance.refl (table : RequestTable) : Advance table table :=
  ⟨id, (List.map_id _).symm, fun request _ => .refl request⟩

theorem Advance.trans (head : Advance table middle) (tail : Advance middle last) : Advance table last := by
  obtain ⟨first, rows, advances⟩ := head
  obtain ⟨second, nextRows, advancesNext⟩ := tail
  refine ⟨second ∘ first, by rw [nextRows, rows, List.map_map], fun request member => ?_⟩
  exact (advances request member).trans (advancesNext _ (by rw [rows]; exact List.mem_map_of_mem member))

/-- An update of unfinished requests makes them ready or completed. -/
theorem Advance.update {status : RequestStatus} {edit : RequestEdit} (sets : SetsStatus edit status)
    (moved : status = .READY ∨ status = .COMPLETED)
    (keeps : ∀ request, (edit.apply request).createdAt = request.createdAt) {chosen : Request → Bool}
    (unfinished : ∀ request ∈ table.rows, chosen request = true → request.Unfinished) :
    Advance table (table.update chosen edit) := by
  refine ⟨fun request => if chosen request then edit.apply request else request, rfl,
    fun request member => ?_⟩
  dsimp only
  by_cases picked : chosen request = true
  · rw [if_pos picked]
    refine ⟨sets.same request, keeps request, .inr ⟨unfinished request member picked, ?_⟩⟩
    rwa [sets.moved request]
  · rw [if_neg picked]
    exact .refl request

theorem Advance.mem (advance : Advance table last) {later : Request} (member : later ∈ last.rows) :
    ∃ request ∈ table.rows, request.Advances later := by
  obtain ⟨move, rows, advances⟩ := advance
  rw [rows] at member
  obtain ⟨request, inside, rfl⟩ := List.mem_map.mp member
  exact ⟨request, inside, advances request inside⟩

theorem Advance.keeps (advance : Advance table last) {request : Request} (member : request ∈ table.rows) :
    ∃ later ∈ last.rows, request.Advances later := by
  obtain ⟨move, rows, advances⟩ := advance
  exact ⟨move request, by rw [rows]; exact List.mem_map_of_mem member, advances request member⟩

/-- The number of requests that still wait for their anchors. -/
def unfinished (table : RequestTable) : Nat := table.rows.countP fun request => request.Unfinished

theorem Advance.unfinished_le (advance : Advance table last) : unfinished last ≤ unfinished table := by
  obtain ⟨move, rows, advances⟩ := advance
  rw [unfinished, rows, List.countP_map]
  exact List.countP_mono_left fun request member waits =>
    decide_eq_true ((advances request member).unfinished (of_decide_eq_true waits))

/-- Fewer requests are unfinished after one of them is completed. -/
theorem Advance.unfinished_lt (advance : Advance table last) {request later : Request}
    (member : request ∈ table.rows) (waits : request.Unfinished) (inLast : later ∈ last.rows)
    (same : later.id = request.id) (done : ¬ later.Unfinished) : unfinished last < unfinished table := by
  obtain ⟨move, rows, advances⟩ := advance
  have moved : ¬ (move request).Unfinished := by
    rw [rows] at inLast
    obtain ⟨other, inside, rfl⟩ := List.mem_map.mp inLast
    have sameRow :=
      Table.eq_of_column id_indexed inside member ((advances other inside).same.id.symm.trans same)
    rwa [← sameRow]
  have left : unfinished last =
      (table.rows.filter fun row => (move row).Unfinished).countP fun row => row.Unfinished := by
    rw [unfinished, rows, List.countP_map, List.countP_eq_length_filter, ← List.countP_eq_length_filter,
      List.countP_filter]
    refine List.countP_congr fun row inside => ?_
    simp only [Function.comp_apply, decide_eq_true_eq, Bool.and_eq_true]
    exact ⟨fun still => ⟨(advances row inside).unfinished still, still⟩, And.right⟩
  have gone : 0 < (table.rows.filter fun row => ¬ (move row).Unfinished).countP fun row =>
      row.Unfinished :=
    List.countP_pos_iff.mpr
    ⟨request, List.mem_filter.mpr ⟨member, by simpa using moved⟩, by simpa using waits⟩
  rw [left, unfinished, List.countP_eq_countP_filter_add table.rows _ fun row => (move row).Unfinished]
  simpa using gone

end Requests

section Refill

variable {table marked : RequestTable} {clock now : Int} {repository : RequestRepository}

/-- The rows advance, and one of them is ready as soon as any request was unfinished. -/
structure Refilled (table marked : RequestTable) : Prop where
  advance : Advance table marked
  ready : ∀ request ∈ table.rows, request.Unfinished → ∃ found ∈ marked.rows, found.status = .READY

theorem Request.Due.eligible {request : Request} (due : request.Due repository now)
    (waits : request.Unfinished) (unready : request.status ≠ .READY) : Eligible now request := by
  rcases waits with pending | ready | processing
  · exact .inl pending
  · exact absurd ready unready
  · exact .inr ⟨processing, due.timedOut processing⟩

theorem Eligible.unfinished {request : Request} (eligible : Eligible now request) : request.Unfinished :=
  eligible.imp id fun processing => .inr processing.1

/-- Once all requests are due, the transaction of findAndMarkReady finds one of those that are unfinished. -/
theorem MarksOldest.refilled {maxStreamLimit minStreamLimit : Nat} {earliest latest : Int}
    {requests : List Request}
    (marks : MarksOldest maxStreamLimit minStreamLimit (now - repository.maxAnchoringDelayMS) now earliest
      latest table table marked requests)
    (due : ∀ request ∈ table.rows, request.Unfinished → request.Due repository now)
    (unready : ∀ request ∈ table.rows, request.status ≠ .READY) : Refilled table marked := by
  have found : ∀ request ∈ table.rows, request.Unfinished → request ∈ eligible table now :=
    fun request member waits => ⟨member, (due request member waits).eligible waits (unready request member)⟩
  obtain ⟨streams, oldest, withheld, otherwise⟩ := marks.exists_
  by_cases held : Withheld (eligible table now) minStreamLimit (now - repository.maxAnchoringDelayMS) streams
  · obtain ⟨_, rfl⟩ := withheld held
    refine ⟨.refl marked, fun request member waits => ?_⟩
    have eligible := found request member waits
    rcases held with empty | ⟨_, fresh⟩
    · exact absurd empty (oldest.nonempty eligible)
    · have early := (due request member waits).waited
      have late := fresh request eligible
      omega
  · obtain ⟨ofStreams, _, ⟨stamp, _, _, rfl⟩, _⟩ := otherwise held
    have sets := @RequestUpdateFields.setsStatus ⟨none, some .READY, none⟩ .READY rfl stamp
    refine ⟨.update sets (.inl rfl) (fun _ => rfl) fun request member picked => ?_,
      fun request member waits => ?_⟩
    · obtain ⟨other, chosen, same⟩ := List.mem_map.mp (of_decide_eq_true picked)
      obtain ⟨inTable, eligible⟩ := List.mem_filter.mp (ofStreams.permuted.mem_iff.mp chosen)
      obtain rfl := Table.eq_of_column id_indexed inTable member same
      exact (of_decide_eq_true eligible).1.unfinished
    · obtain ⟨stream, rest, rfl⟩ := List.exists_cons_of_ne_nil (oldest.nonempty (found request member waits))
      obtain ⟨row, ⟨inTable, eligible⟩, same⟩ := oldest.inhabited List.mem_cons_self
      have chosen : row ∈ requests := ofStreams.permuted.mem_iff.mpr
        (List.mem_filter.mpr ⟨inTable, decide_eq_true ⟨eligible, same ▸ List.mem_cons_self⟩⟩)
      refine ⟨_, Table.mem_update.mpr ⟨row, inTable, rfl⟩, ?_⟩
      rw [if_pos (decide_eq_true (List.mem_map_of_mem chosen))]
      exact sets.moved row

/-- The worker has looked, and a request is ready as soon as any is unfinished. -/
def World.Looked (table : RequestTable) (clock : Int) (world : World) : Prop :=
  ∃ marked, world.Rests marked clock ∧ Refilled table marked

theorem findAndMarkReady_looks {fuel : Nat} (attempts : 0 < fuel) (maxStreamLimit minStreamLimit : Nat)
    (rests : world.Rests table clock)
    (due : ∀ request ∈ table.rows, request.Unfinished → request.Due repository clock)
    (unready : ∀ request ∈ table.rows, request.status ≠ .READY) :
    Ensures (alone formats deployed thread) (fun _ reached => reached.Looked table clock)
      (repository.findAndMarkReady worldClient fuel maxStreamLimit minStreamLimit) world := by
  obtain ⟨fuel, rfl⟩ := Nat.exists_eq_succ_of_ne_zero (Nat.ne_of_gt attempts)
  obtain ⟨rfl, since⟩ := rests
  refine ensures_mono (findAndMarkReady_ensures repository fuel maxStreamLimit minStreamLimit world) ?_
  rintro requests reached ⟨now, began, latest, later, marked, passed, rested, marks⟩
  refine ⟨reached.requests, ⟨rfl, by omega⟩, marks.refilled (fun request member waits => ?_) unready⟩
  exact (due request member waits).later (Int.le_trans since later)

end Refill

section Trees

/-- The node of each candidate has the node of the later candidates on its right. -/
def comb : List Candidate → Ipld
  | [] => .null
  | candidate :: rest => .list (.ofList [.link candidate.cid, .link (.record (comb rest))])

def combBlocks : List Candidate → List Ipld
  | [] => [comb []]
  | candidate :: rest => comb (candidate :: rest) :: combBlocks rest

theorem comb_mem (candidates : List Candidate) : comb candidates ∈ combBlocks candidates := by
  cases candidates <;> exact List.mem_cons_self

theorem comb_walk {candidates : List Candidate} {car : Car}
    (present : ∀ block ∈ combBlocks candidates, block ∈ car.blocks) {index : Nat} {candidate : Candidate}
    (found : candidates[index]? = some candidate) :
    Walk car (comb candidates) (List.replicate index .R ++ [.L]) candidate.cid := by
  induction candidates generalizing index with
  | nil => cases found
  | cons first rest ih =>
      have below : ∀ block ∈ combBlocks rest, block ∈ car.blocks :=
        fun block member => present block (List.mem_cons_of_mem _ member)
      cases index with
      | zero =>
          obtain rfl := Option.some.inj found
          exact .last rfl
      | succ index =>
          have child : car.get (.record (comb rest)) = some (comb rest) :=
            Car.get_eq_some.mpr ⟨below _ (comb_mem rest), rfl⟩
          exact .step rfl child (ih below found)

/-- There is a tree for all candidates. -/
theorem treeFor_exists (candidates : List Candidate) : ∃ tree, MerkleCAR.TreeFor candidates tree := by
  refine ⟨⟨.record (comb candidates), candidates, fun index => List.replicate index .R ++ [.L],
    ⟨[], combBlocks candidates⟩⟩, .refl _, comb candidates, ?_, fun index candidate found => ?_⟩
  · exact Car.get_eq_some.mpr ⟨comb_mem candidates, rfl⟩
  · exact comb_walk (fun _ member => member) found

end Trees

section Batch

variable {table marked : RequestTable} {clock : Int} {service : AnchorService} {fuel : Nat}
  {requests : List Request} {candidates : List Candidate}

/-- The chain can always include a transaction under a new hash. -/
def Formats.Mints (formats : Formats) : Prop := ∀ used : List Cid, ∃ tx, formats.hashCid tx ∉ used

/-- The edit of the stored results. -/
def completion (stamp : Int) : RequestEdit :=
  (⟨some "CID successfully anchored.", some .COMPLETED, some true⟩ : RequestUpdateFields).edit stamp

/-- All of these requests are completed, and nothing else has changed. -/
def World.Completes (table : RequestTable) (clock : Int) (requests : List Request) (world : World) : Prop :=
  ∃ stamp, world.Rests (table.update (fun request => request.id ∈ requests.map Request.id) (completion stamp))
    clock

/-- Results that are stored on the present table complete all accepted requests. -/
theorem World.Committed.completes {began : Int} {count : Nat}
    (opened : world.transactions thread = some ⟨world.requests, began⟩)
    (committed : world.Committed thread (persistRequests requests) count table) :
    ∃ stamp, table = world.requests.update (fun request => request.id ∈ requests.map Request.id)
      (completion stamp) := by
  obtain ⟨transaction, last, current, evaluates, _, commit⟩ := committed.exists_
  obtain rfl := Option.some.inj (opened.symm.trans current)
  obtain ⟨stamp, targets, _, _, writes⟩ := evaluates.spec (updateRequests_writes (.fresh began) _ requests)
  have distinct : targets.Nodup := by
    rw [writes.found.nodup_iff]
    exact (world.requests.distinct Request.id id_indexed).filter _
  refine ⟨stamp, ?_⟩
  rw [commit.published, writes.pending, Table.publish_map distinct]
  apply Table.ext
  refine List.map_congr_left fun request member => ?_
  have chosen : request.id ∈ targets ↔ request.id ∈ requests.map Request.id := by
    rw [writes.found.mem_iff, Table.targets, List.mem_filter, decide_eq_true_iff]
    exact and_iff_right (List.mem_map_of_mem member)
  simp only [decide_eq_true_eq, chosen]
  rfl

theorem persistRequests_ensures {snapshot : RequestTable} (acceptedRequests : List Request) (began : Int) :
    Ensures (promptSetting Request.id snapshot) (fun _ _ => True) (persistRequests acceptedRequests)
      (.fresh began) :=
  ensures_resolute
    (resolute_bind (resolute_call Statement.clock) fun _ => resolute_call (Statement.update _ _))

theorem persistAnchorResult_ensures (attempts : 0 < fuel) (anchors : List FreshAnchor)
    (same : (candidates.map Candidate.request).Perm requests) (rests : world.Rests table clock) :
    Ensures (alone formats deployed thread) (fun _ reached => reached.Completes table clock requests)
      (AnchorService.persistAnchorResult anchors candidates fuel) world := by
  obtain ⟨fuel, rfl⟩ := Nat.exists_eq_succ_of_ne_zero (Nat.ne_of_gt attempts)
  refine ensures_handle (ensures_bind _ (begin_ensures rests) fun _ reached transacts => ?_)
  refine ensures_call (WorldOp.persist anchors (candidates.map Candidate.request)) ?_ ?_
  · intro before others
    obtain ⟨count, requests, committed⟩ := (transacts.alone others).ready (persistRequests_ensures _)
    exact ⟨_, _, requests, count, committed, rfl, rfl⟩
  · intro before others persisted after performed
    obtain ⟨rested, began, opened, _⟩ := transacts.alone others
    obtain ⟨stored, count, committed, _, rfl⟩ := performed
    obtain rfl := rested.requests
    obtain ⟨stamp, rfl⟩ := World.Committed.completes opened committed
    have chosen : ∀ request : Request,
        request.id ∈ (candidates.map Candidate.request).map Request.id ↔
        request.id ∈ requests.map Request.id :=
      fun request => (same.map Request.id).mem_iff
    refine ⟨stamp, ?_, rested.later⟩
    simp only [chosen]

/-- The witness of each anchor can be built. -/
theorem storeWitnessCARs_resolute {car : Car} {anchors : List FreshAnchor}
    (built : ∀ anchor ∈ anchors, ∃ witness, WitnessService.build anchor.cid car = .ok witness) :
    (AnchorService.storeWitnessCARs car anchors).Resolute := by
  induction anchors with
  | nil => trivial
  | cons anchor rest ih =>
      obtain ⟨witness, builds⟩ := built anchor List.mem_cons_self
      refine resolute_bind ?_ fun witnessCAR => ?_
      · unfold AnchorService.buildWitnessCAR
        rw [builds]
        trivial
      · refine resolute_bind
          (resolute_attempt (resolute_call (WorldOp.storeWitness anchor.cid witnessCAR))) ?_
        exact fun _ => ih fun other member => built other (List.mem_cons_of_mem _ member)

theorem createAnchorCommits_resolute (service : AnchorService) (proofCid : Cid) (tree : MerkleCAR)
    (leaves : List (Candidate × Nat)) (car : Car) :
    (service.createAnchorCommits proofCid tree leaves car).Resolute := by
  induction leaves generalizing car with
  | nil => trivial
  | cons leaf rest ih =>
      have published : ∀ commit anchorCid streamId,
          (service.publishCommit commit anchorCid streamId).Resolute := by
        intro commit anchorCid streamId
        refine resolute_bind ?_ fun _ => ?_
        · split
          · exact resolute_call (WorldOp.storeRecord commit)
          · trivial
        · split
          · exact resolute_call (WorldOp.publishAnchorCommit anchorCid streamId)
          · trivial
      exact resolute_bind (resolute_bind (resolute_attempt (published _ _ _)) fun _ => trivial) fun _ =>
        resolute_bind (ih _) fun _ => trivial

theorem importCAR_resolute (service : AnchorService) (car : Car) : (service.importCAR car).Resolute := by
  unfold AnchorService.importCAR
  split
  · exact resolute_call (WorldOp.importCAR car)
  · trivial

theorem findCandidates_resolute (readable : ∀ request ∈ requests, request.Readable formats)
    (candidateLimit : Nat) : (AnchorService.findCandidates formats requests candidateLimit).Resolute := by
  rcases buildCandidates_cases requests with ⟨_, candidates, built⟩ | ⟨unreadable, _⟩
  · unfold AnchorService.findCandidates
    rw [built, done_bind]
    exact resolute_bind (resolute_bind (resolute_call (WorldOp.findAnchors _)) fun _ => trivial)
      fun _ => trivial
  · exact absurd readable unreadable

/-- An operation that leaves the requests alone and can always be performed. -/
theorem call_ensures (op : WorldOp) (leaves : op.LeavesRequests)
    (ready : ∀ before : World, ∃ value next, op.Resolves formats thread before value next)
    (rests : world.Rests table clock) :
    Ensures (alone formats deployed thread) (fun _ reached => reached.Rests table clock) (Prog.call op)
      world := by
  refine ensures_call op (fun before _ => ready before) fun before others value after performed => ?_
  change op.perform formats thread before (.ok value) after at performed
  exact leaves.rests performed (rests.alone others)

/-- Whatever tree is built and whatever transaction is sent, the batch is completed. -/
theorem anchorCandidates_ensures (mints : formats.Mints) (attempts : 0 < fuel)
    (selected : Selected formats requests candidates) (rests : world.Rests table clock) :
    Ensures (alone formats deployed thread) (fun _ reached => reached.Completes table clock requests)
      (service.anchorCandidates formats fuel candidates) world := by
  refine ensures_bind (fun tree reached => tree.TreeFor candidates ∧ reached.Rests table clock)
    (ensures_handle (ensures_call (WorldOp.buildMerkleTree candidates) ?_ ?_)) ?_
  · intro before _
    obtain ⟨tree, treeFor⟩ := treeFor_exists candidates
    exact ⟨tree, before, treeFor, rfl⟩
  · intro before others tree after performed
    obtain ⟨treeFor, rfl⟩ := performed
    exact ⟨treeFor, rests.alone others⟩
  rintro tree planted ⟨treeFor, rested⟩
  refine ensures_bind _ (call_ensures (WorldOp.sendTransaction tree.root) trivial (fun before => ?_) rested)
    fun tx sent rested => ?_
  · obtain ⟨tx, fresh⟩ := mints (before.ledger.map Prod.snd)
    refine ⟨tx, _, _, rfl, fun entry member same => fresh ?_, rfl⟩
    exact List.mem_map.mpr ⟨entry, member, same⟩
  let proof := anchorProof tree.root tx.chain (formats.hashCid tx) service.useSmartContractAnchors
  refine ensures_bind _ (ensures_returns (quiet_ensures (service.createAnchorCommits_quiet _ _ _ _)
    (createAnchorCommits_resolute service _ _ _ _) rested)
    (createAnchorCommits_returns service (.record proof) tree tree.leafNodes.zipIdx
      (tree.car.putBlock proof))) ?_
  rintro ⟨anchors, car⟩ written ⟨rested, sameAnchors, grows, commits⟩
  have complete : Complete formats requests (.record proof) car anchors := by
    rw [show anchors = _ from sameAnchors]
    exact .of_tree selected treeFor rfl grows commits
  have built : ∀ anchor ∈ anchors, ∃ witness, WitnessService.build anchor.cid car = .ok witness := by
    intro anchor member
    obtain ⟨_, request, _, _, prev, id, commit, _, _, _, holds⟩ := complete.sound anchor member
    obtain ⟨witness, builds, _⟩ := WitnessService.verify_build holds
    exact ⟨witness, builds⟩
  refine ensures_bind _ (quiet_ensures (service.importCAR_quiet car) (importCAR_resolute service car) rested)
    fun _ imported rested => ?_
  refine ensures_bind _ (call_ensures (WorldOp.storeCarFile (.record proof) car) trivial
    (fun before => ⟨(), _, rfl⟩) rested) fun _ stored rested => ?_
  refine ensures_bind _ (quiet_ensures (AnchorService.storeWitnessCARs_quiet car anchors)
    (storeWitnessCARs_resolute built) rested) fun _ witnessed rested => ?_
  exact ensures_bind _ (persistAnchorResult_ensures attempts anchors selected.requests rested)
    fun _ _ completes => completes

/-- The summary changes nothing. -/
theorem logAnchorSummary_ensures (completes : world.Completes table clock requests) :
    Ensures (alone formats deployed thread) (fun _ reached => reached.Completes table clock requests)
      AnchorService.logAnchorSummary world := by
  obtain ⟨stamp, rests⟩ := completes
  refine ensures_mono (quiet_ensures AnchorService.logAnchorSummary_quiet ?_ rests) fun _ _ rested =>
    ⟨stamp, rested⟩
  exact resolute_bind (resolute_call (WorldOp.countByStatus .PENDING)) fun _ => trivial

theorem World.Rests.completes_nothing (rests : world.Rests table clock) : world.Completes table clock [] := by
  refine ⟨clock, rests.requests.trans (Table.ext ?_), rests.later⟩
  exact (List.map_id _).symm

/-- A batch of requests that are processing is completed. -/
theorem anchorRequestsOf_ensures (mints : formats.Mints) (attempts : 0 < fuel)
    (processing : ∀ request ∈ requests, request.status = .PROCESSING)
    (readable : ∀ request ∈ requests, request.Readable formats) (rests : world.Rests table clock) :
    Ensures (alone formats deployed thread) (fun _ reached => reached.Completes table clock requests)
      (service.anchorRequestsOf formats fuel requests) world := by
  have all : (requests.filter fun request => request.status ≠ .REPLACED) = requests :=
    List.filter_eq_self.mpr fun request member => by simp [processing request member]
  unfold AnchorService.anchorRequestsOf
  dsimp only
  rw [all]
  split
  · next empty =>
      obtain rfl := List.length_eq_zero_iff.mp empty
      exact rests.completes_nothing
  · next nonempty =>
      refine ensures_bind _ (ensures_returns (quiet_ensures (AnchorService.findCandidates_quiet formats _ _)
        (findCandidates_resolute readable _) rests) (findCandidates_returns _ _)) ?_
      rintro ⟨candidates, groupedRequests⟩ found ⟨rested, selected⟩
      dsimp only at selected
      have some_ : candidates.length ≠ 0 := by
        have same := selected.requests.length_eq
        rw [List.length_map] at same
        rwa [same]
      dsimp only
      rw [if_neg some_]
      exact ensures_handle (ensures_bind _ (anchorCandidates_ensures mints attempts selected rested)
        fun _ _ completes => logAnchorSummary_ensures completes)

end Batch

section Claim

variable {marked : RequestTable} {clock : Int} {ids : List String} {returned : List Request}

/-- The statement claims these ready requests and returns them. -/
structure Claims (marked : RequestTable) (ids : List String) (returned : List Request) : Prop where
  ready : ∀ id ∈ ids, ∃ row ∈ marked.rows, row.id = id ∧ row.status = .READY
  nonempty : ∀ row ∈ marked.rows, row.status = .READY → ids ≠ []
  permuted : returned.Perm
    ((marked.update (fun request => request.id ∈ ids) claimEdit).rows.filter fun request => request.id ∈ ids)

theorem Claims.cases (claims : Claims marked ids returned) {request : Request} (member : request ∈ returned) :
    ∃ row ∈ marked.rows, row.id ∈ ids ∧ request = claimEdit.apply row := by
  obtain ⟨inTable, picked⟩ := List.mem_filter.mp (claims.permuted.mem_iff.mp member)
  obtain ⟨row, inside, rfl⟩ := Table.mem_update.mp inTable
  by_cases chosen : row.id ∈ ids
  · exact ⟨row, inside, chosen, by simp [chosen]⟩
  · simp [chosen] at picked

theorem Claims.mem_ids (claims : Claims marked ids returned) (id : String) :
    id ∈ returned.map Request.id ↔ id ∈ ids := by
  constructor
  · intro listed
    obtain ⟨request, member, rfl⟩ := List.mem_map.mp listed
    obtain ⟨row, _, chosen, rfl⟩ := claims.cases member
    exact chosen
  · intro chosen
    obtain ⟨row, inside, rfl, _⟩ := claims.ready id chosen
    refine List.mem_map.mpr ⟨claimEdit.apply row, ?_, rfl⟩
    refine claims.permuted.mem_iff.mpr (List.mem_filter.mpr ⟨?_, decide_eq_true chosen⟩)
    exact Table.mem_update.mpr ⟨row, inside, by simp [chosen]⟩

/-- The requests that are claimed and then completed have advanced. -/
theorem Claims.advance (claims : Claims marked ids returned) (stamp : Int) :
    Advance marked ((marked.update (fun request => request.id ∈ ids) claimEdit).update
      (fun request => request.id ∈ returned.map Request.id) (completion stamp)) := by
  refine ⟨fun row => if row.id ∈ ids then (completion stamp).apply (claimEdit.apply row) else row, ?_,
    fun row inside => ?_⟩
  · refine List.map_map.trans (List.map_congr_left fun row _ => ?_)
    by_cases chosen : row.id ∈ ids <;> simp [claims.mem_ids, chosen, claimEdit]
  · dsimp only
    split
    · next chosen =>
        obtain ⟨other, member, same, ready⟩ := claims.ready row.id chosen
        obtain rfl := Table.eq_of_column id_indexed member inside same
        exact ⟨⟨rfl, rfl, rfl, rfl, rfl⟩, rfl, .inr ⟨.inr (.inl ready), .inr rfl⟩⟩
    · exact .refl row

/-- One of the requests has been completed as soon as any was ready. -/
theorem Claims.unfinished_lt (claims : Claims marked ids returned) (stamp : Int)
    (ready : ∃ row ∈ marked.rows, row.status = .READY) :
    unfinished ((marked.update (fun request => request.id ∈ ids) claimEdit).update
      (fun request => request.id ∈ returned.map Request.id) (completion stamp)) < unfinished marked := by
  obtain ⟨first, member, isReady⟩ := ready
  obtain ⟨id, rest, rfl⟩ := List.exists_cons_of_ne_nil (claims.nonempty first member isReady)
  obtain ⟨row, inside, rfl, rowReady⟩ := claims.ready _ List.mem_cons_self
  have chosen : (claimEdit.apply row).id ∈ returned.map Request.id :=
    (claims.mem_ids _).mpr List.mem_cons_self
  have claimed : claimEdit.apply row ∈
      (marked.update (fun request => request.id ∈ row.id :: rest) claimEdit).rows :=
    Table.mem_update.mpr ⟨row, inside, by simp⟩
  refine (claims.advance stamp).unfinished_lt inside (.inr (.inl rowReady))
    (Table.mem_update.mpr ⟨_, claimed, if_pos (decide_eq_true chosen)⟩) rfl ?_
  rintro (done | done | done) <;> cases done

theorem claimBatch_ensures (maxStreamLimit : Nat) (rests : world.Rests marked clock) :
    Ensures (alone formats deployed thread) (fun returned reached => ∃ ids, Claims marked ids returned ∧
        reached.Rests (marked.update (fun request => request.id ∈ ids) claimEdit) clock)
      (claimBatch maxStreamLimit) world := by
  refine ensures_bind (fun ids reached => reached.Rests marked clock ∧
      (∀ id ∈ ids, ∃ row ∈ marked.rows, row.id = id ∧ row.status = .READY) ∧
      ∀ row ∈ marked.rows, row.status = .READY → ids ≠ [])
    (ensures_call (WorldOp.selectReady maxStreamLimit) ?_ ?_) ?_
  · exact fun before _ => ⟨_, before, _, .refl _, rfl, rfl⟩
  · rintro before others ids after ⟨ready, permuted, rfl, rfl⟩
    have rested := rests.alone others
    rw [rested.requests] at permuted
    refine ⟨rested, fun id listed => ?_, fun row inside isReady empty => ?_⟩
    · obtain ⟨row, chosen, rfl⟩ := List.mem_map.mp listed
      have found : row ∈ ready := by
        split at chosen
        · exact List.mem_of_mem_take chosen
        · exact chosen
      obtain ⟨inside, isReady⟩ := List.mem_filter.mp (permuted.mem_iff.mp found)
      exact ⟨row, inside, rfl, of_decide_eq_true isReady⟩
    · have found : row ∈ ready :=
        permuted.mem_iff.mpr (List.mem_filter.mpr ⟨inside, decide_eq_true isReady⟩)
      have none := List.map_eq_nil_iff.mp empty
      split at none
      · next positive =>
          rcases List.take_eq_nil_iff.mp none with zero | nil
          · omega
          · simp [nil] at found
      · simp [none] at found
  rintro ids selected ⟨rested, ready, nonempty⟩
  refine ensures_call (WorldOp.claim ids) (fun before _ => ⟨_, _, _, rfl, .refl _, rfl⟩) ?_
  rintro before others returned after ⟨requests, rfl, permuted, rfl⟩
  have still := rested.alone others
  rw [still.requests] at permuted
  exact ⟨ids, ⟨ready, nonempty, permuted⟩, by rw [still.requests], still.later⟩

end Claim

section Round

variable {initial table : RequestTable} {clock : Int} {service : AnchorService} {fuel : Nat}

theorem Request.Readable.same {request later : Request} (readable : request.Readable formats)
    (same : later.Same request) : later.Readable formats := by
  unfold Request.Readable
  rw [same.streamId, same.cid]
  exact readable

/-- The rows have advanced, and one request is completed as soon as any was unfinished. -/
def World.Recovers (table : RequestTable) (clock : Int) (world : World) : Prop :=
  ∃ last, world.Rests last clock ∧ Advance table last ∧ unfinished last ≤ unfinished table - 1

theorem refill_ensures (attempts : 0 < fuel) (rests : world.Rests table clock)
    (due : ∀ request ∈ table.rows, request.Unfinished → request.Due service.requestRepository clock)
    {readyRequestsCount : Nat}
    (counted : readyRequestsCount = (table.rows.filter fun request => request.status = .READY).length) :
    Ensures (alone formats deployed thread) (fun _ reached => reached.Looked table clock)
      (service.refill fuel readyRequestsCount) world := by
  unfold AnchorService.refill
  split
  · next zero =>
      have unready : ∀ request ∈ table.rows, request.status ≠ .READY := by
        intro request member ready
        have empty := List.length_eq_zero_iff.mp (counted.symm.trans zero)
        exact List.filter_eq_nil_iff.mp empty request member (decide_eq_true ready)
      exact ensures_bind _ (findAndMarkReady_looks attempts _ _ rests due unready) fun _ _ looked => looked
  · next some_ =>
      have positive : 0 < (table.rows.filter fun request => request.status = .READY).length := by omega
      obtain ⟨found, member⟩ := List.exists_mem_of_length_pos positive
      obtain ⟨inside, ready⟩ := List.mem_filter.mp member
      exact ⟨table, rests, .refl table, fun _ _ _ => ⟨found, inside, of_decide_eq_true ready⟩⟩

theorem anchorReadyRequests_ensures (mints : formats.Mints) (attempts : 0 < fuel)
    (looked : world.Looked table clock) (readable : ∀ request ∈ table.rows, request.Readable formats) :
    Ensures (alone formats deployed thread) (fun _ reached => reached.Recovers table clock)
      (service.anchorReadyRequests formats fuel) world := by
  obtain ⟨marked, rests, refilled⟩ := looked
  refine ensures_bind _ (claimBatch_ensures service.maxStreamLimit rests) ?_
  rintro requests claimed ⟨ids, claims, rested⟩
  have processing : ∀ request ∈ requests, request.status = .PROCESSING := by
    intro request member
    obtain ⟨_, _, _, rfl⟩ := claims.cases member
    rfl
  have readableNow : ∀ request ∈ requests, request.Readable formats := by
    intro request member
    obtain ⟨row, inside, _, rfl⟩ := claims.cases member
    obtain ⟨old, inTable, advances⟩ := refilled.advance.mem inside
    exact (readable old inTable).same ((claimEdit_setsStatus.same row).trans advances.same)
  refine ensures_bind _ (anchorRequestsOf_ensures mints attempts processing readableNow rested) ?_
  rintro _ anchored ⟨stamp, completes⟩
  have advance := claims.advance stamp
  refine ensures_mono (call_ensures (WorldOp.sleep 5000) trivial (fun before => ⟨(), before, rfl⟩) completes)
    fun _ _ rests => ⟨_, rests, refilled.advance.trans advance, ?_⟩
  by_cases some_ : ∃ request ∈ table.rows, request.Unfinished
  · obtain ⟨request, member, waits⟩ := some_
    have fewer := claims.unfinished_lt stamp (refilled.ready request member waits)
    have before := refilled.advance.unfinished_le
    omega
  · have zero : unfinished table = 0 := List.countP_eq_zero.mpr fun request member waits =>
      some_ ⟨request, member, of_decide_eq_true waits⟩
    have after := (refilled.advance.trans advance).unfinished_le
    omega

/-- A worker that goes on alone completes a request. -/
theorem anchorRequests_ensures (mints : formats.Mints) (attempts : 0 < fuel)
    (queueless : service.useQueueBatches = false) (rests : world.Rests table clock)
    (due : ∀ request ∈ table.rows, request.Unfinished → request.Due service.requestRepository clock)
    (readable : ∀ request ∈ table.rows, request.Readable formats) :
    Ensures (alone formats deployed thread) (fun _ reached => reached.Recovers table clock)
      ((Task.anchorRequests service fuel).run formats) world := by
  refine ensures_bind _ ?_ fun _ _ recovers => recovers
  unfold AnchorService.anchorRequests
  rw [if_neg (by simp [queueless])]
  refine ensures_bind (fun count reached => reached.Rests table clock ∧
      count = (table.rows.filter fun request => request.status = .READY).length)
    (ensures_call (WorldOp.countByStatus .READY) (fun before _ => ⟨_, before, rfl, rfl⟩) ?_) ?_
  · rintro before others count after ⟨rfl, rfl⟩
    have rested := rests.alone others
    exact ⟨rested, by rw [rested.requests]⟩
  rintro readyRequestsCount counted ⟨rested, same⟩
  refine ensures_bind _ (refill_ensures attempts rested due same) fun _ refilled looked => ?_
  exact ensures_bind _ (anchorReadyRequests_ensures mints attempts looked readable) fun _ _ recovers =>
    recovers

/-- The rows have advanced, all unfinished ones are due, and the identifiers can be read. -/
structure World.Recoverable (formats : Formats) (repository : RequestRepository) (initial : RequestTable)
    (world : World) : Prop where
  advance : Advance initial world.requests
  due : ∀ request ∈ world.requests.rows, request.Unfinished → request.Due repository world.clock
  readable : ∀ request ∈ world.requests.rows, request.Readable formats

/-- Each worker that goes on alone leaves fewer unfinished requests. -/
theorem anchorRequests_lowers (mints : formats.Mints) (attempts : 0 < fuel)
    (queueless : service.useQueueBatches = false) :
    Rounds.Lowers (casSystem formats deployed) ((Task.anchorRequests service fuel).run formats)
      (World.Recoverable formats service.requestRepository initial)
      (fun world => unfinished world.requests) where
  round thread world recoverable := by
    refine ensures_mono (anchorRequests_ensures mints attempts queueless ⟨rfl, Int.le_refl world.clock⟩
      recoverable.due recoverable.readable) ?_
    rintro _ reached ⟨last, ⟨rfl, passed⟩, advance, fewer⟩
    refine ⟨⟨recoverable.advance.trans advance, fun later member waits => ?_, fun later member => ?_⟩, fewer⟩
    · obtain ⟨request, inside, advances⟩ := advance.mem member
      exact advances.due ((recoverable.due request inside (advances.unfinished waits)).later passed)
    · obtain ⟨request, inside, advances⟩ := advance.mem member
      exact (recoverable.readable request inside).same advances.same
  drifts := by
    rintro first second ⟨later, passed, rfl⟩ recoverable
    exact ⟨⟨recoverable.advance, fun request member waits =>
      (recoverable.due request member waits).later passed,
      recoverable.readable⟩, rfl⟩

end Round

section Runs

variable {clock : Int} {service : AnchorService} {fuel : Nat} {pool last : Cas}

/-- The identifiers of the submission can be read. -/
def Submission.Readable (formats : Formats) (submission : Submission) : Prop :=
  (∃ streamId, formats.parseStreamId submission.streamId = some streamId) ∧ submission.cid ≠ "" ∧
    ∃ cid, formats.parseCid submission.cid = some cid

/-- The codec of the request body accepts only identifiers that can be read. -/
def ReadablePosts (formats : Formats) (deployed : Task → Prop) : Prop :=
  ∀ service req params, deployed (.createRequest service req (.ok params)) → ∀ timestamp,
    Submission.Readable formats
    ⟨params.cid, params.streamId, some (RequestController.parseOrigin req), timestamp⟩

/-- In every run the identifiers of the stored requests can be read. -/
theorem stored_readable (posts : ReadablePosts formats deployed)
    (run : Reaches (casSystem formats deployed) (Cas.start clock) last) :
    ∀ request ∈ last.world.requests.rows, request.Readable formats := by
  refine @stored_submissions (Submission.Readable formats) _ _ _ _ (fun task allowed => ?_) run
  by_cases worker : ∀ service req validation, task ≠ .createRequest service req validation
  · exact Task.run_inserts worker
  · push Not at worker
    obtain ⟨service, req, validation, rfl⟩ := worker
    refine confined_bind ?_ fun _ => trivial
    cases validation with
    | error errors => trivial
    | ok params =>
        exact RequestController.createRequest_inserts service req fun timestamp _ =>
          posts service req params allowed timestamp

/-- Each request that was unfinished is completed with a proven anchor, and the others are as before. -/
structure Recovered (formats : Formats) (table : RequestTable) (world : World) : Prop where
  completed : ∀ request ∈ table.rows, request.Unfinished → ∃ later ∈ world.requests.rows,
    later.Same request ∧ later.status = .COMPLETED ∧
      ∃ anchor ∈ world.anchors.rows, anchor.requestId = request.id ∧ world.Proven formats anchor
  kept : ∀ request ∈ table.rows, ¬ request.Unfinished → request ∈ world.requests.rows

/-- Nothing is left to do once no request is unfinished. -/
theorem World.Sound.recovered {table : RequestTable} (sound : world.Sound formats)
    (advance : Advance table world.requests) (none : unfinished world.requests = 0) :
    Recovered formats table world where
  completed request member waits := by
    obtain ⟨later, inside, advances⟩ := advance.keeps member
    have done : ¬ later.Unfinished := fun still =>
      List.countP_eq_zero.mp none later inside (decide_eq_true still)
    rcases advances.moved with rfl | ⟨_, ready | completed⟩
    · exact absurd waits done
    · exact absurd (.inr (.inl ready)) done
    · obtain ⟨anchor, stored, ofRequest⟩ := sound.completed later inside completed
      exact ⟨later, inside, advances.same, completed, anchor, stored, ofRequest.trans advances.same.id,
        sound.proven anchor stored⟩
  kept request member idle := by
    obtain ⟨later, inside, advances⟩ := advance.keeps member
    rcases advances.moved with rfl | ⟨waits, _⟩
    · exact inside
    · exact absurd waits idle

/-- Workers go on one after another, each alone and without a rejection. -/
abbrev WorkerRounds (formats : Formats) (deployed : Task → Prop) (service : AnchorService) (fuel : Nat) :
    Nat → Cas → Cas → Prop :=
  Rounds (casSystem formats deployed) ((Task.anchorRequests service fuel).run formats)

/-- Whatever a run has left behind, further workers anchor every unfinished request, and none of them gets
stuck. -/
theorem requests_recovered (mints : formats.Mints) (posts : ReadablePosts formats deployed)
    (works : deployed (.anchorRequests service fuel)) (queueless : service.useQueueBatches = false)
    (attempts : 0 < fuel) (run : Reaches (casSystem formats deployed) (Cas.start clock) pool)
    (due : ∀ request ∈ pool.world.requests.rows, request.Unfinished →
      request.Due service.requestRepository pool.world.clock) :
    (∀ count last, unfinished pool.world.requests ≤ count →
      WorkerRounds formats deployed service fuel count pool last →
      Recovered formats pool.world.requests last.world) ∧
    (∀ count, ∃ last, WorkerRounds formats deployed service fuel count pool last) ∧
    ∀ count middle thread reached, WorkerRounds formats deployed service fuel count pool middle →
      Solo (casSystem formats deployed) thread
        (middle.resume thread ((Task.anchorRequests service fuel).run formats) middle.world) reached →
      ∃ final value, Solo (casSystem formats deployed) thread reached final ∧
        final.threads thread = some (.done value) := by
  have lowers :=
    @anchorRequests_lowers formats deployed pool.world.requests service fuel mints attempts queueless
  have held : pool.world.Recoverable formats service.requestRepository pool.world.requests :=
    ⟨.refl _, due, stored_readable posts run⟩
  have entry : ∀ thread, (casSystem formats deployed).entry thread
      ((Task.anchorRequests service fuel).run formats) := fun _ => ⟨_, works, rfl⟩
  refine ⟨fun count last enough rounds => ?_, fun count => ?_, ?_⟩
  · obtain ⟨recoverable, bound⟩ := rounds.settles lowers held
    have sound := reaches_sound (run.trans (rounds.reaches entry))
    exact sound.recovered recoverable.advance (by omega)
  · induction count with
    | zero => exact ⟨pool, .rest pool⟩
    | succ count ih =>
        obtain ⟨middle, rounds⟩ := ih
        have reached : Reaches (casSystem formats deployed) (Cas.start clock) middle :=
          run.trans (rounds.reaches entry)
        obtain ⟨bound, free⟩ := reached.free_above
        let begun := middle.resume bound ((Task.anchorRequests service fuel).run formats) middle.world
        have still : Solo (casSystem formats deployed) bound begun begun := .refl
        obtain ⟨final, value, rest, returned⟩ := rounds.goes_on lowers held still
        exact ⟨final, .round rounds (free bound (Nat.le_refl bound)) rest returned⟩
  · exact fun count middle thread reached rounds solo => rounds.goes_on lowers held solo

/-- Each text is the hash of one transaction. -/
theorem loneFormats_mints : loneFormats.Mints := by
  intro used
  let hash : Nat → Cid := fun length =>
    loneFormats.hashCid ⟨"eip155:100", String.ofList (List.replicate (length + 2) 'f'), 1, 1⟩
  have injective : Function.Injective hash := by
    intro first second same
    have texts := Cid.foreign.inj same
    have lists := congrArg (fun text => text.toList.length) texts
    simpa [String.toList_copy_drop] using lists
  obtain ⟨_, ⟨length, rfl⟩, fresh⟩ :=
    (Set.infinite_range_of_injective injective).exists_notMem_finite used.finite_toSet
  exact ⟨_, fresh⟩

/-- A worker has crashed after its claim, and the next one anchors the request. -/
theorem requests_recovered_lone : ∃ pool last : Cas, ∃ request ∈ pool.world.requests.rows,
    Reaches (casSystem loneFormats postAndWorker) (Cas.start 0) pool ∧ request.status = .PROCESSING ∧
      WorkerRounds loneFormats postAndWorker loneWorker 1 1 pool last ∧
      Recovered loneFormats pool.world.requests last.world := by
  obtain ⟨pool, run, _, _, rows, _, _, clock, _, _⟩ := @lone_request_claimed postAndWorker (fun _ _ => True)
    (.inl rfl) (.inr rfl) (PROCESSING_TIMEOUT + 1) (fun _ _ _ _ => trivial) (by decide)
  have posts : ReadablePosts loneFormats postAndWorker := by
    rintro service req params (same | same) timestamp
    · cases same
      have named : "bafkqaaa" ≠ "" := by decide
      exact ⟨⟨_, rfl⟩, named, _, rfl⟩
    · cases same
  have due : ∀ request ∈ pool.world.requests.rows, request.Unfinished →
      request.Due loneWorker.requestRepository pool.world.clock := by
    intro request member _
    rw [rows] at member
    obtain rfl := List.mem_singleton.mp member
    rw [clock]
    exact ⟨by decide, fun _ => by decide⟩
  have one : unfinished pool.world.requests ≤ 1 := by
    rw [unfinished, rows]
    decide
  obtain ⟨recovers, exists_, _⟩ := requests_recovered loneFormats_mints posts (.inr rfl) rfl Nat.one_pos
    (Reaches.of_under run) due
  obtain ⟨last, rounds⟩ := exists_ 1
  refine ⟨pool, last, loneRequest .PROCESSING "Request is pending.", ?_, Reaches.of_under run, rfl, rounds,
    recovers 1 last one rounds⟩
  rw [rows]
  exact List.mem_singleton_self _

end Runs

end CeramicAnchor
