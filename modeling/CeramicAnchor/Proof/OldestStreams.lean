import CeramicAnchor.Proof.Alone
import CeramicAnchor.Storage.Grouping
import Mathlib.Data.List.Permutation

/-
This file proves which requests become ready: those of the oldest streams, and no others.
-/

namespace CeramicAnchor
open Concurrency Storage RequestRepository Prog

variable {maxStreamLimit minStreamLimit : Nat} {anchoringDeadline now earliest : Int}

section Specification

/-- The request is pending, or its processing has timed out. -/
def Eligible (now : Int) (request : Request) : Prop :=
  request.status = .PENDING ∨ (request.status = .PROCESSING ∧ request.updatedAt < now - PROCESSING_TIMEOUT)

instance (now : Int) (request : Request) : Decidable (Eligible now request) :=
    inferInstanceAs (Decidable (_ ∨ _))

def eligible (snapshot : RequestTable) (now : Int) : Set Request :=
  {request | request ∈ snapshot.rows ∧ Eligible now request}

/-- There is no stream, or there are too few streams and no request has waited for too long. -/
def Withheld (requests : Set Request) (minStreamLimit : Nat) (anchoringDeadline : Int)
    (streams : List String) : Prop :=
  streams = [] ∨
  (streams.length < minStreamLimit ∧ ∀ request ∈ requests, anchoringDeadline ≤ request.createdAt)

/-- The requests are the eligible requests of the streams, the oldest first. -/
structure OfStreams (snapshot : RequestTable) (now : Int) (streams : List String)
    (requests : List Request) : Prop where
  permuted :
    requests.Perm (snapshot.rows.filter fun request => Eligible now request ∧ request.streamId ∈ streams)
  ordered : requests.Pairwise fun first second => first.createdAt ≤ second.createdAt

/-- The requests of the oldest streams become ready together, or the table stays as it is. -/
structure MarksOldest (maxStreamLimit minStreamLimit : Nat) (anchoringDeadline now earliest latest : Int)
    (snapshot current next : RequestTable) (requests : List Request) : Prop where
  exists_ : ∃ streams, EarliestGroups Request.streamId Request.createdAt (eligible snapshot now)
    maxStreamLimit streams ∧
    (Withheld (eligible snapshot now) minStreamLimit anchoringDeadline streams → requests = [] ∧
      next = current) ∧
    (¬ Withheld (eligible snapshot now) minStreamLimit anchoringDeadline streams →
      OfStreams snapshot now streams requests ∧ (∀ request ∈ requests, request ∈ current.rows) ∧
        (∃ stamp, earliest ≤ stamp ∧ stamp ≤ latest ∧ next = current.update
          (fun request => request.id ∈ requests.map Request.id)
          ((⟨none, some .READY, none⟩ : RequestUpdateFields).edit stamp)) ∧
        ∀ left ∈ eligible snapshot now, left.streamId ∉ streams → ∀ stream ∈ streams,
          Precedes Request.streamId Request.createdAt (eligible snapshot now) stream left)

end Specification

section Streams

variable {rows : List Request}

theorem groupByStream_eq (rows : List Request) :
    groupByStream rows = groupsByMinimum Request.streamId Request.createdAt rows := rfl

/-- The streams are the oldest ones, unless they are withheld. -/
theorem chooseStreams_spec (maxStreamLimit minStreamLimit : Nat) (anchoringDeadline : Int)
    (rows : List Request) :
    ∃ streams, EarliestGroups Request.streamId Request.createdAt {row | row ∈ rows} maxStreamLimit streams ∧
      (Withheld {row | row ∈ rows} minStreamLimit anchoringDeadline streams →
        chooseStreams maxStreamLimit minStreamLimit anchoringDeadline rows = []) ∧
      (¬ Withheld {row | row ∈ rows} minStreamLimit anchoringDeadline streams →
        chooseStreams maxStreamLimit minStreamLimit anchoringDeadline rows = streams) := by
  have earliest := groupsByMinimum_earliest Request.streamId Request.createdAt rows maxStreamLimit
  have minimum : ∀ entry ∈ limited maxStreamLimit (groupByStream rows), entry.2 = minCreatedAt rows entry.1 :=
    fun entry member => groupsByMinimum_minimum Request.streamId Request.createdAt rows entry
      ((limited_sublist _ _).subset member)
  rw [← groupByStream_eq] at earliest
  refine ⟨_, earliest, ?_⟩
  simp only [chooseStreams]
  rw [← limited]
  generalize limited maxStreamLimit (groupByStream rows) = streamsToAnchor at earliest minimum ⊢
  cases streamsToAnchor with
  | nil => exact ⟨fun _ => rfl, fun _ => rfl⟩
  | cons first rest =>
      have oldest := minimum first List.mem_cons_self
      obtain ⟨⟨row, inside, _, attained⟩, _⟩ :=
        minimumDate_spec Request.createdAt (earliest.inhabited List.mem_cons_self)
      have attained : row.createdAt = first.2 := attained.trans oldest.symm
      have waiting : ¬ first.2 < anchoringDeadline ↔
          ∀ request ∈ {row | row ∈ rows}, anchoringDeadline ≤ request.createdAt := by
        constructor
        · intro fresh request member
          obtain ⟨earlier, inRows, same, before⟩ := earliest.head_precedes member
          have least := (minimumDate_spec Request.createdAt ⟨earlier, inRows, same⟩).2 earlier inRows same
          have bound : first.2 ≤ earlier.createdAt := oldest.trans_le least
          omega
        · intro all
          have := all row inside
          omega
      have few : ¬ minStreamLimit ≤ (first :: rest).length ↔
          ((first :: rest).map Prod.fst).length < minStreamLimit := by
        rw [List.length_map, Nat.not_le]
      have withheld :
          Withheld {row | row ∈ rows} minStreamLimit anchoringDeadline ((first :: rest).map Prod.fst) ↔
          ¬ minStreamLimit ≤ (first :: rest).length ∧ ¬ first.2 < anchoringDeadline := by
        rw [few, waiting]
        exact or_iff_right (by simp)
      rw [withheld]
      exact ⟨fun held => if_pos held, fun held => if_neg held⟩

end Streams

section Transaction

variable {snapshot : RequestTable}

theorem findRequestsToAnchor_iff {request : Request} : findRequestsToAnchor now request = true ↔
    Eligible now request :=
  decide_eq_true_iff

/-- The transaction marks the requests of the oldest streams, or it has not written. -/
structure SelectsOldest (maxStreamLimit minStreamLimit : Nat) (anchoringDeadline now earliest : Int)
    (snapshot : RequestTable) (requests : List Request) (last : RequestProgress) : Prop where
  exists_ : ∃ streams, EarliestGroups Request.streamId Request.createdAt (eligible snapshot now)
    maxStreamLimit streams ∧
    (Withheld (eligible snapshot now) minStreamLimit anchoringDeadline streams → requests = [] ∧
      last.pending = []) ∧
    (¬ Withheld (eligible snapshot now) minStreamLimit anchoringDeadline streams →
      OfStreams snapshot now streams requests ∧
        Marks snapshot ⟨none, some .READY, none⟩ (Eligible now) earliest requests last)

/-- The first query finds the oldest streams, or no stream when they are withheld. -/
structure Finds (maxStreamLimit minStreamLimit : Nat) (anchoringDeadline now : Int) (snapshot : RequestTable)
    (streamIds streams : List String) : Prop where
  earliest : EarliestGroups Request.streamId Request.createdAt (eligible snapshot now) maxStreamLimit streams
  withheld : Withheld (eligible snapshot now) minStreamLimit anchoringDeadline streams → streamIds = []
  otherwise : ¬ Withheld (eligible snapshot now) minStreamLimit anchoringDeadline streams →
  streamIds = streams

theorem findStreamsToAnchor_sat (maxStreamLimit minStreamLimit : Nat) (anchoringDeadline now earliest : Int) :
    Sat (snapshotSetting Request.id snapshot) (fun _ _ _ _ => True)
      (fun streamIds last => Reads snapshot earliest last ∧
        ∃ streams, Finds maxStreamLimit minStreamLimit anchoringDeadline now snapshot streamIds streams)
      (fun error _ => error.External)
      (findStreamsToAnchor maxStreamLimit minStreamLimit anchoringDeadline now) (.fresh earliest) := by
  refine sat_bind _ (select_sat (.fresh earliest) _) ?_
  rintro rows reached ⟨permuted, reads, _⟩
  have same : {row | row ∈ rows} = eligible snapshot now := by
    ext row
    change row ∈ rows ↔ row ∈ snapshot.rows ∧ Eligible now row
    rw [permuted.mem_iff, List.mem_filter, findRequestsToAnchor_iff]
  obtain ⟨streams, earliest, withheld, otherwise⟩ :=
    chooseStreams_spec maxStreamLimit minStreamLimit anchoringDeadline rows
  rw [same] at earliest withheld otherwise
  exact ⟨reads, streams, earliest, withheld, otherwise⟩

/-- The second query finds the eligible requests of the streams. -/
theorem findRequestsToAnchorForStreams_sat {progress : RequestProgress}
    (reads : Reads snapshot earliest progress) (streamIds : List String) (now : Int) :
    Sat (snapshotSetting Request.id snapshot) (fun _ _ _ _ => True)
      (fun requests last => Reads snapshot earliest last ∧ OfStreams snapshot now streamIds requests ∧
        ∀ request ∈ requests, request ∈ last.read)
      (fun error _ => error.External) (findRequestsToAnchorForStreams streamIds now) progress := by
  refine sat_bind _ (select_sat reads _) ?_
  rintro rows reached ⟨permuted, reads, wasRead⟩
  have sorted :=
    List.perm_insertionSort (fun first second : Request => first.createdAt ≤ second.createdAt) rows
  have chosen :
      (snapshot.rows.filter fun request => findRequestsToAnchor now request ∧ request.streamId ∈ streamIds) =
      snapshot.rows.filter fun request => Eligible now request ∧ request.streamId ∈ streamIds := by
    apply List.filter_congr
    intro request _
    rw [decide_eq_decide, findRequestsToAnchor_iff]
  refine ⟨reads, ⟨sorted.trans (chosen ▸ permuted), pairwise_sorted Request.createdAt rows⟩,
    fun request member => ?_⟩
  exact wasRead request (sorted.mem_iff.mp member)

/-- A transaction marks the eligible requests of the oldest streams. -/
theorem markReady_selects (maxStreamLimit minStreamLimit : Nat) (anchoringDeadline now earliest : Int) :
    Sat (snapshotSetting Request.id snapshot) (fun _ _ _ _ => True)
      (fun requests last =>
        SelectsOldest maxStreamLimit minStreamLimit anchoringDeadline now earliest snapshot requests last)
      (fun error _ => error.External)
      (markReady maxStreamLimit minStreamLimit anchoringDeadline now) (.fresh earliest) := by
  refine sat_bind _ (findStreamsToAnchor_sat maxStreamLimit minStreamLimit anchoringDeadline now earliest) ?_
  rintro streamIds reached ⟨reads, streams, finds⟩
  by_cases held : Withheld (eligible snapshot now) minStreamLimit anchoringDeadline streams
  · obtain rfl := finds.withheld held
    exact ⟨streams, finds.earliest, fun _ => ⟨rfl, reads.pending⟩, fun free => absurd held free⟩
  · obtain rfl := finds.otherwise held
    have nonempty : streamIds ≠ [] := fun empty => held (.inl empty)
    rw [if_neg (by simpa using nonempty)]
    refine sat_bind _ (findRequestsToAnchorForStreams_sat reads streamIds now) ?_
    rintro requests last ⟨readsNow, ofStreams, wasRead⟩
    have inside : ∀ request ∈ requests, request ∈ snapshot.rows ∧ request ∈ last.read ∧
        Eligible now request := by
      intro request member
      obtain ⟨inTable, picked⟩ := List.mem_filter.mp (ofStreams.permuted.mem_iff.mp member)
      exact ⟨inTable, wasRead request member, (of_decide_eq_true picked).1⟩
    have some_ : requests ≠ [] := by
      obtain ⟨stream, rest, rfl⟩ := List.exists_cons_of_ne_nil nonempty
      obtain ⟨row, ⟨inTable, eligible⟩, same⟩ := finds.earliest.inhabited List.mem_cons_self
      refine List.ne_nil_of_mem
        (ofStreams.permuted.mem_iff.mpr (List.mem_filter.mpr ⟨inTable, decide_eq_true ?_⟩))
      exact ⟨eligible, same ▸ List.mem_cons_self⟩
    rw [if_neg (by simpa using some_)]
    have distinct := ids_nodup ofStreams.permuted
    refine sat_bind _
      (updateRequests_sat readsNow ⟨none, some .READY, none⟩ (Eligible now) distinct inside) ?_
    rintro count done ⟨rfl, marks⟩
    rw [if_neg (by simp)]
    exact ⟨streamIds, finds.earliest, fun withheld => absurd withheld held, fun _ => ⟨ofStreams, marks⟩⟩

/-- The update of the found requests finds all of them. -/
theorem updateAll_ensures {progress : RequestProgress} (reads : Reads snapshot began progress)
    (status : RequestStatus) (name : String) {requests : List Request}
    (distinct : (requests.map Request.id).Nodup)
    (inside : ∀ request ∈ requests, request ∈ snapshot.rows ∧ request ∈ progress.read ∧ True) :
    Ensures (promptSetting Request.id snapshot) (fun _ _ => True) (updateAll status name requests)
      progress := by
  have updated : (updateRequests ⟨none, some status, none⟩ requests).Resolute :=
    resolute_bind (resolute_call Statement.clock) fun _ => resolute_call (Statement.update _ _)
  refine ensures_bind _ (ensures_prompt (ensures_resolute updated)
    (updateRequests_sat reads ⟨none, some status, none⟩ (fun _ => True) distinct inside)) ?_
  rintro count last ⟨rfl, _⟩
  rw [if_neg (by simp)]
  trivial

/-- The transaction that marks requests comes to a value on every snapshot. -/
theorem markReady_ensures (maxStreamLimit minStreamLimit : Nat) (anchoringDeadline now began : Int) :
    Ensures (promptSetting Request.id snapshot) (fun _ _ => True)
      (markReady maxStreamLimit minStreamLimit anchoringDeadline now) (.fresh began) := by
  have streams : (findStreamsToAnchor maxStreamLimit minStreamLimit anchoringDeadline now).Resolute :=
    resolute_bind (resolute_call (Statement.select _)) fun _ => trivial
  refine ensures_bind _ (ensures_prompt (ensures_resolute streams)
    (findStreamsToAnchor_sat maxStreamLimit minStreamLimit anchoringDeadline now began)) ?_
  rintro streamIds reached ⟨reads, _⟩
  split
  · trivial
  · have found : (findRequestsToAnchorForStreams streamIds now).Resolute :=
      resolute_bind (resolute_call (Statement.select _)) fun _ => trivial
    refine ensures_bind _ (ensures_prompt (ensures_resolute found)
      (findRequestsToAnchorForStreams_sat reads streamIds now)) ?_
    rintro requests last ⟨readsNow, ofStreams, wasRead⟩
    split
    · trivial
    · refine updateAll_ensures readsNow .READY "READY" (ids_nodup ofStreams.permuted) fun request member => ?_
      have inTable := (List.mem_filter.mp (ofStreams.permuted.mem_iff.mp member)).1
      exact ⟨inTable, wasRead request member, trivial⟩

end Transaction

section Call

variable {formats : Formats} {thread : Nat} {world next : World} {history : List Happening}
  {repository : RequestRepository}

/-- The others keep the open transaction of the thread. -/
theorem World.Others.own (others : World.Others formats thread world next) :
    next.transactions thread = world.transactions thread := by
  induction others with
  | refl => rfl
  | tail _ step ih =>
      refine Eq.trans ?_ ih
      rcases step with ⟨other, op, reply, different, performed⟩ | ⟨later, passed, rfl⟩
      · exact ((WorldOp.perform_moves performed).others different.symm).2
      · rfl

/-- No event of the call has changed a request. -/
def Untouched (history : List Happening) : Prop :=
    ∀ event ∈ history, event.after.requests = event.before.requests

theorem Untouched.concat (untouched : Untouched history) {event : Happening}
    (same : event.after.requests = event.before.requests) : Untouched (history ++ [event]) := by
  intro other member
  rcases List.mem_append.mp member with old | new
  · exact untouched other old
  · rw [List.mem_singleton.mp new]
    exact same

/-- The call has read the clock, and it has changed nothing. -/
structure Timed (now : Int) (history : List Happening) : Prop where
  untouched : Untouched history
  asked : ∃ before, ⟨.now, before, .ok now, before⟩ ∈ history ∧ now = before.clock

/-- A committed transaction has marked the requests in the current table. -/
theorem World.Committed.marksOldest {opened : OpenTransaction} {requests : List Request}
    {table : RequestTable} (own : world.transactions thread = some opened)
    (committed : world.Committed thread (markReady maxStreamLimit minStreamLimit anchoringDeadline now)
      requests table) :
    MarksOldest maxStreamLimit minStreamLimit anchoringDeadline now opened.began world.clock opened.snapshot
      world.requests table requests := by
  obtain ⟨transaction, last, current, evaluates, passed, commit⟩ := committed.exists_
  obtain rfl := Option.some.inj (own.symm.trans current)
  obtain ⟨streams, earliest, withheld, otherwise⟩ :=
    evaluates.spec (markReady_selects maxStreamLimit minStreamLimit anchoringDeadline now opened.began)
  refine ⟨streams, earliest, fun held => ?_, fun free => ?_⟩
  · obtain ⟨none_, pending⟩ := withheld held
    refine ⟨none_, ?_⟩
    rw [commit.published, pending, Table.publish_nil]
  · obtain ⟨ofStreams, marks⟩ := otherwise free
    obtain ⟨stamp, targets, later, early, permuted, pending⟩ := marks.edits
    have distinct : targets.Nodup := permuted.nodup_iff.mpr marks.distinct
    have edited : last.pending.map Prod.fst = targets := by
      rw [pending, List.map_map]
      exact List.map_id _
    refine ⟨ofStreams, fun request member => ?_, ⟨stamp, later, early.trans passed, ?_⟩,
      fun left member out stream chosen =>
      earliest.left_out chosen member out⟩
    · have inTargets : request.id ∈ targets := permuted.mem_iff.mpr (List.mem_map_of_mem member)
      have inSnapshot := (marks.inside request member).1
      have found := (Table.lookup_eq_some id_indexed).mpr ⟨inSnapshot, rfl⟩
      rw [← commit.unchanged request.id (edited ▸ inTargets)] at found
      exact (Table.lookup_mem found).1
    · rw [commit.published, pending, Table.publish_map distinct]
      congr 1
      funext row
      exact decide_eq_decide.mpr permuted.mem_iff

end Call

section Return

variable {formats : Formats} {deployed : Task → Prop} {thread : Nat} {start world : World}
  {repository : RequestRepository}

/-- The requests of the oldest streams of the first table are ready, and all times came after the start. -/
def World.MarksFrom (repository : RequestRepository) (maxStreamLimit minStreamLimit : Nat) (start : World)
    (requests : List Request) (reached : World) : Prop :=
  ∃ now began latest, start.clock ≤ now ∧ now ≤ began ∧ began ≤ latest ∧ latest ≤ reached.clock ∧
    MarksOldest maxStreamLimit minStreamLimit (now - repository.maxAnchoringDelayMS) now began
      latest start.requests start.requests reached.requests requests

theorem markTransaction_ensures (maxStreamLimit minStreamLimit : Nat) (since : start.clock ≤ now)
    (rests : world.Rests start.requests now) :
    Ensures (alone formats deployed thread)
      (start.MarksFrom repository maxStreamLimit minStreamLimit)
      (worldClient.transaction
        (.markReady maxStreamLimit minStreamLimit (now - repository.maxAnchoringDelayMS) now)) world := by
  refine ensures_bind _ (begin_ensures rests) fun _ reached transacts => ?_
  refine ensures_call (WorldOp.commit _) ?_ ?_
  · intro before others
    obtain ⟨value, requests, committed⟩ := (transacts.alone others).ready
      (markReady_ensures maxStreamLimit minStreamLimit (now - repository.maxAnchoringDelayMS) now)
    exact ⟨value, _, requests, committed, rfl⟩
  · intro before others requests after performed
    obtain ⟨rested, began, opened, late, passed⟩ := transacts.alone others
    obtain ⟨marked, committed, rfl⟩ := performed
    have marks := World.Committed.marksOldest opened committed
    rw [rested.requests] at marks
    exact ⟨now, began, before.clock, since, late, passed, Int.le_refl _, marks⟩

/-- A call that goes on alone returns. -/
theorem findAndMarkReady_ensures (repository : RequestRepository) (fuel maxStreamLimit minStreamLimit : Nat)
    (start : World) :
    Ensures (alone formats deployed thread) (start.MarksFrom repository maxStreamLimit minStreamLimit)
      (repository.findAndMarkReady worldClient (fuel + 1) maxStreamLimit minStreamLimit) start := by
  have still : start.Rests start.requests start.clock := ⟨rfl, Int.le_refl _⟩
  refine ensures_bind (fun now reached => start.clock ≤ now ∧ reached.Rests start.requests now)
    (ensures_call WorldOp.now (fun before _ => ⟨before.clock, before, rfl, rfl⟩) ?_) ?_
  · intro before others now after performed
    obtain ⟨rfl, rfl⟩ := performed
    have rested := still.alone others
    exact ⟨rested.later, rested.requests, Int.le_refl _⟩
  · rintro now reached ⟨since, rested⟩
    exact ensures_handle (markTransaction_ensures maxStreamLimit minStreamLimit since rested)

end Return

end CeramicAnchor
