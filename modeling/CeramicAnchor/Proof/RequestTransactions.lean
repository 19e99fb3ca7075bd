import CeramicAnchor.Construction.RequestRepository

/-
This file specifies the transactions of the request repository on their snapshots.
-/

namespace CeramicAnchor.RequestRepository
open Concurrency Storage

variable {snapshot : RequestTable}

abbrev RequestProgress := Progress Request String requestColumns

/-- The transaction has edited exactly these rows, and it had read each of them. -/
structure Marks (snapshot : RequestTable) (fields : RequestUpdateFields) (allowed : Request → Prop)
    (earliest : Int) (requests : List Request) (last : RequestProgress) : Prop where
  inside : ∀ request ∈ requests, request ∈ snapshot.rows ∧ request ∈ last.read ∧ allowed request
  distinct : (requests.map Request.id).Nodup
  edits : ∃ stamp targets, earliest ≤ stamp ∧ stamp ≤ last.clock ∧
    List.Perm targets (requests.map Request.id) ∧
    last.pending = targets.map fun target => (target, fields.edit stamp)

/-- A transaction that has not edited any row. -/
structure Reads (snapshot : RequestTable) (earliest : Int) (last : RequestProgress) : Prop where
  pending : last.pending = []
  later : earliest ≤ last.clock

theorem Reads.fresh (earliest : Int) : Reads snapshot earliest (.fresh earliest) :=
  ⟨rfl, Int.le_refl _⟩

theorem Reads.marks_nothing {fields : RequestUpdateFields} {allowed : Request → Prop} {earliest : Int}
    {last : RequestProgress} (reads : Reads snapshot earliest last) :
    Marks snapshot fields allowed earliest [] last where
  inside := by simp
  distinct := by simp
  edits := ⟨last.clock, [], reads.later, Int.le_refl _, .refl _, reads.pending⟩

/-- A selection returns the chosen rows of the snapshot. -/
theorem select_sat {earliest : Int} {progress : RequestProgress} (reads : Reads snapshot earliest progress)
    (chosen : Request → Bool) :
    Sat (snapshotSetting Request.id snapshot) (fun _ _ _ _ => True)
      (fun rows last => List.Perm rows (snapshot.rows.filter chosen) ∧ Reads snapshot earliest last ∧
        ∀ row ∈ rows, row ∈ last.read)
      (fun error _ => error.External)
      (Prog.call (Statement.select chosen) : RequestBody (List Request)) progress := by
  refine sat_call (Statement.select chosen) ?_ ?_
  · rintro before ⟨clock, passed, rfl⟩ rows after ⟨permuted, rfl⟩
    rw [reads.pending, Table.publish_nil] at permuted
    refine ⟨trivial, permuted, ⟨reads.pending, Int.le_trans reads.later passed⟩, fun row member => ?_⟩
    exact List.mem_append_right _ member
  · rintro before _ error after ⟨external, _⟩
    exact ⟨trivial, external⟩

/-- The transaction has edited the rows of these keys with one stamp. -/
structure Writes (snapshot : RequestTable) (fields : RequestUpdateFields) (earliest : Int) (ids : List String)
    (stamp : Int) (targets : List String) (last : RequestProgress) : Prop where
  later : earliest ≤ stamp
  passed : stamp ≤ last.clock
  found : List.Perm targets (snapshot.targets Request.id ids)
  pending : last.pending = targets.map fun target => (target, fields.edit stamp)

/-- An update edits the rows of the snapshot that have one of the ids. -/
theorem updateRequests_writes {earliest : Int} {progress : RequestProgress}
    (reads : Reads snapshot earliest progress) (fields : RequestUpdateFields) (requests : List Request) :
    Sat (snapshotSetting Request.id snapshot) (fun _ _ _ _ => True)
      (fun count last => ∃ stamp targets, count = targets.length ∧ last.read = progress.read ∧
        Writes snapshot fields earliest (requests.map Request.id) stamp targets last)
      (fun error _ => error.External) (updateRequests fields requests) progress := by
  refine sat_bind (fun stamp reached => reached = { progress with clock := stamp } ∧ earliest ≤ stamp)
    (sat_call Statement.clock ?_ ?_) ?_
  · rintro before ⟨clock, passed, rfl⟩ stamp after ⟨rfl, rfl⟩
    exact ⟨trivial, rfl, Int.le_trans reads.later passed⟩
  · rintro before _ error after ⟨external, _⟩
    exact ⟨trivial, external⟩
  · rintro stamp reached ⟨rfl, late⟩
    refine sat_call (Statement.update (requests.map Request.id) (fields.edit stamp)) ?_ ?_
    · rintro before ⟨clock, passed, rfl⟩ count after ⟨targets, permuted, rfl, rfl⟩
      rw [reads.pending, Table.publish_nil] at permuted
      refine ⟨trivial, stamp, targets, rfl, rfl, late, passed, permuted, ?_⟩
      change progress.pending ++ _ = _
      rw [reads.pending, List.nil_append]
    · rintro before _ error after ⟨external, _⟩
      exact ⟨trivial, external⟩

/-- An update of rows that were read edits each of them once. -/
theorem updateRequests_sat {earliest : Int} {progress : RequestProgress}
    (reads : Reads snapshot earliest progress) (fields : RequestUpdateFields)
    (allowed : Request → Prop) {requests : List Request} (distinct : (requests.map Request.id).Nodup)
    (inside : ∀ request ∈ requests, request ∈ snapshot.rows ∧ request ∈ progress.read ∧ allowed request) :
    Sat (snapshotSetting Request.id snapshot) (fun _ _ _ _ => True)
      (fun count last => count = requests.length ∧ Marks snapshot fields allowed earliest requests last)
      (fun error _ => error.External) (updateRequests fields requests) progress := by
  refine sat_mono (updateRequests_writes reads fields requests) (fun _ _ _ _ held => held) ?_
    (fun _ _ held => held)
  rintro count last ⟨stamp, targets, counted, sameReads, writes⟩
  have found := writes.found.trans
    (Table.targets_perm id_indexed distinct fun request member => (inside request member).1)
  refine ⟨?_, fun request member => ?_, distinct, stamp, targets, writes.later, writes.passed, found,
    writes.pending⟩
  · rw [counted, found.length_eq, List.length_map]
  · rw [sameReads]
    exact inside request member

/-- The update of all the requests never throws its own error. -/
theorem updateAll_sat {earliest : Int} {progress : RequestProgress}
    (reads : Reads snapshot earliest progress) (status : RequestStatus) (name : String)
    {allowed : Request → Prop} {requests : List Request} (distinct : (requests.map Request.id).Nodup)
    (inside : ∀ request ∈ requests, request ∈ snapshot.rows ∧ request ∈ progress.read ∧ allowed request) :
    Sat (snapshotSetting Request.id snapshot) (fun _ _ _ _ => True)
      (fun result last => Marks snapshot ⟨none, some status, none⟩ allowed earliest result last)
      (fun error _ => error.External) (updateAll status name requests) progress := by
  refine sat_bind _ (updateRequests_sat reads ⟨none, some status, none⟩ allowed distinct inside) ?_
  rintro count last ⟨rfl, marks⟩
  rw [if_neg (by simp)]
  exact marks

/-- Rows of a selection have distinct ids. -/
theorem ids_nodup {rows : List Request} {chosen : Request → Bool}
    (permuted : List.Perm rows (snapshot.rows.filter chosen)) : (rows.map Request.id).Nodup := by
  have distinct := snapshot.distinct Request.id id_indexed
  rw [(permuted.map Request.id).nodup_iff]
  exact distinct.sublist (List.filter_sublist.map Request.id)

/-- A sorted selection returns the chosen rows. -/
theorem sorted_sat {earliest : Int} {progress : RequestProgress} (reads : Reads snapshot earliest progress)
    (chosen : Request → Bool) (order : Request → Request → Prop)
    [DecidableRel order] :
    Sat (snapshotSetting Request.id snapshot) (fun _ _ _ _ => True)
      (fun rows last => (rows.map Request.id).Nodup ∧ Reads snapshot earliest last ∧
        ∀ row ∈ rows, row ∈ snapshot.rows ∧ row ∈ last.read ∧ chosen row = true)
      (fun error _ => error.External)
      (do
        let rows : List Request ← Prog.call (Statement.select chosen)
        pure (rows.insertionSort order) : RequestBody (List Request)) progress := by
  refine sat_bind _ (select_sat reads chosen) ?_
  rintro rows last ⟨permuted, readsNow, member⟩
  have sorted := List.perm_insertionSort order rows
  refine ⟨ids_nodup (sorted.trans permuted), readsNow, fun row inSorted => ?_⟩
  have inRows := sorted.mem_iff.mp inSorted
  obtain ⟨inTable, picked⟩ := List.mem_filter.mp (permuted.mem_iff.mp inRows)
  exact ⟨inTable, member row inRows, picked⟩

/-- A request is marked READY only when it is pending or its processing has timed out. -/
theorem markReady_sat (maxStreamLimit minStreamLimit : Nat) (anchoringDeadline now earliest : Int) :
    Sat (snapshotSetting Request.id snapshot) (fun _ _ _ _ => True)
      (fun result last => Marks snapshot ⟨none, some .READY, none⟩
        (fun request => findRequestsToAnchor now request = true) earliest result last)
      (fun error _ => error.External)
      (markReady maxStreamLimit minStreamLimit anchoringDeadline now) (.fresh earliest) := by
  refine sat_bind (fun _ reached => Reads snapshot earliest reached)
    (sat_bind _ (select_sat (.fresh earliest) _) ?_) ?_
  · rintro rows reached ⟨_, reads, _⟩
    exact reads
  · intro streamIds reached reads
    split
    · exact reads.marks_nothing
    · refine sat_bind _ (sorted_sat reads _ _) ?_
      rintro requests last ⟨distinct, readsNow, inside⟩
      split
      · exact readsNow.marks_nothing
      · refine updateAll_sat readsNow .READY "READY" distinct fun request member => ?_
        obtain ⟨inTable, wasRead, picked⟩ := inside request member
        exact ⟨inTable, wasRead, (by simpa using picked : _ ∧ _).1⟩

theorem markAsProcessing_sat (earliest : Int) :
    Sat (snapshotSetting Request.id snapshot) (fun _ _ _ _ => True)
      (fun result last => Marks snapshot ⟨none, some .PROCESSING, none⟩
        (fun request => request.status = .READY) earliest result last)
      (fun error _ => error.External) markAsProcessing (.fresh earliest) := by
  refine sat_bind _ (sorted_sat (.fresh earliest) _ _) ?_
  rintro requests last ⟨distinct, reads, inside⟩
  split
  · exact reads.marks_nothing
  · refine updateAll_sat reads .PROCESSING "PROCESSING" distinct fun request member => ?_
    obtain ⟨inTable, wasRead, picked⟩ := inside request member
    exact ⟨inTable, wasRead, by simpa using picked⟩

theorem refreshReady_sat (readyRetryIntervalMS earliest : Int) :
    Sat (snapshotSetting Request.id snapshot) (fun _ _ _ _ => True)
      (fun _ last => ∃ requests, Marks snapshot ⟨none, some .READY, none⟩
        (fun request => request.status = .READY) earliest requests last)
      (fun error _ => error.External) (refreshReady readyRetryIntervalMS) (.fresh earliest) := by
  refine sat_bind _ (sorted_sat (.fresh earliest) _ _) ?_
  rintro requests last ⟨distinct, reads, inside⟩
  refine sat_bind (fun _ reached => Reads snapshot earliest reached ∧ reached.read = last.read)
    (sat_call Statement.clock ?_ ?_) ?_
  · rintro before ⟨clock, passed, rfl⟩ stamp after ⟨rfl, rfl⟩
    exact ⟨trivial, ⟨reads.pending, Int.le_trans reads.later passed⟩, rfl⟩
  · rintro before _ error after ⟨external, _⟩
    exact ⟨trivial, external⟩
  · rintro now reached ⟨readsNow, same⟩
    cases requests with
    | nil => exact ⟨[], readsNow.marks_nothing⟩
    | cons first rest =>
        dsimp only
        split
        · exact ⟨[], readsNow.marks_nothing⟩
        · refine sat_mono (updateRequests_sat readsNow _ (fun request => request.status = .READY)
            distinct fun request member => ?_)
            (fun _ _ _ _ held => held) (fun _ _ held => ⟨_, held.2⟩) (fun _ _ held => held)
          obtain ⟨inTable, wasRead, picked⟩ := inside request member
          exact ⟨inTable, same ▸ wasRead, by simpa using picked⟩

/-- A sorted list is in the order of its column. -/
theorem pairwise_sorted {A : Type} (column : A → Int) (items : List A) :
    (items.insertionSort fun first second => column first ≤ column second).Pairwise
      fun first second => column first ≤ column second := by
  have total : Std.Total fun first second : A => column first ≤ column second :=
    ⟨fun first second => Int.le_total (column first) (column second)⟩
  have trans : IsTrans A fun first second => column first ≤ column second :=
    ⟨fun _ _ _ early late => Int.le_trans early late⟩
  exact List.pairwise_insertionSort _ items

/-- The transaction found a ready request that has not expired, or it has stamped all ready requests. -/
inductive Refreshed (snapshot : RequestTable) (readyRetryIntervalMS earliest : Int) :
    Nat → RequestProgress → Prop where
  | nothing {last : RequestProgress} (pending : last.pending = [])
      (waiting : ∀ request ∈ snapshot.rows, request.status = .READY →
        earliest - readyRetryIntervalMS < request.updatedAt) :
      Refreshed snapshot readyRetryIntervalMS earliest 0 last
  | all {count : Nat} {last : RequestProgress} {stamp : Int} {targets : List String} (some_ : count ≠ 0)
      (later : earliest ≤ stamp) (nonempty : targets ≠ []) (distinct : targets.Nodup)
      (covers : ∀ request ∈ snapshot.rows, request.status = .READY → request.id ∈ targets)
      (pending : last.pending = targets.map fun target =>
        (target, (⟨none, some .READY, none⟩ : RequestUpdateFields).edit stamp)) :
      Refreshed snapshot readyRetryIntervalMS earliest count last

theorem refreshReady_refreshed (readyRetryIntervalMS earliest : Int) :
    Sat (snapshotSetting Request.id snapshot) (fun _ _ _ _ => True)
      (fun count last => Refreshed snapshot readyRetryIntervalMS earliest count last)
      (fun error _ => error.External) (refreshReady readyRetryIntervalMS) (.fresh earliest) := by
  refine sat_bind (fun (ready : List Request) reached =>
    (∃ rows : List Request, rows.Perm (snapshot.rows.filter fun request => request.status = .READY) ∧
      ready = rows.insertionSort fun first second => first.updatedAt ≤ second.updatedAt) ∧
      Reads snapshot earliest reached)
    (sat_bind _ (select_sat (.fresh earliest) _) ?_) ?_
  · rintro rows reached ⟨permuted, reads, _⟩
    exact ⟨⟨rows, permuted, rfl⟩, reads⟩
  rintro ready reached ⟨⟨rows, permuted, rfl⟩, reads⟩
  refine sat_bind (fun now reached => earliest ≤ now ∧ Reads snapshot earliest reached)
    (sat_call Statement.clock ?_ ?_) ?_
  · rintro before ⟨clock, passed, rfl⟩ now after ⟨rfl, rfl⟩
    have later := Int.le_trans reads.later passed
    exact ⟨trivial, later, reads.pending, later⟩
  · rintro before _ error after ⟨external, _⟩
    exact ⟨trivial, external⟩
  rintro now reached ⟨later, reads⟩
  have ordered := pairwise_sorted Request.updatedAt rows
  have all : ∀ request ∈ snapshot.rows, request.status = .READY →
      request ∈ rows.insertionSort fun first second => first.updatedAt ≤ second.updatedAt := by
    intro request member ready
    rw [List.mem_insertionSort]
    exact permuted.mem_iff.mpr (List.mem_filter.mpr ⟨member, decide_eq_true ready⟩)
  have inside : ∀ request ∈ rows.insertionSort (fun first second => first.updatedAt ≤ second.updatedAt),
      request ∈ snapshot.rows := by
    intro request member
    rw [List.mem_insertionSort] at member
    exact (List.mem_filter.mp (permuted.mem_iff.mp member)).1
  generalize rows.insertionSort (fun first second => first.updatedAt ≤ second.updatedAt) =
      ready at ordered all inside ⊢
  cases ready with
  | nil => exact .nothing reads.pending fun request member ready =>
      absurd (all request member ready) List.not_mem_nil
  | cons oldest rest =>
      dsimp only
      split
      · next waiting =>
          refine .nothing reads.pending fun request member ready => ?_
          have first : oldest.updatedAt ≤ request.updatedAt := by
            rcases List.mem_cons.mp (all request member ready) with rfl | behind
            · exact Int.le_refl _
            · exact List.rel_of_pairwise_cons ordered behind
          omega
      · refine sat_mono (updateRequests_writes reads _ _) (fun _ _ _ _ held => held) ?_ (fun _ _ held => held)
        rintro count last ⟨stamp, targets, rfl, _, writes⟩
        have member : oldest.id ∈ targets := by
          refine writes.found.mem_iff.mpr (List.mem_filter.mpr ⟨?_, by simp⟩)
          exact List.mem_map_of_mem (inside oldest List.mem_cons_self)
        refine .all (by have := List.length_pos_of_mem member; omega) writes.later
          (List.ne_nil_of_mem member) ?_ ?_ writes.pending
        · rw [writes.found.nodup_iff]
          exact (snapshot.distinct Request.id id_indexed).filter _
        · intro request inTable ready
          refine writes.found.mem_iff.mpr (List.mem_filter.mpr ⟨List.mem_map_of_mem inTable, ?_⟩)
          exact decide_eq_true (List.mem_map_of_mem (all request inTable ready))

end CeramicAnchor.RequestRepository
