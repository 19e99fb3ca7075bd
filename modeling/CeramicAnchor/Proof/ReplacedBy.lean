import CeramicAnchor.Proof.Replacement
import Mathlib.Data.Fintype.EquivFin

/-
This file says which request a replaced request names as its replacement.
-/

namespace CeramicAnchor
open Concurrency Storage RequestRepository

/-- One call runs while time passes, and nobody else writes. -/
def caller (formats : Formats) (thread : Nat) : Setting WorldOp WorldOp.Reply Failure World where
  perform := WorldOp.perform formats thread
  rely := World.Drifts
  rely_refl world := ⟨world.clock, Int.le_refl _, rfl⟩
  rely_trans := by
    rintro first second third ⟨later, early, rfl⟩ ⟨latest, late, rfl⟩
    exact ⟨latest, Int.le_trans early late, rfl⟩

/-- The row is pending, and no pending row of its group is newer. -/
structure NewestPending (table : RequestTable) (origin : Option String) (streamId : String)
    (keeper : Request) : Prop where
  inside : keeper ∈ table.rows
  group : keeper.InGroup origin streamId
  pending : keeper.status = .PENDING
  newest : ∀ other ∈ table.rows, other.InGroup origin streamId → other.status = .PENDING →
    other.timestamp ≤ keeper.timestamp

/-- The message of each row that became REPLACED names the newest pending row of its group. -/
def NamesReplacer (first last : RequestTable) : Prop :=
  ∀ row ∈ last.rows, row.status = .REPLACED → (∀ old ∈ first.rows, old.id = row.id → old.status ≠ .REPLACED) →
    ∃ keeper, NewestPending last row.origin row.streamId keeper ∧ row.message = s!"Replaced by {keeper.cid}"

/-- Nothing became REPLACED. -/
theorem NamesReplacer.unturned {first last : RequestTable}
    (known : ∀ row ∈ last.rows, row.status = .REPLACED → row ∈ first.rows) : NamesReplacer first last :=
  fun row member replaced became => absurd replaced (became row (known row member replaced) rfl)

section Replace

variable {first : RequestTable} {world next : World} {created : Request} {ordered rest : List Request}

/-- A pending request that is newer than the others of its group is the first of the order. -/
theorem newest_first (inside : created ∈ world.requests.rows) (pending : created.status = .PENDING)
    (newest : ∀ row ∈ world.requests.rows, row.InGroup created.origin created.streamId →
      row.status = .PENDING → row = created ∨ row.timestamp < created.timestamp)
    (permuted : ordered.Perm (world.requests.rows.filter fun request =>
      request.InGroup created.origin created.streamId ∧ request.status = .PENDING))
    (sorted : ordered.Pairwise fun first second => second.timestamp ≤ first.timestamp) :
    ∃ rest, ordered = created :: rest := by
  have listed : created ∈ ordered := by
    apply permuted.mem_iff.mpr
    simp [inside, pending, Request.InGroup]
  cases ordered with
  | nil => cases listed
  | cons head rest =>
      have found := List.mem_filter.mp (permuted.mem_iff.mp (List.mem_cons_self (a := head)))
      have facts : head.InGroup created.origin created.streamId ∧ head.status = .PENDING := by
        simpa using found.2
      rcases newest head found.1 facts.1 facts.2 with rfl | older
      · exact ⟨rest, rfl⟩
      · rcases List.mem_cons.mp listed with rfl | behind
        · exact ⟨rest, rfl⟩
        · have notNewer := List.rel_of_pairwise_cons sorted behind
          omega

/-- When the named request is the first of the order, it is the newest pending one afterwards. -/
theorem NamesReplacer.replace (pending : created.status = .PENDING)
    (known : ∀ row ∈ world.requests.rows, row.status = .REPLACED → row ∈ first.rows)
    (permuted : (created :: rest).Perm (world.requests.rows.filter fun request =>
      request.InGroup created.origin created.streamId ∧ request.status = .PENDING))
    (sorted : (created :: rest).Pairwise fun first second => second.timestamp ≤ first.timestamp) :
    NamesReplacer first (world.requests.update
      (fun request => request.id ∈ ((created :: rest).drop 1).map Request.id)
      (replacedEdit created.cid)) := by
  intro row member replaced became
  obtain ⟨old, inside, rfl⟩ := Table.mem_update.mp member
  by_cases behind : old.id ∈ ((created :: rest).drop 1).map Request.id
  · obtain ⟨_, group, _⟩ := replaced_behind permuted inside behind
    simp only [decide_eq_true_eq, if_pos behind] at replaced became ⊢
    refine ⟨created, ⟨first_stays permuted rfl, ⟨group.1.symm, group.2.symm⟩, pending, ?_⟩, rfl⟩
    intro other present otherGroup otherPending
    obtain ⟨was, _⟩ := (replacedEdit_setsStatus created.cid).unmoved present (by rw [otherPending]; decide)
    have otherIn : other.InGroup created.origin created.streamId :=
      ⟨otherGroup.1.trans group.1, otherGroup.2.trans group.2⟩
    have listed : other ∈ created :: rest := by
      apply permuted.mem_iff.mpr
      simp [was, otherIn, otherPending]
    rcases List.mem_cons.mp listed with rfl | later
    · exact Int.le_refl _
    · exact List.rel_of_pairwise_cons sorted later
  · simp only [decide_eq_true_eq, if_neg behind] at replaced became ⊢
    exact absurd replaced (became old (known old inside replaced) rfl)

/-- The replacement for the newest pending request of a group names that request. -/
theorem World.Moves.namesReplacer {formats : Formats} {thread : Nat}
    (moves : world.Moves formats thread (.markReplaced created.origin created.streamId created.cid) next)
    (inside : created ∈ world.requests.rows) (pending : created.status = .PENDING)
    (newest : ∀ row ∈ world.requests.rows, row.InGroup created.origin created.streamId →
      row.status = .PENDING → row = created ∨ row.timestamp < created.timestamp)
    (known : ∀ row ∈ world.requests.rows, row.status = .REPLACED → row ∈ first.rows) :
    NamesReplacer first next.requests := by
  cases moves with
  | idle => exact .unturned known
  | replace permuted sorted =>
      obtain ⟨rest, rfl⟩ := newest_first inside pending newest permuted sorted
      exact .replace pending known permuted sorted

end Replace

section Create

variable {formats : Formats} {thread : Nat} {params : RequestAnchorParams} {origin : String} {world : World}

/-- The request that a call inserts. -/
def RequestAnchorParams.request (params : RequestAnchorParams) (origin : String) (timestamp : Int) :
    NewRequest :=
  ⟨.PENDING, params.cid, params.streamId, "Request is pending.", true, timestamp, some origin⟩

/-- The commit is stored already, or the request is newer than every pending request of its group. -/
def ArrivesInOrder (table : RequestTable) (params : RequestAnchorParams) (origin : String)
    (clock : Int) : Prop :=
  (∃ old ∈ table.rows, old.cid = params.cid) ∨
    ∀ row ∈ table.rows, row.InGroup (some origin) params.streamId → row.status = .PENDING →
      row.timestamp < params.timestamp.getD clock

/-- The time of a request without one is read when the call runs. -/
theorem timestampOf_sat : Sat (caller formats thread) (fun _ _ _ _ => True)
    (fun time reached => params.timestamp.getD world.clock ≤ time ∧ reached.requests = world.requests)
    (fun _ reached => reached.requests = world.requests) (RequestService.timestampOf params) world := by
  unfold RequestService.timestampOf
  cases params.timestamp with
  | some timestamp => exact ⟨Int.le_refl _, rfl⟩
  | none =>
      refine sat_call WorldOp.now ?_ ?_
      · rintro before ⟨later, passed, rfl⟩ time after ⟨rfl, rfl⟩
        exact ⟨trivial, passed, rfl⟩
      · rintro before ⟨later, passed, rfl⟩ error after performed
        cases WorldOp.perform_moves performed with
        | idle => exact ⟨trivial, rfl⟩

/-- The table after the insertion, with the stored request in it if the commit is new. -/
def Inserted (table : RequestTable) (request : NewRequest) (created : Option Request)
    (reached : World) : Prop :=
  (created = none ∧ reached.requests = table) ∨
    (∀ old ∈ table.rows, old.cid ≠ request.cid) ∧ ∃ stored, created = some stored ∧
      (∃ id now, stored = request.stored id now) ∧
      ∀ row, row ∈ reached.requests.rows ↔ row ∈ table.rows ∨ row = stored

/-- An insertion adds the request, or it ignores a known commit. -/
theorem insertRequest_sat {first : RequestTable} (request : NewRequest) (pending : request.status = .PENDING)
    (same : world.requests = first) :
    Sat (caller formats thread) (fun _ _ _ _ => True) (Inserted first request)
      (fun _ reached => NamesReplacer first reached.requests)
      (Prog.call (WorldOp.insertRequest request)) world := by
  subst same
  refine sat_call (WorldOp.insertRequest request) ?_ ?_
  · rintro before ⟨later, _, rfl⟩ created after (⟨_, rfl, rfl⟩ | ⟨id, fresh, rfl, rfl⟩)
    · exact ⟨trivial, .inl ⟨rfl, rfl⟩⟩
    · refine ⟨trivial, .inr ⟨fresh Request.cid cid_indexed, _, rfl, ⟨id, later, rfl⟩, fun row => ?_⟩⟩
      exact Table.mem_insert _ _ fresh
  · rintro before ⟨later, _, rfl⟩ error after performed
    refine ⟨trivial, .unturned fun row member replaced => ?_⟩
    cases WorldOp.perform_moves performed with
    | idle => exact member
    | insert fresh =>
        rcases (Table.mem_insert _ _ fresh).mp member with old | rfl
        · exact old
        · rw [show (request.stored _ _).status = .PENDING from pending] at replaced
          cases replaced

/-- The replacement after an insertion names the inserted request, and the answer changes no request. -/
theorem settle_sat {first : RequestTable} {created : Request} (inside : created ∈ world.requests.rows)
    (pending : created.status = .PENDING)
    (newest : ∀ row ∈ world.requests.rows, row.InGroup created.origin created.streamId →
      row.status = .PENDING → row = created ∨ row.timestamp < created.timestamp)
    (known : ∀ row ∈ world.requests.rows, row.status = .REPLACED → row ∈ first.rows) :
    Sat (caller formats thread) (fun _ _ _ _ => True) (fun _ reached => NamesReplacer first reached.requests)
      (fun _ reached => NamesReplacer first reached.requests) (do
        RequestService.settle ⟨false⟩ origin created
        Prog.call (WorldOp.presentBody created)
        pure (some created)) world := by
  have replaced : Sat (caller formats thread) (fun _ _ _ _ => True)
      (fun _ reached => NamesReplacer first reached.requests)
      (fun _ reached => NamesReplacer first reached.requests)
      (Prog.call (WorldOp.markReplaced created.origin created.streamId created.cid)) world := by
    refine sat_call _ ?_ ?_
    · rintro before ⟨later, _, rfl⟩ count after performed
      have moved := @WorldOp.perform_moves formats thread
        (.markReplaced created.origin created.streamId created.cid) _ after (.ok count) performed
      exact ⟨trivial, moved.namesReplacer inside pending newest known⟩
    · rintro before ⟨later, _, rfl⟩ error after performed
      exact ⟨trivial, (WorldOp.perform_moves performed).namesReplacer inside pending newest known⟩
  have presented : ∀ reached : World, NamesReplacer first reached.requests →
      Sat (caller formats thread) (fun _ _ _ _ => True) (fun _ last => NamesReplacer first last.requests)
        (fun _ last => NamesReplacer first last.requests) (Prog.call (WorldOp.presentBody created))
        reached := by
    intro reached names
    refine sat_call _ ?_ ?_
    · rintro before ⟨later, _, rfl⟩ _ after rfl
      exact ⟨trivial, names⟩
    · rintro before ⟨later, _, rfl⟩ error after performed
      cases WorldOp.perform_moves performed with
      | idle => exact ⟨trivial, names⟩
  refine sat_bind (fun _ reached => NamesReplacer first reached.requests) ?_ ?_
  · exact sat_bind _ replaced fun _ _ names => names
  · intro _ reached names
    exact sat_bind _ (presented reached names) fun _ _ names => names

/-- A call that arrives in order names the real replacement. -/
theorem create_sat (ordered : ArrivesInOrder world.requests params origin world.clock) :
    Sat (caller formats thread) (fun _ _ _ _ => True)
      (fun _ reached => NamesReplacer world.requests reached.requests)
      (fun _ reached => NamesReplacer world.requests reached.requests)
      (RequestService.create ⟨false⟩ params origin) world := by
  have unchanged : ∀ reached : World, reached.requests = world.requests →
      NamesReplacer world.requests reached.requests := by
    intro reached same
    rw [same]
    exact .unturned fun _ member _ => member
  refine sat_bind _ (sat_mono timestampOf_sat (fun _ _ _ _ _ => trivial) (fun _ _ held => held)
    fun _ reached same => unchanged reached same) ?_
  rintro time reached ⟨late, same⟩
  refine sat_bind _ (insertRequest_sat (params.request origin time) rfl same) ?_
  rintro created inserted (⟨rfl, same⟩ | ⟨absent, stored, rfl, ⟨id, now, rfl⟩, rows⟩)
  · exact unchanged inserted same
  · have older := ordered.resolve_left fun ⟨old, inside, known⟩ => absent old inside known
    refine settle_sat ((rows _).mpr (.inr rfl)) rfl ?_ ?_
    · intro row member group pending
      rcases (rows row).mp member with old | rfl
      · exact .inr (Int.lt_of_lt_of_le (older row old group pending) late)
      · exact .inl rfl
    · intro row member replaced
      rcases (rows row).mp member with old | rfl
      · exact old
      · cases replaced

/-- The database returns every set of rows in some descending order. -/
theorem exists_descending (rows : List Request) : ∃ ordered : List Request, ordered.Perm rows ∧
    ordered.Pairwise fun first second => second.timestamp ≤ first.timestamp := by
  refine ⟨rows.mergeSort fun first second => second.timestamp ≤ first.timestamp, List.mergeSort_perm _ _, ?_⟩
  have sorted :=
    @List.pairwise_mergeSort _ (fun first second : Request => decide (second.timestamp ≤ first.timestamp))
    (by simp only [decide_eq_true_eq]; intros; omega)
    (by simp only [Bool.or_eq_true, decide_eq_true_eq]; intros; omega)
    rows
  simpa using sorted

/-- A row that is not older can come first, with the created request behind it. -/
theorem exists_behind {pending : List Request} {created row : Request} (listed : row ∈ pending)
    (notOlder : created.timestamp ≤ row.timestamp) :
    ∃ first rest, created ∈ rest ∧ (first :: rest).Perm (pending ++ [created]) ∧
      (first :: rest).Pairwise fun first second => second.timestamp ≤ first.timestamp := by
  obtain ⟨others, permuted, sorted⟩ := exists_descending pending
  cases others with
  | nil =>
      rw [← permuted.mem_iff] at listed
      cases listed
  | cons first others =>
      obtain ⟨rest, behind, descending⟩ := exists_descending (others ++ [created])
      have newest : ∀ other ∈ first :: others, other.timestamp ≤ first.timestamp := by
        intro other member
        rcases List.mem_cons.mp member with rfl | later
        · exact Int.le_refl _
        · exact List.rel_of_pairwise_cons sorted later
      refine ⟨first, rest, behind.mem_iff.mpr (by simp), ?_, ?_⟩
      · exact (behind.cons first).trans (permuted.append_right [created])
      · refine List.pairwise_cons.mpr ⟨fun other member => ?_, descending⟩
        rcases List.mem_append.mp (behind.mem_iff.mp member) with old | new
        · exact newest other (List.mem_cons_of_mem _ old)
        · rw [List.mem_singleton.mp new]
          exact Int.le_trans notOlder (newest row (permuted.mem_iff.mpr listed))

/-- A request that replaces itself is recorded with its own commit. -/
theorem misnames {first table : RequestTable} {created : Request} {ids : List String}
    (inside : created ∈ table.rows)
    (new : ∀ old ∈ first.rows, old.id ≠ created.id) (chosen : created.id ∈ ids) :
    ¬ NamesReplacer first (table.update (fun request => request.id ∈ ids) (replacedEdit created.cid)) := by
  intro names
  have replaced : (replacedEdit created.cid).apply created ∈
      (table.update (fun request => request.id ∈ ids) (replacedEdit created.cid)).rows :=
    Table.mem_update.mpr ⟨created, inside, by simp only [decide_eq_true_eq, if_pos chosen]⟩
  obtain ⟨keeper, keeps, message⟩ := names _ replaced rfl fun old member same => absurd same (new old member)
  have cids : keeper.cid = created.cid := by
    have texts : "Replaced by " ++ created.cid = "Replaced by " ++ keeper.cid := message
    exact ((String.append_right_inj _).mp texts).symm
  have same := Table.eq_of_column cid_indexed keeps.inside replaced cids
  have waits := keeps.pending
  rw [same] at waits
  cases waits

/-- The clock answers at once. -/
theorem timestampOf_path :
    ∃ trace, Path (caller formats thread) (RequestService.timestampOf params) world trace
    (.done (params.timestamp.getD world.clock)) world := by
  unfold RequestService.timestampOf
  cases params.timestamp with
  | some timestamp => exact ⟨_, .stop _ _⟩
  | none => exact ⟨_, .reply _ WorldOp.now (.ok world.clock) ⟨rfl, rfl⟩ (.stop _ _)⟩

/-- A call inserts its request and replaces what the database orders behind the first pending one. -/
theorem create_path {id : String} {created : Request}
    (made : created = (params.request origin (params.timestamp.getD world.clock)).stored id world.clock)
    (fresh : ∀ column ∈ requestColumns, ∀ old ∈ world.requests.rows, column old ≠ column created)
    {ordered : List Request}
    (permuted : ordered.Perm ((world.requests.rows.filter fun request =>
      request.InGroup (some origin) params.streamId ∧ request.status = .PENDING) ++ [created]))
    (sorted : ordered.Pairwise fun first second => second.timestamp ≤ first.timestamp) :
    ∃ trace last, Path (caller formats thread) (RequestService.create ⟨false⟩ params origin) world trace
      (.done (some created)) last ∧ last.requests = (world.requests.insert created fresh).update
        (fun request => request.id ∈ (ordered.drop 1).map Request.id) (replacedEdit created.cid) := by
  subst made
  obtain ⟨early, timed⟩ := @timestampOf_path formats thread params world
  refine ⟨_, _, timed.bind (.reply (caller formats thread) (WorldOp.insertRequest _) (.ok (some _))
    (.inr ⟨id, fresh, rfl, rfl⟩) (.reply (caller formats thread) (WorldOp.markReplaced _ _ _)
      (.ok (ordered.drop 1).length) (Exists.intro ordered ⟨?_, sorted, rfl, rfl⟩)
      (.reply (caller formats thread) (WorldOp.presentBody _) (.ok ()) rfl (.stop _ _)))), rfl⟩
  change ordered.Perm ((world.requests.rows ++ [_]).filter _)
  rw [List.filter_append, List.filter_cons_of_pos]
  · exact permuted
  · exact decide_eq_true ⟨⟨rfl, rfl⟩, rfl⟩

/-- A call out of order can record its own request as replaced by itself. -/
theorem create_misnames (disordered : ¬ ArrivesInOrder world.requests params origin world.clock) :
    ∃ trace value last, Path (caller formats thread) (RequestService.create ⟨false⟩ params origin) world trace
      (.done value) last ∧ ¬ NamesReplacer world.requests last.requests := by
  unfold ArrivesInOrder at disordered
  push Not at disordered
  obtain ⟨absent, row, member, group, waits, notOlder⟩ := disordered
  obtain ⟨id, unused⟩ := Infinite.exists_notMem_finset (world.requests.rows.map Request.id).toFinset
  have new : ∀ old ∈ world.requests.rows, old.id ≠ id := by
    rintro old inside rfl
    exact unused (List.mem_toFinset.mpr (List.mem_map.mpr ⟨old, inside, rfl⟩))
  generalize made :
      (params.request origin (params.timestamp.getD world.clock)).stored id world.clock = created
  have fresh : ∀ column ∈ requestColumns, ∀ old ∈ world.requests.rows, column old ≠ column created := by
    intro column indexed old inside
    rw [← made]
    rcases List.mem_pair.mp indexed with rfl | rfl
    · exact new old inside
    · exact absent old inside
  have listed : row ∈ world.requests.rows.filter fun request =>
      request.InGroup (some origin) params.streamId ∧ request.status = .PENDING := by
    simp [member, group, waits]
  have behind : created.timestamp ≤ row.timestamp := by
    rw [← made]
    exact notOlder
  obtain ⟨first, rest, inside, permuted, sorted⟩ := exists_behind listed behind
  obtain ⟨trace, last, path, written⟩ := create_path made.symm fresh permuted sorted
  refine ⟨trace, some created, last, path, ?_⟩
  rw [written]
  apply misnames
  · exact (Table.mem_insert _ _ fresh).mpr (.inr rfl)
  · intro old inTable
    rw [← made]
    exact new old inTable
  · exact List.mem_map.mpr ⟨created, inside, rfl⟩

/-- The replaced requests name their real replacement exactly when the call arrives in order. -/
theorem replaced_by_iff (formats : Formats) (thread : Nat) (params : RequestAnchorParams) (origin : String)
    (world : World) :
    (∀ trace residue last, Path (caller formats thread) (RequestService.create ⟨false⟩ params origin)
      world trace residue last → residue.Ended → NamesReplacer world.requests last.requests) ↔
      ArrivesInOrder world.requests params origin world.clock := by
  constructor
  · intro always
    by_contra disordered
    obtain ⟨trace, value, last, path, wrong⟩ := create_misnames disordered
    exact wrong (always trace _ last path trivial)
  · intro ordered trace residue last path ended
    exact @sat_ended _ _ _ _ _ _ _ (fun reached => NamesReplacer world.requests reached.requests)
      _ _ _ _ _ path (create_sat ordered) ended

/-- The newer request of a stream is the only one. -/
def newerWorld : World := { World.empty 0 with requests := ⟨[newerRequest], by simp⟩ }

/-- The older request arrives late, and it is recorded as replaced by itself. -/
theorem replaced_by_itself : ∃ trace last,
    Path (caller loneFormats 0)
    (RequestService.create ⟨false⟩ ⟨"bafkqaaa", "kfuxy3vd4lq8", some 1⟩ "did:key:z6Mk")
      newerWorld trace (.done (some olderRequest)) last ∧
    { olderRequest with status := .REPLACED, message := "Replaced by bafkqaaa" } ∈ last.requests.rows ∧
    ¬ NamesReplacer newerWorld.requests last.requests := by
  have fresh :
      ∀ column ∈ requestColumns, ∀ old ∈ newerWorld.requests.rows, column old ≠ column olderRequest := by
    decide
  obtain ⟨trace, last, path, written⟩ := @create_path loneFormats 0
    ⟨"bafkqaaa", "kfuxy3vd4lq8", some 1⟩ "did:key:z6Mk" newerWorld "1" olderRequest rfl fresh
    [newerRequest, olderRequest] (.refl _) (by decide)
  refine ⟨trace, last, path, ?_, ?_⟩
  · rw [written]
    exact .tail _ (.head _)
  · rw [written]
    apply misnames
    · exact .tail _ (.head _)
    · decide
    · decide

end Create

end CeramicAnchor
