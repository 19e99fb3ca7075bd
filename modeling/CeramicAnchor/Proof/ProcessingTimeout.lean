import CeramicAnchor.Proof.LoneRequest

/-
This file proves when a request is processed again only after its processing has timed out.
-/

namespace CeramicAnchor
open Concurrency Storage RequestRepository

section Claims

variable {history : History} {table : RequestTable} {chosen : Request → Bool} {edit : RequestEdit}
  {time : Int} {claimant : Claimant} {thread : Nat}

/-- The history notes a row that an update moves to PROCESSING. -/
theorem History.claim_row {row : Request} (member : row ∈ table.rows) :
    (history.claim table (table.update chosen edit) time claimant thread).claimed row.id =
      if row.status ≠ .PROCESSING ∧ (if chosen row then edit.apply row else row).status = .PROCESSING then
        some ⟨time, claimant, thread⟩
      else history.claimed row.id := by
  have found : table.lookup Request.id row.id = some row :=
    (Table.lookup_eq_some id_indexed).mpr ⟨member, rfl⟩
  unfold History.claim
  simp only [Table.lookup_update id_indexed, found, Option.map_some]

theorem History.claim_moved {row : Request} (member : row ∈ table.rows) (picked : chosen row = true)
    (free : row.status ≠ .PROCESSING) (moved : (edit.apply row).status = .PROCESSING) :
    (history.claim table (table.update chosen edit) time claimant thread).claimed row.id =
      some ⟨time, claimant, thread⟩ := by
  rw [History.claim_row member, if_pos picked, if_pos ⟨free, moved⟩]

/-- The history notes nothing about a row that is not in PROCESSING after the update. -/
theorem History.claim_idle {row : Request} (member : row ∈ (table.update chosen edit).rows)
    (idle : row.status ≠ .PROCESSING) :
    (history.claim table (table.update chosen edit) time claimant thread).claimed row.id =
      history.claimed row.id := by
  obtain ⟨old, inside, rfl⟩ := Table.mem_update.mp member
  have same : (if chosen old then edit.apply old else old).id = old.id := edit.column_ite id_indexed _ old
  rw [same, History.claim_row inside, if_neg fun both => idle both.2]

/-- The history notes nothing about an unknown id. -/
theorem History.claim_unknown {id : String} (unknown : ∀ row ∈ table.rows, row.id ≠ id) :
    (history.claim table (table.update chosen edit) time claimant thread).claimed id =
    history.claimed id := by
  have missing : table.lookup Request.id id = none := Table.lookup_eq_none.mpr unknown
  unfold History.claim
  simp only [missing]

/-- A thread that sets back its own claim leaves the request unclaimed. -/
theorem History.revert_own {ids : List String} {id : String} (inside : id ∈ ids)
    (own : ∀ claim, history.claimed id = some claim → claim.thread = thread) :
    (history.revert thread ids).claimed id = none := by
  unfold History.revert
  cases current : history.claimed id with
  | none => simp [current]
  | some claim => simp [current, inside, own claim current]

theorem History.revert_other {ids : List String} {id : String} (outside : id ∉ ids) :
    (history.revert thread ids).claimed id = history.claimed id := if_neg fun both => outside both.1

theorem History.revert_unclaimed {ids : List String} {id : String} (unclaimed : history.claimed id = none) :
    (history.revert thread ids).claimed id = none := by
  unfold History.revert
  simp [unclaimed]

end Claims

/-- A pending request is unclaimed, a ready request that was claimed has timed out since, and a claim comes at
most the lag after the last update of its request. -/
def Request.Timed (lag clock : Int) (claimed : Option Claim) (request : Request) : Prop :=
  match request.status with
  | .PENDING => claimed = none
  | .READY => request.updatedAt ≤ clock ∧
      ∀ claim, claimed = some claim → claim.time + PROCESSING_TIMEOUT ≤ request.updatedAt
  | .PROCESSING => ∃ claim, claimed = some claim ∧ claim.time ≤ request.updatedAt + lag
  | _ => True

theorem Request.Timed.later {lag clock later : Int} {claimed : Option Claim} {request : Request}
    (timed : request.Timed lag clock claimed) (passed : clock ≤ later) : request.Timed lag later claimed := by
  unfold Request.Timed at timed ⊢
  cases status : request.status with
  | READY =>
      rw [status] at timed
      exact ⟨Int.le_trans timed.1 passed, timed.2⟩
  | PENDING | PROCESSING | COMPLETED | FAILED | REPLACED =>
      rw [status] at timed
      exact timed

/-- Each row is timed, and so are the ready rows of each open snapshot. -/
structure World.Timed (lag : Int) (world : World) : Prop where
  rows : ∀ request ∈ world.requests.rows, request.Timed lag world.clock (world.history.claimed request.id)
  unknown : ∀ id, (∀ request ∈ world.requests.rows, request.id ≠ id) → world.history.claimed id = none
  snapshots : ∀ thread transaction, world.transactions thread = some transaction →
    ∀ request ∈ transaction.snapshot.rows, request.status = .READY → request.updatedAt ≤ transaction.began

/-- An update is timed when each row is timed after it. -/
theorem World.Timed.update {lag : Int} {world next : World} (timed : world.Timed lag)
    {chosen : Request → Bool}
    {edit : RequestEdit} (written : next.requests = world.requests.update chosen edit)
    (each : ∀ row ∈ world.requests.rows,
      (if chosen row then edit.apply row else row).Timed lag next.clock (next.history.claimed row.id))
    (unknown : ∀ id, (∀ row ∈ world.requests.rows, row.id ≠ id) → world.history.claimed id = none →
      next.history.claimed id = none)
    (transactions : ∀ thread transaction, next.transactions thread = some transaction →
      world.transactions thread = some transaction) : next.Timed lag where
  rows request member := by
    rw [written] at member
    obtain ⟨row, inside, rfl⟩ := Table.mem_update.mp member
    have same : (if chosen row then edit.apply row else row).id = row.id := edit.column_ite id_indexed _ row
    rw [same]
    exact each row inside
  unknown id missing := by
    have absent : ∀ row ∈ world.requests.rows, row.id ≠ id := by
      intro row inside same
      have present : (if chosen row then edit.apply row else row) ∈ next.requests.rows := by
        rw [written]
        exact Table.mem_update.mpr ⟨row, inside, rfl⟩
      exact missing _ present ((edit.column_ite id_indexed _ row).trans same)
    exact unknown id absent (timed.unknown id absent)
  snapshots thread transaction opened :=
  timed.snapshots thread transaction (transactions thread transaction opened)

theorem World.closeTransaction_open {world : World} {thread other : Nat} {transaction : OpenTransaction}
    (opened : (world.closeTransaction thread).transactions other = some transaction) :
    world.transactions other = some transaction := by
  simp only [World.closeTransaction, Function.update_apply] at opened
  split at opened
  · cases opened
  · exact opened

/-- A failed batch sets back only its own claims, a claim finds its requests ready and comes at most the lag
after their last update or after the start of its transaction, and a request that is taken for one that has
timed out has waited for the lag on top of the timeout. -/
def KeepsClaims (lag : Int) (world : World) : Label WorldOp WorldOp.Reply Failure → Prop
  | .act thread (.updateRequests _ _ ids) _ => ∀ id ∈ ids, ∀ claim, world.history.claimed id = some claim →
      claim.thread = thread
  | .act _ (.claim ids) _ => ∀ request ∈ world.requests.rows, request.id ∈ ids →
      request.status = .READY ∧ world.clock ≤ request.updatedAt + lag
  | .act thread (.commit .markAsProcessing) _ => ∀ transaction,
      world.transactions thread = some transaction → world.clock ≤ transaction.began + lag
  | .act _ (.commit (.markReady _ _ _ now)) _ => ∀ request ∈ world.requests.rows,
      request.status = .PROCESSING → findRequestsToAnchor now request = true →
      request.updatedAt + PROCESSING_TIMEOUT + lag ≤ now
  | _ => True

/-- A transaction that makes requests ready began after its time was read. -/
def WorldOp.Prompt (thread : Nat) (world : World) : WorldOp → Prop
  | .commit (.markReady _ _ _ readAt) => ∀ transaction, world.transactions thread = some transaction →
      readAt ≤ transaction.began
  | _ => True

section Marks

variable {lag : Int} {world : World} {thread : Nat} {stamp : Int} {marked : List String}
  {requests : RequestTable}

/-- A marked row is timed after the transaction. -/
theorem World.Timed.mark {transaction : RequestTransaction} (timed : world.Timed lag)
    {reply : Except Failure (WorldOp.commit transaction).Reply}
    (keeps : KeepsClaims lag world (.act thread (.commit transaction) reply))
    (prompt : (WorldOp.commit transaction).Prompt thread world)
    (wrote : world.Wrote thread ⟨none, some transaction.target, none⟩ stamp marked requests)
    (takes : ∀ request ∈ world.requests.rows, request.id ∈ marked → transaction.Takes request)
    {row : Request} (member : row ∈ world.requests.rows) (chosen : row.id ∈ marked)
    {claimed : Option Claim}
    (noted : claimed = if row.status ≠ .PROCESSING ∧ transaction.target = .PROCESSING then
      some ⟨world.clock, .findAndMarkAsProcessing, thread⟩ else world.history.claimed row.id) :
    (((⟨none, some transaction.target, none⟩ : RequestUpdateFields).edit stamp).apply row).Timed
      lag world.clock claimed := by
  obtain ⟨open_, opened, later, inSnapshot⟩ := wrote.opened
  have timedRow := timed.rows row member
  have fromReady : row.status = .READY → ∀ claim, world.history.claimed row.id = some claim →
      claim.time + PROCESSING_TIMEOUT ≤ stamp := by
    intro ready claim current
    have before := timed.snapshots thread open_ opened row (inSnapshot row member chosen) ready
    simp only [Request.Timed, ready] at timedRow
    have past := timedRow.2 claim current
    omega
  cases transaction with
  | markReady maxStreamLimit minStreamLimit anchoringDeadline now =>
      have taken : row.status = .PENDING ∨
          (row.status = .PROCESSING ∧ row.updatedAt < now - PROCESSING_TIMEOUT) := by
        simpa [RequestTransaction.Takes, findRequestsToAnchor] using takes row member chosen
      have began := prompt open_ opened
      refine ⟨wrote.passed, fun claim current => ?_⟩
      rw [noted, if_neg (by simp [RequestTransaction.target])] at current
      change claim.time + PROCESSING_TIMEOUT ≤ stamp
      rcases taken with pending | ⟨processing, old⟩
      · simp only [Request.Timed, pending] at timedRow
        rw [timedRow] at current
        cases current
      · simp only [Request.Timed, processing] at timedRow
        obtain ⟨known, same, soon⟩ := timedRow
        obtain rfl := Option.some.inj (same.symm.trans current)
        have waited := keeps row member processing (takes row member chosen)
        omega
  | refreshReady readyRetryIntervalMS =>
      have ready : row.status = .READY := takes row member chosen
      refine ⟨wrote.passed, fun claim current => ?_⟩
      rw [noted, if_neg (by simp [RequestTransaction.target])] at current
      exact fromReady ready claim current
  | markAsProcessing =>
      have ready : row.status = .READY := takes row member chosen
      rw [if_pos ⟨by simp [ready], rfl⟩] at noted
      have soon := keeps open_ opened
      refine ⟨_, noted, ?_⟩
      change world.clock ≤ stamp + lag
      omega

end Marks

theorem World.Timed.moves {formats : Formats} {lag : Int} {thread : Nat} {op : WorldOp}
    {reply : Except Failure op.Reply} {world next : World} (timed : world.Timed lag)
    (keeps : KeepsClaims lag world (.act thread op reply)) (regular : op.Regular)
    (prompt : op.Prompt thread world)
    (moves : world.Moves formats thread op next) : next.Timed lag := by
  cases moves with
  | @insert request id fresh =>
      refine ⟨fun row member => ?_, fun other missing => ?_, timed.snapshots⟩
      · rcases (Table.mem_insert _ _ fresh).mp member with old | rfl
        · exact timed.rows row old
        · have pending : (request.stored id world.clock).status = .PENDING := regular
          simp only [Request.Timed, pending]
          exact timed.unknown id fun row inside => fresh Request.id id_indexed row inside
      · exact timed.unknown other fun row inside => missing row (Table.subset_insert _ _ fresh inside)
  | @replace origin streamId cid ordered permuted sorted =>
      refine timed.update rfl (fun row member => ?_) (fun _ _ held => held) fun _ _ opened => opened
      split
      · exact trivial
      · exact timed.rows row member
  | @revert fields updatedAt ids =>
      obtain rfl : fields = ⟨none, some .PENDING, none⟩ := regular
      refine timed.update rfl (fun row member => ?_) (fun id _ held => ?_) fun _ _ opened => opened
      · split
        · rename_i picked
          have chosen : row.id ∈ ids := of_decide_eq_true picked
          exact History.revert_own chosen (keeps row.id chosen)
        · rename_i skipped
          have absent : row.id ∉ ids := fun chosen => skipped (decide_eq_true chosen)
          have same : (world.history.revert thread ids).claimed row.id = world.history.claimed row.id :=
            History.revert_other absent
          rw [same]
          exact timed.rows row member
      · exact History.revert_unclaimed held
  | @claim ids requests claimed =>
      subst claimed
      refine timed.update rfl (fun row member => ?_) (fun id missing held => ?_) fun _ _ opened => opened
      · rw [History.claim_row member]
        split
        · rename_i picked
          obtain ⟨ready, soon⟩ := keeps row member (of_decide_eq_true picked)
          rw [if_pos ⟨by simp [ready], rfl⟩]
          exact ⟨_, rfl, soon⟩
        · rw [if_neg fun both => both.1 both.2]
          exact timed.rows row member
      · rw [History.claim_unknown missing]
        exact held
  | begin_ =>
      refine ⟨timed.rows, timed.unknown, fun other transaction opened => ?_⟩
      simp only [Function.update_apply] at opened
      split at opened
      · obtain rfl := Option.some.inj opened
        intro row member ready
        have timedRow := timed.rows row member
        simp only [Request.Timed, ready] at timedRow
        exact timedRow.1
      · exact timed.snapshots other transaction opened
  | @mark transaction stamp marked requests wrote takes =>
      obtain rfl := wrote.written
      refine timed.update rfl (fun row member => ?_) (fun id missing held => ?_)
        fun _ _ opened => World.closeTransaction_open opened
      · rw [History.claim_row member]
        split
        · rename_i picked
          exact timed.mark keeps prompt wrote takes member (of_decide_eq_true picked) rfl
        · rw [if_neg fun both => both.1 both.2]
          exact timed.rows row member
      · rw [History.claim_unknown missing]
        exact held
  | @complete anchors acceptedRequests stamp marked requests wrote accepted =>
      refine timed.update wrote.written (fun row member => ?_) (fun _ _ held => held)
        fun _ _ opened => World.closeTransaction_open opened
      split
      · exact trivial
      · exact timed.rows row member
  | idle => exact timed
  | publish => exact ⟨timed.rows, timed.unknown, timed.snapshots⟩
  | submit => exact ⟨timed.rows, timed.unknown, timed.snapshots⟩
  | storeCar => exact ⟨timed.rows, timed.unknown, timed.snapshots⟩
  | storeWitness => exact ⟨timed.rows, timed.unknown, timed.snapshots⟩

section Timing

variable {formats : Formats} {deployed : Task → Prop} {lag : Int}

/-- An operation takes no time, and it leaves the transactions of the other threads alone. -/
theorem World.Moves.others {thread other : Nat} {op : WorldOp} {world next : World}
    (different : thread ≠ other) (moves : world.Moves formats other op next) :
    world.clock ≤ next.clock ∧ next.transactions thread = world.transactions thread := by
  cases moves with
  | begin_ => exact ⟨Int.le_refl _, Function.update_of_ne different _ _⟩
  | mark wrote takes => exact ⟨Int.le_refl _, Function.update_of_ne different _ _⟩
  | complete wrote accepted => exact ⟨Int.le_refl _, Function.update_of_ne different _ _⟩
  | _ => exact ⟨Int.le_refl _, rfl⟩

/-- The threads rely on the clock and on their own open transactions. -/
def timing (formats : Formats) (deployed : Task → Prop) (lag : Int) :
    Discipline ((casSystem formats deployed).restrict (KeepsClaims lag)) where
  rely thread before after :=
    before.clock ≤ after.clock ∧ after.transactions thread = before.transactions thread
  rely_refl _ _ := ⟨Int.le_refl _, rfl⟩
  rely_trans first second := ⟨Int.le_trans first.1 second.1, second.2.trans first.2⟩
  guarantee thread op before _ _ := op.Regular ∧ op.Prompt thread before
  dormant _ _ := True
  post _ _ _ := True
  dormant_stable _ _ := trivial
  post_stable _ _ := trivial
  sound different performed _ := (WorldOp.perform_moves performed.1).others different
  drifts := by
    rintro thread before after ⟨later, passed, rfl⟩
    exact ⟨passed, rfl⟩

/-- The thread keeps its guarantee along the program. -/
def Timely {A : Type} (formats : Formats) (deployed : Task → Prop) (lag : Int) (thread : Nat)
    (program : Code A) : Prop :=
  ∀ world, Sat ((timing formats deployed lag).setting thread) ((timing formats deployed lag).guarantee thread)
    (fun _ _ => True) (fun _ _ => True) program world

variable {thread : Nat}

theorem timely_plain {A : Type} {program : Code A} (plain : program.Confined WorldOp.Plain) :
    Timely formats deployed lag thread program := by
  intro world
  refine sat_confined plain fun op member before reply after _ => ⟨member.regular, ?_⟩
  cases op with
  | commit transaction =>
      cases transaction with
      | markReady => exact member.elim
      | _ => trivial
  | _ => trivial

/-- The transaction begins after its time was read, also when it is tried again. -/
theorem timely_findAndMarkReady (repository : RequestRepository) (fuel maxStreamLimit minStreamLimit : Nat) :
    Timely formats deployed lag thread
      (repository.findAndMarkReady worldClient fuel maxStreamLimit minStreamLimit) := by
  induction fuel with
  | zero => exact fun _ => trivial
  | succ fuel ih =>
      intro world
      refine sat_bind (fun now reached => now ≤ reached.clock) (sat_call WorldOp.now ?_ ?_) ?_
      · rintro before _ now after ⟨⟨rfl, rfl⟩, _⟩
        exact ⟨⟨trivial, trivial⟩, Int.le_refl _⟩
      · exact fun _ _ _ _ _ => ⟨⟨trivial, trivial⟩, trivial⟩
      · intro now reached read
        refine sat_handle (fun _ _ => True) (sat_bind (fun _ opened => ∀ transaction,
          opened.transactions thread = some transaction → now ≤ transaction.began)
          (sat_call WorldOp.begin ?_ ?_) ?_) ?_
        · rintro before others _ after ⟨rfl, _⟩
          refine ⟨⟨trivial, trivial⟩, fun transaction opened => ?_⟩
          dsimp only at opened
          rw [Function.update_self] at opened
          obtain rfl := Option.some.inj opened
          exact Int.le_trans read others.1
        · exact fun _ _ _ _ _ => ⟨⟨trivial, trivial⟩, trivial⟩
        · intro _ opened prompt
          have same : ∀ before, (timing formats deployed lag).rely thread opened before →
              (WorldOp.commit (.markReady maxStreamLimit minStreamLimit
                (now - repository.maxAnchoringDelayMS) now)).Prompt thread before := by
            intro before others transaction current
            exact prompt transaction (others.2 ▸ current)
          refine sat_call (WorldOp.commit _) ?_ ?_
          · exact fun before others _ _ _ => ⟨⟨trivial, same before others⟩, trivial⟩
          · exact fun before others _ _ _ => ⟨⟨trivial, same before others⟩, trivial⟩
        · intro error later _
          cases error with
          | serialization =>
              exact sat_bind (fun _ _ => True)
                (timely_plain (Prog.confined_call (WorldOp.sleep 100) trivial) later)
                fun _ again _ => ih again
          | rejected message => trivial
          | thrown message => trivial

theorem timely_task (task : Task) : Timely formats deployed lag thread (task.run formats) := by
  apply Task.run_parts (fun program plain => timely_plain plain)
  · intro A B program continue_ head tail world
    exact sat_bind (fun _ _ => True) (head world) fun value reached _ => tail value reached
  · exact timely_findAndMarkReady

/-- Every state of such a run is timed, and its threads keep their guarantee. -/
theorem Cas.timed {clock : Int} {last : Cas}
    (run : ReachesUnder (casSystem formats deployed) (KeepsClaims lag) (Cas.start clock) last) :
    last.world.Timed lag ∧ (timing formats deployed lag).AllSafe last := by
  apply (timing formats deployed lag).invariant (World.Timed lag)
  · rintro thread program world _ _ ⟨task, _, rfl⟩
    exact timely_task task world
  · intro thread op before reply after timed performed guarantee
    exact timed.moves performed.2 guarantee.1 guarantee.2 (WorldOp.perform_moves performed.1)
  · rintro before after timed ⟨later, passed, rfl⟩
    exact ⟨fun request member => (timed.rows request member).later passed, timed.unknown, timed.snapshots⟩
  · exact run.restrict
  · refine ⟨?_, fun _ _ => rfl, ?_⟩
    · rintro request ⟨⟩
    · rintro thread transaction ⟨⟩
  · exact fun thread => trivial

end Timing

section Steps

variable {formats : Formats} {lag : Int} {thread : Nat} {op : WorldOp} {reply : Except Failure op.Reply}
  {world next : World} {old new : Request}

/-- The claim of a request that becomes ready stays on record. -/
theorem World.Moves.ready_claimed (regular : op.Regular) (moves : world.Moves formats thread op next)
    (inNext : new ∈ next.requests.rows) (ready : new.status = .READY) :
    next.history.claimed new.id = world.history.claimed new.id := by
  have idle : new.status ≠ .PROCESSING := by
    rw [ready]
    decide
  cases moves with
  | @revert fields updatedAt ids =>
      obtain rfl : fields = ⟨none, some .PENDING, none⟩ := regular
      have unmoved := (RequestUpdateFields.setsStatus rfl updatedAt).unmoved inNext (by rw [ready]; decide)
      have absent : new.id ∉ ids := of_decide_eq_false unmoved.2
      exact if_neg fun both => absent both.1
  | claim claimed =>
      subst claimed
      exact History.claim_idle inNext idle
  | mark wrote takes =>
      obtain rfl := wrote.written
      exact History.claim_idle inNext idle
  | _ => rfl

/-- A request that is handed out although it was claimed before has timed out since. -/
theorem World.Timed.handed (timed : world.Timed lag) (keeps : KeepsClaims lag world (.act thread op reply))
    (regular : op.Regular) (moves : world.Moves formats thread op next) (inWorld : old ∈ world.requests.rows)
    (inNext : new ∈ next.requests.rows) (same : new.id = old.id) (free : old.status ≠ .PROCESSING)
    (taken : new.status = .PROCESSING) {claim : Claim} (claimed : world.history.claimed old.id = some claim) :
    ∃ handed, next.history.claimed old.id = some handed ∧ claim.time + PROCESSING_TIMEOUT ≤ handed.time := by
  have timedOld := timed.rows old inWorld
  have stays : new ∉ world.requests.rows := by
    intro present
    obtain rfl := Table.eq_of_column id_indexed present inWorld same
    exact free taken
  have unmoved : ∀ {chosen : Request → Bool} {edit : RequestEdit} {status : RequestStatus},
      SetsStatus edit status → status ≠ .PROCESSING → new ∈ (world.requests.update chosen edit).rows →
      False := by
    intro chosen edit status sets other present
    exact stays (sets.unmoved present (by rw [taken]; exact other.symm)).1
  have version : ∀ {chosen : Request → Bool} {edit : RequestEdit},
      new ∈ (world.requests.update chosen edit).rows → chosen old = true ∧ new = edit.apply old := by
    intro chosen edit present
    obtain ⟨row, inside, rfl⟩ := Table.mem_update.mp present
    have sameRow : (if chosen row then edit.apply row else row).id = row.id :=
      edit.column_ite id_indexed _ row
    obtain rfl := Table.eq_of_column id_indexed inside inWorld (sameRow.symm.trans same)
    split at stays
    · rename_i picked
      exact ⟨picked, if_pos picked⟩
    · exact absurd inside stays
  cases moves with
  | @insert request id fresh =>
      rcases (Table.mem_insert _ _ fresh).mp inNext with present | rfl
      · exact absurd present stays
      · exact absurd same.symm (fresh Request.id id_indexed old inWorld)
  | @replace origin streamId cid ordered permuted sorted =>
      exact (unmoved (replacedEdit_setsStatus cid) (by decide) inNext).elim
  | @revert fields updatedAt ids =>
      obtain rfl : fields = ⟨none, some .PENDING, none⟩ := regular
      exact (unmoved (RequestUpdateFields.setsStatus rfl updatedAt) (by decide) inNext).elim
  | @claim ids requests written =>
      subst written
      obtain ⟨picked, moved⟩ := version inNext
      have ready := (keeps old inWorld (of_decide_eq_true picked)).1
      simp only [Request.Timed, ready] at timedOld
      refine ⟨_, History.claim_moved inWorld picked free rfl, ?_⟩
      exact Int.le_trans (timedOld.2 claim claimed) timedOld.1
  | @mark transaction stamp marked requests wrote takes =>
      obtain rfl := wrote.written
      have idle : RequestStatus.READY ≠ .PROCESSING := by decide
      cases transaction with
      | markReady => exact (unmoved (RequestUpdateFields.setsStatus rfl stamp) idle inNext).elim
      | refreshReady => exact (unmoved (RequestUpdateFields.setsStatus rfl stamp) idle inNext).elim
      | markAsProcessing =>
          obtain ⟨picked, moved⟩ := version inNext
          have chosen : old.id ∈ marked := of_decide_eq_true picked
          have ready : old.status = .READY := takes old inWorld chosen
          simp only [Request.Timed, ready] at timedOld
          refine ⟨_, History.claim_moved inWorld picked free rfl, ?_⟩
          exact Int.le_trans (timedOld.2 claim claimed) timedOld.1
  | @complete anchors acceptedRequests stamp marked requests wrote accepted =>
      have written := wrote.written
      subst written
      exact (unmoved (RequestUpdateFields.setsStatus rfl stamp) (by decide) inNext).elim
  | _ => exact absurd inNext stays

end Steps

/-- A run that keeps its claims makes a request ready again, or hands it out again, only after a timeout,
however late its claims come. -/
theorem retries_after_timeout {formats : Formats} {deployed : Task → Prop} {lag clock : Int}
    {middle next : Cas} {label : Label WorldOp WorldOp.Reply Failure}
    (run : ReachesUnder (casSystem formats deployed) (KeepsClaims lag) (Cas.start clock) middle)
    (step : Step (casSystem formats deployed) middle label next) (met : KeepsClaims lag middle.world label)
    {old new : Request} (inMiddle : old ∈ middle.world.requests.rows)
    (inNext : new ∈ next.world.requests.rows)
    (same : new.id = old.id) :
    (old.status = .PROCESSING → new.status = .READY → ∃ claim,
      middle.world.history.claimed old.id = some claim ∧
        claim.time + PROCESSING_TIMEOUT ≤ new.updatedAt ∧ new.updatedAt ≤ next.world.clock) ∧
    (old.status ≠ .PROCESSING → new.status = .PROCESSING → ∀ claim,
      middle.world.history.claimed old.id = some claim → ∃ handed,
        next.world.history.claimed old.id = some handed ∧ claim.time + PROCESSING_TIMEOUT ≤ handed.time) := by
  obtain ⟨timed, safe⟩ := Cas.timed run
  have timedNext := (Cas.timed (run.tail ⟨label, step, met⟩)).1
  have unchanged : next.world.requests = middle.world.requests → new = old := by
    intro kept
    rw [kept] at inNext
    exact Table.eq_of_column id_indexed inNext inMiddle same
  cases step with
  | start free allowed =>
      obtain rfl := unchanged rfl
      exact ⟨fun processing ready => by simp [ready] at processing, fun free taken => absurd taken free⟩
  | drift moved =>
      obtain ⟨later, _, drifted⟩ := moved
      obtain rfl := unchanged (by rw [drifted])
      exact ⟨fun processing ready => by simp [ready] at processing, fun free taken => absurd taken free⟩
  | @act thread op rest reply world current performed =>
      have regular := ((safe.started current) _ ((timing formats deployed lag).rely_refl thread _) reply world
        ⟨performed, met⟩).1.1
      have moves := WorldOp.perform_moves performed
      constructor
      · intro processing ready
        have timedOld := timed.rows old inMiddle
        have timedNew := timedNext.rows new inNext
        simp only [Request.Timed, processing] at timedOld
        simp only [Request.Timed, ready] at timedNew
        obtain ⟨claim, claimed, _⟩ := timedOld
        refine ⟨claim, claimed, timedNew.2 claim ?_, timedNew.1⟩
        rw [show (middle.resume thread (rest reply) world).world.history.claimed new.id = _ from
          moves.ready_claimed regular inNext ready, same]
        exact claimed
      · intro free taken claim claimed
        exact timed.handed met regular moves inMiddle inNext same free taken claimed

section Runs

def postWorkerAndScheduler (task : Task) : Prop :=
  task = post "bafkqaaa" 1 ∨ task = .anchorRequests loneWorker 1 ∨ task = .emitAnchorEventIfReady loneWorker 1

/-- A scheduler looks for requests when the claimed request became ready long ago. -/
theorem scheduler_looks {condition : World → Label WorldOp WorldOp.Reply Failure → Prop} {wait late : Int}
    (met : ∀ world label, Ordinary wait world label → condition world label) (later : 0 ≤ wait)
    (evenLater : wait ≤ late) :
    ∃ (middle : Cas) (rest : Except Failure (List Request) → Code (Option Response)),
      ReachesUnder (casSystem loneFormats postWorkerAndScheduler) condition (Cas.start 0) middle ∧
      middle.threads 2 = some (.ask (.commit (.markReady 0 1 (late - 0) late)) rest) ∧
      middle.world.requests.rows = [loneRequest .PROCESSING "Request is pending."] ∧
      middle.world.history.claimed "1" = some ⟨wait, .batchProcessing, 1⟩ ∧
      middle.world.transactions 2 = some ⟨middle.world.requests, late⟩ ∧ middle.world.clock = late := by
  obtain ⟨⟨world, threads⟩, run, _, free, rows, _, _, clock, _, claimed⟩ :=
    @lone_request_claimed postWorkerAndScheduler condition (.inl rfl) (.inr (.inl rfl)) wait
      (fun world label _ => met world label) later
  dsimp only at rows clock claimed
  have none_ : (0 : Nat) = (world.requests.rows.filter fun request => request.status = .READY).length := by
    rw [rows]
    rfl
  apply Exists.intro
  apply Exists.intro
  constructor
  · apply run.trans
    apply waits (clock.trans_le evenLater) (met _ _ trivial)
    apply starts 2 (.inr (.inr rfl)) (by exact free) (met _ _ trivial)
    apply resolves 2 (.countByStatus .READY) (0 : Nat) rfl
    · exact ⟨none_, rfl⟩
    · exact met _ _ trivial
    apply resolves 2 .now late rfl
    · exact ⟨rfl, rfl⟩
    · exact met _ _ trivial
    apply resolves 2 .begin () rfl
    · exact rfl
    · exact met _ _ trivial
    exact .refl
  · exact ⟨rfl, rows, claimed, rfl, rfl⟩

/-- The scheduler makes the claimed request ready again. -/
theorem scheduler_retries {middle : Cas} {rest : Except Failure (List Request) → Code (Option Response)}
    {late : Int} (current : middle.threads 2 = some (.ask (.commit (.markReady 0 1 (late - 0) late)) rest))
    (rows : middle.world.requests.rows = [loneRequest .PROCESSING "Request is pending."])
    (opened : middle.world.transactions 2 = some ⟨middle.world.requests, late⟩)
    (clock : middle.world.clock = late) (stale : 0 < late - PROCESSING_TIMEOUT) :
    ∃ (next : Cas) (reply : Except Failure (List Request)),
      Step (casSystem loneFormats postWorkerAndScheduler) middle
        (.act 2 (.commit (.markReady 0 1 (late - 0) late)) reply) next ∧
      { loneRequest .READY "Request is pending." with updatedAt := late } ∈ next.world.requests.rows := by
  have found : findRequestsToAnchor late (loneRequest .PROCESSING "Request is pending.") = true := by
    simpa [findRequestsToAnchor, loneRequest] using stale
  have evaluates := evaluates_markReady rows found (Nat.le_refl 1) 0 (late - 0) late
  refine ⟨_, .ok [loneRequest .PROCESSING "Request is pending."],
    .act current ⟨_, ⟨_, _, opened, evaluates, clock.ge, fun _ _ => rfl, rfl⟩, rfl⟩, ?_⟩
  change _ ∈ (Table.publish Request.id middle.world.requests _).rows
  rw [Table.publish_rows, rows]
  exact .head _

theorem ordinary_keepsClaims (lag : Int) (world : World) (label : Label WorldOp WorldOp.Reply Failure)
    (ordinary : Ordinary lag world label) : KeepsClaims lag world label := by
  cases label with
  | act thread op reply =>
      cases op with
      | updateRequests => exact ordinary.elim
      | claim ids => exact ordinary
      | commit transaction =>
          cases transaction with
          | markReady =>
              intro request member processing
              rw [ordinary request member] at processing
              cases processing
          | markAsProcessing => exact ordinary.elim
          | refreshReady => trivial
      | _ => trivial
  | _ => trivial

/-- A worker claims the request a minute after it became ready, and the scheduler comes back when the claim
has timed out. -/
theorem retries_after_timeout_late : ∃ (middle next : Cas) (label : Label WorldOp WorldOp.Reply Failure)
    (claim : Claim) (old new : Request),
    ReachesUnder (casSystem loneFormats postWorkerAndScheduler) (KeepsClaims 60000) (Cas.start 0) middle ∧
    Step (casSystem loneFormats postWorkerAndScheduler) middle label next ∧
    old ∈ middle.world.requests.rows ∧ old.status = .PROCESSING ∧
    new ∈ next.world.requests.rows ∧ new.id = old.id ∧ new.status = .READY ∧
    middle.world.history.claimed old.id = some claim ∧ claim.time = old.updatedAt + 60000 ∧
    claim.time + PROCESSING_TIMEOUT ≤ new.updatedAt := by
  obtain ⟨middle, rest, run, current, rows, claimed, opened, clock⟩ :=
    @scheduler_looks (KeepsClaims 60000) 60000 (PROCESSING_TIMEOUT + 60000) (ordinary_keepsClaims 60000)
      (by decide) (by decide)
  obtain ⟨next, reply, step, inNext⟩ := scheduler_retries current rows opened clock (by decide)
  have member : loneRequest .PROCESSING "Request is pending." ∈ middle.world.requests.rows := by simp [rows]
  have met : KeepsClaims 60000 middle.world
      (.act 2 (.commit (.markReady 0 1 (PROCESSING_TIMEOUT + 60000 - 0) (PROCESSING_TIMEOUT + 60000)))
        reply) := by
    intro request inside _ _
    rw [rows, List.mem_singleton] at inside
    subst inside
    decide
  obtain ⟨claim, found, past, _⟩ := (retries_after_timeout run step met member inNext rfl).1 rfl rfl
  obtain rfl := Option.some.inj (claimed.symm.trans found)
  exact ⟨middle, next, _, _, _, _, run, step, member, rfl, inNext, rfl, rfl, claimed, rfl, past⟩

/-- A request that waited before its claim is made ready again right after the claim. -/
theorem retries_without_timeout : ¬ ∀ (formats : Formats) (deployed : Task → Prop) (clock : Int)
    (middle next : Cas) (label : Label WorldOp WorldOp.Reply Failure),
      Reaches (casSystem formats deployed) (Cas.start clock) middle →
      Step (casSystem formats deployed) middle label next →
      ∀ old ∈ middle.world.requests.rows, ∀ new ∈ next.world.requests.rows, new.id = old.id →
        old.status = .PROCESSING → new.status = .READY → ∃ claim,
          middle.world.history.claimed old.id = some claim ∧
            claim.time + PROCESSING_TIMEOUT ≤ new.updatedAt := by
  intro timesOut
  obtain ⟨middle, rest, run, current, rows, claimed, opened, clock⟩ :=
    @scheduler_looks (fun _ _ => True) (PROCESSING_TIMEOUT + 1) (PROCESSING_TIMEOUT + 1)
      (fun _ _ _ => trivial) (by decide) (by decide)
  obtain ⟨next, reply, step, inNext⟩ := scheduler_retries current rows opened clock (by decide)
  have member : loneRequest .PROCESSING "Request is pending." ∈ middle.world.requests.rows := by simp [rows]
  obtain ⟨claim, found, past⟩ :=
    timesOut _ _ 0 middle next _ (.of_under run) step _ member _ inNext rfl rfl rfl
  obtain rfl := Option.some.inj (claimed.symm.trans found)
  exact absurd past (by decide)

end Runs

end CeramicAnchor
