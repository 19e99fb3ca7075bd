import CeramicAnchor.Proof.Batch
import CeramicAnchor.Proof.LoneRequest

/-
This file proves that every completed request has one anchor, whose stored CAR yields a valid witness.
-/

namespace CeramicAnchor
open Concurrency Storage RequestRepository

theorem isProofCid_unique {first second proofCid : Cid} (ofFirst : IsProofCid first proofCid)
    (ofSecond : IsProofCid second proofCid) : first = second := by
  obtain ⟨root, chainId, contract, rfl⟩ := ofFirst
  obtain ⟨otherRoot, otherChain, otherContract, same⟩ := ofSecond
  have records := Cid.record.inj same
  have hashes := congrArg (fun record => Ipld.property record "txHash") records
  simpa [anchorProof, Ipld.property, Fields.ofList, Fields.get] using hashes

/-- Each stored Merkle CAR belongs to one submitted transaction. -/
structure World.Keyed (world : World) : Prop where
  keys : ∀ proofCid car, world.merkleCars proofCid = some car → ∃ entry ∈ world.ledger,
    IsProofCid entry.2 proofCid
  distinct : ∀ first ∈ world.ledger, ∀ second ∈ world.ledger, first.2 = second.2 → first = second

/-- The stored CAR of the anchor proves it for its request. -/
def World.Proven (formats : Formats) (world : World) (anchor : FreshAnchor) : Prop :=
  ∃ request ∈ world.requests.rows, request.id = anchor.requestId ∧ ∃ car,
    world.merkleCars anchor.proofCid = some car ∧ anchor.Proves formats request car

/-- All anchors are proven, and all completed requests have one. -/
structure World.Sound (formats : Formats) (world : World) : Prop where
  keyed : world.Keyed
  proven : ∀ anchor ∈ world.anchors.rows, world.Proven formats anchor
  completed : ∀ request ∈ world.requests.rows, request.status = .COMPLETED →
    ∃ anchor ∈ world.anchors.rows, anchor.requestId = request.id

/-- A CAR is stored once under the proof of the thread's own transaction, and only proven anchors are
persisted. -/
def Anchors (formats : Formats) (thread : Nat) : Guarantee WorldOp WorldOp.Reply Failure World :=
  fun op before _ _ => match op with
    | .storeCarFile proofCid _ => ∃ txHash, (thread, txHash) ∈ before.ledger ∧ IsProofCid txHash proofCid ∧
        before.merkleCars proofCid = none
    | .persist anchors acceptedRequests => (∀ anchor ∈ anchors, before.Proven formats anchor) ∧
        ∀ request ∈ acceptedRequests, ∃ anchor ∈ anchors, anchor.requestId = request.id
    | op => op.Regular

theorem anchors_unanchored {formats : Formats} {thread : Nat} {op : WorldOp} (unanchored : op.Unanchored)
    (before : World) (reply : Except Failure op.Reply) (after : World) :
    Anchors formats thread op before reply after := by
  cases op with
  | storeCarFile proofCid car => exact unanchored.elim
  | persist anchors acceptedRequests => exact unanchored.elim
  | _ => exact unanchored

section Moves

variable {formats : Formats} {thread : Nat} {op : WorldOp} {reply : Except Failure op.Reply}
    {world next : World}

theorem FreshAnchor.Proves.same {anchor : FreshAnchor} {first second : Request} {car : Car}
    (proves : anchor.Proves formats first car) (same : second.Same first) :
    anchor.Proves formats second car := by
  obtain ⟨prev, id, commit, parsedCid, parsedStream, idLink, holds⟩ := proves
  refine ⟨prev, id, commit, ?_, ?_, idLink, holds⟩
  · rw [same.cid, parsedCid]
  · rw [same.streamId, parsedStream]

/-- A stored CAR stays where it is. -/
theorem World.Moves.keepsCars (moves : world.Moves formats thread op next)
    (anchors : Anchors formats thread op world reply next) {proofCid : Cid} {car : Car}
    (stored : world.merkleCars proofCid = some car) : next.merkleCars proofCid = some car := by
  cases moves with
  | @storeCar anchorProofCid file =>
      obtain ⟨_, _, _, absent⟩ := anchors
      have different : proofCid ≠ anchorProofCid := by
        rintro rfl
        rw [absent] at stored
        cases stored
      exact (Function.update_of_ne different _ _).trans stored
  | _ => exact stored

theorem World.Moves.keepsLedger (moves : world.Moves formats thread op next) {entry : Nat × Cid}
    (member : entry ∈ world.ledger) : entry ∈ next.ledger := by
  cases moves with
  | submit => exact List.mem_append_left _ member
  | _ => exact member

theorem World.Keyed.moves (keyed : world.Keyed) (moves : world.Moves formats thread op next)
    (anchors : Anchors formats thread op world reply next) : next.Keyed := by
  cases moves with
  | @storeCar anchorProofCid file =>
      obtain ⟨txHash, submitted, isProof, _⟩ := anchors
      refine ⟨fun proofCid car stored => ?_, keyed.distinct⟩
      by_cases same : proofCid = anchorProofCid
      · subst same
        exact ⟨_, submitted, isProof⟩
      · have before : world.merkleCars proofCid = some car :=
          (Function.update_of_ne same _ _).symm.trans stored
        exact keyed.keys proofCid car before
  | @submit root hash fresh =>
      refine ⟨fun proofCid car stored => ?_, fun first inFirst second inSecond same => ?_⟩
      · obtain ⟨entry, member, isProof⟩ := keyed.keys proofCid car stored
        exact ⟨entry, List.mem_append_left _ member, isProof⟩
      · rcases List.mem_append.mp inFirst with oldFirst | newFirst
        · rcases List.mem_append.mp inSecond with oldSecond | newSecond
          · exact keyed.distinct first oldFirst second oldSecond same
          · rw [List.mem_singleton.mp newSecond] at same
            exact absurd same (fresh first oldFirst)
        · rcases List.mem_append.mp inSecond with oldSecond | newSecond
          · rw [List.mem_singleton.mp newFirst] at same
            exact absurd same.symm (fresh second oldSecond)
          · rw [List.mem_singleton.mp newFirst, List.mem_singleton.mp newSecond]
  | _ => exact ⟨keyed.keys, keyed.distinct⟩

theorem World.Proven.moves {anchor : FreshAnchor} (proven : world.Proven formats anchor)
    (moves : world.Moves formats thread op next) (anchors : Anchors formats thread op world reply next) :
    next.Proven formats anchor := by
  obtain ⟨request, member, sameId, car, stored, proves⟩ := proven
  obtain ⟨later, inNext, same⟩ := moves.keeps member
  exact ⟨later, inNext, same.id.trans sameId, car, moves.keepsCars anchors stored, proves.same same⟩

/-- Only the completion of accepted requests completes a request. -/
theorem World.Moves.completes (moves : world.Moves formats thread op next)
    (anchors : Anchors formats thread op world reply next) {request : Request}
    (member : request ∈ next.requests.rows)
    (completed : request.status = .COMPLETED) : request ∈ world.requests.rows ∨
      ∃ fresh accepted, op = .persist fresh accepted ∧ request.id ∈ accepted.map Request.id ∧
        next.anchors = createAnchors world.anchors fresh := by
  cases moves with
  | insert fresh =>
      rcases (Table.mem_insert _ _ fresh).mp member with old | rfl
      · exact .inl old
      · have pending : RequestStatus.COMPLETED = .PENDING := completed.symm.trans anchors
        cases pending
  | @replace origin streamId cid ordered permuted sorted =>
      exact .inl ((replacedEdit_setsStatus cid).unmoved member (by simp [completed])).1
  | @revert fields updatedAt ids =>
      obtain rfl : fields = ⟨none, some .PENDING, none⟩ := anchors
      exact .inl ((RequestUpdateFields.setsStatus rfl updatedAt).unmoved member (by simp [completed])).1
  | claim claimed =>
      subst claimed
      exact .inl (claimEdit_setsStatus.unmoved member (by simp [completed])).1
  | @mark transaction stamp marked requests wrote takes =>
      obtain rfl := wrote.written
      have different : request.status ≠ transaction.target := by
        rcases transaction.target_cases with ready | processing
        · simp [completed, ready]
        · simp [completed, processing]
      exact .inl ((RequestUpdateFields.setsStatus rfl stamp).unmoved member different).1
  | @complete fresh accepted stamp marked requests wrote inAccepted =>
      obtain rfl := wrote.written
      obtain ⟨old, inTable, rfl⟩ := Table.mem_update.mp member
      split
      · rename_i chosen
        exact .inr ⟨fresh, accepted, rfl, inAccepted _ (of_decide_eq_true chosen), rfl⟩
      · exact .inl inTable
  | _ => exact .inl member

/-- A move that meets the guarantee keeps the invariant. -/
theorem World.Sound.moves (sound : world.Sound formats) (moves : world.Moves formats thread op next)
    (anchors : Anchors formats thread op world reply next) : next.Sound formats where
  keyed := sound.keyed.moves moves anchors
  proven anchor member := by
    have old : anchor ∈ world.anchors.rows → next.Proven formats anchor := fun inside =>
      (sound.proven anchor inside).moves moves anchors
    cases moves with
    | complete wrote inAccepted =>
        rcases createAnchors_cases member with inside | fresh
        · exact old inside
        · exact (anchors.1 anchor fresh).moves (.complete wrote inAccepted) anchors
    | _ => exact old member
  completed request member completed := by
    rcases moves.completes anchors member completed with inTable | ⟨fresh, accepted, rfl, inAccepted, created⟩
    · obtain ⟨anchor, inside, same⟩ := sound.completed request inTable completed
      exact ⟨anchor, moves.extends.anchors anchor inside, same⟩
    · obtain ⟨wanted, listed, sameId⟩ := List.mem_map.mp inAccepted
      obtain ⟨anchor, isFresh, same⟩ := anchors.2 wanted listed
      obtain ⟨row, inNext, sameRow⟩ := @createAnchors_covers world.anchors fresh anchor isFresh
      rw [created]
      exact ⟨row, inNext, (sameRow.trans same).trans sameId⟩

end Moves

section Threads

variable {formats : Formats} {deployed : Task → Prop} {thread : Nat} {world : World}

/-- The other threads lose nothing, and they keep away from the transactions of this thread. -/
structure World.KeepsAway (thread : Nat) (world next : World) : Prop where
  extends_ : world.Extends next
  keyed : world.Keyed → next.Keyed
  ledger : ∀ entry ∈ world.ledger, entry ∈ next.ledger
  cars : ∀ proofCid car, world.merkleCars proofCid = some car → next.merkleCars proofCid = some car
  own : world.Keyed → ∀ txHash proofCid, (thread, txHash) ∈ world.ledger → IsProofCid txHash proofCid →
    world.merkleCars proofCid = none → next.merkleCars proofCid = none

theorem World.KeepsAway.of_same {next : World} (requests : next.requests = world.requests)
    (anchors : next.anchors = world.anchors) (published : next.published = world.published)
    (ledger : next.ledger = world.ledger) (cars : next.merkleCars = world.merkleCars) :
    world.KeepsAway thread next where
  extends_ := ⟨fun request member => ⟨request, by rwa [requests], .refl request⟩,
    fun _ member => by rwa [anchors], fun _ member => by rwa [published]⟩
  keyed keyed := ⟨by rw [ledger, cars]; exact keyed.keys, by rw [ledger]; exact keyed.distinct⟩
  ledger _ member := by rwa [ledger]
  cars _ _ stored := by rwa [cars]
  own _ _ _ _ _ absent := by rwa [cars]

theorem World.KeepsAway.trans {first second third : World} (head : first.KeepsAway thread second)
    (tail : second.KeepsAway thread third) : first.KeepsAway thread third where
  extends_ := head.extends_.trans tail.extends_
  keyed keyed := tail.keyed (head.keyed keyed)
  ledger entry member := tail.ledger entry (head.ledger entry member)
  cars proofCid car stored := tail.cars proofCid car (head.cars proofCid car stored)
  own keyed txHash proofCid submitted isProof absent :=
    tail.own (head.keyed keyed) txHash proofCid (head.ledger _ submitted) isProof
      (head.own keyed txHash proofCid submitted isProof absent)

/-- Another thread stores no CAR for this thread's transaction. -/
theorem World.Moves.keepsAway {other : Nat} {op : WorldOp} {reply : Except Failure op.Reply} {next : World}
    (different : thread ≠ other) (moves : world.Moves formats other op next)
    (anchors : Anchors formats other op world reply next) : world.KeepsAway thread next where
  extends_ := moves.extends
  keyed keyed := keyed.moves moves anchors
  ledger _ member := moves.keepsLedger member
  cars _ _ stored := moves.keepsCars anchors stored
  own := by
    intro keyed txHash proofCid submitted isProof absent
    cases moves with
    | @storeCar anchorProofCid file =>
        obtain ⟨otherHash, otherSubmitted, otherProof, _⟩ := anchors
        have apart : proofCid ≠ anchorProofCid := by
          rintro rfl
          have sameHash : txHash = otherHash := isProofCid_unique isProof otherProof
          have sameEntry := keyed.distinct _ submitted _ otherSubmitted sameHash
          exact different (congrArg Prod.fst sameEntry)
        exact (Function.update_of_ne apart _ _).trans absent
    | _ => exact absent

/-- Each thread anchors its own batches. -/
def anchoring (formats : Formats) (deployed : Task → Prop) : Discipline (casSystem formats deployed) where
  rely := World.KeepsAway
  rely_refl _ _ := .of_same rfl rfl rfl rfl rfl
  rely_trans := World.KeepsAway.trans
  guarantee := Anchors formats
  dormant _ _ := True
  post _ _ _ := True
  dormant_stable _ _ := trivial
  post_stable _ _ := trivial
  sound different performed anchors := (WorldOp.perform_moves performed).keepsAway different anchors
  drifts := by
    rintro thread before after ⟨later, passed, rfl⟩
    exact .of_same rfl rfl rfl rfl rfl

/-- A program without anchors keeps the Merkle CARs keyed. -/
theorem keyed_sat {A : Type} {program : Code A} (unanchored : program.Confined WorldOp.Unanchored)
    (keyed : world.Keyed) :
    Sat ((anchoring formats deployed).setting thread) (Anchors formats thread) (fun _ => World.Keyed)
      (fun _ => World.Keyed) program world := by
  apply sat_keeps World.Keyed unanchored
  · exact fun others held => others.keyed held
  · intro op inside before reply after performed held
    have anchors : Anchors formats thread op before reply after :=
      anchors_unanchored inside before reply after
    exact ⟨anchors, held.moves (WorldOp.perform_moves performed) anchors⟩
  · exact keyed

theorem unanchored_safe {A : Type} {program : Code A} (unanchored : program.Confined WorldOp.Unanchored) :
    Sat ((anchoring formats deployed).setting thread) (Anchors formats thread) (fun _ _ => True)
      (fun _ _ => True) program world :=
  sat_confined unanchored fun _ inside before reply after _ => anchors_unanchored inside before reply after

/-- What a thread knows at each stage of its batch. -/
structure StageKnown (thread : Nat) (accepted : List Request) (stage : Stage) (world : World) : Prop where
  keyed : world.Keyed
  knows : world.Knows accepted
  stage : match stage with
    | .submitted txHash => (thread, txHash) ∈ world.ledger ∧
        ∀ proofCid, IsProofCid txHash proofCid → world.merkleCars proofCid = none
    | .stored proofCid car => world.merkleCars proofCid = some car
    | .opened proofCid car => world.merkleCars proofCid = some car
    | _ => True

/-- The moves of the others keep what a thread knows. -/
theorem StageKnown.keepsAway {accepted : List Request} {stage : Stage} {next : World}
    (known : StageKnown thread accepted stage world) (others : world.KeepsAway thread next) :
    StageKnown thread accepted stage next := by
  refine ⟨others.keyed known.keyed, known.knows.extends others.extends_, ?_⟩
  cases stage with
  | submitted txHash =>
      obtain ⟨submitted, free⟩ := known.stage
      refine ⟨others.ledger _ submitted, fun proofCid isProof => ?_⟩
      exact others.own known.keyed txHash proofCid submitted isProof (free proofCid isProof)
  | stored proofCid car => exact others.cars proofCid car known.stage
  | opened proofCid car => exact others.cars proofCid car known.stage
  | _ => trivial

/-- An own operation that stores no CAR keeps what a thread knows. -/
theorem StageKnown.moves {accepted : List Request} {stage : Stage} {op : WorldOp}
    {reply : Except Failure op.Reply} {next : World} (known : StageKnown thread accepted stage world)
    (moves : world.Moves formats thread op next) (anchors : Anchors formats thread op world reply next)
    (storesNone : ∀ proofCid car, op ≠ .storeCarFile proofCid car) :
    StageKnown thread accepted stage next := by
  refine ⟨known.keyed.moves moves anchors, known.knows.extends moves.extends, ?_⟩
  cases stage with
  | submitted txHash =>
      obtain ⟨submitted, free⟩ := known.stage
      refine ⟨moves.keepsLedger submitted, fun proofCid isProof => ?_⟩
      cases moves with
      | storeCar => exact absurd rfl (storesNone _ _)
      | _ => exact free proofCid isProof
  | stored proofCid car => exact moves.keepsCars anchors known.stage
  | opened proofCid car => exact moves.keepsCars anchors known.stage
  | _ => trivial

theorem StageKnown.fails {accepted : List Request} {stage : Stage}
    (known : StageKnown thread accepted stage world) : StageKnown thread accepted .failed world :=
  ⟨known.keyed, known.knows, trivial⟩

/-- A complete batch with a stored CAR persists proven anchors. -/
theorem StageKnown.persists {accepted : List Request} {proofCid : Cid} {car : Car}
    {anchors : List FreshAnchor}
    {acceptedRequests : List Request} (known : StageKnown thread accepted (.opened proofCid car) world)
    (complete : Complete formats accepted proofCid car anchors) (same : acceptedRequests.Perm accepted)
    (reply : Except Failure (WorldOp.persist anchors acceptedRequests).Reply) (next : World) :
    Anchors formats thread (.persist anchors acceptedRequests) world reply next := by
  constructor
  · intro anchor member
    obtain ⟨rfl, request, accepts, sameId, proves⟩ := complete.sound anchor member
    obtain ⟨row, inTable, sameRow⟩ := known.knows request accepts
    exact ⟨row, inTable, sameRow.id.trans sameId.symm, car, known.stage, proves.same sameRow⟩
  · intro request member
    exact complete.covers request (same.mem_iff.mp member)

/-- The outline of a batch among other threads. -/
def anchoringOutline (formats : Formats) (deployed : Task → Prop) (thread : Nat) (accepted : List Request) :
    Outline ((anchoring formats deployed).setting thread) (Anchors formats thread) formats accepted where
  holds := StageKnown thread accepted
  stable others known := known.keepsAway others
  fails known := known.fails
  quiet := by
    intro stage op before reply after quiet performed known
    have anchors : Anchors formats thread op before reply after :=
      anchors_unanchored quiet.unanchored before reply after
    refine ⟨anchors, known.moves (WorldOp.perform_moves performed) anchors fun proofCid car same => ?_⟩
    rw [same] at quiet
    exact quiet
  builds := by
    intro candidates before reply after _ performed known
    have allowed : Anchors formats thread (.buildMerkleTree candidates) before reply after := trivial
    refine ⟨allowed, known.moves (WorldOp.perform_moves performed) allowed (by simp), ?_⟩
    intro tree same
    subst same
    exact performed.1
  submits := by
    intro root before reply after performed known
    have allowed : Anchors formats thread (.sendTransaction root) before reply after := trivial
    refine ⟨allowed, ?_⟩
    have kept := known.moves (WorldOp.perform_moves performed) allowed (by simp)
    cases reply with
    | ok tx =>
        obtain ⟨hash, named, fresh, rfl⟩ := performed
        obtain rfl : hash = formats.hashCid tx := named
        refine ⟨kept.keyed, kept.knows, List.mem_append_right _ (List.mem_singleton_self _),
          fun proofCid isProof => ?_⟩
        cases stored : before.merkleCars proofCid with
        | none => rfl
        | some car =>
            obtain ⟨entry, member, otherProof⟩ := known.keyed.keys proofCid car stored
            exact absurd (isProofCid_unique otherProof isProof) (fresh entry member)
    | error error => exact ⟨kept.keyed, kept.knows, trivial⟩
  stores := by
    intro txHash proofCid car before reply after isProof performed known
    obtain ⟨submitted, free⟩ := known.stage
    have anchors : Anchors formats thread (.storeCarFile proofCid car) before reply after :=
      ⟨txHash, submitted, isProof, free proofCid isProof⟩
    have moves := WorldOp.perform_moves performed
    have keyed := known.keyed.moves moves anchors
    have knows := known.knows.extends moves.extends
    refine ⟨anchors, ?_⟩
    cases reply with
    | ok _ =>
        obtain rfl : after = _ := performed
        exact ⟨keyed, knows, Function.update_self _ _ _⟩
    | error error => exact ⟨keyed, knows, trivial⟩
  begins := by
    intro proofCid car before reply after performed known
    have allowed : Anchors formats thread .begin before reply after := trivial
    have kept := known.moves (WorldOp.perform_moves performed) allowed (by simp)
    exact ⟨allowed, kept, fun _ => ⟨kept.keyed, kept.knows, kept.stage⟩⟩
  persists := by
    intro proofCid car anchors acceptedRequests before reply after complete same performed known
    have allowed := known.persists complete same reply after
    have kept := known.moves (WorldOp.perform_moves performed) allowed (by simp)
    exact ⟨allowed, ⟨kept.keyed, kept.knows, kept.stage⟩, fun _ _ => ⟨kept.keyed, kept.knows, trivial⟩⟩

/-- A batch of known requests is safe. -/
theorem anchorRequestsOf_safe {service : AnchorService} (fuel : Nat) {requests : List Request}
    (known : StageKnown thread requests .started world) :
    Sat ((anchoring formats deployed).setting thread) (Anchors formats thread) (fun _ _ => True)
      (fun _ _ => True) (service.anchorRequestsOf formats fuel requests) world := by
  let outline := anchoringOutline formats deployed thread
    (requests.filter fun request => request.status ≠ .REPLACED)
  have started : outline.holds .started world :=
    ⟨known.keyed, fun request member => known.knows request (List.mem_filter.mp member).1, trivial⟩
  refine sat_results (outline.anchorRequestsOf_sat fuel requests ?_ rfl started)
    (fun _ _ _ => trivial) fun _ _ _ => trivial
  intro op givesBack before reply after performed known
  have anchors : Anchors formats thread op before reply after :=
    anchors_unanchored givesBack.unanchored before reply after
  refine ⟨anchors, known.moves (WorldOp.perform_moves performed) anchors fun proofCid car same => ?_⟩
  rw [same] at givesBack
  exact givesBack

/-- A quiet program keeps what the thread knows. -/
theorem quiet_known {A : Type} {program : Code A} {requests : List Request}
    (quiet : program.Confined WorldOp.Quiet) (known : StageKnown thread requests .started world) :
    Sat ((anchoring formats deployed).setting thread) (Anchors formats thread)
      (fun _ => StageKnown thread requests .started) (fun _ _ => True) program world :=
  sat_results ((anchoringOutline formats deployed thread requests).quiet_sat quiet known)
    (fun _ _ held => held) fun _ _ _ => trivial

theorem keyed_known (keyed : world.Keyed) : StageKnown thread [] .started world :=
  ⟨keyed, .of_mem (by simp), trivial⟩

/-- The claimed requests are in the table. -/
theorem claimBatch_safe (maxStreamLimit : Nat) (keyed : world.Keyed) :
    Sat ((anchoring formats deployed).setting thread) (Anchors formats thread)
      (fun requests => StageKnown thread requests .started) (fun _ _ => True)
      (claimBatch maxStreamLimit) world := by
  have picks : (Prog.call (WorldOp.selectReady maxStreamLimit) : Code (List String)).Confined WorldOp.Quiet :=
    Prog.confined_call _ trivial
  refine sat_bind _ (quiet_known picks (keyed_known keyed)) fun ids reached picked => ?_
  refine sat_call (WorldOp.claim ids) ?_ fun _ _ _ _ _ => ⟨trivial, trivial⟩
  intro before others returned after performed
  have claimed : (WorldOp.claim ids).perform formats thread before (.ok returned) after := performed
  have allowed : Anchors formats thread (.claim ids) before (.ok returned) after := trivial
  have keyedAfter := (others.keyed picked.keyed).moves (WorldOp.perform_moves claimed) allowed
  obtain ⟨requests, _, permuted, rfl⟩ := performed
  refine ⟨allowed, keyedAfter, .of_mem fun request member => ?_, trivial⟩
  exact (List.mem_filter.mp (permuted.mem_iff.mp member)).1

/-- The loaded requests are in the table. -/
theorem findByIds_safe (givenIds : List String) (keyed : world.Keyed) :
    Sat ((anchoring formats deployed).setting thread) (Anchors formats thread)
      (fun requests => StageKnown thread requests .started) (fun _ _ => True) (findByIds givenIds) world := by
  refine sat_bind (fun requests => StageKnown thread requests .started)
    (sat_call (WorldOp.selectByIds _) ?_ fun _ _ _ _ _ => ⟨trivial, trivial⟩) fun requests reached held => ?_
  · rintro before others requests after ⟨permuted, _, rfl⟩
    refine ⟨trivial, others.keyed keyed, .of_mem fun request member => ?_, trivial⟩
    exact (List.mem_filter.mp (permuted.mem_iff.mp member)).1
  · split
    · trivial
    · exact held

theorem anchorNextQueuedBatch_safe {service : AnchorService} (fuel : Nat) (keyed : world.Keyed) :
    Sat ((anchoring formats deployed).setting thread) (Anchors formats thread) (fun _ _ => True)
      (fun _ _ => True) (service.anchorNextQueuedBatch formats fuel) world := by
  refine sat_bind _ (quiet_known (AnchorService.throwIfAborted_quiet _) (keyed_known keyed))
    fun _ asked known => ?_
  split
  · trivial
  have receives : (Prog.call WorldOp.receiveMessage : Code (Option AnchorBatchQMessage)).Confined
      WorldOp.Unanchored := Prog.confined_call WorldOp.receiveMessage trivial
  refine sat_bind (fun _ => World.Keyed) (sat_results (keyed_sat receives known.keyed)
    (fun _ _ held => held) fun _ _ _ => trivial) fun batchMessage received heard => ?_
  cases batchMessage with
  | none => trivial
  | some message =>
      refine sat_handle (fun _ _ => True) ?_ fun error reached _ => ?_
      · refine sat_bind _ (findByIds_safe message.rids heard) fun requests loaded known => ?_
        refine sat_bind _ (quiet_known (AnchorService.throwIfAborted_quiet _) known) fun _ reached ready => ?_
        refine sat_bind _ (anchorRequestsOf_safe fuel ready) fun _ anchored _ => ?_
        apply unanchored_safe
        refine Prog.confined_bind (Prog.confined_call (WorldOp.sleep 5000) trivial) fun _ => ?_
        exact Prog.confined_bind (Prog.confined_call (WorldOp.ack message) trivial) fun _ => trivial
      · apply unanchored_safe
        exact Prog.confined_bind (Prog.confined_call (WorldOp.nack message) trivial) fun _ => trivial

theorem anchorRequests_safe {service : AnchorService} (fuel : Nat) (keyed : world.Keyed) :
    Sat ((anchoring formats deployed).setting thread) (Anchors formats thread) (fun _ _ => True)
      (fun _ _ => True) (service.anchorRequests formats fuel) world := by
  have keeps : ∀ {A : Type} {program : Code A} {reached : World}, program.Confined WorldOp.Unanchored →
      reached.Keyed → Sat ((anchoring formats deployed).setting thread) (Anchors formats thread)
        (fun _ => World.Keyed) (fun _ _ => True) program reached := by
    intro A program reached confined held
    exact sat_results (keyed_sat confined held) (fun _ _ held => held) fun _ _ _ => trivial
  unfold AnchorService.anchorRequests
  split
  · exact anchorNextQueuedBatch_safe fuel keyed
  · have counts : (countByStatus .READY).Confined WorldOp.Unanchored :=
      Prog.confined_call (WorldOp.countByStatus .READY) trivial
    refine sat_bind _ (keeps counts keyed) fun readyRequestsCount counted stillKeyed => ?_
    refine sat_bind _ (keeps ?_ stillKeyed) fun _ refilled keyedAgain => ?_
    · unfold AnchorService.refill
      split
      · exact Prog.confined_bind (findAndMarkReady_unanchored _ _ _ _) fun _ => trivial
      · trivial
    · refine sat_bind (fun _ _ => True) ?_ fun _ _ _ => trivial
      refine sat_bind _ (claimBatch_safe _ keyedAgain) fun requests claimed known => ?_
      refine sat_bind _ (anchorRequestsOf_safe fuel known) fun _ anchored _ => ?_
      exact unanchored_safe (Prog.confined_call (WorldOp.sleep 5000) trivial)

theorem Task.run_anchoring (task : Task) (keyed : world.Keyed) :
    (anchoring formats deployed).Safe thread (task.run formats) world := by
  cases task with
  | createRequest service req validation =>
      apply unanchored_safe
      have creates := RequestController.createRequest_creates service req validation
      exact Prog.confined_bind (Prog.confined_mono creates fun _ => WorldOp.Creates.unanchored) fun _ =>
        trivial
  | emitAnchorEventIfReady service fuel =>
      apply unanchored_safe
      exact Prog.confined_bind (AnchorService.emitAnchorEventIfReady_unanchored service fuel) fun _ => trivial
  | anchorRequests service fuel =>
      exact sat_bind _ (anchorRequests_safe fuel keyed) fun _ _ _ => trivial
  | findAndMarkAsProcessing fuel =>
      apply unanchored_safe
      have marks := findAndMarkAsProcessing_refreshes fuel
      exact Prog.confined_bind (Prog.confined_mono marks fun _ => WorldOp.Refreshes.unanchored) fun _ =>
        trivial

end Threads

section Runs

variable {formats : Formats} {deployed : Task → Prop} {clock : Int} {middle last : Cas}

/-- Each world that the service reaches is sound. -/
theorem reaches_sound (run : Reaches (casSystem formats deployed) (Cas.start clock) last) :
    last.world.Sound formats := by
  have started : (World.empty clock).Sound formats := by
    refine ⟨⟨?_, ?_⟩, ?_, ?_⟩
    · rintro proofCid car ⟨⟩
    · rintro first ⟨⟩
    · rintro anchor ⟨⟩
    · rintro request ⟨⟩
  have held := (anchoring formats deployed).invariant (World.Sound formats)
    (fun thread program world sound _ entry => by
      obtain ⟨task, _, rfl⟩ := entry
      exact task.run_anchoring sound.keyed)
    (fun sound performed anchors => sound.moves (WorldOp.perform_moves performed) anchors)
    (by
      rintro before after sound ⟨later, passed, rfl⟩
      exact ⟨⟨sound.keyed.keys, sound.keyed.distinct⟩, sound.proven, sound.completed⟩)
    run started (fun _ => trivial)
  exact held.1

/-- A stored anchor is never changed. -/
theorem anchors_stay (run : Reaches (casSystem formats deployed) middle last) {anchor : FreshAnchor}
    (stored : anchor ∈ middle.world.anchors.rows) : anchor ∈ last.world.anchors.rows := by
  have grown : middle.world.Extends last.world := by
    apply run.world_rel World.Extends World.Extends.refl World.Extends.trans
    · intro thread op before reply after performed
      exact (WorldOp.perform_moves performed).extends
    · exact World.Drifts.extends
  exact grown.anchors anchor stored

/-- The stored CAR yields a witness of the anchor, and the anchor commits the request of its stream. -/
structure Witnessed (formats : Formats) (world : World) (request : Request) (anchor : FreshAnchor) :
    Prop where
  ofRequest : anchor.requestId = request.id
  only : ∀ other ∈ world.anchors.rows, other.requestId = request.id → other = anchor
  witness : ∃ car witness, world.merkleCars anchor.proofCid = some car ∧
    WitnessService.build anchor.cid car = .ok witness ∧
    (∀ alike, WitnessService.verify alike witness = .ok anchor.cid) ∧
    ∃ commit prev id, car.get anchor.cid = some commit ∧ commit.property "prev" = some (.link prev) ∧
      formats.parseCid request.cid = some prev ∧ commit.property "id" = some (.link id) ∧
      formats.parseStreamId request.streamId = some id

/-- Every completed request has exactly one anchor, which is proven by its stored CAR and never changed. -/
theorem completed_anchored (earlier : Reaches (casSystem formats deployed) (Cas.start clock) middle)
    (run : Reaches (casSystem formats deployed) middle last) :
    (∀ request ∈ middle.world.requests.rows, request.status = .COMPLETED →
      ∃ anchor ∈ middle.world.anchors.rows, Witnessed formats middle.world request anchor) ∧
    ∀ anchor ∈ middle.world.anchors.rows, anchor ∈ last.world.anchors.rows := by
  refine ⟨fun request member completed => ?_, fun anchor stored => anchors_stay run stored⟩
  have sound := reaches_sound earlier
  obtain ⟨anchor, stored, ofRequest⟩ := sound.completed request member completed
  have only : ∀ other ∈ middle.world.anchors.rows, other.requestId = request.id → other = anchor :=
    fun other inside same => Table.eq_of_column (by simp) inside stored (same.trans ofRequest.symm)
  obtain ⟨row, inTable, sameId, car, present, prev, id, commit, parsedCid, parsedStream, idLink, holds⟩ :=
    sound.proven anchor stored
  obtain rfl := Table.eq_of_column id_indexed inTable member (sameId.trans ofRequest)
  obtain ⟨witness, built, _, verified⟩ := WitnessService.verify_build holds
  exact ⟨anchor, stored, ofRequest, only, car, witness, present, built, verified, commit, prev, id,
    holds.present, holds.previous, parsedCid, idLink, parsedStream⟩

/-- The lone request is completed with its anchor. -/
theorem completed_anchored_lone :
    ∃ pool : Cas, Reaches (casSystem loneFormats fun _ => True) (Cas.start 0) pool ∧
    ∃ request ∈ pool.world.requests.rows, request.status = .COMPLETED ∧
    ∃ anchor ∈ pool.world.anchors.rows, Witnessed loneFormats pool.world request anchor := by
  obtain ⟨pool, run, _, request, rows, _, completed⟩ :=
    @lone_request_completed (fun _ => True) (fun _ _ => True) trivial trivial fun _ _ _ _ => trivial
  have member : request ∈ pool.world.requests.rows := by simp [rows]
  exact ⟨pool, .of_under run, request, member, completed,
    (completed_anchored (Reaches.of_under run) .refl).1 request member completed⟩

end Runs

end CeramicAnchor
