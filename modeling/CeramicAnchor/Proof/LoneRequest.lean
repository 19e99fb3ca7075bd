import CeramicAnchor.Proof.Moves

/-
This file follows a lone request from its POST to its claim and to its stored anchor.
-/

namespace CeramicAnchor
open Concurrency Storage RequestRepository

section Transactions

variable {snapshot : RequestTable}

/-- A single stream is chosen when one stream is enough. -/
theorem chooseStreams_single {maxStreamLimit minStreamLimit : Nat} (enough : minStreamLimit ≤ 1)
    (anchoringDeadline : Int) (request : Request) :
    chooseStreams maxStreamLimit minStreamLimit anchoringDeadline [request] = [request.streamId] := by
  have chosen : (if maxStreamLimit ≠ 0 then (groupByStream [request]).take maxStreamLimit
      else groupByStream [request]) = [(request.streamId, request.createdAt)] := by
    have groups : groupByStream [request] = [(request.streamId, request.createdAt)] := by
      simp [groupByStream, minCreatedAt]
    rw [groups]
    cases maxStreamLimit with
    | zero => rfl
    | succ limit => simp
  unfold chooseStreams
  simp only [chosen]
  rw [if_neg (by simp [enough])]
  rfl

/-- A transaction finds one request to anchor and marks it READY. -/
theorem evaluates_markReady_one {request : Request} {now : Int}
    (picked : snapshot.rows.filter (findRequestsToAnchor now) = [request]) {minStreamLimit : Nat}
    (enough : minStreamLimit ≤ 1) (maxStreamLimit : Nat) (anchoringDeadline began : Int) :
    Evaluates Request.id snapshot began (markReady maxStreamLimit minStreamLimit anchoringDeadline now)
      [request] ⟨[(request.id, (⟨none, some .READY, none⟩ : RequestUpdateFields).edit began)],
        [request, request], began⟩ := by
  let selected : RequestProgress := ⟨[], [request], began⟩
  let again : RequestProgress := ⟨[], [request, request], began⟩
  let edits := [(request.id, (⟨none, some .READY, none⟩ : RequestUpdateFields).edit began)]
  have inside : request ∈ snapshot.rows :=
    List.mem_of_mem_filter (picked ▸ List.mem_singleton_self request)
  have streams : ∃ trace, Path (snapshotSetting Request.id snapshot)
      (findStreamsToAnchor maxStreamLimit minStreamLimit anchoringDeadline now) (.fresh began) trace
      (.done (chooseStreams maxStreamLimit minStreamLimit anchoringDeadline [request])) selected := by
    refine ⟨_, .reply _ (Statement.select (findRequestsToAnchor now)) (.ok [request]) ⟨?_, rfl⟩ (.stop _ _)⟩
    simp [Progress.fresh, picked]
  rw [chooseStreams_single enough] at streams
  have requests : ∃ trace, Path (snapshotSetting Request.id snapshot)
      (findRequestsToAnchorForStreams [request.streamId] now) selected trace (.done [request]) again := by
    refine ⟨_, .reply _ (Statement.select _) (.ok [request]) ⟨?_, rfl⟩ (.stop _ _)⟩
    have both :
        snapshot.rows.filter (fun row => findRequestsToAnchor now row ∧ row.streamId ∈ [request.streamId]) =
        [request] := by
      have swapped :
          (snapshot.rows.filter fun row => findRequestsToAnchor now row ∧ row.streamId ∈ [request.streamId]) =
          (snapshot.rows.filter (findRequestsToAnchor now)).filter fun row =>
          row.streamId ∈ [request.streamId] := by
        rw [List.filter_filter]
        congr 1
        funext row
        simp [Bool.and_comm]
      rw [swapped, picked]
      simp
    rw [Table.publish_nil, both]
  have updated : ∃ trace, Path (snapshotSetting Request.id snapshot)
      (updateRequests ⟨none, some .READY, none⟩ [request]) again trace (.done 1)
      ⟨edits, [request, request], began⟩ := by
    refine ⟨_, .reply _ Statement.clock (.ok began) ⟨rfl, rfl⟩
      (.reply _ (Statement.update [request.id] _) (.ok (1 : Nat)) ⟨[request.id], ?_, rfl, rfl⟩ (.stop _ _))⟩
    have targets : (snapshot.targets Request.id ([request].map Request.id)).Perm ([request].map Request.id) :=
      Table.targets_perm id_indexed (List.nodup_singleton _) (List.forall_mem_singleton.mpr inside)
    rw [Table.publish_nil]
    exact targets.symm
  obtain ⟨first, streams⟩ := streams
  obtain ⟨second, requests⟩ := requests
  obtain ⟨third, updated⟩ := updated
  have finished : ∃ trace, Path (snapshotSetting Request.id snapshot) (updateAll .READY "READY" [request])
      again trace (.done [request]) ⟨edits, [request, request], began⟩ :=
    ⟨third ++ [], updated.bind (.stop _ _)⟩
  obtain ⟨fourth, finished⟩ := finished
  exact ⟨_, streams.bind (requests.bind finished)⟩

/-- A transaction finds a lone request to anchor and marks it READY. -/
theorem evaluates_markReady {request : Request} (single : snapshot.rows = [request]) {now : Int}
    (found : findRequestsToAnchor now request = true) {minStreamLimit : Nat} (enough : minStreamLimit ≤ 1)
    (maxStreamLimit : Nat) (anchoringDeadline began : Int) :
    Evaluates Request.id snapshot began (markReady maxStreamLimit minStreamLimit anchoringDeadline now)
      [request] ⟨[(request.id, (⟨none, some .READY, none⟩ : RequestUpdateFields).edit began)],
        [request, request], began⟩ :=
  evaluates_markReady_one (by simp [single, found]) enough maxStreamLimit anchoringDeadline began

/-- A transaction finds a lone accepted request and completes it. -/
theorem evaluates_persist {request accepted : Request} (single : snapshot.rows = [request])
    (same : accepted.id = request.id) (began : Int) :
    Evaluates Request.id snapshot began (persistRequests [accepted]) 1
      ⟨[(request.id, (⟨some "CID successfully anchored.", some .COMPLETED, some true⟩ :
        RequestUpdateFields).edit began)], [], began⟩ := by
  refine ⟨_, .reply _ Statement.clock (.ok began) ⟨rfl, rfl⟩
    (.reply _ (Statement.update [accepted.id] _) (.ok (1 : Nat)) ⟨[request.id], ?_, rfl, rfl⟩ (.stop _ _))⟩
  simp [Progress.fresh, Table.targets, single, same]

end Transactions

section Runs

/-- These formats know the identifiers of the runs below. -/
def loneFormats : Formats where
  parseCid text := some (.foreign text)
  parseStreamId _ := some (.foreign "bafkqaaa")
  ethereumTransactionCid text := .foreign ("tx " ++ text)

/-- A client posts a commit of one stream. -/
def post (cid : String) (timestamp : Int) : Task :=
  .createRequest ⟨false⟩ ⟨some "did:key:z6Mk", none, none, "10.0.0.1"⟩
  (.ok ⟨cid, "kfuxy3vd4lq8", some timestamp⟩)

/-- The worker claims every ready request, and it stores nothing in IPFS. -/
def loneWorker : AnchorService := ⟨0, 1, false, false, false, false, ⟨0, 0⟩⟩

def loneRequest (status : RequestStatus) (message : String) : Request :=
  ⟨"1", status, "bafkqaaa", "kfuxy3vd4lq8", message, true, 0, 0, 1, some "did:key:z6Mk"⟩

/-- The step makes only a pending request ready, claims only requests that became ready just now or this long
ago, and sets none back. -/
def Ordinary (wait : Int) (world : World) : Label WorldOp WorldOp.Reply Failure → Prop
  | .act _ (.updateRequests _ _ _) _ => False
  | .act _ (.claim ids) _ => ∀ row ∈ world.requests.rows, row.id ∈ ids → row.status = .READY ∧
      world.clock ≤ row.updatedAt + wait
  | .act _ (.commit .markAsProcessing) _ => False
  | .act _ (.commit _) _ => ∀ row ∈ world.requests.rows, row.status = .PENDING
  | _ => True

/-- The step rejects no operation. -/
def Resolved : Label WorldOp WorldOp.Reply Failure → Prop
  | .act _ _ reply => ∃ value, reply = .ok value
  | _ => True

/-- The worker sleeps after its batch. -/
def workerRest (batch : Code Unit) : Code (Option Response) :=
  let anchored : Code Unit := do
    batch
    Prog.call (WorldOp.sleep 5000)
  let worker : Code Bool := do
    anchored
    pure true
  worker >>= fun _processed => pure none

/-- The worker reports a batch whose results are stored, and its handler still covers the report. -/
def reportRest (acceptedRequests : List Request) : Code (Option Response) :=
  workerRest (tryCatch AnchorService.logAnchorSummary fun err => do
    loneWorker.giveBack acceptedRequests
    AnchorService.logAnchorSummary
    throw err)

variable {deployed : Task → Prop} {condition : World → Label WorldOp WorldOp.Reply Failure → Prop}

/-- A run goes on by starting a deployed task. -/
theorem starts {formats : Formats} {pool last : Cas} (thread : Nat) {task : Task} (allowed : deployed task)
    (free : pool.threads thread = none) (met : condition pool.world (.start thread))
    (rest : ReachesUnder (casSystem formats deployed) condition
      (pool.resume thread (task.run formats) pool.world) last) :
    ReachesUnder (casSystem formats deployed) condition pool last :=
  .start thread ⟨task, allowed, rfl⟩ free met rest

/-- A run goes on with an operation that resolves. -/
theorem resolves {formats : Formats} {pool last : Cas} (thread : Nat) (op : WorldOp) (value : op.Reply)
    {next : Except Failure op.Reply → Code (Option Response)} {world : World}
    (current : pool.threads thread = some (.ask op next))
    (performed : op.Resolves formats thread pool.world value world)
    (met : condition pool.world (.act thread op (.ok value)))
    (rest : ReachesUnder (casSystem formats deployed) condition
      (pool.resume thread (next (.ok value)) world) last) :
    ReachesUnder (casSystem formats deployed) condition pool last :=
  .act thread op (.ok value) current performed met rest

/-- A run goes on while time passes. -/
theorem waits {formats : Formats} {pool last : Cas} {time : Int} (later : pool.world.clock ≤ time)
    (met : condition pool.world .drift)
    (rest : ReachesUnder (casSystem formats deployed) condition
      ⟨{ pool.world with clock := time }, pool.threads⟩ last) :
    ReachesUnder (casSystem formats deployed) condition pool last :=
  .head ⟨.drift, .drift ⟨time, later, rfl⟩, met⟩ rest

/-- The request waits for a while after it has become ready. -/
theorem lone_request_claimed (posts : deployed (post "bafkqaaa" 1))
    (works : deployed (.anchorRequests loneWorker 1))
    {wait : Int} (met : ∀ world label, Resolved label → Ordinary wait world label → condition world label)
    (later : 0 ≤ wait) :
    ∃ pool : Cas, ReachesUnder (casSystem loneFormats deployed) condition (Cas.start 0) pool ∧
      pool.threads 1 = some (workerRest (loneWorker.anchorRequestsOf loneFormats 1
        [loneRequest .PROCESSING "Request is pending."])) ∧
      pool.threads 2 = none ∧
      pool.world.requests.rows = [loneRequest .PROCESSING "Request is pending."] ∧
      pool.world.anchors = .empty ∧ pool.world.ledger = [] ∧ pool.world.clock = wait ∧
      pool.world.history.creating = [] ∧
      pool.world.history.claimed "1" = some ⟨wait, .batchProcessing, 1⟩ := by
  have pending : ∀ row ∈ [loneRequest .PENDING "Request is pending."], row.status = .PENDING := by
    simp [loneRequest]
  have ready : ∀ row ∈ [loneRequest .READY "Request is pending."], row.id ∈ ["1"] →
      row.status = .READY ∧ wait ≤ row.updatedAt + wait := by
    simp [loneRequest]
  apply Exists.intro
  constructor
  · apply starts 0 posts rfl (met _ _ trivial trivial)
    apply resolves 0 (.insertRequest _) (some (loneRequest .PENDING "Request is pending.")) rfl
    · exact .inr ⟨"1", by rintro column _ old ⟨⟩, rfl, rfl⟩
    · exact met _ _ ⟨_, rfl⟩ trivial
    apply resolves 0 (.markReplaced _ _ _) (0 : Nat) rfl
    · exact ⟨[loneRequest .PENDING "Request is pending."], .refl _, List.pairwise_singleton _ _, rfl, rfl⟩
    · exact met _ _ ⟨_, rfl⟩ trivial
    apply resolves 0 (.presentBody _) () rfl
    · exact rfl
    · exact met _ _ ⟨_, rfl⟩ trivial
    apply starts 1 works rfl (met _ _ trivial trivial)
    apply resolves 1 (.countByStatus .READY) (0 : Nat) rfl
    · exact ⟨rfl, rfl⟩
    · exact met _ _ ⟨_, rfl⟩ trivial
    apply resolves 1 .now (0 : Int) rfl
    · exact ⟨rfl, rfl⟩
    · exact met _ _ ⟨_, rfl⟩ trivial
    apply resolves 1 .begin () rfl
    · exact rfl
    · exact met _ _ ⟨_, rfl⟩ trivial
    apply resolves 1 (.commit (.markReady _ _ _ _)) [loneRequest .PENDING "Request is pending."] rfl
    · refine ⟨_, ⟨_, _, rfl, evaluates_markReady rfl (by decide) (by decide) _ _ _, by decide, ?_, rfl⟩, rfl⟩
      exact fun _ _ => rfl
    · exact met _ _ ⟨_, rfl⟩ pending
    apply waits later (met _ _ trivial trivial)
    apply resolves 1 (.selectReady 0) ["1"] rfl
    · exact ⟨[loneRequest .READY "Request is pending."], .refl _, rfl, rfl⟩
    · exact met _ _ ⟨_, rfl⟩ trivial
    apply resolves 1 (.claim ["1"]) [loneRequest .PROCESSING "Request is pending."] rfl
    · exact ⟨_, rfl, .refl _, rfl⟩
    · exact met _ _ ⟨_, rfl⟩ ready
    exact .refl
  · exact ⟨rfl, rfl, rfl, rfl, rfl, rfl, rfl, rfl⟩

/-- The candidate of the lone request. -/
def loneCandidate : Candidate :=
  ⟨.foreign "bafkqaaa", loneRequest .PROCESSING "Request is pending.", .foreign "bafkqaaa", false⟩

/-- The root of a tree with one leaf. -/
def loneRoot : Ipld := .list (.ofList [.link (.foreign "bafkqaaa"), .null])

def loneTree : MerkleCAR := ⟨.record loneRoot, [loneCandidate], fun _ => [.L], ⟨[], [loneRoot]⟩⟩

/-- A tree over one candidate has it below its root. -/
theorem lone_treeFor {candidate : Candidate} (leaf : candidate.cid = .foreign "bafkqaaa") :
    MerkleCAR.TreeFor [candidate] ⟨.record loneRoot, [candidate], fun _ => [.L], ⟨[], [loneRoot]⟩⟩ := by
  refine ⟨.refl _, loneRoot, rfl, fun index other found => ?_⟩
  obtain rfl : other = candidate := List.mem_singleton.mp (List.mem_of_getElem? found)
  rw [leaf]
  exact .last rfl

theorem loneTree_treeFor : loneTree.TreeFor [loneCandidate] := lone_treeFor rfl

def loneTransaction : Transaction := ⟨"eip155:100", "0xbeef", 1, 1⟩

def loneProof : Ipld := anchorProof (.record loneRoot) "eip155:100" (.foreign "tx beef") false

def loneCommit : Ipld :=
  anchorCommit (.foreign "bafkqaaa") (.foreign "bafkqaaa") (.record loneProof) (PathLineCodec.text [.L])

def loneAnchor : FreshAnchor := ⟨"1", .record loneProof, PathLineCodec.text [.L], .record loneCommit⟩

def loneCar : Car := ⟨[], [loneRoot, loneProof, loneCommit]⟩

/-- The worker stores the results of the lone request when it has handed the witnesses over. -/
def storeRest (witnesses : Code Unit) : Code (Option Response) :=
  let batch : Code AnchorSummary := do
    witnesses
    let persistedAnchorsCount ← AnchorService.persistAnchorResult [loneAnchor] [loneCandidate] 1
    pure ⟨1, 0, 1, 1 - persistedAnchorsCount⟩
  workerRest (tryCatch (do
    let _results ← batch
    AnchorService.logAnchorSummary) fun err => do
      loneWorker.giveBack [loneRequest .PROCESSING "Request is pending."]
      AnchorService.logAnchorSummary
      throw err)

def loneWitness : Car := ⟨[.record loneCommit], [loneCommit, loneProof, loneRoot]⟩

theorem lone_witness : WitnessService.build loneAnchor.cid loneCar = .ok loneWitness := by
  decide +kernel

/-- The witness of the lone request is handed over, and nothing is to be done after it. -/
theorem lone_witnesses : AnchorService.storeWitnessCARs loneCar [loneAnchor] =
    (Prog.call (WorldOp.storeWitness loneAnchor.cid loneWitness)).attempt >>= fun _ => pure () := by
  simp only [AnchorService.storeWitnessCARs, AnchorService.buildWitnessCAR, lone_witness, pure_bind]

theorem lone_request_completed (posts : deployed (post "bafkqaaa" 1))
    (works : deployed (.anchorRequests loneWorker 1))
    (met : ∀ world label, Resolved label → Ordinary 0 world label → condition world label) :
    ∃ pool : Cas, ReachesUnder (casSystem loneFormats deployed) condition (Cas.start 0) pool ∧
      pool.threads 1 = some (reportRest [loneRequest .PROCESSING "Request is pending."]) ∧
      ∃ request, pool.world.requests.rows = [request] ∧ request.id = "1" ∧ request.status = .COMPLETED := by
  obtain ⟨⟨world, threads⟩, run, running, _, rows, anchors, ledger, clock, _, _⟩ :=
    lone_request_claimed posts works met (Int.le_refl 0)
  dsimp only at rows anchors ledger clock
  have unanchored : List.Perm ([] : List FreshAnchor) (world.anchors.rows.filter fun anchor =>
      anchor.requestId ∈ ["1"]) := by
    rw [anchors]
    exact .refl _
  have fresh : ∀ entry ∈ world.ledger, entry.2 ≠ Cid.foreign "tx beef" := by
    rw [ledger]
    rintro entry ⟨⟩
  have counted :
      ∀ anchor, 1 = (createAnchors world.anchors [anchor]).rows.length - world.anchors.rows.length := by
    intro anchor
    rw [anchors]
    rfl
  apply Exists.intro
  constructor
  · apply run.trans
    apply resolves 1 (.findAnchors _) [] running
    · exact ⟨unanchored, rfl⟩
    · exact met _ _ ⟨_, rfl⟩ trivial
    apply resolves 1 (.buildMerkleTree _) loneTree rfl
    · exact ⟨loneTree_treeFor, rfl⟩
    · exact met _ _ ⟨_, rfl⟩ trivial
    apply resolves 1 (.sendTransaction _) loneTransaction rfl
    · exact ⟨_, rfl, fresh, rfl⟩
    · exact met _ _ ⟨_, rfl⟩ trivial
    apply resolves 1 (.storeCarFile _ _) () rfl
    · exact rfl
    · exact met _ _ ⟨_, rfl⟩ trivial
    apply resolves 1 (.storeWitness loneAnchor.cid loneWitness) ()
    · exact congrArg (fun program => some (storeRest program)) lone_witnesses
    · exact rfl
    · exact met _ _ ⟨_, rfl⟩ trivial
    apply resolves 1 .begin () rfl
    · exact rfl
    · exact met _ _ ⟨_, rfl⟩ trivial
    apply resolves 1 (.persist _ _) (1 : Nat) rfl
    · refine ⟨_, _, ⟨_, _, rfl, evaluates_persist rows rfl _, Int.le_refl _, fun _ _ => rfl, rfl⟩, ?_, rfl⟩
      exact counted _
    · exact met _ _ ⟨_, rfl⟩ trivial
    exact .refl
  · refine ⟨rfl, ⟨"1", .COMPLETED, "bafkqaaa", "kfuxy3vd4lq8", "CID successfully anchored.", true, 0,
      world.clock, 1, some "did:key:z6Mk"⟩, ?_, rfl, rfl⟩
    exact (Table.publish_rows _ _ _).trans (congrArg (List.map _) rows)

end Runs

end CeramicAnchor
