import CeramicAnchor.Proof.Confinement
import CeramicAnchor.Proof.Witness

/-
This file gives the stages of a batch and the content that a batch persists.
-/

namespace CeramicAnchor
open Concurrency Storage Prog

section Content

variable {formats : Formats}

/-- The candidate has the parsed identifiers of its request. -/
structure Candidate.Built (formats : Formats) (candidate : Candidate) : Prop where
  streamId : formats.parseStreamId candidate.request.streamId = some candidate.streamId
  cid : formats.parseCid candidate.request.cid = some candidate.cid

/-- The batch has one candidate for each accepted request. -/
structure Selected (formats : Formats) (accepted : List Request) (candidates : List Candidate) : Prop where
  requests : (candidates.map Candidate.request).Perm accepted
  built : ∀ candidate ∈ candidates, candidate.Built formats

theorem buildCandidate_returns (request : Request) :
    (AnchorService.buildCandidate formats request).Returns fun candidate =>
      candidate.request = request ∧ candidate.Built formats := by
  unfold AnchorService.buildCandidate
  split
  · trivial
  · rename_i streamId parsedStream
    split
    · trivial
    · split
      · trivial
      · rename_i cid parsedCid
        exact ⟨rfl, parsedStream, parsedCid⟩

theorem buildCandidates_returns (requests : List Request) :
    (AnchorService.buildCandidates formats requests).Returns (Selected formats requests) := by
  have all : (requests.mapM (AnchorService.buildCandidate formats)).Returns fun candidates =>
      candidates.map Candidate.request = requests ∧ ∀ candidate ∈ candidates, candidate.Built formats := by
    induction requests with
    | nil => exact ⟨rfl, by simp⟩
    | cons request rest ih =>
        rw [List.mapM_cons]
        refine returns_bind (buildCandidate_returns request) fun candidate first => ?_
        refine returns_bind ih fun candidates others => ?_
        constructor
        · rw [List.map_cons, first.1, others.1]
        · intro other member
          rcases List.mem_cons.mp member with rfl | member
          · exact first.2
          · exact others.2 other member
  refine returns_bind all fun candidates found => ?_
  have sorted : (AnchorService.sortByTimestamp candidates).Perm candidates :=
    List.perm_insertionSort _ candidates
  constructor
  · rw [← found.1]
    exact sorted.map Candidate.request
  · intro candidate member
    exact found.2 candidate (sorted.mem_iff.mp member)

/-- A marked candidate is as before, or it counts as anchored. -/
def Candidate.Marked (marked candidate : Candidate) : Prop :=
  marked = candidate ∨ marked = candidate.markAsAnchored

theorem markCandidates_marked (anchorCommits : List FreshAnchor) (candidateLimit : Nat)
    (candidates : List Candidate) (numSelectedCandidates : Nat) :
    List.Forall₂ Candidate.Marked
      (AnchorService.markCandidates anchorCommits candidateLimit candidates numSelectedCandidates).1
      candidates := by
  induction candidates generalizing numSelectedCandidates with
  | nil => exact .nil
  | cons candidate rest ih =>
      unfold AnchorService.markCandidates
      by_cases full : candidateLimit ≤ numSelectedCandidates
      · rw [if_pos full]
        exact .cons (.inl rfl) (ih numSelectedCandidates)
      · rw [if_neg full]
        dsimp only
        split
        · split <;> exact .cons (.inr rfl) (ih _)
        · split <;> exact .cons (.inl rfl) (ih _)

/-- The marks change no request and no identifier. -/
theorem Selected.of_marked {requests : List Request} {marked candidates : List Candidate}
    (selected : Selected formats requests candidates)
    (same : List.Forall₂ Candidate.Marked marked candidates) :
    Selected formats requests marked := by
  have unchanged : marked.map Candidate.request = candidates.map Candidate.request ∧
      ((∀ candidate ∈ candidates, candidate.Built formats) → ∀ candidate ∈ marked,
        candidate.Built formats) := by
    clear selected
    induction same with
    | nil => exact ⟨rfl, fun _ _ member => by cases member⟩
    | @cons first candidate rest others mark _ ih =>
        have firstRequest : first.request = candidate.request := by
          rcases mark with rfl | rfl <;> rfl
        have firstBuilt : candidate.Built formats → first.Built formats := by
          intro built
          rcases mark with rfl | rfl
          · exact built
          · exact ⟨built.streamId, built.cid⟩
        constructor
        · rw [List.map_cons, List.map_cons, firstRequest, ih.1]
        · intro all other member
          rcases List.mem_cons.mp member with rfl | member
          · exact firstBuilt (all candidate List.mem_cons_self)
          · exact ih.2 (fun inside below => all inside (List.mem_cons_of_mem _ below)) other member
  refine ⟨?_, unchanged.2 selected.built⟩
  rw [unchanged.1]
  exact selected.requests

theorem findCandidates_returns (requests : List Request) (candidateLimit : Nat) :
    (AnchorService.findCandidates formats requests candidateLimit).Returns fun found =>
      Selected formats requests found.1 := by
  refine returns_bind (buildCandidates_returns requests) fun built selected => ?_
  have loaded : (AnchorService.loadCandidateStreams built candidateLimit).Returns fun found =>
      Selected formats requests found.1 :=
    returns_bind (returns_trivial _) fun anchorCommits _ =>
      selected.of_marked (markCandidates_marked anchorCommits _ built 0)
  exact returns_bind loaded fun found selected => selected

/-- The commit of one leaf. -/
def leafCommit (proofCid : Cid) (tree : MerkleCAR) (leaf : Candidate × Nat) : Ipld :=
  anchorCommit leaf.1.streamId leaf.1.cid proofCid (PathLineCodec.text (tree.getDirectPathFromRoot leaf.2))

def leafAnchor (proofCid : Cid) (tree : MerkleCAR) (leaf : Candidate × Nat) : FreshAnchor :=
  ⟨leaf.1.request.id, proofCid, PathLineCodec.text (tree.getDirectPathFromRoot leaf.2),
    .record (leafCommit proofCid tree leaf)⟩

/-- The loop returns the anchor of each leaf, and the CAR has the commits. -/
theorem createAnchorCommits_returns (service : AnchorService) (proofCid : Cid) (tree : MerkleCAR)
    (leaves : List (Candidate × Nat)) (car : Car) :
    (service.createAnchorCommits proofCid tree leaves car).Returns fun stored =>
      stored.1 = leaves.map (leafAnchor proofCid tree) ∧ (∀ block ∈ car.blocks, block ∈ stored.2.blocks) ∧
        ∀ leaf ∈ leaves, leafCommit proofCid tree leaf ∈ stored.2.blocks := by
  induction leaves generalizing car with
  | nil => exact ⟨rfl, fun _ member => member, fun _ member => by cases member⟩
  | cons leaf rest ih =>
      let added := car.putBlock (leafCommit proofCid tree leaf)
      have first : (service.createAnchorCommit car leaf.1 leaf.2 proofCid tree).Returns fun stored =>
          stored = (leafAnchor proofCid tree leaf, added) :=
        returns_bind (returns_trivial _) fun _ _ => rfl
      refine returns_bind first fun stored same => ?_
      obtain rfl := same
      refine returns_bind (ih added) fun later found => ?_
      obtain ⟨anchors, grows, commits⟩ := found
      refine ⟨by rw [List.map_cons, ← anchors], fun block member => ?_, fun other member => ?_⟩
      · exact grows block (Car.mem_putBlock.mpr (.inl member))
      · rcases List.mem_cons.mp member with rfl | member
        · exact grows _ (Car.mem_putBlock.mpr (.inr rfl))
        · exact commits other member

/-- The CAR proves that the anchor commits the request of its stream. -/
def FreshAnchor.Proves (formats : Formats) (anchor : FreshAnchor) (request : Request) (car : Car) : Prop :=
  ∃ prev id commit, formats.parseCid request.cid = some prev ∧
    formats.parseStreamId request.streamId = some id ∧ commit.property "id" = some (.link id) ∧
    WitnessService.Holds car anchor.cid commit prev

/-- The anchors cover the accepted requests, and the CAR proves each of them. -/
structure Complete (formats : Formats) (accepted : List Request) (proofCid : Cid) (car : Car)
    (anchors : List FreshAnchor) : Prop where
  covers : ∀ request ∈ accepted, ∃ anchor ∈ anchors, anchor.requestId = request.id
  sound : ∀ anchor ∈ anchors, anchor.proofCid = proofCid ∧
    ∃ request ∈ accepted, anchor.requestId = request.id ∧ anchor.Proves formats request car

/-- The leaves of a tree for the selected candidates make a complete batch. -/
theorem Complete.of_tree {accepted : List Request} {candidates : List Candidate} {tree : MerkleCAR}
    (selected : Selected formats accepted candidates) (treeFor : tree.TreeFor candidates) {proof : Ipld}
    (rootLink : proof.property "root" = some (.link tree.root)) {car : Car}
    (grows : ∀ block ∈ (tree.car.putBlock proof).blocks, block ∈ car.blocks)
    (commits : ∀ leaf ∈ tree.leafNodes.zipIdx, leafCommit (.record proof) tree leaf ∈ car.blocks) :
    Complete formats accepted (.record proof) car
      (tree.leafNodes.zipIdx.map (leafAnchor (.record proof) tree)) where
  covers request member := by
    obtain ⟨candidate, inside, rfl⟩ := List.mem_map.mp (selected.requests.mem_iff.mpr member)
    obtain ⟨index, bound, same⟩ := List.mem_iff_getElem.mp (treeFor.leaves.mem_iff.mpr inside)
    have leaf : (candidate, index) ∈ tree.leafNodes.zipIdx := by
      rw [List.mem_zipIdx_iff_getElem?, List.getElem?_eq_getElem bound, same]
    exact ⟨_, List.mem_map.mpr ⟨_, leaf, rfl⟩, rfl⟩
  sound anchor member := by
    obtain ⟨⟨candidate, index⟩, leaf, rfl⟩ := List.mem_map.mp member
    have found : tree.leafNodes[index]? = some candidate := List.mem_zipIdx_iff_getElem?.mp leaf
    have inside : candidate ∈ candidates := treeFor.leaves.mem_iff.mp (List.mem_of_getElem? found)
    have accepts : candidate.request ∈ accepted :=
      selected.requests.mem_iff.mp (List.mem_map.mpr ⟨candidate, inside, rfl⟩)
    have built := selected.built candidate inside
    obtain ⟨record, rootThere, walks⟩ := treeFor.paths
    have larger : ∀ block ∈ tree.car.blocks, block ∈ car.blocks := fun block old =>
      grows block (Car.mem_putBlock.mpr (.inl old))
    have proofThere : car.get (.record proof) = some proof :=
      Car.get_eq_some.mpr ⟨grows proof (Car.mem_putBlock.mpr (.inr rfl)), rfl⟩
    refine ⟨rfl, candidate.request, accepts, rfl, candidate.cid, candidate.streamId,
      leafCommit (.record proof) tree (candidate, index), built.cid, built.streamId, rfl, ?_, rfl, ?_⟩
    · exact Car.get_eq_some.mpr ⟨commits _ leaf, rfl⟩
    · have walk := (walks index candidate found).mono larger
      exact ⟨.record proof, proof, tree.root, record, _, tree.getDirectPathFromRoot index, rfl,
        proofThere, rootLink, get_mono larger rootThere, rfl, PathLineCodec.decode_text walk.nonempty, walk⟩

end Content

/-- A batch goes through these stages. -/
inductive Stage where
  | started
  | submitted (txHash : Cid)
  | stored (proofCid : Cid) (car : Car)
  | opened (proofCid : Cid) (car : Car)
  | persisted (anchors : List FreshAnchor)
  | failed

/-- The proof CID of a transaction is that of its proof record. -/
def IsProofCid (txHash proofCid : Cid) : Prop :=
  ∃ root chainId useSmartContractAnchors,
    proofCid = .record (anchorProof root chainId txHash useSmartContractAnchors)

def Formats.hashCid (formats : Formats) (tx : Transaction) : Cid :=
  formats.ethereumTransactionCid (tx.txHash.drop 2).toString

/-- An outline gives a condition for each stage, and it says how each operation of a batch moves between
them. -/
structure Outline {State : Type} (setting : Setting WorldOp WorldOp.Reply Failure State)
    (guarantee : Guarantee WorldOp WorldOp.Reply Failure State) (formats : Formats)
    (accepted : List Request) where
  holds : Stage → State → Prop
  stable : ∀ {stage first second}, setting.rely first second → holds stage first → holds stage second
  fails : ∀ {stage state}, holds stage state → holds .failed state
  quiet : ∀ {stage op before reply after}, op.Quiet → setting.perform op before reply after →
    holds stage before → guarantee op before reply after ∧ holds stage after
  builds : ∀ {candidates before reply after}, Selected formats accepted candidates →
    setting.perform (.buildMerkleTree candidates) before reply after → holds .started before →
    guarantee (.buildMerkleTree candidates) before reply after ∧ holds .started after ∧
      ∀ tree, reply = .ok tree → tree.TreeFor candidates
  submits : ∀ {root before reply after}, setting.perform (.sendTransaction root) before reply after →
    holds .started before → guarantee (.sendTransaction root) before reply after ∧ match reply with
      | .ok tx => holds (.submitted (formats.hashCid tx)) after
      | .error _ => holds .failed after
  stores : ∀ {txHash proofCid car before reply after}, IsProofCid txHash proofCid →
    setting.perform (.storeCarFile proofCid car) before reply after → holds (.submitted txHash) before →
    guarantee (.storeCarFile proofCid car) before reply after ∧ match reply with
      | .ok _ => holds (.stored proofCid car) after
      | .error _ => holds .failed after
  begins : ∀ {proofCid car before reply after}, setting.perform .begin before reply after →
    holds (.stored proofCid car) before → guarantee .begin before reply after ∧
      holds (.stored proofCid car) after ∧ (reply = .ok () → holds (.opened proofCid car) after)
  persists : ∀ {proofCid car anchors acceptedRequests before reply after},
    Complete formats accepted proofCid car anchors → acceptedRequests.Perm accepted →
    setting.perform (.persist anchors acceptedRequests) before reply after →
    holds (.opened proofCid car) before → guarantee (.persist anchors acceptedRequests) before reply after ∧
      holds (.stored proofCid car) after ∧ ∀ count, reply = .ok count → holds (.persisted anchors) after

namespace Outline

variable {State : Type} {setting : Setting WorldOp WorldOp.Reply Failure State}
  {guarantee : Guarantee WorldOp WorldOp.Reply Failure State} {formats : Formats} {accepted : List Request}
  (outline : Outline setting guarantee formats accepted) {state : State}

/-- A quiet program stays in its stage. -/
theorem quiet_sat {A : Type} {stage : Stage} {program : Code A} (quiet : program.Confined WorldOp.Quiet)
    (held : outline.holds stage state) :
    Sat setting guarantee (fun _ => outline.holds stage) (fun _ => outline.holds .failed) program state := by
  have kept :
      Sat setting guarantee (fun _ => outline.holds stage) (fun _ => outline.holds stage) program state :=
    sat_keeps _ quiet outline.stable
      (fun op inside before reply after performed held => outline.quiet inside performed held) held
  exact sat_results kept (fun _ _ held => held) fun _ _ held => outline.fails held

/-- The stored results are retried until they are committed. -/
theorem persistAnchorResult_sat {proofCid : Cid} {car : Car} {anchors : List FreshAnchor}
    {candidates : List Candidate} (complete : Complete formats accepted proofCid car anchors)
    (same : (candidates.map Candidate.request).Perm accepted) (fuel : Nat)
    (held : outline.holds (.stored proofCid car) state) :
    Sat setting guarantee (fun _ => outline.holds (.persisted anchors)) (fun _ => outline.holds .failed)
      (AnchorService.persistAnchorResult anchors candidates fuel) state := by
  induction fuel generalizing state with
  | zero => trivial
  | succ fuel ih =>
      refine sat_handle (fun _ => outline.holds (.stored proofCid car)) ?_ ?_
      · refine sat_bind (fun _ => outline.holds (.opened proofCid car)) ?_ fun _ begun open_ => ?_
        · refine sat_call WorldOp.begin ?_ ?_
          · intro before others _ after performed
            obtain ⟨met, _, opened⟩ := outline.begins performed (outline.stable others held)
            exact ⟨met, opened rfl⟩
          · intro before others error after performed
            obtain ⟨met, kept, _⟩ := outline.begins performed (outline.stable others held)
            exact ⟨met, kept⟩
        · refine sat_call (WorldOp.persist anchors _) ?_ ?_
          · intro before others count after performed
            obtain ⟨met, _, done⟩ := outline.persists complete same performed (outline.stable others open_)
            exact ⟨met, done count rfl⟩
          · intro before others error after performed
            obtain ⟨met, kept, _⟩ := outline.persists complete same performed (outline.stable others open_)
            exact ⟨met, kept⟩
      · intro error reached kept
        cases error with
        | serialization =>
            refine sat_bind _ (outline.quiet_sat (confined_call (WorldOp.sleep 100) trivial) kept) ?_
            exact fun _ _ again => ih again
        | rejected message => exact outline.fails kept
        | thrown message => exact outline.fails kept

/-- A batch that returns has persisted a complete set of anchors. -/
theorem anchorCandidates_sat {service : AnchorService} {candidates : List Candidate}
    (selected : Selected formats accepted candidates) (fuel : Nat) (held : outline.holds .started state) :
    Sat setting guarantee
      (fun _ reached => ∃ proofCid car anchors, Complete formats accepted proofCid car anchors ∧
        outline.holds (.persisted anchors) reached)
      (fun _ => outline.holds .failed) (service.anchorCandidates formats fuel candidates) state := by
  refine sat_bind (fun tree reached => tree.TreeFor candidates ∧ outline.holds .started reached) ?_ ?_
  · refine sat_handle (fun _ => outline.holds .started)
      (sat_call (WorldOp.buildMerkleTree candidates) ?_ ?_) ?_
    · intro before others tree after performed
      obtain ⟨met, kept, treeFor⟩ := outline.builds selected performed (outline.stable others held)
      exact ⟨met, treeFor tree rfl, kept⟩
    · intro before others error after performed
      obtain ⟨met, kept, _⟩ := outline.builds selected performed (outline.stable others held)
      exact ⟨met, kept⟩
    · exact fun _ _ kept => outline.fails kept
  rintro tree planted ⟨treeFor, started⟩
  refine sat_bind (fun tx => outline.holds (.submitted (formats.hashCid tx))) ?_ ?_
  · refine sat_call (WorldOp.sendTransaction tree.root) ?_ ?_
    · intro before others tx after performed
      exact outline.submits performed (outline.stable others started)
    · intro before others error after performed
      exact outline.submits performed (outline.stable others started)
  intro tx sent submitted
  let proof := anchorProof tree.root tx.chain (formats.hashCid tx) service.useSmartContractAnchors
  have committed := createAnchorCommits_returns service (.record proof) tree tree.leafNodes.zipIdx
    (tree.car.putBlock proof)
  refine sat_bind _ (sat_returns (outline.quiet_sat (service.createAnchorCommits_quiet _ _ _ _) submitted)
    committed) ?_
  rintro ⟨anchors, car⟩ written ⟨stillSubmitted, sameAnchors, grows, commits⟩
  have complete : Complete formats accepted (.record proof) car anchors := by
    rw [show anchors = _ from sameAnchors]
    exact .of_tree selected treeFor rfl grows commits
  refine sat_bind _ (outline.quiet_sat (service.importCAR_quiet car) stillSubmitted)
    fun _ imported ready => ?_
  refine sat_bind (fun _ => outline.holds (.stored (.record proof) car)) ?_ fun _ kept stored => ?_
  · refine sat_call (WorldOp.storeCarFile (.record proof) car) ?_ ?_
    · intro before others _ after performed
      exact outline.stores ⟨_, _, _, rfl⟩ performed (outline.stable others ready)
    · intro before others error after performed
      exact outline.stores ⟨_, _, _, rfl⟩ performed (outline.stable others ready)
  refine sat_bind _ (outline.quiet_sat (AnchorService.storeWitnessCARs_quiet car anchors) stored) ?_
  intro _ witnessed still
  refine sat_bind _ (outline.persistAnchorResult_sat complete selected.requests fuel still) ?_
  exact fun _ _ persisted => ⟨_, car, anchors, complete, persisted⟩

/-- A batch that returns was empty, or it has persisted a complete set of anchors. -/
theorem anchorRequestsOf_sat {service : AnchorService} (fuel : Nat) (requests : List Request)
    (reverts : ∀ op, op.GivesBack → ∀ before reply after, setting.perform op before reply after →
      outline.holds .failed before → guarantee op before reply after ∧ outline.holds .failed after)
    (filtered : accepted = requests.filter fun request => request.status ≠ .REPLACED)
    (held : outline.holds .started state) :
    Sat setting guarantee
      (fun _ reached => (accepted = [] ∧ outline.holds .started reached) ∨
        ∃ proofCid car anchors, Complete formats accepted proofCid car anchors ∧
          outline.holds (.persisted anchors) reached)
      (fun _ => outline.holds .failed) (service.anchorRequestsOf formats fuel requests) state := by
  have summary : ∀ {stage : Stage} {reached : State}, outline.holds stage reached →
      Sat setting guarantee (fun _ => outline.holds stage) (fun _ => outline.holds .failed)
        AnchorService.logAnchorSummary reached :=
    fun kept => outline.quiet_sat AnchorService.logAnchorSummary_quiet kept
  unfold AnchorService.anchorRequestsOf
  dsimp only
  rw [← filtered]
  split
  · rename_i empty
    exact .inl ⟨List.length_eq_zero_iff.mp empty, held⟩
  · rename_i nonempty
    refine sat_bind _ (sat_returns (outline.quiet_sat (AnchorService.findCandidates_quiet formats _ _) held)
      (findCandidates_returns _ _)) ?_
    rintro ⟨candidates, groupedRequests⟩ found ⟨started, selected⟩
    dsimp only at selected
    have some_ : candidates.length ≠ 0 := by
      have same := selected.requests.length_eq
      rw [List.length_map] at same
      rw [same]
      exact nonempty
    dsimp only
    rw [if_neg some_]
    refine sat_handle (fun _ => outline.holds .failed) ?_ ?_
    · refine sat_bind _ (outline.anchorCandidates_sat selected fuel started) ?_
      rintro _ reached ⟨proofCid, car, anchors, complete, persisted⟩
      exact sat_results (summary persisted)
        (fun _ _ still => .inr ⟨proofCid, car, anchors, complete, still⟩) fun _ _ failed => failed
    · intro error reached failed
      refine sat_bind _ (sat_keeps _ (service.giveBack_givesBack _) outline.stable reverts failed) ?_
      intro _ back stillFailed
      exact sat_bind _ (summary stillFailed) fun _ _ last => last

end Outline

end CeramicAnchor
