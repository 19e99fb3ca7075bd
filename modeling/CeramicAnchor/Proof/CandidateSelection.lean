import CeramicAnchor.Proof.FailedBatch

/-
This file proves when the candidates of a batch are a selection of its requests.
-/

namespace CeramicAnchor
open Concurrency Storage Prog

namespace AnchorService

variable {formats : Formats} {thread : Nat} {requests : List Request} {candidateLimit : Nat}
    {anchors : AnchorTable}

section Selection

def Unanchored (anchors : AnchorTable) (request : Request) : Prop :=
  ∀ anchor ∈ anchors.rows, anchor.requestId ≠ request.id

instance (anchors : AnchorTable) (request : Request) : Decidable (Unanchored anchors request) :=
  inferInstanceAs (Decidable (∀ anchor ∈ anchors.rows, anchor.requestId ≠ request.id))

/-- The candidates are the earliest requests without an anchor, and each request is in exactly one group. -/
structure Selects (anchors : AnchorTable) (requests : List Request) (candidateLimit : Nat)
    (candidates : List Candidate) (groupedRequests : RequestGroups) : Prop where
  accepted : groupedRequests.acceptedRequests = candidates.map Candidate.request
  within : 0 < candidateLimit → candidates.length ≤ candidateLimit
  unanchored : ∀ candidate ∈ candidates, Unanchored anchors candidate.request
  first : ∃ ordered : List Request, ordered.Perm (requests.filter fun request => Unanchored anchors request) ∧
    ordered.Pairwise (fun early late => early.timestamp ≤ late.timestamp) ∧
    candidates.map Candidate.request = if 0 < candidateLimit then ordered.take candidateLimit else ordered
  partition : (groupedRequests.acceptedRequests ++ groupedRequests.alreadyAnchoredRequests ++
    groupedRequests.unprocessedRequests).Perm requests

/-- The requests fit into the batch, and none of them is anchored. -/
def AllSelected (anchors : AnchorTable) (requests : List Request) (candidateLimit : Nat) : Prop :=
  (candidateLimit = 0 ∨ requests.length ≤ candidateLimit) ∧ ∀ request ∈ requests, Unanchored anchors request

end Selection

section Loop

/-- The candidates are unmarked, and they come in the order of their timestamps. -/
structure Ordered (requests : List Request) (candidates : List Candidate) : Prop where
  requests : (candidates.map Candidate.request).Perm requests
  sorted : (candidates.map Candidate.request).Pairwise fun early late => early.timestamp ≤ late.timestamp
  unmarked : ∀ candidate ∈ candidates, candidate.shouldAnchor = true

theorem buildCandidate_unmarked (request : Request) :
    (buildCandidate formats request).Returns fun candidate =>
    candidate.shouldAnchor = true := by
  unfold buildCandidate
  split
  · trivial
  · split
    · trivial
    · split
      · trivial
      · exact rfl

theorem mapM_unmarked (requests : List Request) :
    (requests.mapM (buildCandidate formats)).Returns fun candidates =>
    ∀ candidate ∈ candidates, candidate.shouldAnchor = true := by
  induction requests with
  | nil => exact List.forall_mem_nil _
  | cons request rest ih =>
      rw [List.mapM_cons]
      refine returns_bind (buildCandidate_unmarked request) fun candidate first => ?_
      exact returns_bind ih fun candidates others => List.forall_mem_cons.mpr ⟨first, others⟩

theorem buildCandidates_ordered {candidates : List Candidate}
    (built : buildCandidates formats requests = .done candidates) : Ordered requests candidates := by
  have selected : (buildCandidates formats requests).Returns (Selected formats requests) :=
    buildCandidates_returns requests
  have unmarked : (buildCandidates formats requests).Returns fun candidates =>
      (candidates.map Candidate.request).Pairwise (fun early late => early.timestamp ≤ late.timestamp) ∧
        ∀ candidate ∈ candidates, candidate.shouldAnchor = true := by
    refine returns_bind (mapM_unmarked requests) fun found unmarked => ⟨?_, fun candidate member => ?_⟩
    · rw [List.pairwise_map]
      exact RequestRepository.pairwise_sorted (fun candidate : Candidate => candidate.request.timestamp) found
    · exact unmarked candidate ((List.perm_insertionSort _ found).mem_iff.mp member)
  rw [built] at selected unmarked
  exact ⟨selected.requests, unmarked.1, unmarked.2⟩

/-- The loop leaves the request of each candidate alone. -/
theorem markCandidates_requests (anchorCommits : List FreshAnchor) (limit : Nat) (candidates : List Candidate)
    (numSelectedCandidates : Nat) :
    (markCandidates anchorCommits limit candidates numSelectedCandidates).1.map Candidate.request =
      candidates.map Candidate.request := by
  have marked := markCandidates_marked anchorCommits limit candidates numSelectedCandidates
  generalize (markCandidates anchorCommits limit candidates numSelectedCandidates).1 = result at marked ⊢
  induction marked with
  | nil => rfl
  | cons mark _ ih =>
      rw [List.map_cons, List.map_cons, ih]
      rcases mark with rfl | rfl <;> rfl

/-- The loop selects all candidates when they fit and have no anchor. -/
theorem markCandidates_all {anchorCommits : List FreshAnchor} {limit : Nat} {candidates : List Candidate}
    (unmarked : ∀ candidate ∈ candidates, candidate.shouldAnchor = true)
    (absent : ∀ candidate ∈ candidates, ∀ anchor ∈ anchorCommits, anchor.requestId ≠ candidate.request.id)
    {numSelectedCandidates : Nat} (fits : numSelectedCandidates + candidates.length ≤ limit) :
    markCandidates anchorCommits limit candidates numSelectedCandidates = (candidates, [], []) := by
  induction candidates generalizing numSelectedCandidates with
  | nil => rfl
  | cons candidate rest ih =>
      rw [List.forall_mem_cons] at unmarked absent
      rw [List.length_cons] at fits
      have none_ : ¬ ((candidate.shouldAnchor = true) ∧
          ∃ anchor ∈ anchorCommits, anchor.requestId = candidate.request.id) := by
        rintro ⟨_, anchor, member, same⟩
        exact absent.1 anchor member same
      unfold markCandidates
      rw [if_neg (by omega)]
      dsimp only
      rw [if_neg none_, if_pos unmarked.1, ih unmarked.2 absent.2 (by omega)]

end Loop

section Judgement

variable {built candidates : List Candidate} {groupedRequests : RequestGroups} {found : List FreshAnchor}

/-- The groups that the loop makes of the built candidates, with all of them accepted. -/
def grouped (found : List FreshAnchor) (candidateLimit : Nat) (built : List Candidate) :
    List Candidate × RequestGroups :=
  let limit := if candidateLimit = 0 ∨ built.length < candidateLimit then built.length else candidateLimit
  let (marked, anchored, unprocessed) := markCandidates found limit built 0
  (marked, ⟨anchored, [], unprocessed, marked.map Candidate.request⟩)

/-- All requests become candidates, whatever the limit and the anchors are. -/
theorem grouped_requests (found : List FreshAnchor) (candidateLimit : Nat) (built : List Candidate) :
    (grouped found candidateLimit built).1.map Candidate.request = built.map Candidate.request :=
  markCandidates_requests _ _ _ _

/-- The candidates are a selection exactly when nothing had to be left out. -/
theorem grouped_selects_iff (ordered : Ordered requests built)
    (reads : found.Perm (anchors.rows.filter fun anchor =>
      anchor.requestId ∈ built.map fun candidate => candidate.request.id)) :
    Selects anchors requests candidateLimit (grouped found candidateLimit built).1
      (grouped found candidateLimit built).2 ↔ AllSelected anchors requests candidateLimit := by
  have same := grouped_requests found candidateLimit built
  have count : (grouped found candidateLimit built).1.length = requests.length := by
    rw [← ordered.requests.length_eq, ← same, List.length_map]
  constructor
  · intro selects
    constructor
    · rcases Nat.eq_zero_or_pos candidateLimit with unlimited | limited
      · exact .inl unlimited
      · exact .inr (count ▸ selects.within limited)
    · intro request member
      rw [← ordered.requests.mem_iff, ← same] at member
      obtain ⟨candidate, inside, rfl⟩ := List.mem_map.mp member
      exact selects.unanchored candidate inside
  · rintro ⟨fits, unanchored⟩
    have length : built.length = requests.length := by
      rw [← ordered.requests.length_eq, List.length_map]
    have clear : ∀ candidate ∈ built, Unanchored anchors candidate.request := fun candidate member =>
      unanchored _ (ordered.requests.mem_iff.mp (List.mem_map_of_mem member))
    have absent : ∀ candidate ∈ built, ∀ anchor ∈ found, anchor.requestId ≠ candidate.request.id :=
      fun candidate member anchor inside =>
        clear candidate member anchor (List.mem_filter.mp (reads.mem_iff.mp inside)).1
    have all : grouped found candidateLimit built = (built, ⟨[], [], [], built.map Candidate.request⟩) := by
      unfold grouped
      dsimp only
      rw [markCandidates_all ordered.unmarked absent (by split <;> omega)]
    rw [all]
    refine ⟨rfl, fun limited => ?_, clear, ⟨built.map Candidate.request, ?_, ordered.sorted, ?_⟩, ?_⟩
    · change built.length ≤ candidateLimit
      omega
    · rw [List.filter_eq_self.mpr fun request member => decide_eq_true (unanchored request member)]
      exact ordered.requests
    · split
      · rw [List.take_of_length_le (by rw [List.length_map]; omega)]
      · rfl
    · simpa using ordered.requests

/-- A batch that finds its candidates has read the anchors once. -/
theorem findCandidates_path {start last : World} {trace : List Happening}
    (path : Path (worker formats thread) (findCandidates formats requests candidateLimit) start trace
      (.done (candidates, groupedRequests)) last) :
    ∃ (built : List Candidate) (before after : World) (found : List FreshAnchor), Ordered requests built ∧
      trace = [⟨.findAnchors (built.map fun candidate => candidate.request.id), before, .ok found, after⟩] ∧
      found.Perm (before.anchors.rows.filter fun anchor =>
        anchor.requestId ∈ built.map fun candidate => candidate.request.id) ∧
      (candidates, groupedRequests) = grouped found candidateLimit built := by
  unfold findCandidates at path
  rcases buildCandidates_cases requests with ⟨_, built, done⟩ | ⟨_, error, failed⟩
  · rw [done, done_bind] at path
    cases path with
    | @perform _ _ reply _ before after _ _ _ others performed rest =>
        cases reply with
        | ok found =>
            cases rest
            exact ⟨built, before, _, found, buildCandidates_ordered done, rfl, performed.1, rfl⟩
        | error error => cases rest
  · rw [failed] at path
    cases path

/-- The candidates are the selection that the limit and the anchors ask for exactly when the requests
fit into the batch and none of them is anchored. -/
theorem findCandidates_selects_iff {start last before after : World} {trace : List Happening}
    {ids : List String}
    (path : Path (worker formats thread) (findCandidates formats requests candidateLimit) start trace
      (.done (candidates, groupedRequests)) last)
    (read : (⟨.findAnchors ids, before, .ok found, after⟩ : Happening) ∈ trace) :
    Selects before.anchors requests candidateLimit candidates groupedRequests ↔
      AllSelected before.anchors requests candidateLimit := by
  obtain ⟨built, current, next, anchors, ordered, rfl, reads, result⟩ := findCandidates_path path
  have same : before = current := congrArg Event.before (List.mem_singleton.mp read)
  subst same
  have selects : Selects before.anchors requests candidateLimit (grouped anchors candidateLimit built).1
      (grouped anchors candidateLimit built).2 ↔ AllSelected before.anchors requests candidateLimit :=
    grouped_selects_iff ordered reads
  rwa [← result] at selects

end Judgement

section Runs

/-- Two requests of a queued batch. -/
def pairRequests : List Request :=
  [loneRequest .PROCESSING "", { loneRequest .PROCESSING "" with id := "2", cid := "bafkqaalb" }]

def pairCandidates : List Candidate := pairRequests.map fun request =>
  ⟨.foreign "bafkqaaa", request, .foreign request.cid, false⟩

/-- The requests become candidates, and the database has no anchor of them. -/
theorem pair_path (candidateLimit : Nat) : Path (worker loneFormats 1)
    (findCandidates loneFormats pairRequests candidateLimit) (World.empty 0)
      [⟨.findAnchors ["1", "2"], World.empty 0, .ok [], World.empty 0⟩]
      (.done (grouped [] candidateLimit pairCandidates)) (World.empty 0) := by
  apply Path.reply (worker loneFormats 1) (WorldOp.findAnchors ["1", "2"]) (.ok [])
  · exact ⟨.refl _, rfl⟩
  exact .stop _ _

theorem findCandidates_selects_pair : Selects .empty pairRequests 2 (grouped [] 2 pairCandidates).1
    (grouped [] 2 pairCandidates).2 :=
  (findCandidates_selects_iff (pair_path 2) (.head _)).mpr
    ⟨.inr (Nat.le_refl 2), fun _ _ anchor member => by cases member⟩

/-- A batch with one request too many takes all of its requests. -/
theorem findCandidates_exceeds_limit : ¬ ∀ (formats : Formats) (thread : Nat) (requests : List Request)
    (candidateLimit : Nat) (start last before after : World) (ids : List String) (found : List FreshAnchor)
    (candidates : List Candidate) (groupedRequests : RequestGroups), (requests.map Request.id).Nodup →
      Path (worker formats thread) (findCandidates formats requests candidateLimit) start
        [⟨.findAnchors ids, before, .ok found, after⟩] (.done (candidates, groupedRequests)) last →
      Selects before.anchors requests candidateLimit candidates groupedRequests := by
  intro selects
  have selected := selects _ _ _ _ _ _ _ _ _ _ _ _ (by decide) (pair_path 1)
  exact absurd (selected.within Nat.one_pos) (by decide)

end Runs

end AnchorService

end CeramicAnchor
