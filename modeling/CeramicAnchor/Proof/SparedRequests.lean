import CeramicAnchor.Concurrency.TotalCorrectness
import CeramicAnchor.Proof.Completion
import CeramicAnchor.Proof.FailedBatch

/-
This file derives from the events of a run that it spares its completed requests.
-/

namespace CeramicAnchor
open Concurrency Storage Prog

section Completing

variable {formats : Formats} {thread : Nat} {op : WorldOp} {before after : World} {id : String}

/-- No request with this id is completed. -/
def World.Uncompleted (id : String) (world : World) : Prop :=
  ∀ row ∈ world.requests.rows, row.id = id → row.status ≠ .COMPLETED

theorem World.Uncompleted.update {chosen : Request → Bool} {edit : RequestEdit} {status : RequestStatus}
    (uncompleted : before.Uncompleted id) (sets : SetsStatus edit status)
    (spared : ∀ row ∈ before.requests.rows, chosen row = true → row.id = id → status ≠ .COMPLETED)
    (written : after.requests = before.requests.update chosen edit) : after.Uncompleted id := by
  intro row member same completed
  rw [written] at member
  obtain ⟨old, inTable, kept, ⟨picked, _, moved⟩ | ⟨_, rfl⟩⟩ := sets.cases member
  · exact spared old inTable picked (kept.id.symm.trans same) (moved.symm.trans completed)
  · exact uncompleted row inTable same completed

/-- Only stored results complete a request. -/
theorem World.Uncompleted.perform {reply : Except Failure op.Reply} (uncompleted : before.Uncompleted id)
    (regular : op.Regular) (performed : op.perform formats thread before reply after)
    (spared : ∀ anchors accepted, op = .persist anchors accepted → id ∈ accepted.map Request.id →
      ¬ StoresResults formats thread ⟨op, before, reply, after⟩) : after.Uncompleted id := by
  have moves := WorldOp.perform_moves performed
  cases moves with
  | @insert request _ fresh =>
      intro row member same
      rcases (Table.mem_insert _ _ fresh).mp member with member | rfl
      · exact uncompleted row member same
      · rw [show (request.stored _ _).status = .PENDING from regular]
        simp
  | replace => exact uncompleted.update (replacedEdit_setsStatus _) (fun _ _ _ _ => by simp) rfl
  | revert =>
      obtain rfl := regular
      exact uncompleted.update (RequestUpdateFields.setsStatus rfl _) (fun _ _ _ _ => by simp) rfl
  | claim claimed => exact uncompleted.update claimEdit_setsStatus (fun _ _ _ _ => by simp) claimed
  | @mark transaction stamp marked requests wrote takes =>
      refine uncompleted.update (RequestUpdateFields.setsStatus rfl stamp) (fun _ _ _ _ => ?_) wrote.written
      rcases transaction.target_cases with target | target <;> simp [target]
  | @complete anchors acceptedRequests stamp marked requests wrote accepted =>
      by_cases inside : id ∈ acceptedRequests.map Request.id
      · rw [unstored_same performed (spared anchors acceptedRequests rfl inside)]
        exact uncompleted
      · refine uncompleted.update (RequestUpdateFields.setsStatus rfl stamp) ?_ wrote.written
        rintro row member picked rfl
        exact absurd (accepted _ (of_decide_eq_true picked)) inside
  | idle => exact uncompleted
  | begin_ => exact uncompleted
  | publish => exact uncompleted
  | submit => exact uncompleted
  | storeCar => exact uncompleted
  | storeWitness => exact uncompleted

end Completing

section Confinement

variable {formats : Formats} {ids : List String}

/-- The operation claims, completes or sets back this request. -/
def WorldOp.Touches (id : String) : WorldOp → Prop
  | .updateRequests _ _ ids => id ∈ ids
  | .claim ids => id ∈ ids
  | .persist _ acceptedRequests => id ∈ acceptedRequests.map Request.id
  | _ => False

/-- The operation claims no request, and it completes or sets back only these ones. -/
def WorldOp.Within (ids : List String) : WorldOp → Prop
  | .claim _ => False
  | op => ∀ id, op.Touches id → id ∈ ids

theorem WorldOp.Quiet.within {op : WorldOp} (quiet : op.Quiet) : op.Within ids := by
  cases op with
  | claim | updateRequests | persist => exact quiet.elim
  | _ => exact fun _ => False.elim

theorem WorldOp.Marks.within {op : WorldOp} (marks : op.Marks) : op.Within ids := by
  cases op with
  | claim | updateRequests | persist => exact marks.elim
  | _ => exact fun _ => False.elim

/-- A batch completes and sets back only its own requests. -/
theorem anchorRequestsOf_within (service : AnchorService) (fuel : Nat) {requests : List Request}
    (own : ∀ request ∈ requests, request.id ∈ ids) :
    (service.anchorRequestsOf formats fuel requests).Confined (WorldOp.Within ids) := by
  have inside : ∀ candidates, Selected formats (requests.filter fun request => request.status ≠ .REPLACED)
      candidates → ∀ id ∈ (candidates.map Candidate.request).map Request.id, id ∈ ids := by
    intro candidates selected id listed
    obtain ⟨request, member, rfl⟩ := List.mem_map.mp listed
    exact own request (List.mem_filter.mp (selected.requests.mem_iff.mp member)).1
  refine AnchorService.anchorRequestsOf_confined service formats (fun _ => WorldOp.Quiet.within)
    (findCandidates_returns _ _) (fun candidates selected => ?_) fun candidates selected => ?_
  · exact AnchorService.anchorCandidates_confined service formats (fun _ => WorldOp.Quiet.within)
      (fun _ => False.elim) (fun _ _ => False.elim) (fun _ _ _ => False.elim) (fun _ => False.elim)
      (fun _ => inside candidates selected) fuel
  · unfold AnchorService.giveBack
    split
    · trivial
    · refine confined_bind (confined_bind (confined_call WorldOp.now fun _ => False.elim) fun updatedAt =>
        ?_) fun _ => trivial
      exact confined_call (WorldOp.updateRequests _ updatedAt _) (inside candidates selected)

end Confinement

section Reports

variable {formats : Formats} {A B : Type}

/-- The operation stores results. -/
def WorldOp.Persists (op : WorldOp) : Prop :=
  ∃ anchors acceptedRequests, op = .persist anchors acceptedRequests

/-- When the operation has stored results, only quiet operations follow until one is rejected. -/
def Concludes (op : WorldOp) (reply : Except Failure op.Reply) (rest : Code A) : Prop :=
  op.Persists → (∃ value, reply = .ok value) → rest.Calm WorldOp.Quiet

theorem concludes_unpersisted {program : Code A} {continue_ : Code A → Code B}
    (unpersisted : program.Confined fun op => ¬ op.Persists) :
    program.Leads fun op reply rest => Concludes op reply (continue_ rest) :=
  leads_confined unpersisted fun _ _ _ other persists => absurd persists other

theorem quiet_unpersisted {program : Code A} (quiet : program.Confined WorldOp.Quiet) :
    program.Confined fun op => ¬ op.Persists := by
  refine confined_mono quiet ?_
  rintro op isQuiet ⟨anchors, acceptedRequests, rfl⟩
  exact isQuiet

theorem concludes_bind {program : Code A} {continue_ : A → Code B} (head : program.Leads Concludes)
    (calm : ∀ value, (continue_ value).Calm WorldOp.Quiet)
    (tail : ∀ value, (continue_ value).Confined fun op => ¬ op.Persists) :
    (program >>= continue_).Leads Concludes :=
  leads_bind (leads_mono head fun _ _ _ concludes persists resolved =>
    calm_bind (concludes persists resolved) calm) fun value => concludes_unpersisted (tail value)

theorem persistAnchorResult_concludes (anchors : List FreshAnchor) (candidates : List Candidate)
    (fuel : Nat) : (AnchorService.persistAnchorResult anchors candidates fuel).Leads Concludes := by
  induction fuel with
  | zero => trivial
  | succ fuel ih =>
      refine leads_handle ?_ fun error => ?_
      · refine leads_bind (concludes_unpersisted (confined_call WorldOp.begin (by simp [WorldOp.Persists])))
          fun _ => ?_
        intro reply
        cases reply with
        | ok value => exact ⟨fun _ _ => trivial, trivial⟩
        | error error =>
            refine ⟨?_, trivial⟩
            rintro _ ⟨value, same⟩
            cases same
      · cases error with
        | serialization =>
            have waits : (worldClient.delay 100).Confined fun op : WorldOp => ¬ op.Persists :=
              confined_call (WorldOp.sleep 100) (by simp [WorldOp.Persists])
            exact leads_bind (concludes_unpersisted waits) fun _ => ih
        | rejected message => trivial
        | thrown message => trivial

theorem anchorCandidates_concludes (service : AnchorService) (fuel : Nat) (candidates : List Candidate) :
    (service.anchorCandidates formats fuel candidates).Leads Concludes := by
  have apart : ∀ {A : Type} {program : Code A} {continue_ : Code A → Code AnchorSummary},
      program.Confined WorldOp.Quiet → program.Leads fun op reply rest =>
        Concludes op reply (continue_ rest) := fun quiet => concludes_unpersisted (quiet_unpersisted quiet)
  have builds : (AnchorService.buildMerkleTree candidates).Confined fun op => ¬ op.Persists :=
    confined_handle (confined_call (WorldOp.buildMerkleTree candidates) (by simp [WorldOp.Persists]))
      fun _ => trivial
  refine leads_bind (concludes_unpersisted builds) fun merkleTree => ?_
  refine leads_bind (concludes_unpersisted (confined_call (WorldOp.sendTransaction merkleTree.root)
    (by simp [WorldOp.Persists]))) fun tx => ?_
  refine leads_bind (apart (service.createAnchorCommits_quiet _ _ _ _)) fun stored => ?_
  refine leads_bind (apart (service.importCAR_quiet stored.2)) fun _ => ?_
  refine leads_bind (concludes_unpersisted (confined_call (WorldOp.storeCarFile _ stored.2)
    (by simp [WorldOp.Persists]))) fun _ => ?_
  refine leads_bind (apart (AnchorService.storeWitnessCARs_quiet stored.2 stored.1)) fun _ => ?_
  exact concludes_bind (persistAnchorResult_concludes stored.1 candidates fuel) (fun _ => trivial)
    fun _ => trivial

theorem logAnchorSummary_calm : AnchorService.logAnchorSummary.Calm WorldOp.Quiet :=
  calm_bind (calm_call (WorldOp.countByStatus .PENDING) trivial) fun _ => trivial

/-- After its results are stored, a batch sets nothing back until an operation is rejected. -/
theorem anchorRequestsOf_concludes (service : AnchorService) (fuel : Nat) (requests : List Request) :
    (service.anchorRequestsOf formats fuel requests).Leads Concludes := by
  have summary := quiet_unpersisted AnchorService.logAnchorSummary_quiet
  unfold AnchorService.anchorRequestsOf
  dsimp only
  split
  · trivial
  · have finds := quiet_unpersisted (AnchorService.findCandidates_quiet formats
      (requests.filter fun request => request.status ≠ .REPLACED) service.maxStreamLimit)
    refine leads_bind (concludes_unpersisted finds) fun found => ?_
    split
    · exact @concludes_unpersisted _ _ _ id summary
    · have batch : (service.anchorCandidates formats fuel found.1 >>= fun _ =>
          AnchorService.logAnchorSummary).Leads Concludes :=
        concludes_bind (anchorCandidates_concludes service fuel found.1) (fun _ => logAnchorSummary_calm)
          fun _ => summary
      refine leads_handle (leads_mono batch fun _ _ _ concludes persists resolved =>
        calm_handle (concludes persists resolved)) fun error => ?_
      refine @concludes_unpersisted _ _ _ id (confined_bind (confined_mono (service.giveBack_givesBack _) ?_)
        fun _ => confined_bind summary fun _ => trivial)
      rintro op givesBack ⟨anchors, acceptedRequests, rfl⟩
      exact givesBack

end Reports

section Holders

variable {formats : Formats} {deployed : Task → Prop} {thread : Nat} {id : String}
  {trace : List (Record WorldOp WorldOp.Reply Failure World)}

theorem WorldOp.Within.untouched {ids : List String} {op : WorldOp} (within : op.Within ids)
    (outside : id ∉ ids) : ¬ op.Touches id := by
  intro touches
  cases op with
  | claim => exact within
  | updateRequests | persist => exact outside (within id touches)
  | _ => exact touches

/-- An element that is not in the first part stands in the second. -/
theorem cut_past {A : Type} {front back first second : List A} {item : A}
    (split : front ++ item :: back = first ++ second) (outside : item ∉ first) :
    ∃ middle, front = first ++ middle ∧ second = middle ++ item :: back := by
  rcases List.append_eq_append_iff.mp split with ⟨middle, rfl, rest⟩ | ⟨middle, rfl, rest⟩
  · cases middle with
    | nil => exact ⟨[], by simp, rest.symm⟩
    | cons head tail =>
        obtain ⟨rfl, _⟩ := List.cons.inj rest
        simp at outside
  · exact ⟨middle, rfl, rest⟩

/-- The thread has selected the request, it claims what it has selected, and a rejection follows whenever it
stores results. -/
def Holds (id : String) (history : List Happening) (event : Happening) : Prop :=
  ∃ early limit before picked after late,
    history = early ++ ⟨.selectReady limit, before, .ok picked, after⟩ :: late ∧ id ∈ picked ∧
      (∃ claim ∈ event :: late, claim.op = .claim picked) ∧
      ∀ front stored back, late = front ++ stored :: back → stored.op.Persists →
        ∃ rejected ∈ stored :: back, ∃ error, rejected.reply = .error error

theorem WorldOp.Touches.loud {op : WorldOp} (touches : op.Touches id) : ¬ op.Quiet := by
  intro quiet
  cases op with
  | claim | updateRequests | persist => exact quiet
  | _ => exact touches

/-- Before a loud operation a rejection follows whenever the program stores results. -/
theorem rejected_since {A : Type} {setting : Setting WorldOp WorldOp.Reply Failure World}
    {program residue : Code A} {start last : World} {later back : List Happening} {event : Happening}
    (path : Path setting program start (later ++ event :: back) residue last)
    (concludes : program.Leads Concludes) (loud : ¬ event.op.Quiet) {front rest : List Happening}
    {stored : Happening} (split : later = front ++ stored :: rest) (persists : stored.op.Persists) :
    ∃ rejected ∈ stored :: rest, ∃ error, rejected.reply = .error error := by
  by_contra unrejected
  have resolved : ∀ earlier ∈ stored :: rest, ∃ value, earlier.reply = .ok value := by
    intro earlier member
    cases replied : earlier.reply with
    | ok value => exact ⟨value, rfl⟩
    | error error => exact absurd ⟨earlier, member, error, replied⟩ unrejected
  rw [split, List.append_assoc, List.cons_append] at path
  obtain ⟨_, calm, path⟩ := path_cut path concludes
  exact loud (path_calm path (calm persists (resolved stored List.mem_cons_self)) fun earlier member =>
    resolved earlier (List.mem_cons_of_mem _ member))

theorem afterClaim_within (service : AnchorService) (fuel : Nat) {ids : List String} {requests : List Request}
    (own : ∀ request ∈ requests, request.id ∈ ids) :
    (afterClaim service formats fuel requests).Confined (WorldOp.Within ids) :=
  confined_bind (anchorRequestsOf_within service fuel own) fun _ =>
    confined_call (WorldOp.sleep 5000) fun _ => False.elim

theorem afterClaim_concludes (service : AnchorService) (fuel : Nat) (requests : List Request) :
    (afterClaim service formats fuel requests).Leads Concludes :=
  concludes_bind (anchorRequestsOf_concludes service fuel requests)
    (fun _ => calm_call (WorldOp.sleep 5000) trivial)
    fun _ => confined_call (WorldOp.sleep 5000) (by simp [WorldOp.Persists])

/-- A worker looks for requests, and then it claims some and works on them. -/
theorem worker_eq (service : AnchorService) (queueless : service.useQueueBatches = false) (fuel : Nat) :
    (Task.anchorRequests service fuel).run formats =
      (RequestRepository.countByStatus .READY >>= service.refill fuel) >>= fun _ =>
        Prog.call (WorldOp.selectReady service.maxStreamLimit) >>= fun (ids : List String) =>
          Prog.call (WorldOp.claim ids) >>= fun (requests : List Request) =>
            afterClaim service formats fuel requests >>= fun _ => pure none := by
  simp only [Task.run, AnchorService.anchorRequests, queueless, Bool.false_eq_true, if_false,
    AnchorService.anchorReadyRequests, RequestRepository.claimBatch, afterClaim, Prog.bind_assoc]
  rfl

theorem refill_within (service : AnchorService) (fuel : Nat) :
    (RequestRepository.countByStatus .READY >>= service.refill fuel).Confined (WorldOp.Within []) := by
  refine confined_bind (confined_call (WorldOp.countByStatus .READY) fun _ => False.elim) fun count => ?_
  unfold AnchorService.refill
  split
  · refine confined_bind (confined_mono (findAndMarkReady_marks _ _ _ _) ?_) fun _ => trivial
    exact fun _ => WorldOp.Marks.within
  · trivial

/-- A worker that completes or sets back a request has claimed it, and a rejection follows whenever it has
stored results before. -/
theorem afterClaim_holds {service : AnchorService} {fuel : Nat} {ids : List String} {requests : List Request}
    (own : ∀ request ∈ requests, request.id ∈ ids) {start last : World} {residue : Code (Option Response)}
    {front back : List Happening} {event : Happening}
    (path : Path ((casSystem formats deployed).exposed thread)
      (afterClaim service formats fuel requests >>= fun _ => pure none) start (front ++ event :: back)
      residue last)
    (touches : event.op.Touches id) :
    id ∈ ids ∧ ∀ early stored rest, front = early ++ stored :: rest → stored.op.Persists →
      ∃ rejected ∈ stored :: rest, ∃ error, rejected.reply = .error error := by
  have within : event.op.Within ids :=
    path.confined (confined_bind (afterClaim_within service fuel own) fun _ => trivial) event (by simp)
  have concludes : (afterClaim service formats fuel requests >>= fun _ =>
      (pure none : Code (Option Response))).Leads Concludes :=
    concludes_bind (afterClaim_concludes service fuel requests) (fun _ => trivial) fun _ => trivial
  constructor
  · by_contra outside
    exact within.untouched outside touches
  · intro early stored rest split persists
    exact rejected_since path concludes touches.loud split persists

/-- A worker that claims, completes or sets back a request holds it. -/
theorem worker_holds {service : AnchorService} (queueless : service.useQueueBatches = false) {fuel : Nat}
    {start last : World} {residue : Code (Option Response)} {front back : List Happening} {event : Happening}
    (path : Path ((casSystem formats deployed).exposed thread)
      ((Task.anchorRequests service fuel).run formats) start (front ++ event :: back) residue last)
    (touches : event.op.Touches id) : Holds id front event := by
  rw [worker_eq service queueless] at path
  rcases path.bind_cases with ⟨_, early, _⟩ | ⟨_, first, second, _, split, early, selecting⟩
  · exact absurd touches
      ((early.confined (refill_within service fuel) event (by simp)).untouched List.not_mem_nil)
  obtain ⟨middle, rfl, rfl⟩ := cut_past split fun member =>
    (early.confined (refill_within service fuel) event member).untouched List.not_mem_nil touches
  rcases selecting.call_cases with ⟨empty, _⟩ | ⟨before, picked, after, rest, selected, claiming⟩ |
    ⟨_, _, only, _⟩
  · simp at empty
  · obtain ⟨late, rfl, rfl⟩ := @cut_past _ _ _ [_] rest _ selected fun member => by
      rw [List.mem_singleton.mp member] at touches
      exact touches
    refine ⟨first, _, before, picked, after, late, rfl, ?_⟩
    rcases claiming.call_cases with ⟨empty, _⟩ | ⟨asked, requests, claimed, rest, split, working⟩ |
      ⟨_, _, only, _⟩
    · simp at empty
    · cases late with
      | nil =>
          obtain ⟨rfl, _⟩ := List.cons.inj split
          exact ⟨touches, ⟨_, List.mem_cons_self, rfl⟩, by simp⟩
      | cons claim later =>
          obtain ⟨rfl, rfl⟩ := List.cons.inj split
          have own : ∀ request ∈ requests, request.id ∈ picked := by
            obtain ⟨_, _, permuted, _⟩ := (claiming.performed _ List.mem_cons_self :
              (WorldOp.claim picked).Resolves formats thread asked requests claimed)
            intro request member
            exact of_decide_eq_true (List.mem_filter.mp (permuted.mem_iff.mp member)).2
          obtain ⟨mine, rejects⟩ := afterClaim_holds own working touches
          refine ⟨mine, ⟨_, List.mem_cons_of_mem _ List.mem_cons_self, rfl⟩, ?_⟩
          intro front stored rest split' persists
          cases front with
          | nil =>
              obtain ⟨rfl, _⟩ := List.cons.inj split'
              obtain ⟨_, _, same⟩ := persists
              cases same
          | cons head front => exact rejects front stored rest (List.cons.inj split').2 persists
    · cases late with
      | nil =>
          obtain ⟨rfl, _⟩ := List.cons.inj only
          exact ⟨touches, ⟨_, List.mem_cons_self, rfl⟩, by simp⟩
      | cons head tail => simp at only
  · have same : event ∈ [_] := only ▸ List.mem_append_right _ List.mem_cons_self
    rw [List.mem_singleton.mp same] at touches
    exact touches.elim

theorem WorldOp.Refreshes.within {op : WorldOp} (refreshes : op.Refreshes) {ids : List String} :
    op.Within ids := by
  cases op with
  | claim | updateRequests | persist => exact refreshes.elim
  | _ => exact fun _ => False.elim

theorem WorldOp.Creates.within {op : WorldOp} (creates : op.Creates) {ids : List String} :
    op.Within ids := by
  cases op with
  | claim | updateRequests | persist => exact creates.elim
  | _ => exact fun _ => False.elim

/-- Whoever claims, completes or sets back a request holds it. -/
theorem task_holds {task : Task} (queueless : task.Queueless) {start last : World}
    {residue : Code (Option Response)} {front back : List Happening} {event : Happening}
    (path : Path ((casSystem formats deployed).exposed thread) (task.run formats) start
      (front ++ event :: back) residue last)
    (touches : event.op.Touches id) : Holds id front event := by
  have idle : (task.run formats).Confined (WorldOp.Within []) → Holds id front event := fun confined =>
    absurd touches ((path.confined confined event (by simp)).untouched List.not_mem_nil)
  cases task with
  | createRequest service req validation =>
      have creates := RequestController.createRequest_creates service req validation
      exact idle (confined_bind (confined_mono creates fun _ creates => creates.within) fun _ => trivial)
  | emitAnchorEventIfReady service fuel =>
      refine idle (confined_bind (confined_bind (confined_call (WorldOp.countByStatus .READY)
        fun _ => False.elim) fun count => confined_bind ?_ fun emits => ?_) fun _ => trivial)
      · unfold AnchorService.prepareAnchorEvent
        split
        · have refreshes := updateExpiringReadyRequests_refreshes service.requestRepository fuel
          exact confined_bind (confined_mono refreshes fun _ refreshes => refreshes.within) fun _ => trivial
        · refine confined_bind (confined_mono (findAndMarkReady_marks _ _ _ _) ?_) fun _ => trivial
          exact fun _ => WorldOp.Marks.within
      · split
        · exact confined_bind (confined_attempt (confined_call WorldOp.emitAnchorEvent fun _ => False.elim))
            fun _ => trivial
        · trivial
  | anchorRequests service fuel => exact worker_holds queueless path touches
  | findAndMarkAsProcessing fuel =>
      have refreshes := findAndMarkAsProcessing_refreshes fuel
      exact idle (confined_bind (confined_mono refreshes fun _ refreshes => refreshes.within)
        fun _ => trivial)

end Holders

section Events

variable {formats : Formats} {deployed : Task → Prop} {clock : Int}
  {trace : List (Record WorldOp WorldOp.Reply Failure World)} {last : Cas}

/-- The thread tries to claim the request. -/
def ClaimedBy (trace : List (Record WorldOp WorldOp.Reply Failure World)) (thread : Nat) (id : String) :
    Prop :=
  ∃ event ids, (thread, event) ∈ trace ∧ event.op = .claim ids ∧ id ∈ ids

/-- The first thread does nothing more when the second one has begun. -/
def Precedes (trace : List (Record WorldOp WorldOp.Reply Failure World)) (first second : Nat) : Prop :=
  trace.Pairwise fun early late => early.1 = second → late.1 ≠ first

/-- Two workers that claim one request work one after the other. -/
def HeldOnce (trace : List (Record WorldOp WorldOp.Reply Failure World)) : Prop :=
  ∀ id first second, first ≠ second → ClaimedBy trace first id → ClaimedBy trace second id →
    Precedes trace first second ∨ Precedes trace second first

/-- A worker meets no rejection from the moment that it stores its results. -/
def Reported (formats : Formats) (trace : List (Record WorldOp WorldOp.Reply Failure World)) : Prop :=
  ∀ thread front stored back, eventsOf thread trace = front ++ stored :: back →
    StoresResults formats thread stored → ∀ later ∈ stored :: back, ∃ value, later.reply = .ok value

/-- Whoever claims, completes or sets back a request in a run holds it. -/
theorem run_holds (queueless : ∀ task, deployed task → task.Queueless)
    {front back : List (Record WorldOp WorldOp.Reply Failure World)}
    {record : Record WorldOp WorldOp.Reply Failure World}
    (run : Run (casSystem formats deployed) (Cas.start clock) (front ++ record :: back) last) {id : String}
    (touches : record.2.op.Touches id) : Holds id (eventsOf record.1 front) record.2 := by
  have member : record ∈ front ++ record :: back := by simp
  obtain ⟨program, start, residue, ended, ⟨task, runs, rfl⟩, path⟩ := run.acting rfl member
  rw [eventsOf_split] at path
  exact task_holds (queueless task runs) path touches

theorem run_claims (queueless : ∀ task, deployed task → task.Queueless)
    (run : Run (casSystem formats deployed) (Cas.start clock) trace last)
    {record : Record WorldOp WorldOp.Reply Failure World} (member : record ∈ trace) {id : String}
    (touches : record.2.op.Touches id) : ClaimedBy trace record.1 id := by
  obtain ⟨front, back, rfl⟩ := List.append_of_mem member
  obtain ⟨early, limit, before, picked, after, late, split, inside, ⟨claim, listed, claims⟩, _⟩ :=
    run_holds queueless run touches
  refine ⟨claim, picked, ?_, claims, inside⟩
  rcases List.mem_cons.mp listed with rfl | listed
  · simp
  · have own : claim ∈ eventsOf record.1 front := by
      rw [split]
      exact List.mem_append_right _ (List.mem_cons_of_mem _ listed)
    exact List.mem_append_left _ (mem_eventsOf.mp own)

/-- No selected request is completed. -/
theorem selected_uncompleted {thread limit : Nat} {before after : World} {picked : List String} {id : String}
    (selects : (WorldOp.selectReady limit).Resolves formats thread before picked after)
    (inside : id ∈ picked) : after.Uncompleted id := by
  obtain ⟨ready, permuted, rfl, rfl⟩ := selects
  obtain ⟨request, taken, same⟩ := List.mem_map.mp inside
  have listed : request ∈ ready := by
    split at taken
    · exact List.mem_of_mem_take taken
    · exact taken
  obtain ⟨member, isReady⟩ := List.mem_filter.mp (permuted.mem_iff.mp listed)
  rintro row inTable rowId completed
  obtain rfl := Table.eq_of_column id_indexed inTable member (rowId.trans same.symm)
  simp [completed] at isReady

/-- A request that a worker claims or sets back is not completed. -/
theorem held_uncompleted (queueless : ∀ task, deployed task → task.Queueless)
    {front back : List (Record WorldOp WorldOp.Reply Failure World)}
    {record : Record WorldOp WorldOp.Reply Failure World}
    (run : Run (casSystem formats deployed) (Cas.start clock) (front ++ record :: back) last)
    (once : HeldOnce (front ++ record :: back)) (reported : Reported formats (front ++ record :: back))
    {id : String} (touches : record.2.op.Touches id) : record.2.before.Uncompleted id := by
  obtain ⟨early, limit, before, picked, after, late, split, inside, _, rejected⟩ :=
    run_holds queueless run touches
  obtain ⟨first, second, rfl, rfl, rfl⟩ := eventsOf_cut split
  obtain ⟨pool, _, earlier, reached, _⟩ := run.split
  rw [← reached]
  obtain ⟨_, held, _, _, selected, between⟩ := earlier.split
  have selects : (WorldOp.selectReady limit).Resolves formats record.1 before picked after :=
    earlier.performed (record.1, ⟨.selectReady limit, before, .ok picked, after⟩) (by simp)
  refine (between.keeps (World.Uncompleted id) ?_ ?_ fun other member uncompleted => ?_).2
  · rintro _ _ ⟨_, _, rfl⟩ uncompleted
    exact uncompleted
  · rw [selected]
    exact selected_uncompleted selects inside
  have inRun : other ∈ first ++ (record.1, ⟨.selectReady limit, before, .ok picked, after⟩) :: second ++
      record :: back := by simp [member]
  have regular : other.2.op.Regular := run.confined (fun _ => WorldOp.Regular) (fun _ => rfl)
    (by rintro _ _ ⟨task, _, rfl⟩; exact task.run_regular formats) other inRun
  refine uncompleted.perform regular (run.performed other inRun) ?_
  intro anchors accepted persists own stores
  by_cases same : other.1 = record.1
  · obtain ⟨actor, event⟩ := other
    obtain rfl : actor = record.1 := same
    obtain ⟨front, rest, parts⟩ := List.append_of_mem (mem_eventsOf.mpr member)
    obtain ⟨failed, listed, error, rejection⟩ :=
      rejected front event rest parts ⟨anchors, accepted, persists⟩
    have resolved := reported record.1 _ event (rest ++ record.2 :: eventsOf record.1 back)
      (by rw [eventsOf_split, split, parts, List.append_assoc, List.cons_append, List.append_assoc,
            List.cons_append, ← List.cons_append, ← List.append_assoc])
      stores failed (List.mem_append_left _ listed)
    rw [rejection] at resolved
    obtain ⟨value, impossible⟩ := resolved
    cases impossible
  · have mine := run_claims queueless run (by simp) touches
    have theirs := run_claims queueless run inRun (show other.2.op.Touches id by rw [persists]; exact own)
    rcases once id record.1 other.1 (Ne.symm same) mine theirs with order | order
    · exact (List.pairwise_append.mp order).2.2 other (by simp [member]) record List.mem_cons_self rfl rfl
    · have later := (List.pairwise_append.mp (List.pairwise_append.mp order).1).2.1
      exact List.rel_of_pairwise_cons later member rfl rfl

/-- A run spares its completed requests when no worker is rejected after it has stored its results and no two
workers hold one request at once. -/
theorem spares_of_events (queueless : ∀ task, deployed task → task.Queueless)
    (run : Run (casSystem formats deployed) (Cas.start clock) trace last) (once : HeldOnce trace)
    (reported : Reported formats trace) :
    ∀ record ∈ trace, SparesCompleted record.2.before (.act record.1 record.2.op record.2.reply) := by
  intro record member
  obtain ⟨front, back, rfl⟩ := List.append_of_mem member
  have uncompleted : ∀ id, record.2.op.Touches id → record.2.before.Uncompleted id :=
    fun id => held_uncompleted queueless run once reported
  obtain ⟨thread, op, before, reply, after⟩ := record
  cases op with
  | updateRequests | claim => exact fun request inTable listed => uncompleted _ listed request inTable rfl
  | _ => trivial

/-- Such a run keeps its completed requests. -/
theorem completed_kept (queueless : ∀ task, deployed task → task.Queueless) {middle : Cas}
    {front back : List (Record WorldOp WorldOp.Reply Failure World)}
    (earlier : Run (casSystem formats deployed) (Cas.start clock) front middle)
    (run : Run (casSystem formats deployed) middle back last) (once : HeldOnce (front ++ back))
    (reported : Reported formats (front ++ back)) : middle.world.KeepsCompleted last.world := by
  have spares := spares_of_events queueless (earlier.trans run) once reported
  exact Cas.keepsCompleted
    (earlier.under (fun _ _ => trivial) (fun _ => trivial) fun record member =>
      spares record (List.mem_append_left _ member))
    (run.under (fun _ _ => trivial) (fun _ => trivial) fun record member =>
      spares record (List.mem_append_right _ member))

end Events

end CeramicAnchor
