import CeramicAnchor.Proof.LoneRequest

/-
This file proves when each answered request has been published to the validation queue.
-/

namespace CeramicAnchor
open Concurrency Storage RequestRepository

/-- The tasks of a service with a validation queue. -/
def Task.Queued : Task → Prop
  | .createRequest service _ _ => service.publishToQueue = true
  | _ => True

/-- The request that a successful response presents. -/
def Response.body : Response → Option Request
  | .created request => some request
  | .accepted request => some request
  | .badRequest _ => none

/-- A message of the request is in the queue, or it was. -/
def World.Published (world : World) (request : Request) : Prop :=
  ∃ message ∈ world.published, message.rid = request.id ∧ message.cid = request.cid

/-- A POST request that finds its CID stored finds it published as well. -/
def FindsPublished (world : World) : Label WorldOp WorldOp.Reply Failure → Prop
  | .act _ (.insertRequest request) _ => ∀ old ∈ world.requests.rows, old.cid = request.cid →
      world.Published old
  | _ => True

theorem World.Published.extends {world next : World} {request : Request} (published : world.Published request)
    (extends_ : world.Extends next) : next.Published request := by
  obtain ⟨message, member, same⟩ := published
  exact ⟨message, extends_.published message member, same⟩

/-- The stored request of a CID has been published. -/
def World.StoredAndPublished (cid : String) (world : World) : Prop :=
  ∃ stored ∈ world.requests.rows, stored.cid = cid ∧ world.Published stored

theorem World.StoredAndPublished.extends {cid : String} {world next : World}
    (known : world.StoredAndPublished cid) (extends_ : world.Extends next) : next.StoredAndPublished cid := by
  obtain ⟨stored, member, sameCid, published⟩ := known
  obtain ⟨later, inNext, same⟩ := extends_.requests stored member
  obtain ⟨message, inMessages, rid, cid_⟩ := published.extends extends_
  exact ⟨later, inNext, same.cid.trans sameCid, message, inMessages, rid.trans same.id.symm,
    cid_.trans same.cid.symm⟩

/-- Each version of the stored request counts as published. -/
theorem World.StoredAndPublished.request {cid : String} {world : World} (known : world.StoredAndPublished cid)
    {row request : Request} (member : row ∈ world.requests.rows) (rowCid : row.cid = cid)
    (sameId : request.id = row.id) (sameCid : request.cid = cid) : world.Published request := by
  obtain ⟨stored, inside, storedCid, message, inMessages, rid, cid_⟩ := known
  obtain rfl := Table.eq_of_column cid_indexed inside member (storedCid.trans rowCid.symm)
  exact ⟨message, inMessages, rid.trans sameId.symm, cid_.trans (storedCid.trans sameCid.symm)⟩

section Answers

variable {formats : Formats} {deployed : Task → Prop}

/-- The threads rely on each other to lose neither a request nor a message. -/
def publishing (formats : Formats) (deployed : Task → Prop) :
    Discipline ((casSystem formats deployed).restrict FindsPublished) where
  rely _ := World.Extends
  rely_refl _ := World.Extends.refl
  rely_trans := World.Extends.trans
  guarantee _ _ _ _ _ := True
  dormant _ _ := True
  post _ value world := ∀ response, value = some response → ∀ request, response.body = some request →
    world.Published request
  dormant_stable _ _ := trivial
  post_stable extends_ held response same request body := (held response same request body).extends extends_
  sound _ performed _ := (WorldOp.perform_moves performed.1).extends
  drifts := World.Drifts.extends

variable {thread : Nat} {world : World}

/-- A read keeps what the thread knows. -/
theorem sat_present {request : Request} {holds : World → Prop}
    (stable : ∀ {first second : World}, first.Extends second → holds first → holds second)
    (held : holds world) :
    Sat ((publishing formats deployed).setting thread) (fun _ _ _ _ => True) (fun _ => holds)
    (fun _ _ => True)
      (Prog.call (WorldOp.presentBody request)) world := by
  refine sat_call (WorldOp.presentBody request) ?_ fun _ _ _ _ _ => ⟨trivial, trivial⟩
  rintro before others _ after ⟨rfl, _⟩
  exact ⟨trivial, stable others held⟩

/-- A request that is looked up after its publication is a published one. -/
theorem lookup_published {cid : String} (known : world.StoredAndPublished cid) :
    Sat ((publishing formats deployed).setting thread) (fun _ _ _ _ => True)
      (fun found reached => ∀ request, found = some request → reached.Published request) (fun _ _ => True)
      (RequestService.lookup (Prog.call (WorldOp.replicaFindByCid cid)) (Prog.call (WorldOp.findByCid cid)))
      world := by
  have main : ∀ {reached : World}, reached.StoredAndPublished cid →
      Sat ((publishing formats deployed).setting thread) (fun _ _ _ _ => True)
        (fun found reached => ∀ request, found = some request → reached.Published request) (fun _ _ => True)
        (Prog.call (WorldOp.findByCid cid)) reached := by
    intro reached known
    refine sat_call (WorldOp.findByCid cid) ?_ fun _ _ _ _ _ => ⟨trivial, trivial⟩
    rintro before others stored after ⟨⟨rfl, rfl⟩, _⟩
    refine ⟨trivial, fun found same => ?_⟩
    obtain ⟨member, sameCid⟩ := Table.lookup_mem same
    exact (known.extends others).request member sameCid rfl sameCid
  refine RequestService.lookup_sat (sat_call (WorldOp.replicaFindByCid cid) ?_ ?_)
  · rintro before others replica after ⟨⟨versions, rfl⟩, _⟩
    have knownNow := known.extends others
    cases replica with
    | none => exact ⟨trivial, main knownNow⟩
    | some found =>
        refine ⟨trivial, fun request same => ?_⟩
        obtain ⟨row, member, rowCid, foundCid, sameId, _⟩ := versions request same
        exact knownNow.request member rowCid sameId foundCid
  · intro before others error after performed
    have moved := (WorldOp.perform_moves performed.1).extends
    exact ⟨trivial, main ((known.extends others).extends moved)⟩

theorem findByCid_published {cid : String} (known : world.StoredAndPublished cid) :
    Sat ((publishing formats deployed).setting thread) (fun _ _ _ _ => True)
      (fun found reached => reached.Published found) (fun _ _ => True) (RequestService.findByCid cid)
      world := by
  refine sat_bind _ (lookup_published known) fun found later published => ?_
  cases found with
  | none => trivial
  | some found =>
      have known := published found rfl
      exact sat_bind _ (sat_present (fun extends_ kept => kept.extends extends_) known) fun _ _ kept => kept

/-- A created request has been published, and a known one had been published before. -/
theorem create_published {service : RequestService} (queued : service.publishToQueue = true)
    (params : RequestAnchorParams) (origin : String) :
    Sat ((publishing formats deployed).setting thread) (fun _ _ _ _ => True)
      (fun created reached => match created with
        | some stored => reached.Published stored
        | none => reached.StoredAndPublished params.cid) (fun _ _ => True)
      (service.create params origin) world := by
  refine sat_bind (fun _ _ => True) (sat_trivial _ _) fun timestamp reached _ => ?_
  refine sat_bind (fun created later => created = none → later.StoredAndPublished params.cid)
    (sat_call (WorldOp.insertRequest _) ?_ fun _ _ _ _ _ => ⟨trivial, trivial⟩) ?_
  · rintro before others created after ⟨⟨⟨old, member, sameCid⟩, rfl, rfl⟩ | ⟨id, fresh, rfl, rfl⟩, finds⟩
    · exact ⟨trivial, fun _ => ⟨old, member, sameCid, finds old member sameCid⟩⟩
    · exact ⟨trivial, fun none => by cases none⟩
  · intro created later known
    cases created with
    | none => exact known rfl
    | some stored =>
        have sent : Sat ((publishing formats deployed).setting thread) (fun _ _ _ _ => True)
            (fun _ reached => reached.Published stored) (fun _ _ => True) (service.settle origin stored)
            later := by
          unfold RequestService.settle
          rw [if_pos queued]
          refine sat_call (WorldOp.sendMessage _) ?_ fun _ _ _ _ _ => ⟨trivial, trivial⟩
          rintro before others _ after ⟨rfl, _⟩
          exact ⟨trivial, _, List.mem_append_right _ (List.mem_singleton_self _), rfl, rfl⟩
        exact sat_bind _ sent fun _ _ held => sat_bind _
          (sat_present (fun extends_ published => published.extends extends_) held) fun _ _ held => held

/-- An answer presents a published request or an error. -/
theorem createRequest_published {service : RequestService} (queued : service.publishToQueue = true)
    (req : ExpReq) (validation : Except (List String) RequestAnchorParams) :
    Sat ((publishing formats deployed).setting thread) (fun _ _ _ _ => True)
      (fun response reached => ∀ request, response.body = some request → reached.Published request)
      (fun _ _ => True) (RequestController.createRequest service req validation) world := by
  unfold RequestController.createRequest
  cases validation with
  | error report =>
      intro request same
      cases same
  | ok requestParams =>
      refine sat_handle (fun _ _ => True) (sat_bind _ (create_published queued requestParams _) ?_) ?_
      · intro body reached known
        cases body with
        | none =>
            refine sat_bind _ (findByCid_published known) fun found later published request same => ?_
            obtain rfl := Option.some.inj same
            exact published
        | some stored =>
            intro request same
            obtain rfl := Option.some.inj same
            exact known
      · intro err reached _ request same
        cases same

theorem Task.run_published {task : Task} (queued : task.Queued) :
    (publishing formats deployed).Safe thread (task.run formats) world := by
  have silent : ∀ {A : Type} (program : Code A),
      (publishing formats deployed).Safe thread (program >>= fun _ => pure none) world := by
    intro A program
    refine sat_bind (fun _ _ => True) (sat_trivial _ _) fun _ _ _ response same => ?_
    cases same
  cases task with
  | createRequest service req validation =>
      refine sat_bind _ (createRequest_published queued req validation) fun response reached published => ?_
      intro response same request body
      obtain rfl := Option.some.inj same
      exact published request body
  | emitAnchorEventIfReady service fuel => exact silent (service.emitAnchorEventIfReady fuel)
  | anchorRequests service fuel => exact silent (service.anchorRequests formats fuel)
  | findAndMarkAsProcessing fuel => exact silent (RequestRepository.findAndMarkAsProcessing worldClient fuel)

/-- In every run in which no POST request finds an unpublished one, each answered request has been
published. -/
theorem answered_published (queued : ∀ task, deployed task → task.Queued) {clock : Int} {last : Cas}
    (run : ReachesUnder (casSystem formats deployed) FindsPublished (Cas.start clock) last)
    {response : Response}
    (answered : last.threads thread = some (.done (some response))) {request : Request}
    (body : response.body = some request) : last.world.Published request := by
  have started : (publishing formats deployed).AllSafe (Cas.start clock) := fun _ => trivial
  have safe := ((publishing formats deployed).invariant (fun _ => True)
    (fun thread program world _ _ entry => by
      obtain ⟨task, allowed, rfl⟩ := entry
      exact task.run_published (queued task allowed))
    (fun _ _ _ => trivial) (fun _ _ => trivial) run.restrict trivial started).2
  exact safe.started answered response rfl request body

end Answers

section Runs

/-- A client posts the same commit to a service with a validation queue. -/
def queuedPost : Task :=
  .createRequest ⟨true⟩ ⟨some "did:key:z6Mk", none, none, "10.0.0.1"⟩
  (.ok ⟨"bafkqaaa", "kfuxy3vd4lq8", some 1⟩)

/-- Clients only repeat this request. -/
def RetriesPost (task : Task) : Prop := task = queuedPost

theorem retriesPost_self : RetriesPost queuedPost := rfl

theorem retriesPost_queued (task : Task) (retries : RetriesPost task) : task.Queued := by
  rw [show task = queuedPost from retries]
  rfl

/-- The message of the lone request. -/
def loneMessage : RequestQMessage := ⟨"1", "bafkqaaa", "kfuxy3vd4lq8", 1, some "did:key:z6Mk", 0⟩

/-- The retry of a created request is accepted, and the request has been published once. -/
theorem answered_published_on_retry : ∃ last : Cas,
    last.threads 0 = some (.done (some (.created (loneRequest .PENDING "Request is pending.")))) ∧
    last.threads 1 = some (.done (some (.accepted (loneRequest .PENDING "Request is pending.")))) ∧
    last.world.Published (loneRequest .PENDING "Request is pending.") := by
  have run : ∃ last : Cas,
      ReachesUnder (casSystem loneFormats RetriesPost) FindsPublished (Cas.start 0) last ∧
      last.threads 0 = some (.done (some (.created (loneRequest .PENDING "Request is pending.")))) ∧
      last.threads 1 = some (.done (some (.accepted (loneRequest .PENDING "Request is pending.")))) := by
    apply Exists.intro
    constructor
    · apply starts 0 retriesPost_self rfl trivial
      apply resolves 0 (.insertRequest _) (some (loneRequest .PENDING "Request is pending.")) rfl
      · exact .inr ⟨"1", by rintro column _ old ⟨⟩, rfl, rfl⟩
      · rintro old ⟨⟩
      apply resolves 0 (.sendMessage loneMessage) () rfl
      · exact rfl
      · trivial
      apply resolves 0 (.presentBody _) () rfl
      · exact rfl
      · trivial
      apply starts 1 retriesPost_self rfl trivial
      apply resolves 1 (.insertRequest _) none rfl
      · exact .inl ⟨⟨loneRequest .PENDING "Request is pending.", .head _, rfl⟩, rfl, rfl⟩
      · intro old member same
        obtain rfl := List.mem_singleton.mp member
        exact ⟨loneMessage, .head _, rfl, rfl⟩
      apply resolves 1 (.replicaFindByCid _) none rfl
      · exact ⟨by simp, rfl⟩
      · trivial
      apply resolves 1 (.findByCid _) (some (loneRequest .PENDING "Request is pending.")) rfl
      · exact ⟨rfl, rfl⟩
      · trivial
      apply resolves 1 (.presentBody _) () rfl
      · exact rfl
      · trivial
      exact .refl
    · exact ⟨rfl, rfl⟩
  obtain ⟨last, run, created, accepted⟩ := run
  exact ⟨last, created, accepted, answered_published retriesPost_queued run accepted rfl⟩

/-- The message is not sent, and the retry is accepted without sending it. -/
theorem accepted_unpublished : ¬ ∀ (formats : Formats) (deployed : Task → Prop),
    (∀ task, deployed task → task.Queued) → ∀ (clock : Int) (last : Cas),
      Reaches (casSystem formats deployed) (Cas.start clock) last →
      ∀ (thread : Nat) (response : Response) (request : Request),
        last.threads thread = some (.done (some response)) → response.body = some request →
          last.world.Published request := by
  intro publishes
  have run : ∃ last : Cas,
      ReachesUnder (casSystem loneFormats RetriesPost) (fun _ _ => True) (Cas.start 0) last ∧
      last.threads 1 = some (.done (some (.accepted (loneRequest .PENDING "Request is pending.")))) ∧
      last.world.published = [] := by
    apply Exists.intro
    constructor
    · apply starts 0 retriesPost_self rfl trivial
      apply resolves 0 (.insertRequest _) (some (loneRequest .PENDING "Request is pending.")) rfl
      · exact .inr ⟨"1", by rintro column _ old ⟨⟩, rfl, rfl⟩
      · trivial
      apply ReachesUnder.act 0 (.sendMessage loneMessage) (.error (.rejected "timeout")) rfl
      · exact .inl rfl
      · trivial
      apply starts 1 retriesPost_self rfl trivial
      apply resolves 1 (.insertRequest _) none rfl
      · exact .inl ⟨⟨loneRequest .PENDING "Request is pending.", .head _, rfl⟩, rfl, rfl⟩
      · trivial
      apply resolves 1 (.replicaFindByCid _) none rfl
      · exact ⟨by simp, rfl⟩
      · trivial
      apply resolves 1 (.findByCid _) (some (loneRequest .PENDING "Request is pending.")) rfl
      · exact ⟨rfl, rfl⟩
      · trivial
      apply resolves 1 (.presentBody _) () rfl
      · exact rfl
      · trivial
      exact .refl
    · exact ⟨rfl, rfl⟩
  obtain ⟨last, run, accepted, unpublished⟩ := run
  obtain ⟨message, member, _⟩ := publishes _ _ retriesPost_queued 0 last (.of_under run) 1 _ _ accepted rfl
  rw [unpublished] at member
  cases member

end Runs

end CeramicAnchor
