import CeramicAnchor.Proof.StatusAnswers
import CeramicAnchor.Storage.Notary

/-
This file proves that every run of the service is a run of a notary.
-/

namespace CeramicAnchor
open Concurrency Storage

/-- What a client submits for one commit, and no operation changes. -/
structure Submission where
  cid : String
  streamId : String
  origin : Option String
  timestamp : Int

def Request.submission (request : Request) : Submission :=
  ⟨request.cid, request.streamId, request.origin, request.timestamp⟩

theorem Request.Same.submission {first second : Request} (same : first.Same second) :
    first.submission = second.submission := by
  simp only [Request.submission, same.cid, same.streamId, same.origin, same.timestamp]

/-- The service takes submissions, publishes transaction hashes and certifies each request once. -/
def World.notary (world : World) : Notary String Submission Cid FreshAnchor where
  entries id := (world.requests.lookup Request.id id).map Request.submission
  tokens := { hash | ∃ thread, (thread, hash) ∈ world.ledger }
  certificates := world.anchors.lookup FreshAnchor.requestId

/-- Each CID is submitted once, and a transaction supports an anchor whose path leads to the submitted CID. -/
def anchorPolicy (formats : Formats) : Policy String Submission Cid FreshAnchor where
  key := Submission.cid
  supports hash submission anchor := IsProofCid hash anchor.proofCid ∧
    ∃ prev streamId commit car, formats.parseCid submission.cid = some prev ∧
      formats.parseStreamId submission.streamId = some streamId ∧
      commit.property "id" = some (.link streamId) ∧ WitnessService.Holds (car : Car) anchor.cid commit prev

section Views

variable {formats : Formats} {world : World}

theorem notary_empty (clock : Int) : (World.empty clock).notary = .empty := by
  have tokens : { hash | ∃ thread, (thread, hash) ∈ (World.empty clock).ledger } = ∅ := by
    simp [World.empty]
  rw [World.notary, tokens]
  rfl

/-- An update of the requests changes no submission. -/
theorem notary_update {next : World} {chosen : Request → Bool} {edit : RequestEdit}
    (same : ∀ request, (edit.apply request).Same request)
    (requests : next.requests = world.requests.update chosen edit)
    (anchors : next.anchors = world.anchors) (ledger : next.ledger = world.ledger) :
    next.notary = world.notary := by
  have entries : (fun id => (next.requests.lookup Request.id id).map Request.submission) =
      fun id => (world.requests.lookup Request.id id).map Request.submission := by
    funext id
    rw [requests, Table.lookup_update id_indexed, Option.map_map]
    refine congrFun (congrArg Option.map (funext fun request => ?_)) _
    rw [Function.comp_apply]
    split
    · exact (same request).submission
    · rfl
  rw [World.notary, World.notary, entries, anchors, ledger]

theorem notary_insert {request : Request}
    (fresh : ∀ column ∈ requestColumns, ∀ old ∈ world.requests.rows, column old ≠ column request)
    (history : History) :
    World.notary { world with requests := world.requests.insert request fresh, history := history } =
      { world.notary with
        entries := Function.update world.notary.entries request.id (some request.submission) } := by
  have entries :
      (fun id => ((world.requests.insert request fresh).lookup Request.id id).map Request.submission) =
      Function.update world.notary.entries request.id (some request.submission) := by
    funext id
    rw [Table.lookup_insert _ _ _ id_indexed]
    by_cases same : id = request.id
    · subst same
      rw [Function.update_self, Function.update_self]
      rfl
    · rw [Function.update_of_ne same, Function.update_of_ne same]
      rfl
  rw [World.notary, entries]
  rfl

theorem notary_submit (thread : Nat) (hash : Cid) :
    World.notary { world with ledger := world.ledger ++ [(thread, hash)] } =
      { world.notary with tokens := insert hash world.notary.tokens } := by
  have tokens : { other | ∃ actor, (actor, other) ∈ world.ledger ++ [(thread, hash)] } =
      insert hash world.notary.tokens := by
    ext other
    simp [World.notary, exists_or, or_comm]
  rw [World.notary, tokens]
  rfl

/-- New anchors are certificates of submitted requests, and those of certified requests are dropped. -/
theorem createAnchors_reaches {policy : Policy String Submission Cid FreshAnchor}
    {entries : String → Option Submission} {tokens : Set Cid} {fresh : List FreshAnchor}
    (supported : ∀ anchor ∈ fresh, ∃ submission, entries anchor.requestId = some submission ∧
      ∃ hash ∈ tokens, policy.supports hash submission anchor) (anchors : AnchorTable) :
    Notary.Reaches policy ⟨entries, tokens, anchors.lookup FreshAnchor.requestId⟩
      ⟨entries, tokens, (createAnchors anchors fresh).lookup FreshAnchor.requestId⟩ := by
  induction fresh generalizing anchors with
  | nil => exact .refl
  | cons anchor rest ih =>
      have below :=
        fun anchors => ih (fun other member => supported other (List.mem_cons_of_mem _ member)) anchors
      unfold createAnchors
      split
      · rename_i unseen
        obtain ⟨submission, entered, hash, published, supports⟩ := supported anchor List.mem_cons_self
        have uncertified : anchors.lookup FreshAnchor.requestId anchor.requestId = none :=
          Table.lookup_eq_none.mpr unseen
        have certified : Notary.Step policy ⟨entries, tokens, anchors.lookup FreshAnchor.requestId⟩
            ⟨entries, tokens, Function.update (anchors.lookup FreshAnchor.requestId) anchor.requestId
              (some anchor)⟩ := .certify entered uncertified published supports
        refine .head certified ?_
        rw [← Table.lookup_insert _ _ (by simpa using unseen) (by simp)]
        exact below _
      · exact below anchors

/-- A proven anchor is supported by a submitted transaction. -/
theorem World.Proven.supported {anchor : FreshAnchor} (proven : world.Proven formats anchor)
    (keyed : world.Keyed) : ∃ submission, world.notary.entries anchor.requestId = some submission ∧
      ∃ hash ∈ world.notary.tokens, (anchorPolicy formats).supports hash submission anchor := by
  obtain ⟨request, member, sameId, car, stored, prev, streamId, commit, parsedCid, parsedStream, idLink,
    holds⟩ := proven
  obtain ⟨⟨thread, hash⟩, submitted, isProof⟩ := keyed.keys anchor.proofCid car stored
  have found : world.requests.lookup Request.id anchor.requestId = some request :=
    (Table.lookup_eq_some id_indexed).mpr ⟨member, sameId⟩
  refine ⟨request.submission, ?_, hash, ⟨thread, submitted⟩, isProof, prev, streamId, commit, car, parsedCid,
    parsedStream, idLink, holds⟩
  change (world.requests.lookup Request.id anchor.requestId).map Request.submission = _
  rw [found, Option.map_some]

/-- Each step of the service is a run of the notary. -/
theorem World.Moves.notary {thread : Nat} {op : WorldOp} {reply : Except Failure op.Reply} {next : World}
    (moves : world.Moves formats thread op next) (keyed : world.Keyed)
    (anchors : Anchors formats thread op world reply next) :
    Notary.Reaches (anchorPolicy formats) world.notary next.notary := by
  have unchanged : next.notary = world.notary →
      Notary.Reaches (anchorPolicy formats) world.notary next.notary := by
    intro same
    rw [same]
    exact .refl
  cases moves with
  | @insert request id fresh =>
      rw [notary_insert]
      refine .single (.enter ?_ ?_)
      · have absent : world.requests.lookup Request.id id = none :=
          Table.lookup_eq_none.mpr (fresh Request.id id_indexed)
        change (world.requests.lookup Request.id id).map Request.submission = none
        rw [absent, Option.map_none]
      · intro other old entered same
        obtain ⟨row, found, rfl⟩ := Option.map_eq_some_iff.mp entered
        exact fresh Request.cid cid_indexed row (Table.lookup_mem found).1 same
  | @replace origin streamId cid ordered permuted sorted =>
      exact unchanged (notary_update (replacedEdit_setsStatus cid).same rfl rfl rfl)
  | revert => exact unchanged (notary_update (fun _ => ⟨rfl, rfl, rfl, rfl, rfl⟩) rfl rfl rfl)
  | claim claimed => exact unchanged (notary_update claimEdit_setsStatus.same claimed rfl rfl)
  | mark wrote => exact unchanged (notary_update (fun _ => ⟨rfl, rfl, rfl, rfl, rfl⟩) wrote.written rfl rfl)
  | @complete fresh accepted stamp marked requests wrote inAccepted =>
      have updated :
          World.notary { world.closeTransaction thread with requests := requests } = world.notary :=
        notary_update (fun _ => ⟨rfl, rfl, rfl, rfl, rfl⟩) wrote.written rfl rfl
      have certified := @createAnchors_reaches (anchorPolicy formats) world.notary.entries world.notary.tokens
        fresh (fun anchor member => (anchors.1 anchor member).supported keyed) world.anchors
      have entries : (fun id => (requests.lookup Request.id id).map Request.submission) =
          world.notary.entries := congrArg Notary.entries updated
      change Notary.Reaches _ world.notary
        ⟨fun id => (requests.lookup Request.id id).map Request.submission, world.notary.tokens, _⟩
      rw [entries]
      exact certified
  | @submit root hash unseen =>
      rw [notary_submit]
      refine .single (.publish ?_)
      rintro ⟨actor, submitted⟩
      exact unseen _ submitted rfl
  | _ => exact unchanged rfl

end Views

section Runs

variable {formats : Formats} {config : StoreConfig} {deployed : Task → Prop} {clock : Int}
  {middle pool : Pool StoreOp StoreOp.Reply Failure (Option Answer) Stores}

/-- A step of the stores that meets its guarantee is a run of the notary. -/
theorem StoreOp.perform_notary {thread : Nat} {op : StoreOp} {stores next : Stores}
    {reply : Except Failure op.Reply} (good : stores.Good formats config)
    (performed : op.perform formats config thread stores reply next)
    (presents : Presents formats config thread op stores reply next) :
    Notary.Reaches (anchorPolicy formats) stores.world.notary next.world.notary := by
  cases op with
  | world op =>
      obtain ⟨world, performed, rfl⟩ := performed
      obtain ⟨⟨anchors, _⟩, _⟩ := presents
      rw [Stores.withWorld_world] at anchors ⊢
      exact (WorldOp.perform_moves performed).notary good.sound.keyed anchors
  | putItem cid car =>
      rcases performed with rfl | ⟨_, rfl⟩
      · exact .refl
      · exact .refl
  | cacheWitness cid car =>
      obtain ⟨_, rfl⟩ := performed
      exact .refl
  | cacheFile cid car =>
      obtain ⟨_, rfl⟩ := performed
      exact .refl
  | findByRequest request =>
      obtain ⟨rfl, _⟩ := performed
      exact .refl
  | cachedFile cid =>
      obtain ⟨rfl, _⟩ := performed
      exact .refl
  | getObject cid =>
      obtain ⟨rfl, _⟩ := performed
      exact .refl
  | getItem cid =>
      obtain ⟨rfl, _⟩ := performed
      exact .refl
  | cachedWitness cid =>
      obtain ⟨rfl, _⟩ := performed
      exact .refl

/-- What drifts is not in the notary. -/
theorem Stores.Drifts.notary {stores next : Stores} (drifted : stores.Drifts config next) :
    next.world.notary = stores.world.notary := by
  cases drifted with
  | time passed =>
      obtain ⟨later, _, rfl⟩ := passed
      rfl
  | _ => rfl

/-- The notary of a later state is reached from that of an earlier one. -/
theorem reaches_notary
    (earlier : Reaches (apiSystem formats config deployed) (.idle (Stores.start clock)) middle)
    (run : Reaches (apiSystem formats config deployed) middle pool) :
    Notary.Reaches (anchorPolicy formats) middle.world.world.notary pool.world.world.notary := by
  obtain ⟨good, safe⟩ := reaches_answered earlier
  have reached := (answering formats config deployed).invariant
    (fun stores => stores.Good formats config ∧
      Notary.Reaches (anchorPolicy formats) middle.world.world.notary stores.world.notary)
    (fun thread program stores held _ entry => apiSystem_safe held.1 entry)
    (fun held performed presents => ⟨held.1.performs performed presents,
      held.2.trans (StoreOp.perform_notary held.1 performed presents)⟩)
    (fun held drifted => ⟨held.1.drifts drifted, by rw [Stores.Drifts.notary drifted]; exact held.2⟩)
    run ⟨good, .refl⟩ safe
  exact reached.1.2

/-- Each witnessed answer shows a certificate of the notary. -/
theorem answer_certificate {thread : Nat} {cid : String} {body : CASResponse} {witnessCAR : Car}
    (run : Reaches (apiSystem formats config deployed) (.idle (Stores.start clock)) pool)
    (answered : pool.threads thread = some (.done (some ⟨some cid, .ok body⟩)))
    (carried : body.witnessCar = some witnessCAR) : ∃ submission anchor,
      pool.world.world.notary.entries body.id = some submission ∧ submission.cid = cid ∧
      pool.world.world.notary.certificates body.id = some anchor ∧ body.anchorCommit = some anchor.cid := by
  obtain ⟨_, safe⟩ := reaches_answered run
  have given : ∀ answer, some ⟨some cid, .ok body⟩ = some answer → pool.world.Answered formats answer :=
    safe.started answered
  obtain ⟨asked, same, answers⟩ := given _ rfl body rfl
  obtain rfl := Option.some.inj same
  obtain ⟨row, member, rowCid, sameId, _⟩ := answers.stored
  obtain ⟨anchor, inTable, ofRequest, commit, _⟩ := answers.witness witnessCAR carried
  have stored : pool.world.world.requests.lookup Request.id body.id = some row :=
    (Table.lookup_eq_some id_indexed).mpr ⟨member, sameId⟩
  refine ⟨row.submission, anchor, ?_, rowCid, (Table.lookup_eq_some (by simp)).mpr ⟨inTable, ofRequest⟩,
    commit⟩
  change (pool.world.world.requests.lookup Request.id body.id).map Request.submission = _
  rw [stored, Option.map_some]

/-- Every run of the service is a run of the notary, and what an answer has shown stays certified by a
transaction that was submitted before. -/
theorem service_refines_notary
    (earlier : Reaches (apiSystem formats config deployed) (.idle (Stores.start clock)) middle)
    (run : Reaches (apiSystem formats config deployed) middle pool) :
    Notary.Reaches (anchorPolicy formats) .empty middle.world.world.notary ∧
    Notary.Reaches (anchorPolicy formats) middle.world.world.notary pool.world.world.notary ∧
    ∀ thread cid body witnessCAR, middle.threads thread = some (.done (some ⟨some cid, .ok body⟩)) →
      body.witnessCar = some witnessCAR → ∃ submission anchor, submission.cid = cid ∧
        pool.world.world.notary.entries body.id = some submission ∧
        (∀ id other, pool.world.world.notary.entries id = some other → other.cid = cid → id = body.id) ∧
        pool.world.world.notary.certificates body.id = some anchor ∧ body.anchorCommit = some anchor.cid ∧
        ∃ hash ∈ middle.world.world.notary.tokens,
          (anchorPolicy formats).supports hash submission anchor := by
  have untouched : Reaches (apiSystem formats config deployed) (.idle (Stores.start clock))
      (.idle (Stores.start clock)) := .refl
  have before : Notary.Reaches (anchorPolicy formats) .empty middle.world.world.notary := by
    rw [← notary_empty clock]
    exact reaches_notary untouched earlier
  have after := reaches_notary earlier run
  refine ⟨before, after, fun thread cid body witnessCAR answered carried => ?_⟩
  obtain ⟨submission, anchor, entered, rfl, certified, commit⟩ := answer_certificate earlier answered carried
  obtain ⟨entry, hash, again, published, supports⟩ := before.sound.supported body.id anchor certified
  obtain rfl := Option.some.inj (again.symm.trans entered)
  have still := after.grows.entries body.id entry entered
  have whole : Notary.Reaches (anchorPolicy formats) .empty pool.world.world.notary := before.trans after
  exact ⟨entry, anchor, rfl, still, fun id other held same => whole.sound.keyed _ _ _ _ held still same,
    after.grows.certificates body.id anchor certified, commit, hash, published, supports⟩

/-- The anchored lone request is a certified entry. -/
theorem service_refines_notary_lone : ∃ (pool : Pool StoreOp StoreOp.Reply Failure (Option Answer) Stores)
    (body : CASResponse) (anchor : FreshAnchor),
    Notary.Reaches (anchorPolicy loneFormats) .empty pool.world.world.notary ∧
      pool.world.world.notary.certificates body.id = some anchor ∧ body.anchorCommit = some anchor.cid := by
  obtain ⟨pool, one, _, cid, body, _, witnessCAR, run, _, answered, carried, _⟩ := lone_answers
  obtain ⟨before, _, answers⟩ := service_refines_notary run .refl
  obtain ⟨_, anchor, _, _, _, certified, commit, _⟩ := answers one cid body witnessCAR answered carried
  exact ⟨pool, body, anchor, before, certified, commit⟩

end Runs

end CeramicAnchor
