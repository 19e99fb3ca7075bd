import CeramicAnchor.Concurrency.Run
import CeramicAnchor.Concurrency.Simulation
import CeramicAnchor.Construction.RequestController
import CeramicAnchor.Proof.Presentation

/-
This file proves that each witness which a client gets proves the commit that the client asked for.
-/

namespace CeramicAnchor
open Concurrency Storage Prog

/-- The stored request of the CID, of which the other request is a version. -/
def Stores.Stored (cid : String) (request : Request) (stores : Stores) : Prop :=
  ∃ row ∈ stores.world.requests.rows, row.cid = cid ∧ request.cid = cid ∧ row.id = request.id ∧
    row.streamId = request.streamId

/-- The response is about the stored request of the CID, and its witness is one of the anchor of the
request. -/
structure Stores.Answers (formats : Formats) (cid : String) (body : CASResponse) (stores : Stores) :
    Prop where
  stored : ∃ row ∈ stores.world.requests.rows, row.cid = cid ∧ row.id = body.id ∧
    formats.parseStreamId row.streamId = some body.streamId
  cid : formats.parseCid cid = some body.cid
  witness : ∀ witnessCAR, body.witnessCar = some witnessCAR → ∃ anchor ∈ stores.world.anchors.rows,
    anchor.requestId = body.id ∧ body.anchorCommit = some anchor.cid ∧
      stores.world.Built anchor.cid witnessCAR

section Stability

variable {formats : Formats} {config : StoreConfig} {thread : Nat} {first second : Stores} {cid : String}

theorem Stores.Stored.extends {request : Request} (stored : first.Stored cid request)
    (extends_ : first.world.Extends second.world) : second.Stored cid request := by
  obtain ⟨row, member, rowCid, ownCid, sameId, sameStream⟩ := stored
  obtain ⟨later, inNext, same⟩ := extends_.requests row member
  exact ⟨later, inNext, same.cid.trans rowCid, ownCid, same.id.trans sameId,
    same.streamId.trans sameStream⟩

theorem Stores.Answers.keepsAway {body : CASResponse} (answers : first.Answers formats cid body)
    (others : first.KeepsAway formats config thread second) : second.Answers formats cid body where
  stored := by
    obtain ⟨row, member, rowCid, sameId, stream⟩ := answers.stored
    obtain ⟨later, inNext, same⟩ := others.world.extends_.requests row member
    exact ⟨later, inNext, same.cid.trans rowCid, same.id.trans sameId, by rw [same.streamId, stream]⟩
  cid := answers.cid
  witness witnessCAR carried := by
    obtain ⟨anchor, member, ofRequest, commit, built⟩ := answers.witness witnessCAR carried
    exact ⟨anchor, others.world.extends_.anchors anchor member, ofRequest, commit,
      built.keepsCars others.world.cars⟩

end Stability

/-- An operation that stores no file and changes no table changes nothing. -/
theorem Stores.withWorld_read {config : StoreConfig} {thread : Nat} {stores : Stores} {op : WorldOp}
    (storesNone : ∀ key car, op ≠ .storeCarFile key car) :
    stores.withWorld config thread op stores.world = stores := by
  unfold Stores.withWorld
  split
  · exact absurd rfl (storesNone _ _)
  · rfl

/-- No operation of the stores loses a request. -/
theorem StoreOp.perform_extends {formats : Formats} {config : StoreConfig} {thread : Nat} {op : StoreOp}
    {stores next : Stores} {reply : Except Failure op.Reply}
    (performed : op.perform formats config thread stores reply next) : stores.world.Extends next.world := by
  cases op with
  | world op =>
      obtain ⟨world, moved, rfl⟩ := performed
      rw [Stores.withWorld_world]
      exact (WorldOp.perform_moves moved).extends
  | putItem cid car =>
      rcases performed with rfl | ⟨_, rfl⟩
      · exact (@World.KeepsAway.of_witnesses thread _ _).extends_
      · exact (@World.KeepsAway.of_witnesses thread _ _).extends_
  | cacheWitness cid car =>
      obtain ⟨_, rfl⟩ := performed
      exact (@World.KeepsAway.of_witnesses thread _ _).extends_
  | cacheFile cid car =>
      obtain ⟨_, rfl⟩ := performed
      exact .refl _
  | findByRequest request =>
      obtain ⟨rfl, _⟩ := performed
      exact .refl _
  | cachedFile cid =>
      obtain ⟨rfl, _⟩ := performed
      exact .refl _
  | getObject cid =>
      obtain ⟨rfl, _⟩ := performed
      exact .refl _
  | getItem cid =>
      obtain ⟨rfl, _⟩ := performed
      exact .refl _
  | cachedWitness cid =>
      obtain ⟨rfl, _⟩ := performed
      exact .refl _

section Threads

variable {formats : Formats} {config : StoreConfig} {deployed : Task → Prop} {thread : Nat} {stores : Stores}
  {cid : String}

/-- An operation of the database that only reads changes nothing, also where it fails. -/
theorem world_read_sat {op : WorldOp} {returned : op.Reply → Stores → Prop}
    (storesNone : ∀ key car, op ≠ .storeCarFile key car)
    (silent : ∀ before reply after, AnchorsWitnesses formats thread op before reply after)
    (reads : ∀ (before : Stores) value world, op.Resolves formats thread before.world value world →
      world = before.world ∧ returned value before) (good : stores.Good formats config) :
    Sat ((presenting formats config deployed).setting thread) (Presents formats config thread)
      (fun value reached => reached.Good formats config ∧ returned value reached)
      (fun _ => Stores.Good formats config) (Prog.call (StoreOp.world op)) stores := by
  apply @read_sat formats config deployed thread stores (.world op) returned
  · exact fun others good => others.good good
  · exact fun before reply after => ⟨silent _ _ _, fun key car _ same => absurd same (storesNone key car)⟩
  · rintro before _ reply after ⟨world, performed, rfl⟩
    have read : world = before.world ∧ ∀ value, reply = .ok value → returned value before := by
      cases reply with
      | ok found =>
          obtain ⟨unchanged, held⟩ := reads before found world performed
          refine ⟨unchanged, fun value same => ?_⟩
          rwa [← Except.ok.inj same]
      | error error =>
          refine ⟨?_, by rintro value ⟨⟩⟩
          cases error with
          | rejected message =>
              rcases performed with same | ⟨value, resolves⟩
              · exact same
              · exact (reads before value world resolves).1
          | serialization => exact performed.2
          | thrown message => exact performed.2
    rw [read.1]
    exact ⟨Stores.withWorld_read storesNone, read.2⟩
  · exact good

/-- What both databases return is a version of the stored request. -/
theorem load_sat (good : stores.Good formats config) :
    Sat ((presenting formats config deployed).setting thread) (Presents formats config thread)
      (fun found reached => reached.Good formats config ∧
        ∀ request, found = some request → reached.Stored cid request)
      (fun _ _ => True) (RequestService.load cid) stores := by
  have replica := @world_read_sat formats config deployed thread stores (.replicaFindByCid cid)
    (fun (found : Option Request) reached => ∀ request, found = some request → reached.Stored cid request)
    (by simp) (fun _ _ _ => ⟨trivial, trivial⟩) (fun before found world resolves => by
      obtain ⟨versions, rfl⟩ := resolves
      refine ⟨rfl, fun request isFound => ?_⟩
      obtain ⟨row, member, rowCid, ownCid, sameId, sameStream⟩ := versions request isFound
      exact ⟨row, member, rowCid, ownCid, sameId.symm, sameStream.symm⟩) good
  have finds : ∀ reached : Stores, reached.Good formats config →
      Sat ((presenting formats config deployed).setting thread) (Presents formats config thread)
        (fun found last => last.Good formats config ∧
          ∀ request, found = some request → last.Stored cid request)
        (fun _ _ => True) (Prog.call (StoreOp.world (.findByCid cid))) reached := by
    intro reached good
    have main := @world_read_sat formats config deployed thread reached (.findByCid cid)
      (fun (found : Option Request) reached => ∀ request, found = some request → reached.Stored cid request)
      (by simp) (fun _ _ _ => ⟨trivial, trivial⟩) (fun before found world resolves => by
        obtain ⟨rfl, rfl⟩ := resolves
        refine ⟨rfl, fun request isFound => ?_⟩
        obtain ⟨member, sameCid⟩ := Table.lookup_mem isFound
        exact ⟨request, member, sameCid, sameCid, rfl, rfl⟩) good
    exact sat_results main (fun _ _ found => found) fun _ _ _ => trivial
  refine RequestService.lookup_sat
    (sat_results replica ?_ fun _ reached => finds reached)
  intro found reached held
  cases found with
  | none => exact finds reached held.1
  | some request => exact held

/-- A presented witness was built for the presented anchor, which is that of the request. -/
def Stores.Witnessed (request : Request) (presented : Option FreshAnchor × Option Car) (stores : Stores) :
    Prop :=
  ∀ witnessCAR, presented.2 = some witnessCAR → ∃ anchor ∈ stores.world.anchors.rows,
    presented.1 = some anchor ∧ anchor.requestId = request.id ∧ stores.world.Built anchor.cid witnessCAR

theorem response_sat (request : Request) (good : stores.Good formats config) :
    Sat ((presenting formats config deployed).setting thread) (Presents formats config thread)
      (fun presented reached => reached.Witnessed request presented) (fun _ _ => True)
      (RequestPresentationService.response config request) stores := by
  unfold RequestPresentationService.response
  split
  · have finds := @read_sat formats config deployed thread stores (.findByRequest request)
      (fun (found : Option FreshAnchor) reached => ∀ anchor, found = some anchor →
        anchor ∈ reached.world.anchors.rows ∧ anchor.requestId = request.id)
      (Stores.Good formats config) (fun others good => others.good good) (fun _ _ _ => trivial)
      (fun before _ reply after performed => by
        obtain ⟨rfl, answered⟩ := performed
        refine ⟨rfl, fun value same anchor found => ?_⟩
        rw [answered value same] at found
        exact Table.lookup_mem found) good
    refine sat_bind _ (sat_results finds (fun _ _ held => held) fun _ _ _ => trivial) ?_
    intro found reached known
    cases found with
    | none => rintro witnessCAR ⟨⟩
    | some anchor =>
        obtain ⟨stored, ofRequest⟩ := known.2 anchor rfl
        refine sat_bind _ (witnessCAR_sat ⟨known.1, stored⟩) fun found last presented witnessCAR same => ?_
        obtain rfl : found = some witnessCAR := same
        obtain ⟨inTable, built⟩ := presented anchor witnessCAR rfl
        exact ⟨anchor, inTable, rfl, ofRequest, built⟩
  · rintro witnessCAR ⟨⟩

/-- A rendered response has the CIDs of its request. -/
structure Renders (formats : Formats) (request : Request) (body : CASResponse) : Prop where
  id : body.id = request.id
  cid : formats.parseCid request.cid = some body.cid
  streamId : formats.parseStreamId request.streamId = some body.streamId

theorem notCompleted_cases (request : Request) :
    (∃ body, RequestPresentationService.notCompleted formats request = .done body ∧
      Renders formats request body ∧ body.witnessCar = none) ∨
      ∃ error, RequestPresentationService.notCompleted formats request = .fail error := by
  unfold RequestPresentationService.notCompleted RequestPresentationService.parseCid
    RequestPresentationService.parseStreamId
  cases cid : formats.parseCid request.cid with
  | none => exact .inr ⟨_, rfl⟩
  | some prev =>
      cases streamId : formats.parseStreamId request.streamId with
      | none => exact .inr ⟨_, rfl⟩
      | some stream => exact .inl ⟨_, rfl, ⟨rfl, cid, streamId⟩, rfl⟩

theorem completed_cases (request : Request) (anchor : Option FreshAnchor) (witnessCAR : Option Car) :
    (∃ body, RequestPresentationService.completed formats request anchor witnessCAR = .done body ∧
      Renders formats request body ∧ body.witnessCar = witnessCAR ∧
      ∀ found, anchor = some found → body.anchorCommit = some found.cid) ∨
      ∃ error, RequestPresentationService.completed formats request anchor witnessCAR = .fail error := by
  unfold RequestPresentationService.completed RequestPresentationService.anchorCommitOf
    RequestPresentationService.parseCid RequestPresentationService.parseStreamId
  cases cid : formats.parseCid request.cid with
  | none => cases anchor <;> exact .inr ⟨_, rfl⟩
  | some prev =>
      cases streamId : formats.parseStreamId request.streamId with
      | none => cases anchor <;> exact .inr ⟨_, rfl⟩
      | some stream =>
          cases anchor with
          | none => exact .inl ⟨_, rfl, ⟨rfl, cid, streamId⟩, rfl, by rintro found ⟨⟩⟩
          | some anchor =>
              refine .inl ⟨_, rfl, ⟨rfl, cid, streamId⟩, rfl, fun found same => ?_⟩
              rw [Option.some.inj same]

theorem Renders.answers {request : Request} {body : CASResponse} (renders : Renders formats request body)
    (stored : stores.Stored cid request)
    (witness : ∀ witnessCAR, body.witnessCar = some witnessCAR → ∃ anchor ∈ stores.world.anchors.rows,
      anchor.requestId = request.id ∧ body.anchorCommit = some anchor.cid ∧
        stores.world.Built anchor.cid witnessCAR) : stores.Answers formats cid body where
  stored := by
    obtain ⟨row, member, rowCid, _, sameId, sameStream⟩ := stored
    exact ⟨row, member, rowCid, sameId.trans renders.id.symm, by rw [sameStream, renders.streamId]⟩
  cid := by
    obtain ⟨_, _, _, ownCid, _⟩ := stored
    rw [← ownCid, renders.cid]
  witness witnessCAR carried := by
    rw [renders.id]
    exact witness witnessCAR carried

theorem body_sat (request : Request) (stored : stores.Stored cid request)
    (good : stores.Good formats config) :
    Sat ((presenting formats config deployed).setting thread) (Presents formats config thread)
      (fun body reached => reached.Answers formats cid body) (fun _ _ => True)
      (RequestPresentationService.body formats config request) stores := by
  unfold RequestPresentationService.body
  split
  · have framed := sat_frame (Stores.Stored cid request) (@response_sat formats config deployed thread stores
      request good) (fun others stored => stored.extends others.world.extends_)
      (fun op before reply after performed stored => stored.extends (StoreOp.perform_extends performed))
      stored
    refine sat_bind _ (sat_results framed (fun _ _ held => held) fun _ _ _ => trivial) ?_
    rintro ⟨anchor, witnessCAR⟩ reached ⟨witnessed, still⟩
    change Sat _ _ _ _ (RequestPresentationService.completed formats request anchor witnessCAR) reached
    rcases @completed_cases formats request anchor witnessCAR with
      ⟨body, done, renders, sameWitness, commit⟩ | ⟨error, failed⟩
    · rw [done]
      refine renders.answers still fun found carried => ?_
      obtain ⟨presented, member, sameAnchor, ofRequest, built⟩ := witnessed found (sameWitness ▸ carried)
      exact ⟨presented, member, ofRequest, commit presented sameAnchor, built⟩
    · rw [failed]
      trivial
  · rcases @notCompleted_cases formats request with ⟨body, done, renders, absent⟩ | ⟨error, failed⟩
    · rw [done]
      refine renders.answers stored fun witnessCAR carried => ?_
      rw [absent] at carried
      cases carried
    · rw [failed]
      trivial

/-- An answer with a body is about the request that was asked for. -/
def Stores.Answered (formats : Formats) (answer : Answer) (stores : Stores) : Prop :=
  ∀ body, answer.response = .ok body → ∃ cid, answer.params = some cid ∧ stores.Answers formats cid body

theorem getStatusForCid_sat (params : Option String) (good : stores.Good formats config) :
    Sat ((presenting formats config deployed).setting thread) (Presents formats config thread)
      (fun response reached => reached.Answered formats ⟨params, response⟩) (fun _ _ => True)
      (RequestController.getStatusForCid formats config params) stores := by
  unfold RequestController.getStatusForCid
  cases params with
  | none => rintro body ⟨⟩
  | some cid =>
      refine sat_handle (fun _ _ => True) ?_ fun error reached _ => ?_
      · have found :
            Sat ((presenting formats config deployed).setting thread) (Presents formats config thread)
            (fun found reached => ∀ body, found = .ok body → reached.Answers formats cid body)
            (fun _ _ => True) (RequestService.getStatusForCid formats config cid) stores := by
          refine sat_bind _ (load_sat good) fun request reached known => ?_
          cases request with
          | none => rintro body ⟨⟩
          | some request =>
              refine sat_bind _ (body_sat request (known.2 request rfl) known.1) fun body last answers => ?_
              intro other same
              rwa [← Except.ok.inj same]
        refine sat_bind _ found fun outcome reached answers => ?_
        cases outcome with
        | ok body =>
            intro other same
            obtain rfl := StatusResponse.ok.inj same
            exact ⟨cid, rfl, answers body rfl⟩
        | error message => rintro body ⟨⟩
      · rintro body ⟨⟩

end Threads

/-- The answers of the threads stay true. -/
def answering (formats : Formats) (config : StoreConfig) (deployed : Task → Prop) :
    Discipline (apiSystem formats config deployed) where
  rely := Stores.KeepsAway formats config
  rely_refl _ := .refl
  rely_trans := Stores.KeepsAway.trans
  guarantee := Presents formats config
  dormant _ _ := True
  post _ answer stores := ∀ given, answer = some given → stores.Answered formats given
  dormant_stable _ _ := trivial
  post_stable := by
    intro thread answer first second others held given same body ok
    obtain ⟨cid, asked, answers⟩ := held given same body ok
    exact ⟨cid, asked, answers.keepsAway others⟩
  sound different performed presents := Stores.keepsAway different performed presents
  drifts drifted := Stores.Drifts.keepsAway drifted

section Runs

variable {formats : Formats} {config : StoreConfig} {deployed : Task → Prop} {clock : Int}
  {pool : Pool StoreOp StoreOp.Reply Failure (Option Answer) Stores}

/-- A thread of the service is safe wherever it starts in good stores. -/
theorem apiSystem_safe {thread : Nat} {program : StoreCode (Option Answer)} {stores : Stores}
    (good : stores.Good formats config) (entry : (apiSystem formats config deployed).entry thread program) :
    (answering formats config deployed).Safe thread program stores := by
  rcases entry with ⟨task, _, rfl⟩ | ⟨params, rfl⟩
  · have anchored := @Task.run_anchoring formats deployed thread stores.world task good.sound.keyed
    have witnessed := @Task.run_witnesses formats deployed thread stores.world task
    have implemented := sat_implement (@implementation_implements formats config deployed thread)
      (fun _ _ _ _ held => held) (fun _ _ _ _ held => held) good (sat_and anchored witnessed)
    refine sat_bind (fun _ _ => True) (sat_results implemented (fun _ _ _ => trivial)
      fun _ _ _ => trivial) fun _ _ _ => ?_
    rintro given ⟨⟩
  · have answered := @getStatusForCid_sat formats config deployed thread stores params good
    refine sat_bind _ answered fun response reached answered => ?_
    intro given same
    rwa [← Option.some.inj same]

/-- The stores are good in every run, and each answer is about the request that was asked for. -/
theorem reaches_answered
    (run : Reaches (apiSystem formats config deployed) (.idle (Stores.start clock)) pool) :
    pool.world.Good formats config ∧ (answering formats config deployed).AllSafe pool := by
  have untouched : Reaches (storesSystem formats config deployed) (.idle (Stores.start clock))
      (.idle (Stores.start clock)) := .refl
  apply (answering formats config deployed).invariant (Stores.Good formats config)
  · exact fun thread program stores good _ entry => apiSystem_safe good entry
  · exact fun good performed presents => good.performs performed presents
  · exact fun good drifted => good.drifts drifted
  · exact run
  · exact (reaches_good untouched).1
  · exact fun _ => trivial

/-- The witness verifies to the anchor commit, which anchors this commit of this stream in a submitted
transaction. -/
structure Certifies (ledger : List (Nat × Cid)) (witnessCAR : Car) (anchorCommit prev streamId : Cid) :
    Prop where
  verifies : ∀ alike, WitnessService.verify alike witnessCAR = .ok anchorCommit
  exists_ : ∃ commit proofCid, WitnessService.Holds witnessCAR anchorCommit commit prev ∧
    commit.property "id" = some (.link streamId) ∧ commit.property "proof" = some (.link proofCid) ∧
    ∃ entry ∈ ledger, IsProofCid entry.2 proofCid

/-- A witness that was built for a stored anchor certifies the request of the anchor. -/
theorem World.Sound.certifies {world : World} (sound : world.Sound formats)
    (commits : ∀ anchor ∈ world.anchors.rows, CommitOf anchor.cid anchor.proofCid) {anchor : FreshAnchor}
    (stored : anchor ∈ world.anchors.rows) {witnessCAR : Car} (built : world.Built anchor.cid witnessCAR) :
    ∃ row ∈ world.requests.rows, row.id = anchor.requestId ∧ ∃ prev streamId,
      formats.parseCid row.cid = some prev ∧ formats.parseStreamId row.streamId = some streamId ∧
      Certifies world.ledger witnessCAR anchor.cid prev streamId := by
  obtain ⟨row, member, ofRow, car, present, prev, streamId, commit, parsedCid, parsedStream, idLink, holds⟩ :=
    sound.proven anchor stored
  obtain ⟨proofCid, file, commitOf, filed, done⟩ := built
  obtain rfl := commitOf_unique commitOf (commits anchor stored)
  obtain rfl : car = file := Option.some.inj (present.symm.trans filed)
  obtain ⟨rebuilt, again, copied, verified⟩ := WitnessService.verify_build holds
  obtain rfl : rebuilt = witnessCAR := Except.ok.inj (again.symm.trans done)
  obtain ⟨id, previous, path, sameCid⟩ := commitOf
  have record : commit = anchorCommit id previous anchor.proofCid path :=
    Cid.record.inj ((Car.get_eq_some.mp holds.present).2.symm.trans sameCid)
  obtain ⟨entry, submitted, isProof⟩ := sound.keyed.keys anchor.proofCid car present
  refine ⟨row, member, ofRow, prev, streamId, parsedCid, parsedStream, verified, commit, anchor.proofCid,
    copied, idLink, ?_, entry, submitted, isProof⟩
  simp [record, anchorCommit, Ipld.property, Fields.ofList, Fields.get]

/-- Every witness that a client is given proves that the commit it asked for was anchored in its stream. -/
theorem answer_certified
    (run : Reaches (apiSystem formats config deployed) (.idle (Stores.start clock)) pool) {thread : Nat}
    {cid : String} {body : CASResponse} {witnessCAR : Car}
    (answered : pool.threads thread = some (.done (some ⟨some cid, .ok body⟩)))
    (carried : body.witnessCar = some witnessCAR) :
    formats.parseCid cid = some body.cid ∧
    (∃ row ∈ pool.world.world.requests.rows, row.cid = cid ∧ row.id = body.id ∧
      formats.parseStreamId row.streamId = some body.streamId) ∧
    ∃ anchorCommit, body.anchorCommit = some anchorCommit ∧
      Certifies pool.world.world.ledger witnessCAR anchorCommit body.cid body.streamId := by
  obtain ⟨good, safe⟩ := reaches_answered run
  have given : ∀ answer, some ⟨some cid, .ok body⟩ = some answer → pool.world.Answered formats answer :=
    safe.started answered
  obtain ⟨asked, same, answers⟩ := given _ rfl body rfl
  obtain rfl := Option.some.inj same
  obtain ⟨row, member, rowCid, sameId, stream⟩ := answers.stored
  refine ⟨answers.cid, ⟨row, member, rowCid, sameId, stream⟩, ?_⟩
  obtain ⟨anchor, inTable, ofRequest, commit, built⟩ := answers.witness witnessCAR carried
  obtain ⟨other, inside, ofOther, prev, streamId, parsedCid, parsedStream, certifies⟩ :=
    good.sound.certifies good.commits inTable built
  obtain rfl := Table.eq_of_column id_indexed inside member (ofOther.trans (ofRequest.trans sameId.symm))
  obtain rfl : prev = body.cid := by
    rw [rowCid, answers.cid] at parsedCid
    exact (Option.some.inj parsedCid).symm
  obtain rfl : streamId = body.streamId := Option.some.inj (parsedStream.symm.trans stream)
  exact ⟨anchor.cid, commit, certifies⟩

/-- All witnessed answers about one commit name the same request, the same stream and the same anchor
commit. -/
theorem answers_agree
    (run : Reaches (apiSystem formats config deployed) (.idle (Stores.start clock)) pool)
    {one other : Nat} {cid : String} {first second : CASResponse}
    (answered : pool.threads one = some (.done (some ⟨some cid, .ok first⟩)))
    (otherAnswered : pool.threads other = some (.done (some ⟨some cid, .ok second⟩))) :
    first.id = second.id ∧ first.cid = second.cid ∧ first.streamId = second.streamId ∧
      (first.witnessCar ≠ none → second.witnessCar ≠ none → first.anchorCommit = second.anchorCommit) := by
  obtain ⟨good, safe⟩ := reaches_answered run
  have given : ∀ {thread : Nat} {body : CASResponse},
      pool.threads thread = some (.done (some ⟨some cid, .ok body⟩)) →
      pool.world.Answers formats cid body := by
    intro thread body answered
    have held : ∀ answer, some ⟨some cid, .ok body⟩ = some answer → pool.world.Answered formats answer :=
      safe.started answered
    obtain ⟨asked, same, answers⟩ := held _ rfl body rfl
    rwa [Option.some.inj same]
  have one := given answered
  have two := given otherAnswered
  obtain ⟨row, member, rowCid, sameId, stream⟩ := one.stored
  obtain ⟨again, inside, againCid, againId, againStream⟩ := two.stored
  obtain rfl := Table.eq_of_column cid_indexed member inside (rowCid.trans againCid.symm)
  have ids : first.id = second.id := sameId.symm.trans againId
  refine ⟨ids, Option.some.inj (one.cid.symm.trans two.cid), Option.some.inj (stream.symm.trans againStream),
    fun carried otherCarried => ?_⟩
  obtain ⟨witnessCAR, carried⟩ := Option.ne_none_iff_exists'.mp carried
  obtain ⟨otherWitness, otherCarried⟩ := Option.ne_none_iff_exists'.mp otherCarried
  obtain ⟨anchor, inTable, ofRequest, commit, _⟩ := one.witness witnessCAR carried
  obtain ⟨anchor', inTable', ofRequest', commit', _⟩ := two.witness otherWitness otherCarried
  obtain rfl : anchor = anchor' :=
    Table.eq_of_column (by simp) inTable inTable' (ofRequest.trans (ids.trans ofRequest'.symm))
  rw [commit, commit']

/-- A thread of the lone stores runs a task and answers nothing. -/
def taskThread (program : Code (Option Response)) : StoreCode (Option Answer) := do
  let _ ← program.implement loneStores.implementation
  pure none

/-- The stores follow a run of the anchoring in which nothing is rejected. -/
def taskSimulation : Simulation (casSystem loneFormats deployed) (apiSystem loneFormats loneStores deployed)
    (fun _ label => Resolved label) where
  translate := taskThread
  related world stores := stores.world = world ∧ stores.files 0 = world.merkleCars
  starts := by
    rintro thread program ⟨task, deploys, rfl⟩
    exact .inl ⟨task, deploys, rfl⟩
  acts := by
    rintro thread op reply before after stores ⟨rfl, files⟩ ⟨value, rfl⟩ performed
    have moved : op.perform loneFormats thread stores.world (.ok value) after := performed
    cases op with
    | storeCarFile key car =>
        obtain rfl : after = _ := performed
        refine ⟨.world (.storeCarFile key car), .ok (), _, ⟨_, moved, rfl⟩, ⟨rfl, ?_⟩, fun next =>
          ⟨_, rfl, rfl⟩⟩
        change Stores.remember stores.files 0 key (some car) 0 = _
        rw [Stores.remember, Function.update_self, files]
    | storeWitness cid car =>
        obtain rfl : after = _ := performed
        exact ⟨.cacheWitness cid car, .ok (), _, ⟨rfl, rfl⟩, ⟨rfl, files⟩, fun next => ⟨_, rfl, rfl⟩⟩
    | _ =>
        refine ⟨.world _, .ok value, _, ⟨_, moved, rfl⟩, ⟨rfl, ?_⟩, fun next => ⟨_, rfl, rfl⟩⟩
        exact files.trans ((WorldOp.perform_moves moved).sameCars (by simp)).symm
  drifts := by
    rintro before after stores ⟨rfl, files⟩ passed
    refine ⟨_, .time passed, rfl, ?_⟩
    obtain ⟨later, _, rfl⟩ := passed
    exact files

/-- The lookup of a completed request rebuilds the witness that was evicted. -/
theorem body_path {thread : Nat} {stores : Stores} {request : Request}
    (completed : request.status = .COMPLETED) {anchor : FreshAnchor} {merkleCAR witnessCAR : Car}
    (found : stores.world.anchors.lookup FreshAnchor.requestId request.id = some anchor)
    (evicted : stores.witnesses 0 anchor.cid = none)
    (filed : stores.files 0 anchor.proofCid = some merkleCAR)
    (built : WitnessService.build anchor.cid merkleCAR = .ok witnessCAR) :
    ∃ trace last body, Path ((apiSystem loneFormats loneStores deployed).undisturbed thread)
      (RequestPresentationService.body loneFormats loneStores request) stores trace (.done body) last ∧
      body.witnessCar = some witnessCAR ∧ last.world.requests = stores.world.requests ∧
      last.world.anchors = stores.world.anchors ∧ last.files = stores.files := by
  let setting := (apiSystem loneFormats loneStores deployed).undisturbed thread
  let last := (stores.handed anchor.cid witnessCAR).withWitness 0 anchor.cid (some witnessCAR)
  have stored : ∃ trace, Path setting (RequestPresentationService.buildAndStore loneStores anchor merkleCAR)
      stores trace (.done (some witnessCAR)) last := by
    unfold RequestPresentationService.buildAndStore
    rw [built]
    exact ⟨_, Path.reply setting (.cacheWitness anchor.cid witnessCAR) (.ok ()) ⟨rfl, rfl⟩ (.stop _ _)⟩
  obtain ⟨rest, stored⟩ := stored
  have witnessed : ∃ trace, Path setting (RequestPresentationService.witnessCAR loneStores (some anchor))
      stores trace (.done (some witnessCAR)) last := by
    apply Exists.intro
    apply Path.reply setting (.cachedWitness anchor.cid) (.ok none) ⟨rfl, congrArg Except.ok evicted.symm⟩
    apply Path.reply setting (.cachedFile anchor.proofCid) (.ok (some merkleCAR))
      ⟨rfl, congrArg Except.ok filed.symm⟩
    exact stored
  obtain ⟨middle, witnessed⟩ := witnessed
  have answered : ∃ trace, Path setting (RequestPresentationService.response loneStores request)
      stores trace (.done (some anchor, some witnessCAR)) last := by
    unfold RequestPresentationService.response
    rw [if_pos completed]
    have finds : (StoreOp.findByRequest request).perform loneFormats loneStores thread stores
        (.ok (some anchor)) stores := by
      refine ⟨rfl, fun other same => ?_⟩
      rw [← Except.ok.inj same, found]
    have asks : Path setting (Prog.call (StoreOp.findByRequest request)) stores
        [⟨.findByRequest request, stores, .ok (some anchor), stores⟩] (.done (some anchor)) stores :=
      .reply setting (.findByRequest request) (.ok (some anchor)) finds (.stop _ _)
    exact ⟨_, Path.bind asks (Path.bind witnessed (.stop _ _))⟩
  obtain ⟨trace, answered⟩ := answered
  have renders : Path setting (RequestPresentationService.completed loneFormats request (some anchor)
      (some witnessCAR)) last []
      (.done ⟨request.id, .COMPLETED, .foreign request.cid, .foreign "bafkqaaa", request.message,
        request.createdAt, request.updatedAt, some anchor.cid, some witnessCAR⟩) last := .stop _ _
  have split : RequestPresentationService.body loneFormats loneStores request =
      (RequestPresentationService.response loneStores request >>= fun presented =>
        RequestPresentationService.completed loneFormats request presented.1 presented.2) := by
    unfold RequestPresentationService.body
    rw [if_pos completed]
  exact ⟨_, last, _, split ▸ Path.bind answered renders, rfl, rfl, rfl, rfl⟩

/-- A client asks for a stored request, which the replica does not know yet. -/
theorem status_path {thread : Nat} {stores last : Stores} {request : Request} {body : CASResponse}
    {trace : List (Event StoreOp StoreOp.Reply Failure Stores)}
    (known : stores.world.requests.lookup Request.cid request.cid = some request)
    (path : Path ((apiSystem loneFormats loneStores deployed).undisturbed thread)
      (RequestPresentationService.body loneFormats loneStores request) stores trace (.done body) last) :
    ∃ trace, Path ((apiSystem loneFormats loneStores deployed).undisturbed thread) (do
      let response ← RequestController.getStatusForCid loneFormats loneStores (some request.cid)
      pure (some (⟨some request.cid, response⟩ : Answer)))
      stores trace (.done (some ⟨some request.cid, .ok body⟩)) last := by
  let setting := (apiSystem loneFormats loneStores deployed).undisturbed thread
  have looked : ∃ trace, Path setting (RequestService.load request.cid) stores trace
      (.done (some request)) stores := by
    have replica :
        (StoreOp.world (.replicaFindByCid request.cid)).perform loneFormats loneStores thread stores
        (.ok none) stores := ⟨stores.world, ⟨by simp, rfl⟩, (Stores.withWorld_read (by simp)).symm⟩
    have main : (StoreOp.world (.findByCid request.cid)).perform loneFormats loneStores thread stores
        (.ok (some request)) stores :=
      ⟨stores.world, ⟨known.symm, rfl⟩, (Stores.withWorld_read (by simp)).symm⟩
    apply Exists.intro
    apply Path.reply setting (.world (.replicaFindByCid request.cid)) (.ok none) replica
    apply Path.reply setting (.world (.findByCid request.cid)) (.ok (some request)) main
    exact .stop _ _
  obtain ⟨front, looked⟩ := looked
  have found : ∃ trace, Path setting (RequestService.getStatusForCid loneFormats loneStores request.cid)
      stores trace (.done (.ok body)) last := ⟨_, Path.bind looked (Path.bind path (.stop _ _))⟩
  obtain ⟨middle, found⟩ := found
  exact ⟨_, Path.bind (Path.handle _ (Path.bind found (.stop _ _))) (.stop _ _)⟩

/-- A request whose anchor and Merkle CAR are at hand. -/
structure Presentable (request : Request) (anchor : FreshAnchor) (merkleCAR : Car) (stores : Stores) :
    Prop where
  completed : request.status = .COMPLETED
  known : stores.world.requests.lookup Request.cid request.cid = some request
  found : stores.world.anchors.lookup FreshAnchor.requestId request.id = some anchor
  filed : stores.files 0 anchor.proofCid = some merkleCAR

/-- A client asks for such a request and gets its witness, and the next client can do the same. -/
theorem Presentable.answered {request : Request} {anchor : FreshAnchor} {merkleCAR witnessCAR : Car}
    (presentable : Presentable request anchor merkleCAR pool.world)
    (built : WitnessService.build anchor.cid merkleCAR = .ok witnessCAR) {thread : Nat}
    (free : pool.threads thread = none) : ∃ last body, Presentable request anchor merkleCAR last ∧
      body.witnessCar = some witnessCAR ∧ Reaches (apiSystem loneFormats loneStores deployed) pool
        (pool.resume thread (.done (some ⟨some request.cid, .ok body⟩)) last) := by
  obtain ⟨completed, known, found, filed⟩ := presentable
  let evicted := pool.world.withWitness 0 anchor.cid none
  have none_ : evicted.witnesses 0 anchor.cid = none := by
    change Stores.remember pool.world.witnesses 0 anchor.cid none 0 anchor.cid = none
    rw [Stores.remember, Function.update_self, Function.update_self]
  obtain ⟨_, last, body, path, carried, requests, anchors, files⟩ :=
    @body_path deployed thread evicted request
    completed anchor merkleCAR witnessCAR found none_ filed built
  have still : evicted.world.requests.lookup Request.cid request.cid = some request := known
  obtain ⟨_, asked⟩ := status_path still path
  let emptied : Pool StoreOp StoreOp.Reply Failure (Option Answer) Stores := ⟨evicted, pool.threads⟩
  have started : Run (apiSystem loneFormats loneStores deployed) emptied [] emptied := .refl emptied
  have run := (started.whole free (Or.inr ⟨some request.cid, rfl⟩) asked).reaches
  refine ⟨last, body, ⟨completed, ?_, ?_, ?_⟩, carried,
    .head ⟨.drift, .drift (.evictWitness 0 anchor.cid)⟩ run⟩
  · rw [requests]
    exact known
  · rw [anchors]
    exact found
  · rw [files]
    exact filed

/-- The lone request is anchored, and two clients ask for it. -/
theorem lone_answers : ∃ (pool : Pool StoreOp StoreOp.Reply Failure (Option Answer) Stores) (one other : Nat)
    (cid : String) (first second : CASResponse) (witnessCAR : Car),
    Reaches (apiSystem loneFormats loneStores fun _ => True) (.idle (Stores.start 0)) pool ∧ one ≠ other ∧
    pool.threads one = some (.done (some ⟨some cid, .ok first⟩)) ∧ first.witnessCar = some witnessCAR ∧
    pool.threads other = some (.done (some ⟨some cid, .ok second⟩)) ∧
    second.witnessCar = some witnessCAR := by
  obtain ⟨cas, anchored, _, request, rows, _, completed⟩ :=
    @lone_request_completed (fun _ => True) (fun _ label => Resolved label)
    trivial trivial fun _ _ resolved _ => resolved
  have initially : (@taskSimulation fun _ => True).Follows (Cas.start 0)
      (.idle (Stores.start 0)) := ⟨⟨rfl, rfl⟩, fun _ _ => rfl, by rintro thread program ⟨⟩⟩
  obtain ⟨pool, reached, follows⟩ := initially.run anchored
  obtain ⟨sameWorld, sameFiles⟩ := follows.world
  obtain ⟨good, _⟩ := reaches_answered reached
  have member : request ∈ pool.world.world.requests.rows := by simp [sameWorld, rows]
  obtain ⟨anchor, stored, ofRequest⟩ := good.sound.completed request member completed
  obtain ⟨_, _, _, merkleCAR, present, _, _, _, _, _, _, holds⟩ := good.sound.proven anchor stored
  obtain ⟨witnessCAR, built, _⟩ := WitnessService.verify_build holds
  have presentable : Presentable request anchor merkleCAR pool.world := by
    refine ⟨completed, (Table.lookup_eq_some cid_indexed).mpr ⟨member, rfl⟩,
      (Table.lookup_eq_some (by simp)).mpr ⟨stored, ofRequest⟩, ?_⟩
    rw [sameFiles, ← sameWorld]
    exact present
  obtain ⟨bound, free⟩ := reached.free_above
  have different : bound + 1 ≠ bound := by omega
  obtain ⟨middle, first, still, carried, run⟩ := presentable.answered built (free bound (Nat.le_refl bound))
  have unused :
      ((pool.resume bound (.done (some ⟨some request.cid, .ok first⟩)) middle).threads (bound + 1)) =
      none := (Function.update_of_ne different _ _).trans (free (bound + 1) (Nat.le_succ bound))
  obtain ⟨last, second, _, otherCarried, rest⟩ := Presentable.answered still built unused
  refine ⟨_, bound, bound + 1, request.cid, first, second, witnessCAR, (reached.trans run).trans rest,
    different.symm, ?_, carried, Function.update_self _ _ _, otherCarried⟩
  exact (Function.update_of_ne different.symm _ _).trans (Function.update_self _ _ _)

/-- A client is given a witness for the lone request. -/
theorem answer_certified_lone : ∃ (pool : Pool StoreOp StoreOp.Reply Failure (Option Answer) Stores)
    (thread : Nat) (cid : String) (body : CASResponse) (witnessCAR : Car) (anchorCommit : Cid),
    Reaches (apiSystem loneFormats loneStores fun _ => True) (.idle (Stores.start 0)) pool ∧
    pool.threads thread = some (.done (some ⟨some cid, .ok body⟩)) ∧ body.witnessCar = some witnessCAR ∧
    body.anchorCommit = some anchorCommit ∧
      Certifies pool.world.world.ledger witnessCAR anchorCommit body.cid body.streamId := by
  obtain ⟨pool, one, _, cid, body, _, witnessCAR, run, _, answered, carried, _⟩ := lone_answers
  obtain ⟨_, _, anchorCommit, commit, certifies⟩ := answer_certified run answered carried
  exact ⟨pool, one, cid, body, witnessCAR, anchorCommit, run, answered, carried, commit, certifies⟩

/-- Both clients are given the same anchor commit. -/
theorem answers_agree_lone : ∃ (pool : Pool StoreOp StoreOp.Reply Failure (Option Answer) Stores)
    (one other : Nat) (cid : String) (first second : CASResponse),
    Reaches (apiSystem loneFormats loneStores fun _ => True) (.idle (Stores.start 0)) pool ∧ one ≠ other ∧
    pool.threads one = some (.done (some ⟨some cid, .ok first⟩)) ∧
    pool.threads other = some (.done (some ⟨some cid, .ok second⟩)) ∧
    first.anchorCommit = second.anchorCommit := by
  obtain ⟨pool, one, other, cid, first, second, witnessCAR, run, different, answered, carried, otherAnswered,
    otherCarried⟩ := lone_answers
  obtain ⟨_, _, _, same⟩ := answers_agree run answered otherAnswered
  exact ⟨pool, one, other, cid, first, second, run, different, answered, otherAnswered,
    same (by simp [carried]) (by simp [otherCarried])⟩

end Runs

end CeramicAnchor
