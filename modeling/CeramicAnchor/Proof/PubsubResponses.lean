import CeramicAnchor.Concurrency.Run
import CeramicAnchor.Concurrency.Simulation
import CeramicAnchor.Construction.IpfsService
import CeramicAnchor.Proof.Anchoring
import CeramicAnchor.Proof.LoneRequest

/-
This file proves that the responders answer each query with the certified anchor of a completed request.
-/

namespace CeramicAnchor
open Concurrency Storage Prog

abbrev PubsubEvent := Event ResponderOp ResponderOp.Reply Failure Pubsub

section Responders

variable {formats : Formats} {codec : PubsubCodec} {deployed : Task → Prop} {thread : Nat}

/-- The event delivers a query that the service accepts. -/
def Hears (codec : PubsubCodec) (service : IpfsService) (id : String) (streamId : Cid) (event : PubsubEvent) :
    Prop :=
  service.respondToPubsubQueries = true ∧ ∃ incoming before after,
  event = ⟨.deliver, before, .ok incoming, after⟩ ∧
    service.accepted codec incoming = some (.QUERY id streamId)

/-- The event finds the latest completed request of the stream. -/
def FindsLatest (streamId : String) (request : Request) (event : PubsubEvent) : Prop :=
  ∃ after rest before next,
    event = ⟨.findCompletedForStream streamId 1 (some after), before, .ok (request :: rest), next⟩

/-- The event finds the anchor of the request. -/
def FindsAnchor (request : Request) (anchor : FreshAnchor) (event : PubsubEvent) : Prop :=
  ∃ before after, event = ⟨.findByRequest request, before, .ok (some anchor), after⟩

/-- A responder looks for an anchor or responds only after it has done what comes before. -/
def InOrder (codec : PubsubCodec) (service : IpfsService) :
    Guarantee ResponderOp ResponderOp.Reply Failure (Pubsub × List PubsubEvent) := fun op before _ _ =>
  match op with
  | .findByRequest request => ∃ id streamId heard timed looked, before.2 = [heard, timed, looked] ∧
      Hears codec service id streamId heard ∧ FindsLatest (codec.streamIdText streamId) request looked
  | .sendMessage message => ∃ id streamId request anchor heard timed looked found dated,
      before.2 = [heard, timed, looked, found, dated] ∧ Hears codec service id streamId heard ∧
      timed.op = .world .now ∧ FindsLatest (codec.streamIdText streamId) request looked ∧
      FindsAnchor request anchor found ∧ dated.op = .world .now ∧
      message.topic = service.pubsubTopic ∧ message.data = IpfsService.response codec id streamId anchor ∧
      message.timeoutMs = none
  | _ => True

/-- The event sends a response. -/
def Sends (event : PubsubEvent) : Prop := ∃ message, event.op = .sendMessage message

/-- The event finds no anchor for the request. -/
def Misses (request : Request) (event : PubsubEvent) : Prop :=
  ∃ before after, event = ⟨.findByRequest request, before, .ok none, after⟩

/-- A responder that has found a completed request has responded, or it has found no anchor. -/
def Responds (history : List PubsubEvent) : Prop :=
  (∃ streamId request, ∃ event ∈ history, FindsLatest streamId request event) →
    (∃ event ∈ history, Sends event) ∨ ∃ request, ∃ event ∈ history, Misses request event

variable {service : IpfsService} {id : String} {streamId : Cid} {request : Request} {anchor : FreshAnchor}
  {heard timed looked found : PubsubEvent}

theorem respond_follows (hears : Hears codec service id streamId heard) (clock : timed.op = .world .now)
    (finds : FindsLatest (codec.streamIdText streamId) request looked)
    (anchored : FindsAnchor request anchor found) (start : Pubsub) :
    Sat ((pubsubSystem formats codec deployed).exposed thread).recorded (InOrder codec service)
      (fun _ reached => Responds reached.2) (fun _ _ => True) (service.respond codec id streamId anchor)
      (start, [heard, timed, looked, found]) := by
  refine sat_bind (fun _ reached => ∃ dated : PubsubEvent, dated.op = .world .now ∧
      reached.2 = [heard, timed, looked, found, dated])
    (sat_recorded_call (ResponderOp.world .now) ?_ fun _ _ _ _ _ => ⟨trivial, trivial⟩) ?_
  · exact fun _ _ _ _ _ => ⟨trivial, _, rfl, rfl⟩
  · rintro createdAt ⟨middle, past⟩ ⟨dated, again, rfl⟩
    refine sat_recorded_call (ResponderOp.sendMessage _) (fun _ _ _ _ _ => ⟨?_, fun _ => .inl ?_⟩)
      fun _ _ _ _ _ => ⟨?_, trivial⟩
    · exact ⟨id, streamId, request, anchor, heard, timed, looked, found, dated, rfl, hears, clock,
        finds, anchored,
        again, rfl, rfl, rfl⟩
    · exact ⟨_, List.mem_append_right _ (List.mem_singleton_self _), _, rfl⟩
    · exact ⟨id, streamId, request, anchor, heard, timed, looked, found, dated, rfl, hears, clock,
        finds, anchored,
        again, rfl, rfl, rfl⟩

theorem answer_follows (hears : Hears codec service id streamId heard) (clock : timed.op = .world .now)
    (finds : FindsLatest (codec.streamIdText streamId) request looked) (start : Pubsub) :
    Sat ((pubsubSystem formats codec deployed).exposed thread).recorded (InOrder codec service)
      (fun _ reached => Responds reached.2) (fun _ _ => True) (service.answer codec id streamId request)
      (start, [heard, timed, looked]) := by
  have follows : ∀ {before : Pubsub} {reply after}, InOrder codec service (.findByRequest request)
      (before, [heard, timed, looked]) reply after :=
    ⟨id, streamId, heard, timed, looked, rfl, hears, finds⟩
  refine sat_bind (fun reply reached => ∃ before after,
      reached.2 = [heard, timed, looked, ⟨.findByRequest request, before, .ok reply, after⟩])
    (sat_recorded_call (ResponderOp.findByRequest request) ?_ fun _ _ _ _ _ => ⟨follows, trivial⟩) ?_
  · exact fun before _ _ after _ => ⟨follows, before, after, rfl⟩
  · rintro reply ⟨middle, past⟩ ⟨before, after, rfl⟩
    cases reply with
    | none => exact fun _ => .inr ⟨request, _, by simp, before, after, rfl⟩
    | some anchor => exact respond_follows hears clock finds ⟨before, after, rfl⟩ middle

theorem onMessage_follows (service : IpfsService) (start : Pubsub) :
    Sat ((pubsubSystem formats codec deployed).exposed thread).recorded (InOrder codec service)
      (fun _ reached => Responds reached.2) (fun _ _ => True) (service.onMessage codec) (start, []) := by
  refine sat_bind (fun incoming reached => ∃ before after,
      reached.2 = [(⟨.deliver, before, .ok incoming, after⟩ : PubsubEvent)])
    (sat_recorded_call ResponderOp.deliver ?_ fun _ _ _ _ _ => ⟨trivial, trivial⟩) ?_
  · exact fun before _ _ after _ => ⟨trivial, before, after, rfl⟩
  rintro incoming ⟨middle, past⟩ ⟨before, after, rfl⟩
  have silent : Responds [(⟨.deliver, before, .ok incoming, after⟩ : PubsubEvent)] := by
    rintro ⟨streamId, request, event, member, _, _, _, _, rfl⟩
    simp at member
  split
  · rename_i responds
    split
    · exact silent
    · rename_i message accepted
      cases message with
      | UPDATE stream tip => exact silent
      | RESPONSE id tips => exact silent
      | KEEPALIVE => exact silent
      | QUERY id streamId =>
          have hears : Hears codec service id streamId ⟨.deliver, before, .ok incoming, after⟩ :=
            ⟨responds, incoming, before, after, rfl, accepted⟩
          refine sat_bind (fun _ reached => ∃ start next now,
              reached.2 = [(⟨.deliver, before, .ok incoming, after⟩ : PubsubEvent),
                ⟨.world .now, start, .ok now, next⟩])
            (sat_recorded_call (ResponderOp.world .now) ?_ fun _ _ _ _ _ => ⟨trivial, trivial⟩) ?_
          · exact fun start _ now next _ => ⟨trivial, start, next, now, rfl⟩
          rintro now ⟨later, past⟩ ⟨start, next, time, rfl⟩
          refine sat_bind (fun completedRequest reached => ∃ first last,
              reached.2 = [(⟨.deliver, before, .ok incoming, after⟩ : PubsubEvent),
                ⟨.world .now, start, .ok time, next⟩,
                ⟨.findCompletedForStream (codec.streamIdText streamId) 1
                  (some (now - service.pubsubResponderWindowMs)), first, .ok completedRequest, last⟩])
            (sat_recorded_call (ResponderOp.findCompletedForStream _ _ _) ?_ fun _ _ _ _ _ =>
              ⟨trivial, trivial⟩) ?_
          · exact fun first _ found last _ => ⟨trivial, first, last, rfl⟩
          rintro completedRequest ⟨final, past⟩ ⟨first, last, rfl⟩
          cases completedRequest with
          | nil =>
              rintro ⟨text, request, event, member, _, _, _, _, rfl⟩
              simp at member
          | cons request rest => exact answer_follows hears rfl ⟨_, rest, first, last, rfl⟩ final
  · exact silent

end Responders

section Soundness

variable {formats : Formats} {codec : PubsubCodec} {deployed : Task → Prop} {thread : Nat} {clock : Int}
  {pubsub next : Pubsub}

/-- The operations of the responder change no table. -/
theorem ResponderOp.perform_world {op : ResponderOp} {reply : Except Failure op.Reply}
    (own : ∀ task, op ≠ .world task) (performed : op.perform formats thread pubsub reply next) :
    next.world = pubsub.world := by
  cases op with
  | world op => exact absurd rfl (own op)
  | deliver => exact congrArg Pubsub.world performed
  | findCompletedForStream streamId limit after => exact congrArg Pubsub.world performed.1
  | findByRequest request => exact congrArg Pubsub.world performed.1
  | sendMessage message =>
      rcases performed with rfl | ⟨_, rfl⟩
      · rfl
      · rfl

/-- The tasks anchor as they do without responders. -/
def AnchorsBeside (formats : Formats) (thread : Nat) :
    Guarantee ResponderOp ResponderOp.Reply Failure Pubsub :=
  fun op before reply after => match op with
    | .world op => Anchors formats thread op before.world reply after.world
    | _ => True

theorem ResponderOp.perform_keepsAway {other : Nat} {op : ResponderOp} {reply : Except Failure op.Reply}
    (different : thread ≠ other) (performed : op.perform formats other pubsub reply next)
    (anchors : AnchorsBeside formats other op pubsub reply next) :
    pubsub.world.KeepsAway thread next.world := by
  by_cases own : ∀ task, op ≠ .world task
  · rw [perform_world own performed]
    exact .of_same rfl rfl rfl rfl rfl
  · push Not at own
    obtain ⟨task, rfl⟩ := own
    obtain ⟨world, performed, rfl⟩ := performed
    exact (WorldOp.perform_moves performed).keepsAway different anchors

theorem ResponderOp.perform_sound {op : ResponderOp} {reply : Except Failure op.Reply}
    (sound : pubsub.world.Sound formats) (performed : op.perform formats thread pubsub reply next)
    (anchors : AnchorsBeside formats thread op pubsub reply next) : next.world.Sound formats := by
  by_cases own : ∀ task, op ≠ .world task
  · rwa [perform_world own performed]
  · push Not at own
    obtain ⟨task, rfl⟩ := own
    obtain ⟨world, performed, rfl⟩ := performed
    exact sound.moves (WorldOp.perform_moves performed) anchors

theorem ResponderOp.perform_extends {op : ResponderOp} {reply : Except Failure op.Reply}
    (performed : op.perform formats thread pubsub reply next) : pubsub.world.Extends next.world := by
  by_cases own : ∀ task, op ≠ .world task
  · rw [perform_world own performed]
    exact .refl _
  · push Not at own
    obtain ⟨task, rfl⟩ := own
    obtain ⟨world, performed, rfl⟩ := performed
    exact (WorldOp.perform_moves performed).extends

/-- The threads anchor and respond side by side. -/
def responding (formats : Formats) (codec : PubsubCodec) (deployed : Task → Prop) :
    Discipline (pubsubSystem formats codec deployed) where
  rely thread first second := first.world.KeepsAway thread second.world
  rely_refl _ _ := .of_same rfl rfl rfl rfl rfl
  rely_trans := World.KeepsAway.trans
  guarantee := AnchorsBeside formats
  dormant _ _ := True
  post _ _ _ := True
  dormant_stable _ _ := trivial
  post_stable _ _ := trivial
  sound different performed anchors := ResponderOp.perform_keepsAway different performed anchors
  drifts := by
    rintro thread before after ⟨world, ⟨later, passed, rfl⟩, rfl⟩
    exact .of_same rfl rfl rfl rfl rfl

/-- An operation of a task takes effect once beside the responders. -/
theorem beside_implements (op : WorldOp) :
    Implements ((anchoring formats deployed).setting thread) (Anchors formats thread)
      ((responding formats codec deployed).setting thread) (AnchorsBeside formats thread) Pubsub.world
      (fun _ => True) op (Prog.call (ResponderOp.world op)) := by
  intro first _ allowed
  refine sat_call (ResponderOp.world op) ?_ ?_
  · rintro before others value after ⟨world, performed, rfl⟩
    exact ⟨allowed before.world others (.ok value) world performed, trivial, before.world, world,
      others, performed,
      .of_same rfl rfl rfl rfl rfl⟩
  · rintro before others error after ⟨world, performed, rfl⟩
    exact ⟨allowed before.world others (.error error) world performed, trivial, before.world, world, others,
      performed, .of_same rfl rfl rfl rfl rfl⟩

/-- The responder performs these operations. -/
def ResponderOp.Reads : ResponderOp → Prop
  | .world op => op = .now
  | _ => True

theorem onMessage_reads (service : IpfsService) : (service.onMessage codec).Confined ResponderOp.Reads := by
  refine confined_bind (confined_call _ trivial) fun incoming => ?_
  split
  · split
    · trivial
    · rename_i message accepted
      cases message with
      | QUERY id streamId =>
          refine confined_bind (confined_call _ rfl) fun now => ?_
          refine confined_bind (confined_call _ trivial) fun completedRequest => ?_
          split
          · trivial
          · refine confined_bind (confined_call _ trivial) fun anchor => ?_
            split
            · trivial
            · exact confined_bind (confined_call _ rfl) fun createdAt => confined_call _ trivial
      | _ => trivial
  · trivial

theorem responding_safe {program : ResponderCode Unit} (sound : pubsub.world.Sound formats)
    (allowed : (pubsubSystem formats codec deployed).entry thread program) :
    (responding formats codec deployed).Safe thread program pubsub := by
  rcases allowed with ⟨task, _, rfl⟩ | ⟨config, rfl⟩
  · have anchored := @Task.run_anchoring formats deployed thread pubsub.world task sound.keyed
    have implemented := sat_implement (@beside_implements formats codec deployed thread)
      (fun _ _ _ _ held => held) (fun _ _ _ _ held => held) trivial anchored
    exact sat_bind (fun _ _ => True) (sat_results implemented (fun _ _ _ => trivial)
      fun _ _ _ => trivial) fun _ _ _ => trivial
  · refine sat_confined (onMessage_reads (IpfsService.make config)) fun op reads before reply after _ => ?_
    cases op with
    | world op =>
        obtain rfl : op = .now := reads
        trivial
    | _ => trivial

variable {last : Pool ResponderOp ResponderOp.Reply Failure Unit Pubsub}
  {trace : List (Record ResponderOp ResponderOp.Reply Failure Pubsub)}

/-- Each state of a run with responders is sound. -/
theorem pubsub_sound (run : Run (pubsubSystem formats codec deployed) (.idle (.start clock)) trace last) :
    ∀ record ∈ trace, record.2.before.world.Sound formats := by
  have started : (World.empty clock).Sound formats := by
    refine ⟨⟨?_, ?_⟩, ?_, ?_⟩
    · rintro proofCid car ⟨⟩
    · rintro first ⟨⟩
    · rintro anchor ⟨⟩
    · rintro request ⟨⟩
  have held := run.guaranteed (responding formats codec deployed) (fun pubsub => pubsub.world.Sound formats)
    (fun thread program pubsub sound _ allowed => responding_safe sound allowed)
    (fun sound performed anchors => ResponderOp.perform_sound sound performed anchors)
    (by
      rintro before after sound ⟨world, ⟨later, passed, rfl⟩, rfl⟩
      exact ⟨⟨sound.keyed.keys, sound.keyed.distinct⟩, sound.proven, sound.completed⟩)
    started (fun _ => trivial)
  exact fun record member => (held.1 record member).1

end Soundness

section Runs

variable {formats : Formats} {codec : PubsubCodec} {deployed : Task → Prop} {thread : Nat} {clock : Int}
  {last : Pool ResponderOp ResponderOp.Reply Failure Unit Pubsub}
  {trace front back : List (Record ResponderOp ResponderOp.Reply Failure Pubsub)}
  {record : Record ResponderOp ResponderOp.Reply Failure Pubsub}

theorem task_worlds (task : Task) : Confined (fun op => ∃ task, op = ResponderOp.world task) (do
    let _ ← ((task.run formats).implement fun op => Prog.call (ResponderOp.world op) :
      ResponderCode (Option Response))
    pure ()) := by
  have plain := confined_mono (task.run_regular formats) fun _ _ => trivial
  exact confined_bind (confined_implement plain fun op _ => confined_call _ ⟨op, rfl⟩) fun _ => trivial

/-- An event of a run belongs to a task, or a responder has done before it what it needs. -/
theorem run_follows
    (run : Run (pubsubSystem formats codec deployed) (.idle (.start clock)) (front ++ record :: back) last) :
    (∃ op, record.2.op = .world op) ∨ ∃ config, InOrder codec (IpfsService.make config) record.2.op
      (record.2.before, eventsOf record.1 front) record.2.reply
      (record.2.after, eventsOf record.1 front ++ [record.2]) := by
  have member : record ∈ front ++ record :: back := by simp
  obtain ⟨program, start, residue, ended, allowed, path⟩ := run.acting rfl member
  rcases allowed with ⟨task, _, rfl⟩ | ⟨config, rfl⟩
  · exact .inl (path.confined (task_worlds task) record.2 (mem_eventsOf.mpr member))
  · have follows := (sat_recorded_path path [] (onMessage_follows (IpfsService.make config) start)).1
      (eventsOf record.1 front) record.2 (eventsOf record.1 back) (eventsOf_split front back record)
    exact .inr ⟨config, follows⟩

/-- Nothing that an earlier event leaves behind is lost until a later one. -/
theorem pubsub_extends
    (run : Run (pubsubSystem formats codec deployed) (.idle (.start clock)) (front ++ record :: back) last)
    {early : Record ResponderOp ResponderOp.Reply Failure Pubsub} (member : early ∈ front) :
    early.2.after.world.Extends record.2.before.world := by
  obtain ⟨start, rest, rfl⟩ := List.append_of_mem member
  rw [List.append_assoc, List.cons_append] at run
  have extended := (run.after (fun pubsub => early.2.after.world.Extends pubsub.world)
    (by
      rintro before after ⟨world, drifts, rfl⟩ grown
      exact grown.trans (World.Drifts.extends drifts))
    (fun later inBack grown =>
      grown.trans (ResponderOp.perform_extends (run.performed later (by simp [inBack]))))
    (.refl _)).1
  exact extended record (by simp)

/-- The request is completed, and none of its stream was completed later. -/
structure World.Latest (streamId : String) (request : Request) (world : World) : Prop where
  stored : request ∈ world.requests.rows
  ofStream : request.streamId = streamId
  completed : request.status = .COMPLETED
  newest : ∀ other ∈ world.requests.rows, other.streamId = streamId → other.status = .COMPLETED →
    other.updatedAt ≤ request.updatedAt

/-- A found request is the latest one, also beyond the window. -/
theorem RequestRepository.FoundCompleted.latest {world : World} {streamId : String} {after : Int}
    {request : Request} {rest : List Request}
    (found : FoundCompleted world.requests streamId 1 (some after) (request :: rest)) :
    world.Latest streamId request := by
  obtain ⟨ordered, permuted, sorted, taken⟩ := found
  cases ordered with
  | nil => cases taken
  | cons first others =>
      obtain ⟨rfl, _⟩ := List.cons.inj taken
      have chosen := permuted.mem_iff.mp List.mem_cons_self
      obtain ⟨stored, ofStream, completed, inWindow⟩ : request ∈ world.requests.rows ∧
          request.streamId = streamId ∧ request.status = .COMPLETED ∧ after ≤ request.updatedAt := by
        simpa using chosen
      refine ⟨stored, ofStream, completed, fun other inTable sameStream isCompleted => ?_⟩
      by_cases late : after ≤ other.updatedAt
      · have listed : other ∈ request :: others := by
          rw [permuted.mem_iff]
          simp [inTable, sameStream, isCompleted, late]
        rcases List.mem_cons.mp listed with rfl | below
        · exact Int.le_refl _
        · exact (List.pairwise_cons.mp sorted).1 other below
      · omega

/-- A request that was found completed has an anchor at each later event. -/
theorem latest_anchored
    (run : Run (pubsubSystem formats codec deployed) (.idle (.start clock)) (front ++ record :: back) last)
    {looked : PubsubEvent} (member : (thread, looked) ∈ front) {streamId : String} {request : Request}
    (finds : FindsLatest streamId request looked) :
    looked.before.world.Latest streamId request ∧
      (∃ anchor ∈ record.2.before.world.anchors.rows, anchor.requestId = request.id) ∧
      ∃ row ∈ record.2.before.world.requests.rows, row.Same request := by
  have inTrace : (thread, looked) ∈ front ++ record :: back := List.mem_append_left _ member
  have sound := pubsub_sound run _ inTrace
  have performed := run.performed _ inTrace
  have grown := pubsub_extends run member
  obtain ⟨after, rest, before, next, rfl⟩ := finds
  change before.world.Sound formats at sound
  change next.world.Extends record.2.before.world at grown
  change (ResponderOp.findCompletedForStream streamId 1 (some after)).perform formats thread before
    (.ok (request :: rest)) next at performed
  obtain ⟨rfl, found⟩ := performed
  have latest := (found _ rfl).latest
  obtain ⟨anchor, stored, ofRequest⟩ := sound.completed request latest.stored latest.completed
  exact ⟨latest, ⟨anchor, grown.anchors anchor stored, ofRequest⟩, grown.requests request latest.stored⟩

/-- A responder never misses the anchor of a completed request. -/
theorem never_misses
    (run : Run (pubsubSystem formats codec deployed) (.idle (.start clock)) trace last) {event : PubsubEvent}
    (member : (thread, event) ∈ trace) (request : Request) : ¬ Misses request event := by
  rintro ⟨before, after, rfl⟩
  obtain ⟨front, back, rfl⟩ := List.append_of_mem member
  have performed := run.performed _ member
  change (ResponderOp.findByRequest request).perform formats thread before (.ok none) after at performed
  rcases run_follows run with ⟨op, same⟩ | ⟨config, id, streamId, heard, timed, looked, past, _, finds⟩
  · cases same
  · change eventsOf thread front = _ at past
    have inFront : (thread, looked) ∈ front := by
      apply mem_eventsOf.mp
      rw [past]
      simp
    obtain ⟨_, ⟨anchor, stored, ofRequest⟩, _⟩ := latest_anchored run inFront finds
    exact Table.lookup_eq_none.mp (performed.2 none rfl).symm anchor stored ofRequest

/-- The response names the anchor commit of the latest completed request of the stream, which a stored Merkle
CAR proves for the request. -/
structure NamesTip (formats : Formats) (codec : PubsubCodec) (history : List PubsubEvent) (before : Pubsub)
    (message : IpfsPubSubPublishQMessage) (id : String) (streamId : Cid) (request : Request)
    (anchor : FreshAnchor) : Prop where
  data : message.data = IpfsService.response codec id streamId anchor
  latest : ∃ looked ∈ history, looked.before.world.Latest (codec.streamIdText streamId) request
  stored : anchor ∈ before.world.anchors.rows
  ofRequest : anchor.requestId = request.id
  proven : ∃ car, before.world.merkleCars anchor.proofCid = some car ∧ anchor.Proves formats request car

/-- A response certifies an anchor to a query that its thread has heard, and it is the only response. -/
theorem responds_once
    (run : Run (pubsubSystem formats codec deployed) (.idle (.start clock)) trace last) {event : PubsubEvent}
    (whole : trace = front ++ (thread, event) :: back) {message : IpfsPubSubPublishQMessage}
    (sends : event.op = .sendMessage message) :
    (∀ other ∈ eventsOf thread front, ¬ Sends other) ∧ ∃ config id streamId request anchor,
      message.topic = config.pubsubTopic ∧
      (∃ heard ∈ eventsOf thread front, Hears codec (IpfsService.make config) id streamId heard) ∧
      NamesTip formats codec (eventsOf thread front) event.before message id streamId request anchor := by
  subst whole
  obtain ⟨op, before, reply, after⟩ := event
  change op = .sendMessage message at sends
  subst sends
  rcases run_follows
      run with ⟨op, same⟩ | ⟨config, id, streamId, request, anchor, heard, timed, looked, found,
    dated, past, hears, clock, finds, anchored, again, topic, data, _⟩
  · cases same
  change eventsOf thread front = _ at past
  have inFront : ∀ {other}, other ∈ [heard, timed, looked, found, dated] → (thread, other) ∈ front :=
    fun inside => mem_eventsOf.mp (past ▸ inside)
  obtain ⟨latest, _, row, inTable, same⟩ := latest_anchored run (inFront (by simp)) finds
  have grown := pubsub_extends run (@inFront found (by simp))
  have member : anchor ∈ before.world.anchors.rows ∧ anchor.requestId = request.id := by
    have performed := run.performed _ (List.mem_append_left _ (@inFront found (by simp)))
    obtain ⟨first, last, rfl⟩ := anchored
    change last.world.Extends before.world at grown
    change (ResponderOp.findByRequest request).perform formats thread first (.ok (some anchor))
        last at performed
    obtain ⟨rfl, lookup⟩ := performed
    obtain ⟨stored, ofRequest⟩ := Table.lookup_mem (lookup _ rfl).symm
    exact ⟨grown.anchors anchor stored, ofRequest⟩
  have sound := pubsub_sound run (thread, ⟨.sendMessage message, before, reply, after⟩) (by simp)
  obtain ⟨proven, inRows, sameId, car, present, prev, stream, commit, parsedCid, parsedStream, idLink,
      holds⟩ :=
    sound.proven anchor member.1
  obtain rfl := Table.eq_of_column id_indexed inRows inTable (sameId.trans (member.2.trans same.id.symm))
  rw [same.cid] at parsedCid
  rw [same.streamId] at parsedStream
  refine ⟨?_, config, id, streamId, request, anchor, topic, ⟨heard, by simp [past], hears⟩, data,
    ⟨looked, by simp [past], latest⟩, member.1, member.2, car, present, prev, stream, commit, parsedCid,
    parsedStream, idLink, holds⟩
  rw [past]
  rintro other inside ⟨again', sent⟩
  obtain ⟨_, _, _, _, rfl, _⟩ := hears
  obtain ⟨_, _, _, _, rfl⟩ := finds
  obtain ⟨_, _, rfl⟩ := anchored
  simp only [List.mem_cons, List.not_mem_nil, or_false] at inside
  rcases inside with rfl | rfl | rfl | rfl | rfl
  · cases sent
  · rw [clock] at sent
    cases sent
  · cases sent
  · cases sent
  · rw [again] at sent
    cases sent

/-- A responder that is done has responded to a query whose stream it found completed. -/
theorem finished_responds
    (run : Run (pubsubSystem formats codec deployed) (.idle (.start clock)) trace last)
    (done : last.threads thread = some (.done ())) {looked : PubsubEvent}
    (member : looked ∈ eventsOf thread trace) {streamId : String} {request : Request}
    (finds : FindsLatest streamId request looked) : ∃ event ∈ eventsOf thread trace, Sends event := by
  obtain ⟨program, start, ended, allowed, path⟩ := run.finished rfl done
  rcases allowed with ⟨task, _, rfl⟩ | ⟨config, rfl⟩
  · obtain ⟨op, same⟩ := path.confined (task_worlds task) looked member
    obtain ⟨_, _, _, _, rfl⟩ := finds
    cases same
  · have ending := (sat_recorded_path path [] (onMessage_follows (IpfsService.make config) start)).2
    rcases ending ⟨streamId, request, looked, member, finds⟩ with sends | ⟨missed, event, inTrace, misses⟩
    · exact sends
    · exact absurd misses (never_misses run (mem_eventsOf.mp inTrace) missed)

/-- In every run, a response names a certified tip of the queried stream, no completed request is without its
anchor, and a responder that found one responds before it is done. -/
theorem pubsub_certified
    (run : Run (pubsubSystem formats codec deployed) (.idle (.start clock)) trace last) :
    (∀ front thread event back message, trace = front ++ (thread, event) :: back →
      event.op = .sendMessage message →
      (∀ other ∈ eventsOf thread front, ¬ Sends other) ∧ ∃ config id streamId request anchor,
        message.topic = config.pubsubTopic ∧
        (∃ heard ∈ eventsOf thread front, Hears codec (IpfsService.make config) id streamId heard) ∧
        NamesTip formats codec (eventsOf thread front) event.before message id streamId request anchor) ∧
    (∀ record ∈ trace, ∀ request, ¬ Misses request record.2) ∧
    ∀ thread, last.threads thread = some (.done ()) → ∀ looked ∈ eventsOf thread trace, ∀ streamId request,
      FindsLatest streamId request looked → ∃ event ∈ eventsOf thread trace, Sends event :=
  ⟨fun _ _ _ _ _ whole sends => responds_once run whole sends,
    fun _ member request => never_misses run member request,
    fun _ done _ member _ _ finds => finished_responds run done member finds⟩

end Runs

section Lone

variable {codec : PubsubCodec} {deployed : Task → Prop}

/-- The tasks run beside the responders as they do without them. -/
def pubsubSimulation : Simulation (casSystem loneFormats deployed) (pubsubSystem loneFormats codec deployed)
    (fun _ label => Resolved label) where
  translate program := do
    let _ ← program.implement fun op => Prog.call (ResponderOp.world op)
    pure ()
  related world pubsub := pubsub.world = world
  starts := by
    rintro thread program ⟨task, deploys, rfl⟩
    exact .inl ⟨task, deploys, rfl⟩
  acts := by
    rintro thread op reply before after pubsub rfl ⟨value, rfl⟩ performed
    exact ⟨.world op, .ok value, _, ⟨after, performed, rfl⟩, rfl, fun next => ⟨_, rfl, rfl⟩⟩
  drifts := by
    rintro before after pubsub rfl drifted
    exact ⟨_, ⟨after, drifted, rfl⟩, rfl⟩

/-- A peer asks for the stream of this request, whatever its message says. -/
def loneCodec (request : Request) : PubsubCodec where
  serialize _ := [1]
  deserialize _ := some (.QUERY "1" (.foreign "bafkqaaa"))
  streamIdText _ := request.streamId

/-- The window of the responder goes this far back. -/
def loneResponder (window : Nat) : IpfsConfig := ⟨.PUBSUB_RESPONDER, "/ceramic", some (window + 1), "self"⟩

/-- A responder answers a query with the anchor of a lone completed request. -/
theorem lone_response {pubsub : Pubsub} {request : Request} {anchor : FreshAnchor}
    (rows : pubsub.world.requests.rows = [request]) (completed : request.status = .COMPLETED)
    (found : pubsub.world.anchors.lookup FreshAnchor.requestId request.id = some anchor) (thread : Nat) :
    ∃ config front message after,
    Path ((pubsubSystem loneFormats (loneCodec request) deployed).undisturbed thread)
      ((IpfsService.make config).onMessage (loneCodec request)) pubsub
      (front ++ [⟨.sendMessage message, pubsub, .ok (), after⟩]) (.done ()) after := by
  let now := pubsub.world.clock
  let window := (now - request.updatedAt).toNat
  let message : IpfsPubSubPublishQMessage :=
    ⟨now, "/ceramic", IpfsService.response (loneCodec request) "1" (.foreign "bafkqaaa") anchor, none⟩
  refine ⟨loneResponder window, [⟨.deliver, pubsub, .ok ⟨true, "peer", []⟩, pubsub⟩,
    ⟨.world .now, pubsub, .ok now, pubsub⟩,
    ⟨.findCompletedForStream request.streamId 1 (some (now - (window + 1 : Nat))), pubsub,
      .ok [request], pubsub⟩,
    ⟨.findByRequest request, pubsub, .ok (some anchor), pubsub⟩, ⟨.world .now, pubsub, .ok now, pubsub⟩],
    message, { pubsub with ipfsQueue := pubsub.ipfsQueue ++ [message] }, ?_⟩
  let setting := (pubsubSystem loneFormats (loneCodec request) deployed).undisturbed thread
  have clock : (ResponderOp.world .now).perform loneFormats thread pubsub (.ok now) pubsub :=
    ⟨pubsub.world, ⟨rfl, rfl⟩, rfl⟩
  apply Path.reply setting .deliver (.ok ⟨true, "peer", []⟩) rfl
  apply Path.reply setting (.world .now) (.ok now) clock
  apply Path.reply setting (.findCompletedForStream request.streamId 1 (some (now - (window + 1 : Nat))))
    (.ok [request])
  · refine ⟨rfl, fun others same => ?_⟩
    obtain rfl := Except.ok.inj same
    have inWindow : now - (window + 1 : Nat) ≤ request.updatedAt := by omega
    have picked : pubsub.world.requests.rows.filter (fun row => row.streamId = request.streamId ∧
        row.status = .COMPLETED ∧ (some (now - (window + 1 : Nat))).all (· ≤ row.updatedAt)) = [request] := by
      rw [rows, List.filter_eq_self]
      intro row member
      obtain rfl := List.mem_singleton.mp member
      exact decide_eq_true ⟨rfl, completed, decide_eq_true inWindow⟩
    exact ⟨[request], by rw [picked], List.pairwise_singleton _ _, rfl⟩
  apply Path.reply setting (.findByRequest request) (.ok (some anchor))
  · refine ⟨rfl, fun other same => ?_⟩
    rw [← Except.ok.inj same, found]
  apply Path.reply setting (.world .now) (.ok now) clock
  apply Path.reply setting (.sendMessage _) (.ok ()) (.inl rfl)
  exact .stop _ _

/-- A peer is told the anchor of the lone request. -/
theorem pubsub_certified_lone : ∃ codec trace last front thread event message,
    Run (pubsubSystem loneFormats codec fun _ => True) (.idle (Pubsub.start 0)) trace last ∧
    trace = front ++ [(thread, event)] ∧ event.op = .sendMessage message ∧
    ∃ config id streamId request anchor, message.topic = config.pubsubTopic ∧
      (∃ heard ∈ eventsOf thread front, Hears codec (IpfsService.make config) id streamId heard) ∧
      NamesTip loneFormats codec (eventsOf thread front) event.before message id streamId request anchor := by
  obtain ⟨cas, anchored, _, request, rows, _, completed⟩ :=
    @lone_request_completed (fun _ => True) (fun _ label => Resolved label)
    trivial trivial fun _ _ resolved _ => resolved
  have initially : (@pubsubSimulation (loneCodec request) fun _ => True).Follows (Cas.start 0)
      (.idle (Pubsub.start 0)) := ⟨rfl, fun _ _ => rfl, by rintro thread program ⟨⟩⟩
  obtain ⟨pool, reached, follows⟩ := initially.run anchored
  have sameWorld : pool.world.world = cas.world := follows.world
  obtain ⟨anchor, stored, ofRequest⟩ :=
    (reaches_sound (.of_under anchored)).completed request (by simp [rows])
    completed
  have found : pool.world.world.anchors.lookup FreshAnchor.requestId request.id = some anchor := by
    rw [sameWorld]
    exact (Table.lookup_eq_some (by simp)).mpr ⟨stored, ofRequest⟩
  obtain ⟨bound, free⟩ := reached.free_above
  obtain ⟨trace, run⟩ := Run.of_reaches reached
  obtain ⟨config, front, message, after, path⟩ := @lone_response (fun _ => True) pool.world request anchor
    (by rw [sameWorld, rows]) completed found bound
  have whole := run.whole (free bound (Nat.le_refl bound)) (Or.inr ⟨config, rfl⟩) path
  rw [List.map_append, List.map_singleton, ← List.append_assoc] at whole
  obtain ⟨_, config, id, streamId, request, anchor, topic, heard, names⟩ :=
    (pubsub_certified whole).1 _ bound _ [] message rfl rfl
  exact ⟨_, _, _, _, bound, _, message, whole, rfl, rfl, config, id, streamId, request, anchor, topic, heard,
    names⟩

end Lone

end CeramicAnchor
