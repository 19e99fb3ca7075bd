import CeramicAnchor.Proof.Batch
import CeramicAnchor.Proof.Moves
import CeramicAnchor.Proof.WorkerOperations

/-
This file follows the history of one queued batch from its message to its acknowledgement.
-/

namespace CeramicAnchor
open Concurrency Storage RequestRepository

/-- An event of one thread. -/
abbrev Happening := Event WorldOp WorldOp.Reply Failure World

section History

variable {history : List Happening} {event : Happening}

/-- The operation was performed with this reply. -/
def Occurred (history : List Happening) (op : WorldOp) (reply : Except Failure op.Reply) : Prop :=
  ∃ before after, (⟨op, before, reply, after⟩ : Happening) ∈ history

theorem occurred_concat {op : WorldOp} {reply : Except Failure op.Reply} :
    Occurred (history ++ [event]) op reply ↔
      Occurred history op reply ∨ ∃ before after, event = ⟨op, before, reply, after⟩ := by
  constructor
  · rintro ⟨before, after, member⟩
    rcases List.mem_append.mp member with old | new
    · exact .inl ⟨before, after, old⟩
    · exact .inr ⟨before, after, (List.mem_singleton.mp new).symm⟩
  · rintro (⟨before, after, old⟩ | ⟨before, after, rfl⟩)
    · exact ⟨before, after, List.mem_append_left _ old⟩
    · exact ⟨before, after, List.mem_append_right _ (List.mem_singleton_self _)⟩

/-- An event of another operation adds nothing about this one. -/
theorem occurred_other {op : WorldOp} {reply : Except Failure op.Reply} (different : event.op ≠ op) :
    Occurred (history ++ [event]) op reply ↔ Occurred history op reply := by
  rw [occurred_concat, or_iff_left]
  rintro ⟨before, after, rfl⟩
  exact different rfl

/-- The event submits a transaction, builds a tree, stores a CAR or changes the anchors. -/
def Repeats (event : Happening) : Prop :=
  match event.op with
  | .buildMerkleTree _ => True
  | .sendTransaction _ => True
  | .importCAR _ => True
  | .storeCarFile _ _ => True
  | .storeWitness _ _ => True
  | _ => event.after.anchors ≠ event.before.anchors

/-- The operation was rejected, or it told that the user has aborted. -/
def Disturbs (event : Happening) : Prop :=
  (∃ error, event.reply = .error error) ∨ ∃ before after, event = ⟨.aborted, before, .ok true, after⟩

/-- The transaction of a batch was sent. -/
def Sent (history : List Happening) : Prop := ∃ root tx, Occurred history (.sendTransaction root) (.ok tx)

/-- A batch anchors the requests that were not replaced when it was loaded. -/
def unreplaced (requests : List Request) : List Request :=
  requests.filter fun request => request.status ≠ .REPLACED

/-- The history has heard this message and loaded these rows, and it has acknowledged nothing. -/
structure Account (heard : Option AnchorBatchQMessage) (loaded : Option (List String × List Request))
    (history : List Happening) : Prop where
  heard_iff : ∀ message, Occurred history .receiveMessage (.ok (some message)) ↔ heard = some message
  loaded_iff : ∀ ids rows, Occurred history (.selectByIds ids) (.ok rows) ↔ loaded = some (ids, rows)
  unacked : ∀ message, ¬ Occurred history (.ack message) (.ok ())
  trees : ∀ candidates tree, Occurred history (.buildMerkleTree candidates) (.ok tree) →
    ∃ ids rows, loaded = some (ids, rows) ∧ (tree.leafNodes.map Candidate.request).Perm (unreplaced rows)

theorem Account.empty : Account none none [] := by
  constructor
  · intro message
    simp [Occurred]
  · intro ids rows
    simp [Occurred]
  · rintro message ⟨before, after, member⟩
    cases member
  · rintro candidates tree ⟨before, after, member⟩
    cases member

variable {heard : Option AnchorBatchQMessage} {loaded : Option (List String × List Request)}

/-- An event of any other operation keeps the account. -/
theorem Account.keep (account : Account heard loaded history) (receives : event.op ≠ .receiveMessage)
    (selects : ∀ ids, event.op ≠ .selectByIds ids) (acks : ∀ message, event.op ≠ .ack message)
    (builds : ∀ candidates, event.op ≠ .buildMerkleTree candidates) :
    Account heard loaded (history ++ [event]) := by
  constructor
  · intro message
    rw [occurred_other receives, account.heard_iff]
  · intro ids rows
    rw [occurred_other (selects ids), account.loaded_iff]
  · intro message
    rw [occurred_other (acks message)]
    exact account.unacked message
  · intro candidates tree
    rw [occurred_other (builds candidates)]
    exact account.trees candidates tree

theorem Account.quiet (account : Account heard loaded history) (quiet : event.op.Quiet) :
    Account heard loaded (history ++ [event]) := by
  apply account.keep
  · intro same
    rw [same] at quiet
    exact quiet
  · intro ids same
    rw [same] at quiet
    exact quiet
  · intro message same
    rw [same] at quiet
    exact quiet
  · intro candidates same
    rw [same] at quiet
    exact quiet

/-- A rejected operation keeps the account. -/
theorem Account.rejected (account : Account heard loaded history) {error : Failure}
    (rejects : event.reply = .error error) : Account heard loaded (history ++ [event]) := by
  have adds : ∀ {op : WorldOp} {value : op.Reply}, Occurred (history ++ [event]) op (.ok value) ↔
      Occurred history op (.ok value) := by
    intro op value
    rw [occurred_concat, or_iff_left]
    rintro ⟨before, after, rfl⟩
    cases rejects
  constructor
  · intro message
    rw [adds, account.heard_iff]
  · intro ids rows
    rw [adds, account.loaded_iff]
  · intro message
    rw [adds]
    exact account.unacked message
  · intro candidates tree
    rw [adds]
    exact account.trees candidates tree

theorem Account.receive (account : Account none none history) (message : AnchorBatchQMessage)
    (before after : World) :
    Account (some message) none (history ++ [⟨.receiveMessage, before, .ok (some message), after⟩]) := by
  constructor
  · intro other
    rw [occurred_concat, account.heard_iff]
    constructor
    · rintro (missing | ⟨_, _, same⟩)
      · cases missing
      · cases same
        rfl
    · intro same
      cases same
      exact .inr ⟨before, after, rfl⟩
  · intro ids rows
    rw [occurred_other (by simp), account.loaded_iff]
  · intro other
    rw [occurred_other (by simp)]
    exact account.unacked other
  · intro candidates tree
    rw [occurred_other (by simp)]
    intro built
    obtain ⟨ids, rows, missing, _⟩ := account.trees candidates tree built
    cases missing

/-- An empty queue tells nothing. -/
theorem Account.silent (account : Account none none history) (before after : World) :
    Account none none (history ++ [⟨.receiveMessage, before, .ok none, after⟩]) := by
  constructor
  · intro message
    rw [occurred_concat, account.heard_iff, or_iff_left]
    rintro ⟨_, _, same⟩
    cases same
  · intro ids rows
    rw [occurred_other (by simp), account.loaded_iff]
  · intro message
    rw [occurred_other (by simp)]
    exact account.unacked message
  · intro candidates tree
    rw [occurred_other (by simp)]
    exact account.trees candidates tree

theorem Account.load (account : Account heard none history) (ids : List String) (rows : List Request)
    (before after : World) :
    Account heard (some (ids, rows)) (history ++ [⟨.selectByIds ids, before, .ok rows, after⟩]) := by
  constructor
  · intro message
    rw [occurred_other (by simp), account.heard_iff]
  · intro otherIds otherRows
    rw [occurred_concat, account.loaded_iff]
    constructor
    · rintro (missing | ⟨_, _, same⟩)
      · cases missing
      · cases same
        rfl
    · intro same
      cases same
      exact .inr ⟨before, after, rfl⟩
  · intro message
    rw [occurred_other (by simp)]
    exact account.unacked message
  · intro candidates tree
    rw [occurred_other (by simp)]
    intro built
    obtain ⟨_, _, missing, _⟩ := account.trees candidates tree built
    cases missing

theorem Account.build {ids : List String} {rows : List Request}
    (account : Account heard (some (ids, rows)) history)
    {candidates : List Candidate} (before after : World) {tree : MerkleCAR}
    (leaves : (tree.leafNodes.map Candidate.request).Perm (unreplaced rows)) :
    Account heard (some (ids, rows))
    (history ++ [⟨.buildMerkleTree candidates, before, .ok tree, after⟩]) := by
  constructor
  · intro message
    rw [occurred_other (by simp), account.heard_iff]
  · intro otherIds otherRows
    rw [occurred_other (by simp), account.loaded_iff]
  · intro message
    rw [occurred_other (by simp)]
    exact account.unacked message
  · intro others other built
    rcases occurred_concat.mp built with old | ⟨_, _, same⟩
    · exact account.trees others other old
    · cases same
      exact ⟨ids, rows, rfl, leaves⟩

/-- These events repeat no work. -/
def Idle (history : List Happening) : Prop := ∀ event ∈ history, ¬ Repeats event

theorem Idle.concat (idle : Idle history) (event : Happening) (rests : ¬ Repeats event) :
    Idle (history ++ [event]) := by
  intro other member
  rcases List.mem_append.mp member with old | new
  · exact idle other old
  · rw [List.mem_singleton.mp new]
    exact rests

/-- The worker was disturbed. -/
def Disturbed (history : List Happening) : Prop := ∃ event ∈ history, Disturbs event

theorem Disturbed.concat (disturbed : Disturbed history) (event : Happening) :
    Disturbed (history ++ [event]) := by
  obtain ⟨other, member, disturbs⟩ := disturbed
  exact ⟨other, List.mem_append_left _ member, disturbs⟩

theorem disturbed_last (history : List Happening) {event : Happening} (disturbs : Disturbs event) :
    Disturbed (history ++ [event]) :=
  ⟨event, List.mem_append_right _ (List.mem_singleton_self _), disturbs⟩

end History

section Worker

variable {formats : Formats} {thread : Nat}

/-- The other threads and the clock move the world. -/
def World.Others (formats : Formats) (thread : Nat) : World → World → Prop :=
  Relation.ReflTransGen fun world next =>
    (∃ (other : Nat) (op : WorldOp) (reply : Except Failure op.Reply), other ≠ thread ∧
      op.perform formats other world reply next) ∨ world.Drifts next

theorem World.Others.extends {world next : World} (others : World.Others formats thread world next) :
    world.Extends next := by
  induction others with
  | refl => exact .refl world
  | tail _ step ih =>
      refine ih.trans ?_
      rcases step with ⟨other, op, reply, _, performed⟩ | drifts
      · exact (WorldOp.perform_moves performed).extends
      · exact drifts.extends

/-- One thread works on the world, and everything else may happen between its operations. -/
def worker (formats : Formats) (thread : Nat) : Setting WorldOp WorldOp.Reply Failure World where
  perform op := op.perform formats thread
  rely := World.Others formats thread
  rely_refl _ := .refl
  rely_trans first second := Relation.ReflTransGen.trans first second

/-- Each operation of these kinds leaves the world as it is. -/
def WorldOp.Listens : WorldOp → Prop
  | .aborted => True
  | .receiveMessage => True
  | .selectByIds _ => True
  | .sleep _ => True
  | .ack _ => True
  | .nack _ => True
  | _ => False

theorem WorldOp.Listens.rests {op : WorldOp} (reads : op.Listens)
    {world next : World} {reply : Except Failure op.Reply}
    (performed : op.perform formats thread world reply next) : ¬ Repeats ⟨op, world, reply, next⟩ := by
  have still : ∀ value, op.Resolves formats thread world value next → next = world := by
    intro value resolves
    cases op with
    | selectByIds ids => exact resolves.2.2
    | aborted | receiveMessage | sleep | ack | nack => exact resolves
    | _ => exact reads.elim
  have same : next = world := by
    match reply, performed with
    | .ok value, resolves => exact still value resolves
    | .error (.rejected _), .inl same => exact same
    | .error (.rejected _), .inr ⟨value, resolves⟩ => exact still value resolves
    | .error .serialization, ⟨_, same⟩ => exact same
    | .error (.thrown _), ⟨_, same⟩ => exact same
  cases op with
  | aborted | receiveMessage | selectByIds | sleep | ack | nack =>
      intro repeats
      exact repeats (congrArg World.anchors same)
  | _ => exact reads.elim

/-- The request of each anchor is anchored. -/
def World.Anchored (ids : List String) (world : World) : Prop :=
  ∀ id ∈ ids, ∃ anchor ∈ world.anchors.rows, anchor.requestId = id

theorem World.Anchored.extends {ids : List String} {world next : World} (anchored : world.Anchored ids)
    (extends_ : world.Extends next) : next.Anchored ids := by
  intro id member
  obtain ⟨anchor, inside, same⟩ := anchored id member
  exact ⟨anchor, extends_.anchors anchor inside, same⟩

/-- The message may be acknowledged when each of its requests was replaced or is anchored. -/
def Done (message : AnchorBatchQMessage) (reached : World × List Happening) : Prop :=
  ∃ rows, Occurred reached.2 .receiveMessage (.ok (some message)) ∧
    Occurred reached.2 (.selectByIds (uniqueIds message.rids)) (.ok rows) ∧
    ∀ rid ∈ message.rids, (∃ row ∈ reached.1.requests.rows, row.id = rid) ∧
      ∃ request ∈ rows, request.id = rid ∧
        (request.status = .REPLACED ∨ ∃ anchor ∈ reached.1.anchors.rows, anchor.requestId = rid)

/-- Only a message that is done is acknowledged. -/
def AcksDone : Guarantee WorldOp WorldOp.Reply Failure (World × List Happening) := fun op before _ _ =>
  ∀ message, op = .ack message → Done message before

theorem acksDone_other {op : WorldOp} {before after : World × List Happening}
    {reply : Except Failure op.Reply}
    (other : ∀ message, op ≠ .ack message) : AcksDone op before reply after :=
  fun message same => absurd same (other message)

/-- What the history of a queued batch knows at each stage. -/
def StageReached (stage : Stage) (reached : World × List Happening) : Prop :=
  match stage with
  | .started => True
  | .submitted _ => Sent reached.2
  | .stored _ _ => Sent reached.2
  | .opened _ _ => Sent reached.2
  | .persisted anchors => Sent reached.2 ∧ reached.1.Anchored (anchors.map FreshAnchor.requestId)
  | .failed => True

theorem Occurred.mono {history later : List Happening} (grows : history ⊆ later) {op : WorldOp}
    {reply : Except Failure op.Reply} (occurred : Occurred history op reply) : Occurred later op reply := by
  obtain ⟨before, after, member⟩ := occurred
  exact ⟨before, after, grows member⟩

theorem Sent.mono {history later : List Happening} (grows : history ⊆ later) (sent : Sent history) :
    Sent later := by
  obtain ⟨root, tx, occurred⟩ := sent
  exact ⟨root, tx, occurred.mono grows⟩

theorem StageReached.mono {stage : Stage} {first second : World × List Happening}
    (held : StageReached stage first) (extends_ : first.1.Extends second.1) (grows : first.2 ⊆ second.2) :
    StageReached stage second := by
  cases stage with
  | started => trivial
  | submitted txHash => exact Sent.mono grows held
  | stored proofCid car => exact Sent.mono grows held
  | opened proofCid car => exact Sent.mono grows held
  | persisted anchors => exact ⟨Sent.mono grows held.1, held.2.extends extends_⟩
  | failed => trivial

/-- The account, the loaded rows and the stage of a queued batch. -/
structure InBatch (message : AnchorBatchQMessage) (rows : List Request) (stage : Stage)
    (reached : World × List Happening) : Prop where
  account : Account (some message) (some (uniqueIds message.rids, rows)) reached.2
  knows : reached.1.Knows rows
  stage : StageReached stage reached

theorem InBatch.rely {message : AnchorBatchQMessage} {rows : List Request} {stage : Stage}
    {first second : World × List Happening} (others : (worker formats thread).recorded.rely first second)
    (held : InBatch message rows stage first) : InBatch message rows stage second := by
  obtain ⟨moved, same⟩ := others
  have extends_ := World.Others.extends moved
  refine ⟨by rw [same]; exact held.account, held.knows.extends extends_, held.stage.mono extends_ ?_⟩
  rw [same]
  exact List.Subset.refl _

/-- An event whose account is kept stays in the batch. -/
theorem InBatch.perform {message : AnchorBatchQMessage} {rows : List Request} {stage : Stage} {op : WorldOp}
    {before after : World × List Happening} {reply : Except Failure op.Reply}
    (performed : (worker formats thread).recorded.perform op before reply after)
    (held : InBatch message rows stage before)
    (account : Account (some message) (some (uniqueIds message.rids, rows))
      (before.2 ++ [⟨op, before.1, reply, after.1⟩])) : InBatch message rows stage after := by
  obtain ⟨moved, added⟩ := performed
  have extends_ := (WorldOp.perform_moves moved).extends
  refine ⟨by rw [added]; exact account, held.knows.extends extends_, held.stage.mono extends_ ?_⟩
  rw [added]
  exact List.subset_append_left _ _

/-- The outline of a queued batch. -/
def queueOutline (formats : Formats) (thread : Nat) (message : AnchorBatchQMessage) (rows : List Request) :
    Outline (worker formats thread).recorded AcksDone formats (unreplaced rows) where
  holds := InBatch message rows
  stable others held := held.rely others
  fails held := ⟨held.account, held.knows, trivial⟩
  quiet quiet performed held := by
    refine ⟨fun message same => ?_, held.perform performed (held.account.quiet quiet)⟩
    rw [same] at quiet
    exact quiet.elim
  builds := by
    intro candidates before reply after selected performed held
    refine ⟨acksDone_other (by simp), ?_⟩
    cases reply with
    | ok tree =>
        have treeFor : tree.TreeFor candidates := performed.1.1
        have leaves := (treeFor.leaves.map Candidate.request).trans selected.requests
        refine ⟨held.perform performed (held.account.build _ _ leaves), fun tree same => ?_⟩
        cases same
        exact treeFor
    | error error =>
        exact ⟨held.perform performed (held.account.rejected rfl), fun tree same => by cases same⟩
  submits := by
    intro root before reply after performed held
    refine ⟨acksDone_other (by simp), ?_⟩
    have kept := held.perform performed (held.account.keep (by simp) (by simp) (by simp) (by simp))
    cases reply with
    | ok tx =>
        refine ⟨kept.account, kept.knows, root, tx, ?_⟩
        rw [performed.2]
        exact occurred_concat.mpr (.inr ⟨_, _, rfl⟩)
    | error error => exact ⟨kept.account, kept.knows, trivial⟩
  stores := by
    intro txHash proofCid car before reply after _ performed held
    refine ⟨acksDone_other (by simp), ?_⟩
    have kept := held.perform performed (held.account.keep (by simp) (by simp) (by simp) (by simp))
    cases reply with
    | ok _ => exact ⟨kept.account, kept.knows, kept.stage⟩
    | error error => exact ⟨kept.account, kept.knows, trivial⟩
  begins := by
    intro proofCid car before reply after performed held
    have kept := held.perform performed (held.account.keep (by simp) (by simp) (by simp) (by simp))
    exact ⟨acksDone_other (by simp), kept, fun _ => ⟨kept.account, kept.knows, kept.stage⟩⟩
  persists := by
    intro proofCid car anchors acceptedRequests before reply after _ _ performed held
    have kept := held.perform performed (held.account.keep (by simp) (by simp) (by simp) (by simp))
    have stored : InBatch message rows (.stored proofCid car) after := ⟨kept.account, kept.knows, kept.stage⟩
    refine ⟨acksDone_other (by simp), stored, fun count same => ⟨kept.account, kept.knows, kept.stage, ?_⟩⟩
    subst same
    obtain ⟨requests, _, _, _, next⟩ := performed.1
    intro id member
    obtain ⟨anchor, inside, rfl⟩ := List.mem_map.mp member
    rw [next]
    exact createAnchors_covers inside

/-- The operation was performed after the others had moved the world. -/
structure Happened (formats : Formats) (thread : Nat) (op : WorldOp) (reply : Except Failure op.Reply)
    (start reached : World × List Happening) (before : World) : Prop where
  others : start.1.Extends before
  performed : op.perform formats thread before reply reached.1
  recorded : reached.2 = start.2 ++ [⟨op, before, reply, reached.1⟩]

namespace Happened

variable {op : WorldOp} {reply : Except Failure op.Reply} {start reached : World × List Happening}
    {before : World}

theorem extends_ (happened : Happened formats thread op reply start reached before) :
    start.1.Extends reached.1 :=
  happened.others.trans (WorldOp.perform_moves happened.performed).extends

theorem idle (happened : Happened formats thread op reply start reached before) (reads : op.Listens)
    (idle : Idle start.2) : Idle reached.2 := by
  rw [happened.recorded]
  exact idle.concat _ (reads.rests happened.performed)

theorem disturbed (happened : Happened formats thread op reply start reached before)
    (disturbed : Disturbed start.2) : Disturbed reached.2 := by
  rw [happened.recorded]
  exact disturbed.concat _

end Happened

/-- A call records its operation, and an acknowledgement is of a message that is done. -/
theorem call_recorded (op : WorldOp) (start : World × List Happening)
    (allowed :
      ∀ message before, op = .ack message → start.1.Extends before → Done message (before, start.2)) :
    Sat (worker formats thread).recorded AcksDone
      (fun value reached => ∃ before, Happened formats thread op (.ok value) start reached before)
      (fun error reached => ∃ before, Happened formats thread op (.error error) start reached before)
      (Prog.call op) start := by
  obtain ⟨world, history⟩ := start
  refine sat_recorded_call op ?_ ?_
  · intro before others value after performed
    have grown := World.Others.extends others
    exact ⟨fun message same => allowed message before same grown, before, grown, performed, rfl⟩
  · intro before others error after performed
    have grown := World.Others.extends others
    exact ⟨fun message same => allowed message before same grown, before, grown, performed, rfl⟩

/-- The batch was given up before its acknowledgement. -/
def GivenUp (message : AnchorBatchQMessage) (history : List Happening) : Prop :=
  ∃ loaded, Account (some message) loaded history ∧
    ∀ rows, loaded = some (uniqueIds message.rids, rows) → rows.length = (uniqueIds message.rids).length →
      unreplaced rows = [] → Idle history ∧ Disturbed history

/-- The ids of a message are found, and all its requests were replaced before it was loaded. -/
def AllReplaced (message : AnchorBatchQMessage) (rows : List Request) : Prop :=
  rows.length = (uniqueIds message.rids).length ∧ unreplaced rows = []

/-- What the whole history of a worker says about its batch. -/
structure Outcome (history : List Happening) : Prop where
  trees : ∀ ids rows candidates tree, Occurred history (.selectByIds ids) (.ok rows) →
    Occurred history (.buildMerkleTree candidates) (.ok tree) →
    (tree.leafNodes.map Candidate.request).Perm (unreplaced rows)
  replaced : ∀ message rows, Occurred history .receiveMessage (.ok (some message)) →
    Occurred history (.selectByIds (uniqueIds message.rids)) (.ok rows) → AllReplaced message rows →
    Idle history ∧ (Disturbed history ∨ Occurred history (.ack message) (.ok ()))
  others : ∀ message rows, Occurred history .receiveMessage (.ok (some message)) →
    Occurred history (.selectByIds (uniqueIds message.rids)) (.ok rows) → ¬ AllReplaced message rows →
    Occurred history (.ack message) (.ok ()) → Sent history

theorem Account.treesOf {heard : Option AnchorBatchQMessage} {loaded : Option (List String × List Request)}
    {history : List Happening} (account : Account heard loaded history) (ids : List String)
    (rows : List Request)
    (candidates : List Candidate) (tree : MerkleCAR)
    (selected : Occurred history (.selectByIds ids) (.ok rows))
    (built : Occurred history (.buildMerkleTree candidates) (.ok tree)) :
    (tree.leafNodes.map Candidate.request).Perm (unreplaced rows) := by
  obtain ⟨otherIds, otherRows, same, leaves⟩ := account.trees candidates tree built
  have found := (account.loaded_iff ids rows).mp selected
  rw [same] at found
  cases found
  exact leaves

/-- Nothing was received yet. -/
theorem Outcome.unheard {loaded : Option (List String × List Request)} {history : List Happening}
    (account : Account none loaded history) : Outcome history where
  trees := account.treesOf
  replaced message rows heard := by
    have missing := (account.heard_iff message).mp heard
    cases missing
  others message rows heard := by
    have missing := (account.heard_iff message).mp heard
    cases missing

theorem GivenUp.outcome {message : AnchorBatchQMessage} {history : List Happening}
    (givenUp : GivenUp message history) : Outcome history := by
  obtain ⟨loaded, account, spared⟩ := givenUp
  constructor
  · exact account.treesOf
  · intro other rows heard selected all
    have same := (account.heard_iff other).mp heard
    cases same
    have found := spared rows ((account.loaded_iff _ rows).mp selected) all.1 all.2
    exact ⟨found.1, .inl found.2⟩
  · intro other rows _ _ _ acked
    exact absurd acked (account.unacked other)

/-- A read was rejected, or it told that the user has aborted. -/
structure Broken (start reached : World × List Happening) : Prop where
  keeps : ∀ {heard : Option AnchorBatchQMessage} {loaded : Option (List String × List Request)},
    Account heard loaded start.2 → Account heard loaded reached.2
  idle : Idle start.2 → Idle reached.2
  disturbed : Disturbed reached.2

theorem Happened.rejects {op : WorldOp} {error : Failure} {start reached : World × List Happening}
    {before : World}
    (happened : Happened formats thread op (.error error) start reached before) (reads : op.Listens) :
    Broken start reached := by
  refine ⟨fun account => ?_, happened.idle reads, ?_⟩
  · rw [happened.recorded]
    exact account.rejected rfl
  · rw [happened.recorded]
    exact disturbed_last _ (.inl ⟨error, rfl⟩)

theorem Broken.givenUp {start reached : World × List Happening} (broken : Broken start reached)
    {message : AnchorBatchQMessage} {loaded : Option (List String × List Request)}
    (account : Account (some message) loaded start.2) (idle : Idle start.2) : GivenUp message reached.2 :=
  ⟨loaded, broken.keeps account, fun _ _ _ _ => ⟨broken.idle idle, broken.disturbed⟩⟩

/-- The worker goes on only when the user has not aborted. -/
theorem throwIfAborted_recorded (text : String) (start : World × List Happening) :
    Sat (worker formats thread).recorded AcksDone
      (fun _ reached => ∃ before, Happened formats thread .aborted (.ok false) start reached before)
      (fun _ reached => Broken start reached) (AnchorService.throwIfAborted text) start := by
  have asked : Sat (worker formats thread).recorded AcksDone
      (fun aborted reached => ∃ before, Happened formats thread .aborted (.ok aborted) start reached before)
      (fun _ reached => Broken start reached) (Prog.call WorldOp.aborted) start := by
    refine sat_results (call_recorded .aborted start fun _ _ same => by cases same)
      (fun _ _ held => held) ?_
    rintro error reached ⟨before, happened⟩
    exact happened.rejects trivial
  refine sat_bind _ asked ?_
  rintro aborted reached ⟨before, happened⟩
  cases aborted with
  | false => exact ⟨before, happened⟩
  | true =>
      refine ⟨fun account => ?_, happened.idle trivial, ?_⟩
      · rw [happened.recorded]
        exact account.quiet trivial
      · rw [happened.recorded]
        exact disturbed_last _ (.inr ⟨before, reached.1, rfl⟩)

/-- The batch is loaded with one row for each id. -/
structure Loaded (message : AnchorBatchQMessage) (rows : List Request)
    (reached : World × List Happening) : Prop where
  account : Account (some message) (some (uniqueIds message.rids, rows)) reached.2
  idle : Idle reached.2
  knows : reached.1.Knows rows
  found : rows.length = (uniqueIds message.rids).length
  covers : ∀ rid ∈ message.rids, ∃ request ∈ rows, request.id = rid

/-- As many distinct rows as wanted ids are all the wanted rows. -/
theorem covers_of_length {table : RequestTable} {ids : List String} {rows : List Request}
    (selected : rows.Perm (table.rows.filter fun request => request.id ∈ ids))
    (found : rows.length = ids.length)
    {id : String} (member : id ∈ ids) : ∃ request ∈ rows, request.id = id := by
  have inside : rows.map Request.id ⊆ ids := by
    intro other mapped
    obtain ⟨request, inRows, rfl⟩ := List.mem_map.mp mapped
    exact of_decide_eq_true (List.mem_filter.mp (selected.mem_iff.mp inRows)).2
  have distinct : (rows.map Request.id).Nodup := RequestRepository.ids_nodup selected
  have same : (rows.map Request.id).Perm ids :=
    (List.subperm_of_subset distinct inside).perm_of_length_le (by rw [List.length_map, found])
  exact List.mem_map.mp (same.mem_iff.mpr member)

theorem findByIds_recorded {message : AnchorBatchQMessage} {start : World × List Happening}
    (account : Account (some message) none start.2) (idle : Idle start.2) :
    Sat (worker formats thread).recorded AcksDone (fun rows reached => Loaded message rows reached)
      (fun _ reached => GivenUp message reached.2) (findByIds message.rids) start := by
  have selected : Sat (worker formats thread).recorded AcksDone
      (fun rows reached => ∃ before,
        Happened formats thread (.selectByIds (uniqueIds message.rids)) (.ok rows) start reached before)
      (fun _ reached => GivenUp message reached.2)
      (Prog.call (WorldOp.selectByIds (uniqueIds message.rids))) start := by
    refine sat_results
      (call_recorded (.selectByIds (uniqueIds message.rids)) start fun _ _ same => by cases same)
      (fun _ _ held => held) ?_
    rintro error reached ⟨before, happened⟩
    exact (happened.rejects trivial).givenUp account idle
  refine sat_bind _ selected ?_
  rintro rows ⟨world, history⟩ ⟨before, happened⟩
  have recorded : history = start.2 ++ [⟨.selectByIds (uniqueIds message.rids), before, .ok rows, world⟩] :=
    happened.recorded
  have loaded : Account (some message) (some (uniqueIds message.rids, rows)) history := by
    rw [recorded]
    exact account.load _ rows before world
  obtain ⟨permuted, _, same⟩ := happened.performed
  dsimp only
  split
  · rename_i missing
    refine ⟨_, loaded, fun others same found => ?_⟩
    cases same
    exact absurd found missing
  · rename_i complete
    have found := not_not.mp complete
    refine ⟨loaded, happened.idle trivial idle, fun request member => ?_, found, fun rid member => ?_⟩
    · have inTable := (List.mem_filter.mp (permuted.mem_iff.mp member)).1
      refine ⟨request, ?_, .refl request⟩
      rw [show world = before from same]
      exact inTable
    · exact covers_of_length permuted found (mem_uniqueIds.mpr member)

/-- The requests of the batch were replaced or are anchored, and only anchoring was work. -/
structure Finished (message : AnchorBatchQMessage) (rows : List Request)
    (reached : World × List Happening) : Prop where
  account : Account (some message) (some (uniqueIds message.rids, rows)) reached.2
  knows : reached.1.Knows rows
  found : rows.length = (uniqueIds message.rids).length
  covers : ∀ rid ∈ message.rids, ∃ request ∈ rows, request.id = rid
  anchored : reached.1.Anchored ((unreplaced rows).map Request.id)
  work : (unreplaced rows = [] ∧ Idle reached.2) ∨ (unreplaced rows ≠ [] ∧ Sent reached.2)

theorem mem_unreplaced {rows : List Request} {request : Request} :
    request ∈ unreplaced rows ↔ request ∈ rows ∧ request.status ≠ .REPLACED := by
  simp [unreplaced]

/-- There is nothing to anchor when all requests were replaced. -/
theorem AnchorService.anchorRequestsOf_replaced (service : AnchorService) {fuel : Nat} {rows : List Request}
    (empty : unreplaced rows = []) : service.anchorRequestsOf formats fuel rows = pure () := by
  unfold anchorRequestsOf
  exact if_pos (by rw [show rows.filter _ = unreplaced rows from rfl, empty]; rfl)

/-- The batch of a loaded message is given up, or it is finished. -/
theorem anchorRequestsOf_recorded {service : AnchorService} (fuel : Nat) {message : AnchorBatchQMessage}
    {rows : List Request} {start : World × List Happening} (loaded : Loaded message rows start) :
    Sat (worker formats thread).recorded AcksDone (fun _ reached => Finished message rows reached)
      (fun _ reached => GivenUp message reached.2) (service.anchorRequestsOf formats fuel rows) start := by
  by_cases empty : unreplaced rows = []
  · rw [service.anchorRequestsOf_replaced empty]
    refine ⟨loaded.account, loaded.knows, loaded.found, loaded.covers, ?_, .inl ⟨empty, loaded.idle⟩⟩
    rw [empty]
    rintro id ⟨⟩
  · let outline := queueOutline formats thread message rows
    have started : outline.holds .started start := ⟨loaded.account, loaded.knows, trivial⟩
    have reverts : ∀ op, op.GivesBack → ∀ before reply after,
        (worker formats thread).recorded.perform op before reply after → outline.holds .failed before →
        AcksDone op before reply after ∧ outline.holds .failed after := by
      intro op givesBack before reply after performed held
      have others : op ≠ .receiveMessage ∧ (∀ ids, op ≠ .selectByIds ids) ∧ (∀ message, op ≠ .ack message) ∧
          ∀ candidates, op ≠ .buildMerkleTree candidates := by
        cases op with
        | now | updateRequests => simp
        | _ => exact givesBack.elim
      obtain ⟨receives, selects, acks, builds⟩ := others
      exact ⟨acksDone_other acks, held.perform performed (held.account.keep receives selects acks builds)⟩
    refine sat_results (outline.anchorRequestsOf_sat fuel rows reverts rfl started) ?_ ?_
    · rintro _ reached (⟨nothing, _⟩ | ⟨proofCid, car, anchors, complete, inBatch⟩)
      · exact absurd nothing empty
      · have persisted := inBatch.stage
        refine ⟨inBatch.account, inBatch.knows, loaded.found, loaded.covers, ?_, .inr ⟨empty, persisted.1⟩⟩
        intro id mapped
        obtain ⟨request, member, rfl⟩ := List.mem_map.mp mapped
        obtain ⟨anchor, inside, same⟩ := complete.covers request member
        obtain ⟨row, stored, sameId⟩ := persisted.2 _ (List.mem_map.mpr ⟨anchor, inside, rfl⟩)
        exact ⟨row, stored, sameId.trans same⟩
    · intro error reached inBatch
      refine ⟨_, inBatch.account, fun others same _ nothing => ?_⟩
      cases same
      exact absurd nothing empty

/-- A read that resolves leaves a finished batch finished. -/
theorem Finished.reads {message : AnchorBatchQMessage} {rows : List Request}
    {start reached : World × List Happening}
    {op : WorldOp} {reply : Except Failure op.Reply} {before : World} (finished : Finished message rows start)
    (happened : Happened formats thread op reply start reached before) (reads : op.Listens)
    (account : Account (some message) (some (uniqueIds message.rids, rows)) reached.2) :
    Finished message rows reached := by
  refine ⟨account, finished.knows.extends happened.extends_, finished.found, finished.covers,
    finished.anchored.extends happened.extends_, ?_⟩
  rcases finished.work with ⟨empty, idle⟩ | ⟨work, sent⟩
  · exact .inl ⟨empty, happened.idle reads idle⟩
  · refine .inr ⟨work, sent.mono ?_⟩
    rw [happened.recorded]
    exact List.subset_append_left _ _

theorem Finished.broken {message : AnchorBatchQMessage} {rows : List Request}
    {start reached : World × List Happening}
    (finished : Finished message rows start) (broken : Broken start reached) : GivenUp message reached.2 := by
  refine ⟨_, broken.keeps finished.account, fun others same _ nothing => ?_⟩
  cases same
  rcases finished.work with ⟨_, idle⟩ | ⟨work, _⟩
  · exact ⟨broken.idle idle, broken.disturbed⟩
  · exact absurd nothing work

theorem Finished.done {message : AnchorBatchQMessage} {rows : List Request} {start : World × List Happening}
    (finished : Finished message rows start) {before : World} (extends_ : start.1.Extends before) :
    Done message (before, start.2) := by
  refine ⟨rows, (finished.account.heard_iff message).mpr rfl, (finished.account.loaded_iff _ rows).mpr rfl,
    fun rid member => ?_⟩
  obtain ⟨request, inRows, same⟩ := finished.covers rid member
  constructor
  · obtain ⟨row, inTable, sameRow⟩ := finished.knows.extends extends_ request inRows
    exact ⟨row, inTable, sameRow.id.trans same⟩
  · refine ⟨request, inRows, same, ?_⟩
    by_cases replaced : request.status = .REPLACED
    · exact .inl replaced
    · have anchored := finished.anchored.extends extends_ request.id
        (List.mem_map.mpr ⟨request, mem_unreplaced.mpr ⟨inRows, replaced⟩, rfl⟩)
      rw [same] at anchored
      exact .inr anchored

/-- The history after the acknowledgement. -/
theorem Finished.acked {message : AnchorBatchQMessage} {rows : List Request}
    {start reached : World × List Happening} {before : World} (finished : Finished message rows start)
    (happened : Happened formats thread (.ack message) (.ok ()) start reached before) :
    Outcome reached.2 := by
  have others : ∀ {op : WorldOp} {reply : Except Failure op.Reply}, op ≠ .ack message →
      (Occurred reached.2 op reply ↔ Occurred start.2 op reply) := by
    intro op reply different
    rw [happened.recorded]
    exact occurred_other fun same => different same.symm
  have known : ∀ ids found, Occurred reached.2 (.selectByIds ids) (.ok found) → found = rows := by
    intro ids found selected
    have same := (finished.account.loaded_iff ids found).mp ((others (by simp)).mp selected)
    cases same
    rfl
  have heard : ∀ other, Occurred reached.2 .receiveMessage (.ok (some other)) → other = message := by
    intro other received
    have same := (finished.account.heard_iff other).mp ((others (by simp)).mp received)
    cases same
    rfl
  constructor
  · intro ids found candidates tree selected built
    exact finished.account.treesOf ids found candidates tree ((others (by simp)).mp selected)
      ((others (by simp)).mp built)
  · intro other found received selected all
    obtain rfl := heard other received
    obtain rfl := known _ found selected
    rcases finished.work with ⟨_, idle⟩ | ⟨work, _⟩
    · refine ⟨happened.idle trivial idle, .inr ?_⟩
      rw [happened.recorded]
      exact occurred_concat.mpr (.inr ⟨_, _, rfl⟩)
    · exact absurd all.2 work
  · intro other found received selected some_ _
    obtain rfl := heard other received
    obtain rfl := known _ found selected
    rcases finished.work with ⟨empty, _⟩ | ⟨_, sent⟩
    · exact absurd ⟨finished.found, empty⟩ some_
    · exact sent.mono (by rw [happened.recorded]; exact List.subset_append_left _ _)

/-- A worker that rejects has put its message back, and it has acknowledged nothing. -/
structure PutBack (history : List Happening) : Prop where
  nacked : ∀ message, Occurred history .receiveMessage (.ok (some message)) →
    ∃ reply, Occurred history (.nack message) reply
  unacked : ∀ message, ¬ Occurred history (.ack message) (.ok ())

theorem PutBack.unheard {loaded : Option (List String × List Request)} {history : List Happening}
    (account : Account none loaded history) : PutBack history := by
  refine ⟨fun message heard => ?_, account.unacked⟩
  have missing := (account.heard_iff message).mp heard
  cases missing

theorem GivenUp.nack {message : AnchorBatchQMessage} {start reached : World × List Happening} {before : World}
    {reply : Except Failure (WorldOp.nack message).Reply} (givenUp : GivenUp message start.2)
    (happened : Happened formats thread (.nack message) reply start reached before) :
    Outcome reached.2 ∧ PutBack reached.2 := by
  obtain ⟨loaded, account, spared⟩ := givenUp
  have kept : Account (some message) loaded reached.2 := by
    rw [happened.recorded]
    exact account.keep (by simp) (by simp) (by simp) (by simp)
  have still : GivenUp message reached.2 := by
    refine ⟨loaded, kept, fun rows same found empty => ?_⟩
    obtain ⟨idle, disturbed⟩ := spared rows same found empty
    exact ⟨happened.idle trivial idle, happened.disturbed disturbed⟩
  refine ⟨still.outcome, fun other heard => ?_, kept.unacked⟩
  have same := (kept.heard_iff other).mp heard
  cases same
  refine ⟨reply, ?_⟩
  rw [happened.recorded]
  exact occurred_concat.mpr (.inr ⟨_, _, rfl⟩)

/-- The part of the worker that may put its message back. -/
theorem batch_recorded {service : AnchorService} (fuel : Nat) {message : AnchorBatchQMessage}
    {start : World × List Happening} (account : Account (some message) none start.2) (idle : Idle start.2) :
    Sat (worker formats thread).recorded AcksDone (fun _ reached => Outcome reached.2)
      (fun _ reached => GivenUp message reached.2)
      (do
        let requests ← findByIds message.rids
        service.anchorLoaded formats fuel message requests) start := by
  refine sat_bind _ (findByIds_recorded account idle) fun rows selected loaded => ?_
  refine sat_bind (fun _ reached => Loaded message rows reached) ?_ fun _ asked stillLoaded => ?_
  · refine sat_results (throwIfAborted_recorded _ selected) ?_ ?_
    · rintro _ reached ⟨before, happened⟩
      refine ⟨?_, happened.idle trivial loaded.idle, loaded.knows.extends happened.extends_, loaded.found,
        loaded.covers⟩
      rw [happened.recorded]
      exact loaded.account.quiet trivial
    · intro error reached broken
      exact broken.givenUp loaded.account loaded.idle
  refine sat_bind _ (anchorRequestsOf_recorded fuel stillLoaded) fun _ anchored finished => ?_
  refine sat_bind (fun _ reached => Finished message rows reached) ?_ fun _ slept stillFinished => ?_
  · refine sat_results (call_recorded (WorldOp.sleep 5000) anchored fun _ _ same => by cases same) ?_ ?_
    · rintro _ reached ⟨before, happened⟩
      refine finished.reads happened trivial ?_
      rw [happened.recorded]
      exact finished.account.quiet trivial
    · rintro error reached ⟨before, happened⟩
      exact finished.broken (happened.rejects trivial)
  have done : ∀ other before, WorldOp.ack message = .ack other → slept.1.Extends before →
      Done other (before, slept.2) := by
    intro other before same extends_
    cases same
    exact stillFinished.done extends_
  refine sat_bind (fun _ reached => Outcome reached.2) ?_ fun _ reached outcome => outcome
  refine sat_results (call_recorded (WorldOp.ack message) slept done) ?_ ?_
  · rintro _ reached ⟨before, happened⟩
    exact stillFinished.acked happened
  · rintro error reached ⟨before, happened⟩
    exact stillFinished.broken (happened.rejects trivial)

/-- The whole history of a worker that takes one message. -/
theorem anchorNextQueuedBatch_recorded (service : AnchorService) (fuel : Nat) (start : World) :
    Sat (worker formats thread).recorded AcksDone (fun _ reached => Outcome reached.2)
      (fun _ reached => Outcome reached.2 ∧ PutBack reached.2)
      (service.anchorNextQueuedBatch formats fuel) (start, []) := by
  have unheard : ∀ {history : List Happening}, Account none none history → Outcome history ∧
      PutBack history :=
    fun account => ⟨.unheard account, .unheard account⟩
  refine sat_bind (fun _ reached => Account none none reached.2 ∧ Idle reached.2) ?_ ?_
  · refine sat_results (throwIfAborted_recorded _ _) ?_ ?_
    · rintro _ reached ⟨before, happened⟩
      refine ⟨?_, happened.idle trivial (fun _ member => by cases member)⟩
      rw [happened.recorded]
      exact Account.empty.quiet trivial
    · exact fun error reached broken => unheard (broken.keeps Account.empty)
  rintro _ asked ⟨account, idle⟩
  split
  · exact unheard account
  refine sat_bind (fun batchMessage reached => Account batchMessage none reached.2 ∧
    (batchMessage ≠ none → Idle reached.2)) ?_ ?_
  · refine sat_results (call_recorded WorldOp.receiveMessage asked fun _ _ same => by cases same) ?_ ?_
    · rintro batchMessage reached ⟨before, happened⟩
      cases batchMessage with
      | none =>
          refine ⟨?_, fun received => absurd rfl received⟩
          rw [happened.recorded]
          exact account.silent before reached.1
      | some message =>
          refine ⟨?_, fun _ => happened.idle trivial idle⟩
          rw [happened.recorded]
          exact account.receive message before reached.1
    · rintro error reached ⟨before, happened⟩
      exact unheard ((happened.rejects trivial).keeps account)
  rintro (_ | message) received ⟨account, idle⟩
  · exact (unheard account).1
  · have idle := idle (Option.some_ne_none message)
    refine sat_handle _ (batch_recorded fuel account idle) fun error reached givenUp => ?_
    refine sat_bind (fun _ last => Outcome last.2 ∧ PutBack last.2) ?_ fun _ last closed => closed
    refine sat_results (call_recorded (WorldOp.nack message) reached fun _ _ same => by cases same)
      ?_ ?_
    · rintro _ last ⟨before, happened⟩
      exact givenUp.nack happened
    · rintro error last ⟨before, happened⟩
      exact givenUp.nack happened

end Worker

end CeramicAnchor
