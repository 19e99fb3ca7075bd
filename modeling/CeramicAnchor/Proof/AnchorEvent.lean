import CeramicAnchor.Proof.ProcessingTimeout
import CeramicAnchor.Proof.ReadyBatch

/-
This file proves what one call of the scheduler leaves ready and when it emits an anchor event.
-/

namespace CeramicAnchor
open Concurrency Storage RequestRepository Prog

variable {formats : Formats} {thread : Nat} {world next : World}

section Setting

/-- Time passes, and the ready requests are among those of before. -/
structure World.Steady (thread : Nat) (world next : World) : Prop where
  passed : world.clock ≤ next.clock
  own : next.transactions thread = world.transactions thread
  ready : ∀ request ∈ next.requests.rows, request.status = .READY → request ∈ world.requests.rows

theorem World.Steady.refl (thread : Nat) (world : World) : world.Steady thread world :=
  ⟨Int.le_refl _, rfl, fun _ member _ => member⟩

theorem World.Steady.trans {first second third : World} (head : first.Steady thread second)
    (tail : second.Steady thread third) : first.Steady thread third where
  passed := Int.le_trans head.passed tail.passed
  own := tail.own.trans head.own
  ready request member ready := head.ready request (tail.ready request member ready) ready

/-- The workers and the clock move the world, and no other scheduler does. -/
def World.OthersWork (formats : Formats) (thread : Nat) : World → World → Prop :=
  Relation.ReflTransGen fun world next =>
    (∃ (other : Nat) (op : WorldOp) (reply : Except Failure op.Reply), other ≠ thread ∧ op.LeavesReady ∧
      op.perform formats other world reply next) ∨ world.Drifts next

theorem World.OthersWork.steady (others : World.OthersWork formats thread world next) :
    world.Steady thread next := by
  induction others with
  | refl => exact .refl thread world
  | tail _ step ih =>
      refine ih.trans ?_
      rcases step with ⟨other, op, reply, different, leaves, performed⟩ | ⟨later, passed, rfl⟩
      · have moves := WorldOp.perform_moves performed
        have kept := moves.others different.symm
        exact ⟨kept.1, kept.2, moves.ready_subset leaves⟩
      · exact ⟨passed, rfl, fun _ member _ => member⟩

/-- One scheduler calls, and the workers move between its operations. -/
def ticking (formats : Formats) (thread : Nat) : Setting WorldOp WorldOp.Reply Failure World where
  perform op := op.perform formats thread
  rely := World.OthersWork formats thread
  rely_refl _ := .refl
  rely_trans first second := Relation.ReflTransGen.trans first second

end Setting

section Histories

/-- The transaction of this event has moved a request to READY or stamped a ready one. -/
def WritesRows (thread : Nat) : Happening → Prop
  | ⟨.commit transaction, before, .ok value, after⟩ => ∃ opened last,
      before.transactions thread = some opened ∧
      Evaluates Request.id opened.snapshot opened.began transaction.body value last ∧
      CommitsSnapshot Request.id opened.snapshot before.requests last.pending after.requests ∧
      last.pending ≠ []
  | _ => False

def IsEmission : Happening → Bool
  | ⟨.emitAnchorEvent, _, _, _⟩ => true
  | _ => false

/-- These are the attempts to emit an anchor event. -/
def emissions (history : List Happening) : List Happening := history.filter IsEmission

/-- Each ready request was stamped after the deadline, or since the start of the call. -/
def World.Current (start readyRetryIntervalMS : Int) (world : World) : Prop :=
  ∀ request ∈ world.requests.rows, request.status = .READY →
    start - readyRetryIntervalMS < request.updatedAt ∨ start ≤ request.updatedAt

theorem World.Current.steady {start interval : Int} (current : world.Current start interval)
    (steady : world.Steady thread next) : next.Current start interval :=
  fun request member ready => current request (steady.ready request member ready) ready

/-- The call has neither written nor emitted yet. -/
structure Before (thread : Nat) (start : Int) (reached : World × List Happening) : Prop where
  later : start ≤ reached.1.clock
  unwritten : ∀ event ∈ reached.2, ¬ WritesRows thread event
  silent : emissions reached.2 = []

/-- The call knows whether it has written, and it has not emitted yet. -/
structure Prepared (thread : Nat) (start interval : Int) (emits : Bool)
    (reached : World × List Happening) : Prop where
  current : reached.1.Current start interval
  written : emits = true ↔ ∃ event ∈ reached.2, WritesRows thread event
  silent : emissions reached.2 = []

variable {start interval : Int} {first second before after : World × List Happening} {op : WorldOp}
  {reply : Except Failure op.Reply}

theorem Before.rely (others : (ticking formats thread).recorded.rely first second)
    (held : Before thread start first) : Before thread start second := by
  obtain ⟨moved, same⟩ := others
  refine ⟨Int.le_trans held.later moved.steady.passed, ?_, ?_⟩
  · rw [same]
    exact held.unwritten
  · rw [same]
    exact held.silent

theorem emissions_concat {history : List Happening} {event : Happening} (other : IsEmission event = false) :
    emissions (history ++ [event]) = emissions history := by
  simp [emissions, other]

/-- An event that writes nothing keeps the call where it is. -/
theorem Before.perform (held : Before thread start before)
    (performed : (ticking formats thread).recorded.perform op before reply after)
    (passed : before.1.clock ≤ after.1.clock)
    (unwritten : ¬ WritesRows thread ⟨op, before.1, reply, after.1⟩)
    (silent : IsEmission ⟨op, before.1, reply, after.1⟩ = false) : Before thread start after := by
  refine ⟨Int.le_trans held.later passed, fun event member => ?_, ?_⟩
  · rw [performed.2] at member
    rcases List.mem_append.mp member with old | new
    · exact held.unwritten event old
    · rwa [List.mem_singleton.mp new]
  · rw [performed.2, emissions_concat silent]
    exact held.silent

end Histories

section Transactions

variable {start interval : Int} {before after : World × List Happening}

/-- The open transaction of the call has seen every ready request. -/
structure Opened (thread : Nat) (start : Int) (reached : World × List Happening) : Prop where
  idle : Before thread start reached
  snapshot : ∃ opened, reached.1.transactions thread = some opened ∧ start ≤ opened.began ∧
    ∀ request ∈ reached.1.requests.rows, request.status = .READY → request ∈ opened.snapshot.rows

theorem Opened.rely (others : (ticking formats thread).recorded.rely before after)
    (held : Opened thread start before) : Opened thread start after := by
  obtain ⟨opened, own, later, seen⟩ := held.snapshot
  have steady := others.1.steady
  refine ⟨held.idle.rely others, opened, steady.own.trans own, later, fun request member ready => ?_⟩
  exact seen request (steady.ready request member ready) ready

/-- The transaction has written exactly when the call goes on to emit. -/
theorem written_iff {transaction : RequestTransaction} {value : transaction.Result} {emits : Bool}
    (agrees : ∀ opened last, before.1.transactions thread = some opened →
      Evaluates Request.id opened.snapshot opened.began transaction.body value last →
      (emits = true ↔ last.pending ≠ []))
    (idle : Before thread start before)
    (performed : (ticking formats thread).recorded.perform (.commit transaction) before (.ok value) after) :
    emits = true ↔ ∃ event ∈ after.2, WritesRows thread event := by
  rw [performed.2]
  constructor
  · intro emitted
    obtain ⟨requests, committed, next⟩ := performed.1
    obtain ⟨opened, last, own, evaluates, _, commit⟩ := committed.exists_
    refine ⟨_, List.mem_append_right _ (List.mem_singleton_self _), opened, last, own, evaluates, ?_,
      (agrees opened last own evaluates).mp emitted⟩
    rw [next]
    exact commit
  · rintro ⟨event, member, writes⟩
    rcases List.mem_append.mp member with old | new
    · exact absurd writes (idle.unwritten event old)
    · rw [List.mem_singleton.mp new] at writes
      obtain ⟨opened, last, own, evaluates, _, nonempty⟩ := writes
      exact (agrees opened last own evaluates).mpr nonempty

theorem refreshed_agrees {snapshot : RequestTable} {earliest : Int} {count : Nat} {last : RequestProgress}
    (refreshed : Refreshed snapshot interval earliest count last) : decide (count ≠ 0) = true ↔
    last.pending ≠ [] := by
  cases refreshed with
  | nothing pending waiting => simp [pending]
  | all some_ later nonempty distinct covers pending => simp [pending, some_, nonempty]

/-- A refresh leaves only current requests ready. -/
theorem Opened.refresh {count : Nat} (held : Opened thread start before)
    (performed : (ticking formats thread).recorded.perform (.commit (.refreshReady interval)) before
      (.ok (count : Nat)) after) : Prepared thread start interval (decide (count ≠ 0)) after := by
  refine ⟨?_, written_iff (fun opened last _ evaluates => ?_) held.idle performed, ?_⟩
  · obtain ⟨opened, own, early, seen⟩ := held.snapshot
    obtain ⟨requests, committed, next⟩ := performed.1
    obtain ⟨transaction, last, current, evaluates, _, commit⟩ := committed.exists_
    obtain rfl := Option.some.inj (own.symm.trans current)
    have rows : after.1.requests = before.1.requests.publish Request.id last.pending := by
      rw [next]
      exact commit.published
    have refreshed := evaluates.spec (refreshReady_refreshed interval opened.began)
    intro request member ready
    rw [rows] at member
    cases refreshed with
    | nothing pending waiting =>
        rw [pending, Table.publish_nil] at member
        have fresh := waiting request (seen request member ready) ready
        exact .inl (by omega)
    | @all count last stamp targets some_ later nonempty distinct covers pending =>
        rw [pending, Table.publish_map distinct] at member
        obtain ⟨old, inside, rfl⟩ := Table.mem_update.mp member
        split
        · exact .inr (Int.le_trans early later)
        · next skipped =>
            rw [if_neg skipped] at ready
            exact absurd (decide_eq_true (covers old (seen old inside ready) ready)) skipped
  · exact refreshed_agrees (evaluates.spec (refreshReady_refreshed interval opened.began))
  · rw [performed.2, emissions_concat rfl]
    exact held.idle.silent

/-- Requests that become ready when none is ready are current. -/
theorem Opened.mark {maxStreamLimit minStreamLimit : Nat} {anchoringDeadline now : Int}
    {requests : List Request} (held : Opened thread start before) (none_ : before.1.NoneReady)
    (performed : (ticking formats thread).recorded.perform
      (.commit (.markReady maxStreamLimit minStreamLimit anchoringDeadline now)) before
      (.ok (requests : List Request)) after) :
    Prepared thread start interval (decide (requests.length ≠ 0)) after := by
  have marks := fun (opened : OpenTransaction) (last : RequestProgress)
      (evaluates : Evaluates Request.id opened.snapshot opened.began
        (markReady maxStreamLimit minStreamLimit anchoringDeadline now) requests last) =>
    (evaluates.spec (markReady_sat maxStreamLimit minStreamLimit anchoringDeadline now opened.began)).edits
  refine ⟨?_, written_iff (fun opened last _ evaluates => ?_) held.idle performed, ?_⟩
  · obtain ⟨opened, own, early, _⟩ := held.snapshot
    obtain ⟨table, committed, next⟩ := performed.1
    obtain ⟨transaction, last, current, evaluates, _, commit⟩ := committed.exists_
    obtain rfl := Option.some.inj (own.symm.trans current)
    obtain ⟨stamp, targets, later, _, permuted, pending⟩ := marks opened last evaluates
    have spec :=
      evaluates.spec (markReady_sat maxStreamLimit minStreamLimit anchoringDeadline now opened.began)
    have distinct : targets.Nodup := permuted.nodup_iff.mpr spec.distinct
    have rows : after.1.requests = before.1.requests.publish Request.id last.pending := by
      rw [next]
      exact commit.published
    intro request member ready
    rw [rows, pending, Table.publish_map distinct] at member
    obtain ⟨old, inside, rfl⟩ := Table.mem_update.mp member
    split
    · exact .inr (Int.le_trans early later)
    · next skipped =>
        rw [if_neg skipped] at ready
        exact absurd ready (none_ old inside)
  · obtain ⟨stamp, targets, _, _, permuted, pending⟩ := marks opened last evaluates
    have same := permuted.length_eq
    rw [List.length_map] at same
    simp [pending, ← same]
  · rw [performed.2, emissions_concat rfl]
    exact held.idle.silent

end Transactions

section Call

variable {start interval : Int} {reached : World × List Happening}

/-- No request is ready that was not. -/
def World.ReadySubset (world next : World) : Prop :=
  ∀ request ∈ next.requests.rows, request.status = .READY → request ∈ world.requests.rows

/-- An operation that makes no request ready, commits nothing and emits nothing. -/
def WorldOp.Waits : WorldOp → Prop
  | .now => True
  | .sleep _ => True
  | .begin => True
  | .countByStatus _ => True
  | _ => False

theorem WorldOp.Waits.leavesReady {op : WorldOp} (waits : op.Waits) : op.LeavesReady := by
  cases op with
  | now | sleep | begin | countByStatus => trivial
  | _ => exact waits.elim

/-- Such an operation leaves the call as it was. -/
theorem Before.waits {op : WorldOp} {reply : Except Failure op.Reply} {before after : World × List Happening}
    (held : Before thread start before)
    (performed : (ticking formats thread).recorded.perform op before reply after) (waits : op.Waits) :
    Before thread start after ∧ before.1.ReadySubset after.1 := by
  have moves := WorldOp.perform_moves performed.1
  refine ⟨held.perform performed (moves.others (Nat.succ_ne_self thread)).1 ?_ ?_,
    moves.ready_subset waits.leavesReady⟩
  · cases op with
    | now | sleep | begin | countByStatus => exact id
    | _ => exact waits.elim
  · cases op with
    | now | sleep | begin | countByStatus => rfl
    | _ => exact waits.elim

/-- The call waits, and some property of the ready requests holds. -/
def Holding (thread : Nat) (start : Int) (extra : World → Prop) (reached : World × List Happening) : Prop :=
  Before thread start reached ∧ extra reached.1

theorem transaction_sat {transaction : RequestTransaction} {extra : World → Prop}
    {post : transaction.Result → World × List Happening → Prop}
    (stable : ∀ {world next : World}, world.ReadySubset next → extra world → extra next)
    (commits : ∀ {before after value}, Opened thread start before → extra before.1 →
      (ticking formats thread).recorded.perform (.commit transaction) before (.ok value) after →
      post value after)
    (held : Holding thread start extra reached) :
    Sat (ticking formats thread).recorded (fun _ _ _ _ => True) post
      (fun error reached => error = .serialization → Holding thread start extra reached)
      (worldClient.transaction transaction) reached := by
  refine sat_bind (fun _ reached => Opened thread start reached ∧ extra reached.1)
    (sat_call WorldOp.begin ?_ ?_) ?_
  · intro before others _ after performed
    have idle := held.1.rely others
    obtain ⟨kept, subset⟩ := idle.waits performed trivial
    have next : after.1 = { before.1 with
        transactions :=
        Function.update before.1.transactions thread (some ⟨before.1.requests, before.1.clock⟩) } :=
      performed.1
    refine ⟨trivial, ⟨kept, ⟨before.1.requests, before.1.clock⟩, ?_, idle.later, subset⟩,
      stable subset (stable others.1.steady.ready held.2)⟩
    rw [next]
    exact Function.update_self _ _ _
  · intro before others error after performed
    obtain ⟨kept, subset⟩ := (held.1.rely others).waits performed trivial
    exact ⟨trivial, fun _ => ⟨kept, stable subset (stable others.1.steady.ready held.2)⟩⟩
  · rintro _ begun ⟨opened, still⟩
    refine sat_call (WorldOp.commit transaction) ?_ ?_
    · intro before others value after performed
      exact ⟨trivial, commits (opened.rely others) (stable others.1.steady.ready still) performed⟩
    · rintro before others error after performed
      refine ⟨trivial, ?_⟩
      rintro rfl
      have same : after.1 = before.1 := performed.1.2
      refine ⟨(opened.idle.rely others).perform performed ?_ id rfl, ?_⟩
      · rw [same]
      · rw [same]
        exact stable others.1.steady.ready still

/-- The delay after a conflict leads to the next attempt. -/
theorem onConflict_sat {A : Type} {again : Code A} {extra : World → Prop}
    {post : A → World × List Happening → Prop}
    (stable : ∀ {world next : World}, world.ReadySubset next → extra world → extra next)
    (rest : ∀ reached, Holding thread start extra reached →
      Sat (ticking formats thread).recorded (fun _ _ _ _ => True) post (fun _ _ => True) again reached)
    {error : Failure} (held : error = .serialization → Holding thread start extra reached) :
    Sat (ticking formats thread).recorded (fun _ _ _ _ => True) post (fun _ _ => True)
      (onConflict worldClient.delay again error) reached := by
  cases error with
  | serialization =>
      obtain ⟨idle, still⟩ := held rfl
      refine sat_bind (fun _ => Holding thread start extra) (sat_call (WorldOp.sleep 100) ?_ ?_) fun _ => rest
      · intro before others _ after performed
        obtain ⟨kept, subset⟩ := (idle.rely others).waits performed trivial
        exact ⟨trivial, kept, stable subset (stable others.1.steady.ready still)⟩
      · exact fun _ _ _ _ _ => ⟨trivial, trivial⟩
  | rejected message => trivial
  | thrown message => trivial

theorem updateExpiringReadyRequests_sat (repository : RequestRepository) (fuel : Nat)
    (idle : Before thread start reached) :
    Sat (ticking formats thread).recorded (fun _ _ _ _ => True)
      (fun count => Prepared thread start repository.readyRetryIntervalMS (decide (count ≠ 0)))
      (fun _ _ => True)
      (repository.updateExpiringReadyRequests worldClient fuel) reached := by
  induction fuel generalizing reached with
  | zero => trivial
  | succ fuel ih =>
      have waiting : Holding thread start (fun _ => True) reached := ⟨idle, trivial⟩
      refine sat_handle _
        (transaction_sat (fun _ => id) (fun opened _ performed => opened.refresh performed) waiting) ?_
      exact fun error reached held => onConflict_sat (fun _ => id) (fun reached held => ih held.1) held

theorem findAndMarkReady_current (repository : RequestRepository) (fuel maxStreamLimit minStreamLimit : Nat)
    (idle : Before thread start reached) (none_ : reached.1.NoneReady) :
    Sat (ticking formats thread).recorded (fun _ _ _ _ => True)
      (fun requests => Prepared thread start interval (decide (requests.length ≠ 0))) (fun _ _ => True)
      (repository.findAndMarkReady worldClient fuel maxStreamLimit minStreamLimit) reached := by
  have stable : ∀ {world next : World}, world.ReadySubset next → world.NoneReady → next.NoneReady :=
    fun subset none_ request member ready => none_ request (subset request member ready) ready
  induction fuel generalizing reached with
  | zero => trivial
  | succ fuel ih =>
      refine sat_bind (fun _ => Holding thread start World.NoneReady) (sat_call WorldOp.now ?_ ?_) ?_
      · intro before others now after performed
        obtain ⟨kept, subset⟩ := (idle.rely others).waits performed trivial
        exact ⟨trivial, kept, stable subset (stable others.1.steady.ready none_)⟩
      · exact fun _ _ _ _ _ => ⟨trivial, trivial⟩
      · intro now read held
        refine sat_handle _
          (transaction_sat stable (fun opened still performed => opened.mark still performed) held) ?_
        exact fun error reached held => onConflict_sat stable (fun reached held => ih held.1 held.2) held

theorem prepareAnchorEvent_sat (service : AnchorService) (fuel count : Nat)
    (idle : Before thread start reached) (known : count = 0 → reached.1.NoneReady) :
    Sat (ticking formats thread).recorded (fun _ _ _ _ => True)
      (fun emits => Prepared thread start service.requestRepository.readyRetryIntervalMS emits)
      (fun _ _ => True)
      (service.prepareAnchorEvent fuel count) reached := by
  unfold AnchorService.prepareAnchorEvent
  split
  · exact sat_bind _ (updateExpiringReadyRequests_sat _ fuel idle) fun _ _ prepared => prepared
  · exact sat_bind _ (findAndMarkReady_current _ fuel _ _ idle (known (by omega))) fun _ _ prepared =>
      prepared

theorem count_sat (idle : Before thread start reached) :
    Sat (ticking formats thread).recorded (fun _ _ _ _ => True)
      (fun count reached => Before thread start reached ∧ (count = 0 → reached.1.NoneReady)) (fun _ _ => True)
      (countByStatus .READY) reached := by
  refine sat_call (WorldOp.countByStatus .READY) ?_ fun _ _ _ _ _ => ⟨trivial, trivial⟩
  intro before others count after performed
  refine ⟨trivial, ((idle.rely others).waits performed trivial).1, ?_⟩
  rintro rfl
  exact @noneReady_of_count formats thread before.1 after.1 performed.1

/-- The call has emitted one event when it has written, and none otherwise. -/
structure Ended (thread : Nat) (start interval : Int) (reached : World × List Happening) : Prop where
  current : reached.1.Current start interval
  emitted : (emissions reached.2).length = 1 ↔ ∃ event ∈ reached.2, WritesRows thread event
  once : (emissions reached.2).length ≤ 1

/-- The attempt to emit is the only thing that follows. -/
theorem Prepared.emit {emits : Bool} (prepared : Prepared thread start interval emits reached) :
    Sat (ticking formats thread).recorded (fun _ _ _ _ => True) (fun _ => Ended thread start interval)
    (fun _ _ => True)
      (if emits then do
        let _ ← (Prog.call WorldOp.emitAnchorEvent).attempt
        pure ()
      else pure ()) reached := by
  obtain ⟨world, history⟩ := reached
  have silent : emissions history = [] := prepared.silent
  cases emits with
  | false =>
      refine ⟨prepared.current, ?_, ?_⟩
      · rw [silent, ← prepared.written]
        simp
      · simp [silent]
  | true =>
      refine sat_bind (fun _ => Ended thread start interval) (sat_recorded_attempt WorldOp.emitAnchorEvent ?_)
        fun _ _ ended => ended
      intro before others reply after performed
      have moves : before.Moves formats thread .emitAnchorEvent after := WorldOp.perform_moves performed
      have one : (emissions (history ++ [⟨.emitAnchorEvent, before, reply, after⟩])).length = 1 := by
        rw [emissions, List.filter_append, List.length_append,
            show history.filter IsEmission = [] from silent]
        rfl
      obtain ⟨event, member, writes⟩ := prepared.written.mp rfl
      refine ⟨trivial, ?_, iff_of_true one ⟨event, List.mem_append_left _ member, writes⟩, Nat.le_of_eq one⟩
      exact fun request inside ready => prepared.current.steady others.steady request
        (moves.ready_subset trivial request inside ready) ready

theorem emitAnchorEventIfReady_sat (service : AnchorService) (fuel : Nat) (world : World) :
    Sat (ticking formats thread).recorded (fun _ _ _ _ => True)
      (fun _ => Ended thread world.clock service.requestRepository.readyRetryIntervalMS) (fun _ _ => True)
      (service.emitAnchorEventIfReady fuel) (world, []) := by
  have idle : Before thread world.clock (world, []) := ⟨Int.le_refl _, by simp, rfl⟩
  refine sat_bind _ (count_sat idle) ?_
  rintro count counted ⟨still, known⟩
  refine sat_bind _ (prepareAnchorEvent_sat service fuel count still known) ?_
  exact fun emits _ prepared => prepared.emit

end Call

section Emission

variable {service : AnchorService} {fuel : Nat}

theorem findAndMarkReady_waits (repository : RequestRepository) (fuel maxStreamLimit minStreamLimit : Nat) :
    (repository.findAndMarkReady worldClient fuel maxStreamLimit minStreamLimit :
      Code (List Request)).Confined (· ≠ .emitAnchorEvent) := by
  induction fuel with
  | zero => trivial
  | succ fuel ih =>
      exact confined_bind (confined_call WorldOp.now (by simp)) fun _ =>
        confined_handle (transaction_confined _ (by simp) (by simp))
        (onConflict_confined (fun _ => by simp) ih)

/-- Nothing follows an attempt to emit, whether it was rejected or not. -/
theorem emitAnchorEventIfReady_leads (service : AnchorService) (fuel : Nat) :
    (service.emitAnchorEventIfReady fuel).Leads fun op _ rest => op = .emitAnchorEvent → rest = .done () := by
  have apart :
      ∀ {A : Type} {program : Code A} {rest : Code A → Code Unit}, program.Confined (· ≠ .emitAnchorEvent) →
      program.Leads fun op _ current => op = .emitAnchorEvent → rest current = .done () :=
    fun confined => leads_confined confined fun _ _ _ other same => absurd same other
  refine leads_bind (apart (confined_call (WorldOp.countByStatus .READY) (by simp))) fun count => ?_
  refine leads_bind (apart ?_) fun emits => ?_
  · unfold AnchorService.prepareAnchorEvent
    split
    · have refreshes := updateExpiringReadyRequests_refreshes service.requestRepository fuel
      refine confined_bind (confined_mono refreshes ?_) fun _ => trivial
      rintro op inside rfl
      exact inside
    · exact confined_bind (findAndMarkReady_waits _ _ _ _) fun _ => trivial
  · split
    · intro reply
      cases reply with
      | ok value => exact ⟨fun _ => rfl, trivial⟩
      | error error => exact ⟨fun _ => rfl, trivial⟩
    · trivial

/-- A call that returns leaves only current requests ready, and it has emitted one event exactly when it
has written a row; an attempt to emit changes nothing and ends the call. -/
theorem scheduler_tick {start last : World} {trace : List Happening} {residue : Code Unit}
    (call : Path (ticking formats thread) (service.emitAnchorEventIfReady fuel) start trace residue last) :
    (residue = .done () →
      last.Current start.clock service.requestRepository.readyRetryIntervalMS ∧
        ((emissions trace).length = 1 ↔ ∃ event ∈ trace, WritesRows thread event) ∧
        (emissions trace).length ≤ 1) ∧
    ∀ front event, trace = front ++ [event] → event.op = .emitAnchorEvent →
      residue = .done () ∧ event.after = event.before := by
  constructor
  · rintro rfl
    have ended := (sat_recorded_path call [] (emitAnchorEventIfReady_sat service fuel start)).2
    exact ⟨ended.current, ended.emitted, ended.once⟩
  · rintro front event rfl emits
    refine ⟨path_leads call (emitAnchorEventIfReady_leads service fuel) emits, ?_⟩
    have performed := call.performed event (List.mem_append_right _ (List.mem_singleton_self _))
    obtain ⟨op, before, reply, after⟩ := event
    obtain rfl : op = .emitAnchorEvent := emits
    have moves : before.Moves formats thread .emitAnchorEvent after := WorldOp.perform_moves performed
    cases moves
    rfl

end Emission

section Runs

/-- The refresh of a lone ready request. -/
theorem evaluates_refreshReady :
    Evaluates Request.id (loneWorld .READY .empty).requests 0 (refreshReady 0) (1 : Nat)
    ⟨[("1", (⟨none, some .READY, none⟩ : RequestUpdateFields).edit 0)],
      [loneRequest .READY "Request is pending."], 0⟩ := by
  have ready : [loneRequest .READY "Request is pending."].Perm
      (((loneWorld .READY .empty).requests.publish Request.id
      []).rows.filter fun request => request.status = .READY) := by
    rw [Table.publish_nil]
    exact .refl _
  have found :
      ["1"].Perm (((loneWorld .READY .empty).requests.publish Request.id []).targets Request.id ["1"]) := by
    rw [Table.publish_nil]
    exact .refl _
  apply Exists.intro
  apply Path.reply _ (Statement.select _) (.ok [loneRequest .READY "Request is pending."])
  · exact ⟨ready, rfl⟩
  apply Path.reply _ Statement.clock (.ok (0 : Int))
  · exact ⟨rfl, rfl⟩
  apply Path.reply _ Statement.clock (.ok (0 : Int))
  · exact ⟨rfl, rfl⟩
  apply Path.reply _ (Statement.update ["1"] _) (.ok (1 : Nat))
  · exact ⟨["1"], found, rfl, rfl⟩
  exact .stop _ _

/-- The scheduler stamps a lone ready request with the time of its call. -/
theorem lone_tick : ∃ trace last, Path (ticking loneFormats 0) (loneWorker.emitAnchorEventIfReady 1)
    (loneWorld .READY .empty) trace (.done ()) last ∧
      last.requests.rows = [loneRequest .READY "Request is pending."] := by
  apply Exists.intro
  apply Exists.intro
  constructor
  · apply Path.reply (ticking loneFormats 0) (WorldOp.countByStatus .READY) (.ok (1 : Nat))
    · exact ⟨rfl, rfl⟩
    apply Path.reply (ticking loneFormats 0) WorldOp.begin (.ok ())
    · exact rfl
    apply Path.reply (ticking loneFormats 0) (WorldOp.commit (.refreshReady 0)) (.ok (1 : Nat))
    · exact ⟨_, ⟨_, _, rfl, evaluates_refreshReady, Int.le_refl _, fun _ _ => rfl, rfl⟩, rfl⟩
    apply Path.reply (ticking loneFormats 0) WorldOp.emitAnchorEvent (.ok ())
    · exact rfl
    exact .stop _ _
  · rfl

/-- The tick keeps the lone request current, and it emits. -/
theorem scheduler_tick_lone : ∃ trace last, Path (ticking loneFormats 0) (loneWorker.emitAnchorEventIfReady 1)
    (loneWorld .READY .empty) trace (.done ()) last ∧ last.Current 0 0 ∧ (emissions trace).length ≤ 1 := by
  obtain ⟨trace, last, path, _⟩ := lone_tick
  obtain ⟨current, _, once⟩ := (scheduler_tick path).1 rfl
  exact ⟨trace, last, path, current, once⟩

/-- Without a retry interval a request that was just stamped counts as expired. -/
theorem scheduler_tick_leaves_expired :
    ¬ ∀ (formats : Formats) (thread : Nat) (service : AnchorService) (fuel : Nat)
    (start last : World) (trace : List Happening),
      Path (ticking formats thread) (service.emitAnchorEventIfReady fuel) start trace (.done ()) last →
      ∀ request ∈ last.requests.rows, request.status = .READY →
        ¬ request.updatedAt ≤ start.clock - service.requestRepository.readyRetryIntervalMS := by
  intro fresh
  obtain ⟨trace, last, path, rows⟩ := lone_tick
  exact fresh _ _ _ _ _ _ _ path (loneRequest .READY "Request is pending.") (by rw [rows]; exact .head _) rfl
    (Int.le_refl 0)

end Runs

end CeramicAnchor
