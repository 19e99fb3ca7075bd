import CeramicAnchor.Proof.SchedulerSafety

/-
This file says when the callback of a scheduler is called for a run that did nothing.
-/

namespace CeramicAnchor.Scheduler
open Concurrency

section Trace

/-- The outcomes of the runs that have ended. -/
def outcomes (trace : List Action) : List Settled :=
  trace.filterMap fun action => match action with
    | .taskSettled settled => some settled
    | _ => none

/-- The latest run has ended, and it returned false. -/
def NoOp (trace : List Action) : Prop :=
    Idle trace ∧ (outcomes trace).getLast? = some (.resolved (some false))

/-- The callback is called once, and only behind a run that returned false. -/
def CalledForNoOp (front : List Action) : Action → Prop
  | .cbAfterNoOpCalled => .cbAfterNoOpCalled ∉ front ∧ NoOp front
  | _ => True

variable {trace actions : List Action}

theorem outcomes_append (trace later : List Action) :
    outcomes (trace ++ later) = outcomes trace ++ outcomes later :=
  List.filterMap_append

theorem outcomes_settled (trace : List Action) (settled : Settled) :
    (outcomes (trace ++ [.taskSettled settled])).getLast? = some settled := by
  rw [outcomes_append]
  exact List.getLast?_concat

theorem outcomes_neutral (neutral : ∀ action ∈ actions, action.Neutral) :
    outcomes (trace ++ actions) = outcomes trace := by
  have none_ : outcomes actions = [] := by
    refine List.filterMap_eq_nil_iff.mpr fun action member => ?_
    cases action <;> first | rfl | exact (neutral _ member).elim
  rw [outcomes_append, none_, List.append_nil]

/-- Actions other than the callback need no reason. -/
theorem called_quiet (each : Each CalledForNoOp trace) (quiet : .cbAfterNoOpCalled ∉ actions) :
    Each CalledForNoOp (trace ++ actions) := by
  refine Each.append each fun front action back same => ?_
  have member : action ∈ actions := by simp [same]
  cases action <;> trivial

end Trace

section Stages

/-- What is known of a promise and of the signal when the chain of runs waits. -/
def Wait.Ready (trace : List Action) (aborted : Bool) : Wait → Prop
  | .task => Busy trace
  | .reaction settled => Idle trace ∧ (outcomes trace).getLast? = some settled ∧
      (aborted = true → settled = .resolved (some false))
  | .timer => Idle trace ∧ (outcomes trace).getLast? ≠ some (.resolved (some false)) ∧ aborted = false

/-- No chain of runs has the callback behind it. -/
def Unobserved (service : TaskSchedulerService) : Prop :=
  ∀ connection, service.connection = some connection → connection.observedByStart = false

/-- The chain that `start` observes is under way, or it has ended for good. -/
inductive Stage : List Action → TaskSchedulerService → Prop where
  | starting {trace : List Action} (busy : Busy trace) (uncalled : .cbAfterNoOpCalled ∉ trace) :
      Stage trace ⟨true, false, .unassigned, some ⟨.task, true, []⟩, [.task .start], true, false⟩
  | entered {trace : List Action} {aborted : Bool} {stops : List Nat} (busy : Busy trace)
      (uncalled : .cbAfterNoOpCalled ∉ trace) :
      Stage trace ⟨true, aborted, .open_, some ⟨.task, true, stops⟩, [.task .timer], true, false⟩
  | active {trace : List Action} {aborted : Bool} {wait : Wait} {stops : List Nat}
      (ready : wait.Ready trace aborted) (uncalled : .cbAfterNoOpCalled ∉ trace) :
      Stage trace ⟨true, aborted, .open_, some ⟨wait, true, stops⟩, [], true, false⟩
  | ended {trace : List Action} {service : TaskSchedulerService} (unobserved : Unobserved service) :
      Stage trace service

/-- The scheduler is not stopped between two runs, and a run that it is stopped in returns false. -/
def Harmless (service : TaskSchedulerService) : Event → Prop
  | .stop _ => ∀ connection, service.connection = some connection → connection.observedByStart = true →
      connection.wait = .task ∨ connection.wait = .reaction (.resolved (some false))
  | .settle settled => ∀ connection, service.connection = some connection →
      connection.observedByStart = true → service.aborted = true → settled = .resolved (some false)
  | _ => True

variable {trace actions : List Action} {service next : TaskSchedulerService}

theorem resume_connection (caller : Caller) (service : TaskSchedulerService) :
    (caller.resume service).connection = service.connection := by
  cases caller <;> rfl

theorem Unobserved.resume (unobserved : Unobserved service) (caller : Caller) :
    Unobserved (caller.resume service) := by
  unfold Unobserved
  rw [resume_connection]
  exact unobserved

theorem Unobserved.of_some {connection : Connection} (there : service.connection = some connection)
    (observed : connection.observedByStart = false) : Unobserved service := by
  intro other same
  rw [there] at same
  obtain rfl := Option.some.inj same
  exact observed

theorem Unobserved.of_none (absent : service.connection = none) : Unobserved service := by
  intro other same
  rw [absent] at same
  cases same

/-- An effect that neither calls the callback nor puts it behind a chain of runs. -/
def Apart (effect : Effect) : Prop := .cbAfterNoOpCalled ∉ effect.1 ∧ Unobserved effect.2

theorem apart_resolveStops (unobserved : Unobserved service) (stops : List Nat) :
    Apart (service.resolveStops stops) := by
  refine ⟨fun member => ?_, unobserved⟩
  obtain ⟨stop, _, same⟩ := List.mem_map.mp member
  cases same

theorem apart_complete {connection : Connection} (observed : connection.observedByStart = false) :
    Apart (service.complete connection) := by
  rw [TaskSchedulerService.complete, if_neg (by simp [observed])]
  exact apart_resolveStops (.of_none rfl) _

theorem apart_error : Apart service.error := ⟨by simp [TaskSchedulerService.error], .of_none rfl⟩

theorem apart_deferred (caller : Caller) (stops : List Nat) :
    Apart (service.deferred caller false stops) := by
  unfold TaskSchedulerService.deferred
  split
  · exact ⟨List.not_mem_nil, (Unobserved.of_some rfl rfl).resume caller⟩
  · exact ⟨by simp, .of_some rfl rfl⟩

theorem apart_expand {connection : Connection} (observed : connection.observedByStart = false)
    (success : Bool) : Apart (service.expand connection success) := by
  unfold TaskSchedulerService.expand
  split
  · exact apart_complete observed
  · split
    · exact apart_complete observed
    · exact ⟨List.not_mem_nil, .of_some rfl observed⟩

theorem apart_react {connection : Connection} (observed : connection.observedByStart = false)
    (settled : Settled) : Apart (service.react connection settled) := by
  cases settled with
  | resolved result => exact apart_expand observed _
  | rejected err =>
      change Apart (service.catchError connection)
      unfold TaskSchedulerService.catchError
      split
      · exact apart_complete observed
      · exact apart_error

theorem apart_observe (unobserved : Unobserved service) (stop : Nat) : Apart (service.observe stop) := by
  unfold TaskSchedulerService.observe
  split
  · rename_i connection there
    have kept := unobserved connection there
    have joined : Unobserved { service with
        connection := some { connection with observedByStops := connection.observedByStops ++ [stop] } } :=
      .of_some rfl kept
    exact ⟨List.not_mem_nil, joined.resume .stop⟩
  · exact apart_deferred .stop [stop]

theorem apart_stop (unobserved : Unobserved service) (stop : Nat) : Apart (service.stop stop) := by
  unfold TaskSchedulerService.stop
  split
  · exact ⟨by simp, unobserved⟩
  · split
    · exact ⟨by simp, unobserved⟩
    · obtain ⟨quiet, kept⟩ := apart_observe unobserved stop
      exact ⟨by simpa using quiet, kept⟩

/-- Without its observer, the callback is never called again. -/
theorem unobserved_step (unobserved : Unobserved service) {event : Event}
    (reacts : service.step event = some (actions, next)) :
    .cbAfterNoOpCalled ∉ actions ∧ Unobserved next := by
  unfold TaskSchedulerService.step at reacts
  split at reacts
  · cases reacts
  · cases event with
    | stop stop =>
        have apart := apart_stop unobserved stop
        rwa [Option.some.inj reacts] at apart
    | return_ =>
        dsimp only [TaskSchedulerService.return_] at reacts
        split at reacts
        · cases reacts
        · rename_i caller frames _
          have kept : Unobserved { service with frames := frames } := unobserved
          cases reacts
          exact ⟨List.not_mem_nil, kept.resume caller⟩
        · rename_i stops frames _
          have apart :=
            @apart_resolveStops { service with frames := frames, subscription := .closed } unobserved stops
          rwa [Option.some.inj reacts] at apart
    | settle settled =>
        dsimp only [TaskSchedulerService.settle] at reacts
        split at reacts
        · cases reacts
        · rename_i there _
          cases reacts
          have observed := unobserved _ there
          exact ⟨by simp, .of_some rfl observed⟩
        · cases reacts
    | react =>
        dsimp only at reacts
        split at reacts
        · rename_i settled _ _ _ there
          have apart := @apart_react service _ (unobserved _ there) settled
          rwa [Option.some.inj reacts] at apart
        · cases reacts
    | fire =>
        dsimp only at reacts
        split at reacts
        · rename_i observedByStart stops _ there
          obtain rfl : observedByStart = false := unobserved _ there
          have apart := @apart_deferred service .timer stops
          rwa [Option.some.inj reacts] at apart
        · cases reacts

/-- The callback has had a reason so far, and the scheduler is in one of its stages. -/
structure Reasoned (trace : List Action) (service : TaskSchedulerService) : Prop where
  each : Each CalledForNoOp trace
  stage : Stage trace service

theorem Reasoned.ended (each : Each CalledForNoOp trace) (unobserved : Unobserved service) {event : Event}
    (reacts : service.step event = some (actions, next)) : Reasoned (trace ++ actions) next := by
  obtain ⟨quiet, unobserved⟩ := unobserved_step unobserved reacts
  exact ⟨called_quiet each quiet, .ended unobserved⟩

/-- The chain completes with a callback that has its reason. -/
theorem Reasoned.complete {aborted : Bool} {wait : Wait} {stops : List Nat} (each : Each CalledForNoOp trace)
    (uncalled : .cbAfterNoOpCalled ∉ trace) (noOp : NoOp trace)
    (completed :
      TaskSchedulerService.complete ⟨true, aborted, .open_, some ⟨wait, true, stops⟩, [], true, false⟩
      ⟨wait, true, stops⟩ = (actions, next)) : Reasoned (trace ++ actions) next := by
  cases completed
  exact ⟨each_concat.mpr ⟨each, uncalled, noOp⟩, .ended (.of_none rfl)⟩

theorem Wait.Ready.append {aborted : Bool} {wait : Wait} (ready : wait.Ready trace aborted)
    (neutral : ∀ action ∈ actions, action.Neutral) : wait.Ready (trace ++ actions) aborted := by
  cases wait with
  | task => exact Busy.append ready neutral
  | timer =>
      refine ⟨ready.1.append neutral, ?_, ready.2.2⟩
      rw [outcomes_neutral neutral]
      exact ready.2.1
  | reaction settled =>
      refine ⟨ready.1.append neutral, ?_, ready.2.2⟩
      rw [outcomes_neutral neutral]
      exact ready.2.1

/-- An abort that does no harm leaves the chain ready. -/
theorem Wait.Ready.abort {aborted : Bool} {wait : Wait} (ready : wait.Ready trace aborted)
    (harmless : wait = .task ∨ wait = .reaction (.resolved (some false))) : wait.Ready trace true := by
  rcases harmless with rfl | rfl
  · exact ready
  · exact ⟨ready.1, ready.2.1, fun _ => rfl⟩

theorem Reasoned.stop (reasoned : Reasoned trace service) {id : Nat} (harmless : Harmless service (.stop id))
    (stops : service.step (.stop id) = some (actions, next)) : Reasoned (trace ++ actions) next := by
  obtain ⟨each, stage⟩ := reasoned
  have called : ∀ action ∈ [Action.stopCalled id], action.Neutral := by simp [Action.Neutral]
  cases stage with
  | starting busy uncalled =>
      cases stops
      refine ⟨called_quiet each (by simp),
        .starting (busy.append (by simp [Action.Neutral])) (by simpa using uncalled)⟩
  | entered busy uncalled =>
      cases stops
      exact ⟨called_quiet each (by simp), .entered (busy.append called) (by simpa using uncalled)⟩
  | active ready uncalled =>
      cases stops
      exact ⟨called_quiet each (by simp),
        .active ((ready.abort (harmless _ rfl rfl)).append called) (by simpa using uncalled)⟩
  | ended unobserved => exact .ended each unobserved stops

theorem Reasoned.return_ (reasoned : Reasoned trace service)
    (returns : service.step .return_ = some (actions, next)) : Reasoned (trace ++ actions) next := by
  obtain ⟨each, stage⟩ := reasoned
  cases stage with
  | starting busy uncalled =>
      cases returns
      rw [List.append_nil]
      exact ⟨each, .active busy uncalled⟩
  | entered busy uncalled =>
      cases returns
      rw [List.append_nil]
      exact ⟨each, .active busy uncalled⟩
  | active => cases returns
  | ended unobserved => exact .ended each unobserved returns

theorem Reasoned.settle (reasoned : Reasoned trace service) {settled : Settled}
    (harmless : Harmless service (.settle settled))
    (settles : service.step (.settle settled) = some (actions, next)) : Reasoned (trace ++ actions) next := by
  obtain ⟨each, stage⟩ := reasoned
  cases stage with
  | @active aborted wait stops ready uncalled =>
      cases wait with
      | task =>
          cases settles
          refine ⟨called_quiet each (by simp),
            .active ⟨Busy.ends ready settled, outcomes_settled trace settled, ?_⟩
            (by simpa using uncalled)⟩
          exact harmless _ rfl rfl
      | reaction => cases settles
      | timer => cases settles
  | ended unobserved => exact .ended each unobserved settles
  | _ => cases settles

theorem Reasoned.react (reasoned : Reasoned trace service)
    (reacts : service.step .react = some (actions, next)) : Reasoned (trace ++ actions) next := by
  obtain ⟨each, stage⟩ := reasoned
  cases stage with
  | @active aborted wait stops ready uncalled =>
      cases wait with
      | task => cases reacts
      | timer => cases reacts
      | reaction settled =>
          obtain ⟨idle, latest, harmless⟩ := ready
          have reacted := Option.some.inj reacts
          cases aborted with
          | true =>
              obtain rfl := harmless rfl
              exact .complete each uncalled ⟨idle, latest⟩ reacted
          | false =>
              cases settled with
              | rejected err =>
                  cases reacted
                  exact ⟨called_quiet each (by simp), .ended (.of_none rfl)⟩
              | resolved result =>
                  -- Only a run that returned false ends the chain.
                  match result with
                  | some false => exact .complete each uncalled ⟨idle, latest⟩ reacted
                  | some true =>
                      cases reacted
                      rw [List.append_nil]
                      exact ⟨each, .active ⟨idle, by simp [latest], rfl⟩ uncalled⟩
                  | none =>
                      cases reacted
                      rw [List.append_nil]
                      exact ⟨each, .active ⟨idle, by simp [latest], rfl⟩ uncalled⟩
  | ended unobserved => exact .ended each unobserved reacts
  | _ => cases reacts

theorem Reasoned.fire (reasoned : Reasoned trace service)
    (fires : service.step .fire = some (actions, next)) : Reasoned (trace ++ actions) next := by
  obtain ⟨each, stage⟩ := reasoned
  cases stage with
  | @active aborted wait stops ready uncalled =>
      cases wait with
      | task => cases fires
      | reaction => cases fires
      | timer =>
          obtain ⟨idle, _, rfl⟩ := ready
          cases fires
          exact ⟨called_quiet each (by simp), .entered idle.begins (by simpa using uncalled)⟩
  | ended unobserved => exact .ended each unobserved fires
  | _ => cases fires

theorem Reasoned.step (reasoned : Reasoned trace service) {event : Event} (harmless : Harmless service event)
    (reacts : service.step event = some (actions, next)) : Reasoned (trace ++ actions) next := by
  cases event with
  | stop id => exact reasoned.stop harmless reacts
  | return_ => exact reasoned.return_ reacts
  | settle settled => exact reasoned.settle harmless reacts
  | react => exact reasoned.react reacts
  | fire => exact reasoned.fire reacts

/-- The chain has been stopped without a run that did nothing, and the callback is still to come. -/
inductive Doomed : List Action → TaskSchedulerService → Prop where
  | waiting {trace : List Action} {wait : Wait} {stops : List Nat} (between : wait ≠ .task)
      (worked : (outcomes trace).getLast? ≠ some (.resolved (some false)))
      (uncalled : .cbAfterNoOpCalled ∉ trace) :
      Doomed trace ⟨true, true, .open_, some ⟨wait, true, stops⟩, [], true, false⟩

/-- A stop during a run does no harm by itself. -/
theorem harmless_during {id : Nat} {connection : Connection} (there : service.connection = some connection)
    (running : connection.wait = .task) : Harmless service (.stop id) := by
  intro other same _
  rw [there] at same
  obtain rfl := Option.some.inj same
  exact .inl running

/-- Without an observer of the callback nothing does harm. -/
theorem Unobserved.harmless (unobserved : Unobserved service) (event : Event) : Harmless service event := by
  cases event with
  | stop id =>
      intro connection there observed
      rw [unobserved connection there] at observed
      cases observed
  | settle settled =>
      intro connection there observed
      rw [unobserved connection there] at observed
      cases observed
  | return_ => trivial
  | react => trivial
  | fire => trivial

/-- A step that does harm leaves the callback without a reason. -/
theorem Reasoned.doomed (reasoned : Reasoned trace service) {event : Event}
    (harmful : ¬ Harmless service event)
    (reacts : service.step event = some (actions, next)) : Doomed (trace ++ actions) next := by
  cases event with
  | stop id =>
      have called : ∀ action ∈ [Action.stopCalled id], action.Neutral := by simp [Action.Neutral]
      cases reasoned.stage with
      | starting => exact absurd (harmless_during rfl rfl) harmful
      | entered => exact absurd (harmless_during rfl rfl) harmful
      | ended unobserved => exact absurd (unobserved.harmless _) harmful
      | @active aborted wait stops ready uncalled =>
          have other : wait ≠ .task ∧ wait ≠ .reaction (.resolved (some false)) := by
            rw [← not_or]
            refine fun harmless => harmful fun connection there _ => ?_
            obtain rfl := Option.some.inj there
            exact harmless
          have worked : (outcomes trace).getLast? ≠ some (.resolved (some false)) := by
            cases wait with
            | task => exact absurd rfl other.1
            | timer => exact ready.2.1
            | reaction settled =>
                rw [ready.2.1]
                exact fun same => other.2 (congrArg Wait.reaction (Option.some.inj same))
          cases reacts
          refine .waiting other.1 ?_ (by simpa using uncalled)
          rw [outcomes_neutral called]
          exact worked
  | settle settled =>
      cases reasoned.stage with
      | @active aborted wait stops ready uncalled =>
          cases wait with
          | reaction => cases reacts
          | timer => cases reacts
          | task =>
              have other : aborted = true ∧ settled ≠ .resolved (some false) := by
                by_contra fine
                refine harmful fun connection _ _ abort => ?_
                by_contra different
                exact fine ⟨abort, different⟩
              obtain ⟨rfl, different⟩ := other
              cases reacts
              refine .waiting (by simp) ?_ (by simpa using uncalled)
              rw [outcomes_settled]
              exact fun same => different (Option.some.inj same)
      | ended unobserved => exact absurd (unobserved.harmless _) harmful
      | _ => cases reacts
  | _ => exact absurd trivial harmful

/-- What comes of a stopped chain is a callback without a reason. -/
theorem Doomed.step (doomed : Doomed trace service) {event : Event}
    (reacts : service.step event = some (actions, next)) :
    Doomed (trace ++ actions) next ∨ ¬ Each CalledForNoOp (trace ++ actions) := by
  cases doomed with
  | @waiting wait stops between worked uncalled =>
      cases event with
      | return_ => cases reacts
      | stop id =>
          cases reacts
          refine .inl (.waiting between ?_ (by simpa using uncalled))
          rw [outcomes_neutral (by simp [Action.Neutral])]
          exact worked
      | settle settled =>
          cases wait with
          | task => exact absurd rfl between
          | reaction => cases reacts
          | timer => cases reacts
      | fire =>
          cases wait with
          | timer =>
              cases reacts
              rw [List.append_nil]
              exact .inl (.waiting (by simp) worked uncalled)
          | task => cases reacts
          | reaction => cases reacts
      | react =>
          cases wait with
          | task => cases reacts
          | timer => cases reacts
          | reaction settled =>
              have completed : actions = [.cbAfterNoOpCalled] := by
                cases settled <;> cases reacts <;> rfl
              subst completed
              exact .inr fun each => worked (each_concat.mp each).2.2.2

end Stages

section Runs

variable {trace : List Action} {last : TaskSchedulerService}

theorem Reasoned.of_run (run : (TaskSchedulerService.machine true).Runs Harmless trace last) :
    Reasoned trace last := by
  have initially : Reasoned [.taskStarted] (TaskSchedulerService.start true).2 :=
    ⟨(@each_concat _ CalledForNoOp [] .taskStarted).mpr ⟨each_nil, trivial⟩, .starting rfl (by simp)⟩
  exact run.invariant Reasoned initially fun reasoned harmless reacts => reasoned.step harmless reacts

/-- A run does no harm, or its callback is still to come, or it was called without a reason. -/
theorem harmless_or_doomed (run : (TaskSchedulerService.machine true).Runs (fun _ _ => True) trace last) :
    (TaskSchedulerService.machine true).Runs Harmless trace last ∨ Doomed trace last ∨
      ¬ Each CalledForNoOp trace := by
  induction run with
  | first => exact .inl .first
  | @step trace actions state next _ event _ reacts ih =>
      rcases ih with harmless | doomed | broken
      · by_cases fine : Harmless state event
        · exact .inl (.step harmless event fine reacts)
        · exact .inr (.inl ((Reasoned.of_run harmless).doomed fine reacts))
      · exact .inr (doomed.step reacts)
      · exact .inr (.inr fun each => broken each.front)

/-- The callback is called for a run that returned false in runs without harm, and in no other run that
calls it. -/
theorem callback_for_noOp (run : (TaskSchedulerService.machine true).Runs (fun _ _ => True) trace last) :
    ((TaskSchedulerService.machine true).Runs Harmless trace last → Each CalledForNoOp trace) ∧
      (.cbAfterNoOpCalled ∈ trace → Each CalledForNoOp trace →
        (TaskSchedulerService.machine true).Runs Harmless trace last) := by
  refine ⟨fun harmless => (Reasoned.of_run harmless).each, fun called each => ?_⟩
  rcases harmless_or_doomed run with harmless | doomed | broken
  · exact harmless
  · cases doomed with
    | waiting _ _ uncalled => exact absurd called uncalled
  · exact absurd each broken

/-- The second run returns false, although the scheduler is stopped while it is in progress. -/
theorem callback_for_noOp_stopped :
    Each CalledForNoOp [.taskStarted, .taskSettled (.resolved (some true)), .taskStarted,
    .stopCalled 0, .taskSettled (.resolved (some false)), .cbAfterNoOpCalled] := by
  have begun := @Machine.Runs.first _ _ _ (TaskSchedulerService.machine true) Harmless
  have returned := begun.step .return_ trivial rfl
  have settled := returned.step (.settle (.resolved (some true))) (fun _ _ _ => nofun) rfl
  have waiting := settled.step .react trivial rfl
  have again := (waiting.step .fire trivial rfl).step .return_ trivial rfl
  have stopped := again.step (.stop 0) (by rintro connection ⟨⟩ _; exact .inl rfl) rfl
  have ended := stopped.step (.settle (.resolved (some false))) (fun _ _ _ _ => rfl) rfl
  have completed := ended.step .react trivial rfl
  exact (callback_for_noOp (completed.mono fun _ _ _ => trivial)).1 completed

/-- The scheduler is stopped between two runs, and the callback is called although the run before
returned true. -/
theorem callback_without_noOp : ∃ last, (TaskSchedulerService.machine true).Runs (fun _ _ => True)
      [.taskStarted, .taskSettled (.resolved (some true)), .stopCalled 0, .cbAfterNoOpCalled] last ∧
    ¬ Each CalledForNoOp
    [.taskStarted, .taskSettled (.resolved (some true)), .stopCalled 0, .cbAfterNoOpCalled] := by
  have begun := @Machine.Runs.first _ _ _ (TaskSchedulerService.machine true) fun _ _ => True
  have returned := begun.step .return_ trivial rfl
  have settled := returned.step (.settle (.resolved (some true))) trivial rfl
  have waiting := settled.step .react trivial rfl
  have stopped := waiting.step (.stop 0) trivial rfl
  have skipped := stopped.step .fire trivial rfl
  have completed := skipped.step .react trivial rfl
  refine ⟨_, completed, fun each => ?_⟩
  have noOp : NoOp [.taskStarted, .taskSettled (.resolved (some true)), .stopCalled 0] :=
    (each _ .cbAfterNoOpCalled [] rfl).2
  cases noOp.2

end Runs

end CeramicAnchor.Scheduler
