import CeramicAnchor.Construction.TaskSchedulerService

/-
This file proves that the runs of a task never overlap and never follow a stop.
-/

namespace CeramicAnchor.Scheduler
open Concurrency

section Trace

/-- The number of runs that the trace has begun or ended. -/
def started (trace : List Action) : Nat := trace.countP (· = .taskStarted)

def settled (trace : List Action) : Nat := trace.countP fun action => match action with
  | .taskSettled _ => true
  | _ => false

/-- No run is in progress. -/
def Idle (trace : List Action) : Prop := started trace = settled trace

/-- One run is in progress. -/
def Busy (trace : List Action) : Prop := started trace = settled trace + 1

def Stopped (trace : List Action) : Prop := ∃ stop, .stopCalled stop ∈ trace

/-- A run starts when none is in progress and nobody has stopped, and a stop resolves when no run is in
progress. -/
def Safe (front : List Action) : Action → Prop
  | .taskStarted => Idle front ∧ ¬ Stopped front
  | .stopResolved _ => Idle front
  | _ => True

theorem started_append (trace later : List Action) :
    started (trace ++ later) = started trace + started later :=
  List.countP_append

theorem settled_append (trace later : List Action) :
    settled (trace ++ later) = settled trace + settled later :=
  List.countP_append

/-- The action neither begins nor ends a run. -/
def Action.Neutral : Action → Prop
  | .taskStarted => False
  | .taskSettled _ => False
  | _ => True

variable {trace actions : List Action}

theorem counts_neutral (neutral : ∀ action ∈ actions, action.Neutral) :
    started actions = 0 ∧ settled actions = 0 := by
  constructor
  · rw [started, List.countP_eq_zero]
    rintro action member same
    obtain rfl := of_decide_eq_true same
    exact neutral _ member
  · rw [settled, List.countP_eq_zero]
    intro action member
    cases action <;> first | exact Bool.false_ne_true | exact (neutral _ member).elim

theorem Idle.append (idle : Idle trace) (neutral : ∀ action ∈ actions, action.Neutral) :
    Idle (trace ++ actions) := by
  obtain ⟨noStart, noEnd⟩ := counts_neutral neutral
  rw [Idle, started_append, settled_append, noStart, noEnd, Nat.add_zero, Nat.add_zero]
  exact idle

theorem Busy.append (busy : Busy trace) (neutral : ∀ action ∈ actions, action.Neutral) :
    Busy (trace ++ actions) := by
  obtain ⟨noStart, noEnd⟩ := counts_neutral neutral
  rw [Busy, started_append, settled_append, noStart, noEnd, Nat.add_zero, Nat.add_zero]
  exact busy

theorem Idle.begins (idle : Idle trace) : Busy (trace ++ [.taskStarted]) := by
  rw [Busy, started_append, settled_append, idle]
  rfl

theorem Busy.ends (busy : Busy trace) (result : Settled) : Idle (trace ++ [.taskSettled result]) := by
  rw [Idle, started_append, settled_append, busy]
  rfl

end Trace

section Shapes

/-- A run is in progress exactly while the chain waits for the task. -/
def Wait.Fits : Wait → List Action → Prop
  | .task => Busy
  | _ => Idle

/-- These are the states of a scheduler that is not stopped from the calls that start its first run and
its callback. -/
inductive Shape (cb : Bool) : List Action → TaskSchedulerService → Prop where
  | starting {trace : List Action} (busy : Busy trace) (unstopped : ¬ Stopped trace) :
      Shape cb trace ⟨true, false, .unassigned, some ⟨.task, true, []⟩, [.task .start], cb, false⟩
  | entered {trace : List Action} {aborted : Bool} {stops : List Nat} (busy : Busy trace)
      (heard : Stopped trace → aborted = true) :
      Shape cb trace ⟨true, aborted, .open_, some ⟨.task, true, stops⟩, [.task .timer], cb, false⟩
  | active {trace : List Action} {aborted : Bool} {wait : Wait} {stops : List Nat} (fits : wait.Fits trace)
      (heard : Stopped trace → aborted = true) :
      Shape cb trace ⟨true, aborted, .open_, some ⟨wait, true, stops⟩, [], cb, false⟩
  | calling {trace : List Action} {aborted : Bool} {stops : List Nat} (idle : Idle trace) :
      Shape cb trace ⟨true, aborted, .open_, none, [.cbAfterNoOp stops], cb, false⟩
  | recalled {trace : List Action} {stops later : List Nat} {result : Settled} (idle : Idle trace) :
      Shape cb trace
      ⟨true, true, .open_, some ⟨.reaction result, false, later⟩, [.cbAfterNoOp stops], cb, false⟩
  | ended {trace : List Action} {scheduledTask aborted : Bool} (idle : Idle trace) :
      Shape cb trace ⟨scheduledTask, aborted, .closed, none, [], cb, false⟩
  | fading {trace : List Action} {scheduledTask : Bool} {later : List Nat} {result : Settled}
      (idle : Idle trace) :
      Shape cb trace ⟨scheduledTask, true, .closed, some ⟨.reaction result, false, later⟩, [], cb, false⟩
  | exited {trace : List Action} {service : TaskSchedulerService} (exited : service.exited = true) :
      Shape cb trace service

/-- The trace is safe, and the scheduler is in one of its states. -/
structure Sound (cb : Bool) (trace : List Action) (service : TaskSchedulerService) : Prop where
  each : Each Safe trace
  shape : Shape cb trace service

/-- `stop` is not called by the code that the first run or the callback executes before it returns. -/
def Prudent (service : TaskSchedulerService) : Event → Prop
  | .stop _ => service.frames.head? ≠ some (.task .start) ∧
      ∀ stops, service.frames.head? = some (.cbAfterNoOp stops) → service.aborted = true
  | _ => True

end Shapes

section Steps

variable {cb : Bool} {trace actions : List Action} {service next : TaskSchedulerService}

/-- The calls of `stop` may all resolve when no run is in progress. -/
theorem resolves_stops (each : Each Safe trace) (idle : Idle trace) (stops : List Nat) :
    Each Safe (trace ++ stops.map .stopResolved) ∧ Idle (trace ++ stops.map .stopResolved) := by
  have resolves : ∀ action ∈ stops.map Action.stopResolved, ∃ stop, action = .stopResolved stop := by
    intro action member
    obtain ⟨stop, _, rfl⟩ := List.mem_map.mp member
    exact ⟨stop, rfl⟩
  have neutral : ∀ action ∈ stops.map Action.stopResolved, action.Neutral := by
    intro action member
    obtain ⟨stop, rfl⟩ := resolves action member
    trivial
  refine ⟨each.append fun front action back same => ?_, idle.append neutral⟩
  obtain ⟨stop, rfl⟩ := resolves action (by simp [same])
  exact idle.append fun other member => neutral other (by simp [same, member])

theorem Sound.complete {wait : Wait} {aborted : Bool} {stops : List Nat} (each : Each Safe trace)
    (idle : Idle trace) (completed :
      TaskSchedulerService.complete ⟨true, aborted, .open_, some ⟨wait, true, stops⟩, [], cb, false⟩
      ⟨wait, true, stops⟩ = (actions, next)) : Sound cb (trace ++ actions) next := by
  cases cb with
  | true =>
      cases completed
      refine ⟨each_concat.mpr ⟨each, trivial⟩, .calling (idle.append ?_)⟩
      simp [Action.Neutral]
  | false =>
      cases completed
      obtain ⟨each, idle⟩ := resolves_stops each idle stops
      exact ⟨each, .ended idle⟩

/-- A stop that finds no run resolves at once. -/
theorem Sound.refused (each : Each Safe trace) (idle : Idle trace) (stop : Nat)
    (shape : ∀ later, Idle later → Shape cb later service) :
    Sound cb (trace ++ [.stopCalled stop, .stopResolved stop]) service := by
  have called : Idle (trace ++ [.stopCalled stop]) := idle.append (by simp [Action.Neutral])
  refine ⟨each.append fun front action back same => ?_, shape _ (idle.append (by simp [Action.Neutral]))⟩
  cases front with
  | nil =>
      obtain rfl := (List.cons.inj same).1
      trivial
  | cons head front =>
      obtain ⟨rfl, rest⟩ := List.cons.inj same
      cases front with
      | nil =>
          obtain rfl := (List.cons.inj rest).1
          exact called
      | cons other front => simp at rest

/-- A stop that observes the completion only aborts. -/
theorem Sound.observed (each : Each Safe trace) (stop : Nat)
    (shape : Shape cb (trace ++ [.stopCalled stop]) service) :
    Sound cb (trace ++ [.stopCalled stop]) service := ⟨each_concat.mpr ⟨each, trivial⟩, shape⟩

theorem Wait.Fits.append {wait : Wait} (fits : wait.Fits trace)
    (neutral : ∀ action ∈ actions, action.Neutral) :
    wait.Fits (trace ++ actions) := by
  cases wait with
  | task => exact Busy.append fits neutral
  | reaction => exact Idle.append fits neutral
  | timer => exact Idle.append fits neutral

theorem Sound.stop (sound : Sound cb trace service) {id : Nat} (prudent : Prudent service (.stop id))
    (stops : service.step (.stop id) = some (actions, next)) : Sound cb (trace ++ actions) next := by
  obtain ⟨each, shape⟩ := sound
  have neutral : ∀ action ∈ [Action.stopCalled id], action.Neutral := by simp [Action.Neutral]
  cases shape with
  | starting => exact absurd rfl prudent.1
  | entered busy heard =>
      cases stops
      exact .observed each id (.entered (busy.append neutral) fun _ => rfl)
  | active fits heard =>
      cases stops
      exact .observed each id (.active (fits.append neutral) fun _ => rfl)
  | @calling aborted stops idle =>
      obtain rfl : aborted = true := prudent.2 _ rfl
      cases stops
      exact .observed each id (.recalled (idle.append neutral))
  | recalled idle =>
      cases stops
      exact .observed each id (.recalled (idle.append neutral))
  | @ended scheduledTask aborted idle =>
      cases scheduledTask <;> cases stops <;> exact .refused each idle id fun _ => .ended
  | @fading scheduledTask later result idle =>
      cases scheduledTask <;> cases stops <;> exact .refused each idle id fun _ => .fading
  | exited exited => simp [TaskSchedulerService.step, exited] at stops

theorem Sound.return_ (sound : Sound cb trace service)
    (returns : service.step .return_ = some (actions, next)) : Sound cb (trace ++ actions) next := by
  obtain ⟨each, shape⟩ := sound
  cases shape with
  | starting busy unstopped =>
      cases returns
      rw [List.append_nil]
      exact ⟨each, .active busy fun stopped => absurd stopped unstopped⟩
  | entered busy heard =>
      cases returns
      rw [List.append_nil]
      exact ⟨each, .active busy heard⟩
  | @calling aborted stops idle =>
      cases returns
      obtain ⟨each, idle⟩ := resolves_stops each idle stops
      exact ⟨each, .ended idle⟩
  | @recalled stops later result idle =>
      cases returns
      obtain ⟨each, idle⟩ := resolves_stops each idle stops
      exact ⟨each, .fading idle⟩
  | active => cases returns
  | ended => cases returns
  | fading => cases returns
  | exited exited => simp [TaskSchedulerService.step, exited] at returns

theorem Sound.settle (sound : Sound cb trace service) {result : Settled}
    (settles : service.step (.settle result) = some (actions, next)) : Sound cb (trace ++ actions) next := by
  obtain ⟨each, shape⟩ := sound
  cases shape with
  | @active aborted wait stops fits heard =>
      cases wait with
      | task =>
          cases settles
          refine ⟨each_concat.mpr ⟨each, trivial⟩, .active (Busy.ends fits result) ?_⟩
          rintro ⟨stop, called⟩
          exact heard ⟨stop, by simpa using called⟩
      | reaction => cases settles
      | timer => cases settles
  | exited exited => simp [TaskSchedulerService.step, exited] at settles
  | _ => cases settles

theorem Sound.react (sound : Sound cb trace service)
    (reacts : service.step .react = some (actions, next)) : Sound cb (trace ++ actions) next := by
  obtain ⟨each, shape⟩ := sound
  cases shape with
  | @active aborted wait stops fits heard =>
      cases wait with
      | task => cases reacts
      | timer => cases reacts
      | reaction result =>
          have reacted := Option.some.inj reacts
          cases result with
          | rejected err =>
              cases aborted with
              | true => exact .complete each fits reacted
              | false =>
                  cases reacted
                  exact ⟨each_concat.mpr ⟨each, trivial⟩, .exited rfl⟩
          | resolved result =>
              cases aborted with
              | true => exact .complete each fits reacted
              | false =>
                  by_cases noOp : cb && !result.getD true
                  · change TaskSchedulerService.expand _ _ _ = _ at reacted
                    rw [TaskSchedulerService.expand, if_neg Bool.false_ne_true, if_pos noOp] at reacted
                    exact .complete each fits reacted
                  · change TaskSchedulerService.expand _ _ _ = _ at reacted
                    rw [TaskSchedulerService.expand, if_neg Bool.false_ne_true, if_neg noOp] at reacted
                    cases reacted
                    rw [List.append_nil]
                    exact ⟨each, .active fits heard⟩
  | @fading scheduledTask later result idle =>
      have completed :
          TaskSchedulerService.resolveStops ⟨scheduledTask, true, .closed, none, [], cb, false⟩ later =
          (actions, next) := by
        cases result <;> exact Option.some.inj reacts
      cases completed
      obtain ⟨each, idle⟩ := resolves_stops each idle later
      exact ⟨each, .ended idle⟩
  | exited exited => simp [TaskSchedulerService.step, exited] at reacts
  | _ => cases reacts

theorem Sound.fire (sound : Sound cb trace service)
    (fires : service.step .fire = some (actions, next)) : Sound cb (trace ++ actions) next := by
  obtain ⟨each, shape⟩ := sound
  cases shape with
  | @active aborted wait stops fits heard =>
      cases wait with
      | task => cases fires
      | reaction => cases fires
      | timer =>
          cases aborted with
          | true =>
              cases fires
              rw [List.append_nil]
              exact ⟨each, .active fits heard⟩
          | false =>
              cases fires
              have unstopped : ¬ Stopped trace := fun stopped => Bool.false_ne_true (heard stopped)
              refine ⟨each_concat.mpr ⟨each, fits, unstopped⟩, .entered (Idle.begins fits) ?_⟩
              rintro ⟨stop, called⟩
              exact heard ⟨stop, by simpa using called⟩
  | exited exited => simp [TaskSchedulerService.step, exited] at fires
  | _ => cases fires

/-- Every event keeps the scheduler in order. -/
theorem Sound.step (sound : Sound cb trace service) {event : Event} (prudent : Prudent service event)
    (reacts : service.step event = some (actions, next)) : Sound cb (trace ++ actions) next := by
  cases event with
  | stop id => exact sound.stop prudent reacts
  | return_ => exact sound.return_ reacts
  | settle result => exact sound.settle reacts
  | react => exact sound.react reacts
  | fire => exact sound.fire reacts

theorem prudent_elsewhere {id : Nat} (first : service.frames.head? ≠ some (.task .start))
    (callback : ∀ stops, service.frames.head? ≠ some (.cbAfterNoOp stops)) : Prudent service (.stop id) :=
  ⟨first, fun stops called => absurd called (callback stops)⟩

/-- A stop that is called too early breaks the safety at once. -/
theorem Sound.broken (sound : Sound cb trace service) {event : Event} (imprudent : ¬ Prudent service event)
    (reacts : service.step event = some (actions, next)) : ¬ Each Safe (trace ++ actions) := by
  cases event with
  | stop id =>
      cases sound.shape with
      | starting busy =>
          cases reacts
          intro each
          have resolved : Idle (trace ++ [.stopCalled id]) := each _ (.stopResolved id) [] (by simp)
          have going : Busy (trace ++ [.stopCalled id]) := busy.append (by simp [Action.Neutral])
          unfold Idle Busy at *
          omega
      | @calling aborted stops idle =>
          cases aborted with
          | true => exact absurd ⟨by simp, fun _ _ => rfl⟩ imprudent
          | false =>
              cases reacts
              intro each
              have starts : Safe (trace ++ [.stopCalled id]) .taskStarted := each _ _ [] (by simp)
              exact absurd ⟨id, by simp⟩ starts.2
      | recalled => exact absurd ⟨by simp, fun _ _ => rfl⟩ imprudent
      | entered => exact absurd (prudent_elsewhere (by simp) (by simp)) imprudent
      | active => exact absurd (prudent_elsewhere (by simp) (by simp)) imprudent
      | ended => exact absurd (prudent_elsewhere (by simp) (by simp)) imprudent
      | fading => exact absurd (prudent_elsewhere (by simp) (by simp)) imprudent
      | exited exited => simp [TaskSchedulerService.step, exited] at reacts
  | _ => exact absurd trivial imprudent

end Steps

section Runs

variable {cb : Bool} {trace : List Action} {last : TaskSchedulerService}

theorem sound_first (cb : Bool) : Sound cb [.taskStarted] (TaskSchedulerService.start cb).2 := by
  refine ⟨?_, .starting rfl ?_⟩
  · refine (@each_concat _ Safe [] .taskStarted).mpr ⟨each_nil, rfl, ?_⟩
    rintro ⟨stop, called⟩
    cases called
  · rintro ⟨stop, called⟩
    simp at called

theorem Sound.of_run (run : (TaskSchedulerService.machine cb).Runs Prudent trace last) :
    Sound cb trace last :=
  run.invariant (Sound cb) (sound_first cb) fun sound prudent reacts => sound.step prudent reacts

/-- Runs never overlap or follow a stop, and stops resolve between runs, exactly when no stop is called
too early. -/
theorem scheduler_safe_iff (run : (TaskSchedulerService.machine cb).Runs (fun _ _ => True) trace last) :
    Each Safe trace ↔ (TaskSchedulerService.machine cb).Runs Prudent trace last := by
  constructor
  · intro safe
    induction run with
    | first => exact .first
    | step _ event _ reacts ih =>
        have prudently := ih safe.front
        refine .step prudently event ?_ reacts
        by_contra imprudent
        exact (Sound.of_run prudently).broken imprudent reacts safe
  · intro prudently
    exact (Sound.of_run prudently).each

/-- The scheduler is stopped during its second run, and the stop resolves when this run has ended. -/
theorem scheduler_safe_stopped :
    Each Safe [.taskStarted, .taskSettled (.resolved none), .taskStarted, .stopCalled 0,
    .taskSettled (.resolved (some true)), .stopResolved 0] := by
  have begun := @Machine.Runs.first _ _ _ (TaskSchedulerService.machine false) Prudent
  have returned := begun.step .return_ trivial rfl
  have settled := returned.step (.settle (.resolved none)) trivial rfl
  have waiting := settled.step .react trivial rfl
  have again := (waiting.step .fire trivial rfl).step .return_ trivial rfl
  have stopped := again.step (.stop 0) ⟨by decide, nofun⟩ rfl
  have ended := stopped.step (.settle (.resolved (some true))) trivial rfl
  have resolved := ended.step .react trivial rfl
  exact (scheduler_safe_iff (resolved.mono fun _ _ _ => trivial)).mpr resolved

/-- The task calls `stop` before it returns its first promise, and the stop resolves during this run. -/
theorem scheduler_unsafe : ∃ trace last,
    (TaskSchedulerService.machine false).Runs (fun _ _ => True) trace last ∧ ¬ Each Safe trace := by
  refine ⟨_, _, .step .first (.stop 0) trivial rfl, fun each => ?_⟩
  have resolved : started [.taskStarted, .stopCalled 0] = settled [.taskStarted, .stopCalled 0] :=
    each [.taskStarted, .stopCalled 0] (.stopResolved 0) [] rfl
  cases resolved

end Runs

end CeramicAnchor.Scheduler
