import CeramicAnchor.Concurrency.Machine

/-
This file translates the scheduler that repeats a task until it is stopped.
-/

namespace CeramicAnchor.Scheduler
open Concurrency

/-- A promise of the task resolves with a result that may be missing, or it rejects. -/
inductive Settled where
  | resolved (result : Option Bool)
  | rejected (err : String)
  deriving DecidableEq, Repr

/-- The chain of runs waits for the task, for the reaction to a settled promise, or for its timer. -/
inductive Wait where
  | task
  | reaction (settled : Settled)
  | timer
  deriving DecidableEq, Repr

/-- The shared observable runs its source for all its observers, which are told in their order. -/
structure Connection where
  wait : Wait
  observedByStart : Bool
  observedByStops : List Nat
  deriving DecidableEq, Repr

inductive Subscription where
  | unassigned
  | open_
  | closed
  deriving DecidableEq, Repr

/-- This code goes on when the task has returned its promise. -/
inductive Caller where
  | start
  | stop
  | timer
  deriving DecidableEq, Repr

/-- The task or the callback has been called and has not returned yet. -/
inductive Frame where
  | task (caller : Caller)
  | cbAfterNoOp (observedByStops : List Nat)
  deriving DecidableEq, Repr

/-- The connection and the stack of calls belong to the library and to the language. -/
structure TaskSchedulerService where
  scheduledTask : Bool
  aborted : Bool
  subscription : Subscription
  connection : Option Connection
  frames : List Frame
  cbAfterNoOp : Bool
  exited : Bool
  deriving DecidableEq, Repr

inductive Action where
  | taskStarted
  | taskSettled (settled : Settled)
  | stopCalled (stop : Nat)
  | stopResolved (stop : Nat)
  | cbAfterNoOpCalled
  | exited
  deriving DecidableEq, Repr

inductive Event where
  | stop (stop : Nat)
  | return_
  | settle (settled : Settled)
  | react
  | fire
  deriving DecidableEq, Repr

/-- Code under way acts and changes the service. -/
abbrev Effect := List Action × TaskSchedulerService

/-- The subscription is assigned behind the subscribing call, and the abort follows it as well. -/
def Caller.resume : Caller → TaskSchedulerService → TaskSchedulerService
  | .start, service => { service with subscription := .open_ }
  | .stop, service => { service with aborted := true }
  | .timer, service => service

namespace TaskSchedulerService

/-- The deferred function skips the task of an aborted service. -/
def deferred (service : TaskSchedulerService) (caller : Caller) (observedByStart : Bool)
    (observedByStops : List Nat) : Effect :=
  if service.aborted then
    ([], caller.resume
      { service with connection := some ⟨.reaction (.resolved (some false)), observedByStart,
        observedByStops⟩ })
  else
    ([.taskStarted], { service with
      connection := some ⟨.task, observedByStart, observedByStops⟩
      frames := .task caller :: service.frames })

def start (cbAfterNoOp : Bool) : Effect :=
  deferred ⟨true, false, .unassigned, none, [], cbAfterNoOp, false⟩ .start true []

/-- Each call of `stop` that observes the completion resolves. -/
def resolveStops (service : TaskSchedulerService) (stops : List Nat) : Effect :=
  (stops.map .stopResolved, { service with scheduledTask := service.scheduledTask && stops.isEmpty })

/-- The connection is given up before its observers are told, and the subscription closes behind its
callback. -/
def complete (service : TaskSchedulerService) (connection : Connection) : Effect :=
  if connection.observedByStart then
    if service.cbAfterNoOp then
      ([.cbAfterNoOpCalled], { service with
        connection := none
        frames := .cbAfterNoOp connection.observedByStops :: service.frames })
    else resolveStops { service with connection := none, subscription := .closed } connection.observedByStops
  else resolveStops { service with connection := none } connection.observedByStops

/-- An error that reaches the observers ends the process. -/
def error (service : TaskSchedulerService) : Effect :=
  ([.exited], { service with connection := none, exited := true })

/-- A rejection after an abort is dropped. -/
def catchError (service : TaskSchedulerService) (connection : Connection) : Effect :=
  if service.aborted then service.complete connection else service.error

/-- A success is followed by the timer of the next run. -/
def expand (service : TaskSchedulerService) (connection : Connection) (success : Bool) : Effect :=
  if service.aborted then service.complete connection
  else if service.cbAfterNoOp && !success then service.complete connection
  else ([], { service with connection := some { connection with wait := .timer } })

/-- A missing result counts as a success. -/
def react (service : TaskSchedulerService) (connection : Connection) : Settled → Effect
  | .resolved result => service.expand connection (result.getD true)
  | .rejected _ => service.catchError connection

/-- A new observer joins the connection, and without one the shared observable runs its source again. -/
def observe (service : TaskSchedulerService) (stop : Nat) : Effect :=
  match service.connection with
  | some connection =>
      ([], Caller.resume .stop { service with
        connection := some { connection with observedByStops := connection.observedByStops ++ [stop] } })
  | none => service.deferred .stop false [stop]

def stop (service : TaskSchedulerService) (stop : Nat) : Effect :=
  if ¬ service.scheduledTask then ([.stopCalled stop, .stopResolved stop], service)
  else if service.subscription ≠ .open_ then ([.stopCalled stop, .stopResolved stop], service)
  else
    let (actions, stopped) := service.observe stop
    (.stopCalled stop :: actions, stopped)

/-- The task or the callback returns to the code that called it. -/
def return_ (service : TaskSchedulerService) : Option Effect :=
  match service.frames with
  | [] => none
  | .task caller :: frames => some ([], caller.resume { service with frames := frames })
  | .cbAfterNoOp stops :: frames =>
      some (resolveStops { service with frames := frames, subscription := .closed } stops)

/-- The promise of a task settles after the task has returned it. -/
def settle (service : TaskSchedulerService) (settled : Settled) : Option Effect :=
  match service.frames, service.connection with
  | .task _ :: _, _ => none
  | _, some ⟨.task, observedByStart, observedByStops⟩ =>
      some ([.taskSettled settled],
        { service with connection := some ⟨.reaction settled, observedByStart, observedByStops⟩ })
  | _, _ => none

/-- The loop reacts to a promise and to a timer when all calls have returned. -/
def step (service : TaskSchedulerService) (event : Event) : Option Effect :=
  if service.exited then none
  else match event with
    | .stop stop => some (service.stop stop)
    | .return_ => service.return_
    | .settle settled => service.settle settled
    | .react => match service.frames, service.connection with
        | [], some ⟨.reaction settled, observedByStart, observedByStops⟩ =>
            some (service.react ⟨.reaction settled, observedByStart, observedByStops⟩ settled)
        | _, _ => none
    | .fire => match service.frames, service.connection with
        | [], some ⟨.timer, observedByStart, observedByStops⟩ =>
            some (service.deferred .timer observedByStart observedByStops)
        | _, _ => none

/-- The scheduler has been started once. -/
def machine (cbAfterNoOp : Bool) : Machine TaskSchedulerService Event Action := ⟨start cbAfterNoOp, step⟩

end TaskSchedulerService

end CeramicAnchor.Scheduler
