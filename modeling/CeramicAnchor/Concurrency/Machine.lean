import Mathlib.Data.List.Induction

/-
This file gives machines that react to events with actions, and the rules for their traces.
-/

namespace CeramicAnchor.Concurrency

/-- A machine reacts to an event with actions, and an event without a reaction cannot happen. -/
structure Machine (State Event Action : Type) where
  first : List Action × State
  step : State → Event → Option (List Action × State)

variable {State Event Action : Type}

/-- The machine has performed this trace by allowed steps. -/
inductive Machine.Runs (machine : Machine State Event Action) (allowed : State → Event → Prop) :
    List Action → State → Prop where
  | first : Runs machine allowed machine.first.1 machine.first.2
  | step {trace actions : List Action} {state next : State} (earlier : Runs machine allowed trace state)
      (event : Event) (permitted : allowed state event)
      (reacts : machine.step state event = some (actions, next)) :
      Runs machine allowed (trace ++ actions) next

/-- What holds at first and is kept by each allowed step holds of every run. -/
theorem Machine.Runs.invariant {machine : Machine State Event Action} {allowed : State → Event → Prop}
    (holds : List Action → State → Prop) (initially : holds machine.first.1 machine.first.2)
    (keeps : ∀ {trace state event actions next}, holds trace state → allowed state event →
      machine.step state event = some (actions, next) → holds (trace ++ actions) next)
    {trace : List Action} {state : State} (run : machine.Runs allowed trace state) : holds trace state := by
  induction run with
  | first => exact initially
  | step _ event permitted reacts ih => exact keeps ih permitted reacts

theorem Machine.Runs.mono {machine : Machine State Event Action} {allowed larger : State → Event → Prop}
    {trace : List Action} {state : State} (run : machine.Runs allowed trace state)
    (allows : ∀ state event, allowed state event → larger state event) : machine.Runs larger trace state := by
  induction run with
  | first => exact .first
  | step _ event permitted reacts ih => exact .step ih event (allows _ _ permitted) reacts

section Each

variable {fits : List Action → Action → Prop}

/-- Each action of the trace fits what was done before it. -/
def Each (fits : List Action → Action → Prop) (trace : List Action) : Prop :=
  ∀ front action back, trace = front ++ action :: back → fits front action

theorem each_nil : Each fits [] := by
  intro front action back same
  simp at same

theorem Each.front {trace later : List Action} (each : Each fits (trace ++ later)) : Each fits trace :=
  fun front action back same => each front action (back ++ later) (by simp [same])

theorem each_concat {trace : List Action} {action : Action} :
    Each fits (trace ++ [action]) ↔ Each fits trace ∧ fits trace action := by
  constructor
  · intro each
    refine ⟨fun front other back same => ?_, each trace action [] rfl⟩
    exact each front other (back ++ [action]) (by simp [same])
  · rintro ⟨each, last⟩ front other back same
    rcases List.eq_nil_or_concat back with rfl | ⟨rest, final, rfl⟩
    · obtain ⟨rfl, ends⟩ := List.append_inj' same rfl
      obtain rfl := (List.cons.inj ends).1
      exact last
    · have same : trace ++ [action] = (front ++ other :: rest) ++ [final] := by simpa using same
      exact each front other rest (List.append_inj' same rfl).1

/-- Actions that fit whatever was done before them can be added one by one. -/
theorem Each.append {trace actions : List Action} (each : Each fits trace)
    (later : ∀ front action back, actions = front ++ action :: back → fits (trace ++ front) action) :
    Each fits (trace ++ actions) := by
  induction actions using List.reverseRecOn with
  | nil =>
      rw [List.append_nil]
      exact each
  | append_singleton actions last ih =>
      rw [← List.append_assoc, each_concat]
      refine ⟨ih fun front action back same => later front action (back ++ [last]) (by simp [same]), ?_⟩
      exact later actions last [] rfl

end Each

end CeramicAnchor.Concurrency
