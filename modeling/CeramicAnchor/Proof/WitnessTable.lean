import CeramicAnchor.Construction.WitnessTable
import Mathlib.Tactic.ByContra

/-
This file says when the initialisation of the witness service reports the truth about its table.
-/

namespace CeramicAnchor.DynamoDbWitnessService
open Concurrency

/-- The attempt has not made the table, whether it rejects or puts off another. -/
def Failed (attempt : Except String Unit × TableService) : Prop :=
  attempt.1 ≠ .ok () ∨ attempt.2.waiting ≠ none

/-- Every attempt that the retries allow has failed. -/
def AllFail (tableName : String) (service : TableService) : Prop :=
  (attempts tableName WITNESS_TABLE_CREATION_RETRIES WITNESS_TABLE_CREATION_RETRIES service).length =
      WITNESS_TABLE_CREATION_RETRIES ∧
    ∀ attempt ∈ attempts tableName WITNESS_TABLE_CREATION_RETRIES WITNESS_TABLE_CREATION_RETRIES service,
      Failed attempt

/-- When the initialisation settles, it tells what the table is like, and no attempt is put off. -/
def ReportsTruth (tableName : String) (service : TableService) : Prop :=
  ∃ settled after, (init tableName).alone answer service = some (settled, after) ∧
    (settled = .ok () → after.table = some true) ∧
    (AllFail tableName service → settled ≠ .ok ()) ∧
    after.waiting = none

variable {tableName : String} {service : TableService}

/-- There is a table, and the service says so. -/
def TableService.Described (service : TableService) : Prop :=
  service.outcomes service.calls = .processed ∧ service.table.isSome

theorem command_ok {op : TableOp} {after : TableService} (resolved : service.command op = (.ok (), after)) :
    service.outcomes service.calls = .processed ∧ ∃ table, op.process service.table = .ok table ∧
      after = { service with table := table, calls := service.calls + 1 } := by
  unfold TableService.command at resolved
  dsimp only at resolved
  split at resolved
  · next processed =>
      cases result : op.process service.table with
      | error err =>
          rw [result] at resolved
          cases resolved
      | ok table =>
          rw [result] at resolved
          exact ⟨processed, table, rfl, (Prod.mk.inj resolved).2.symm⟩
  · cases resolved

theorem command_processed {op : TableOp} {table : Option Bool}
    (processed : service.outcomes service.calls = .processed)
    (result : op.process service.table = .ok table) :
    service.command op = (.ok (), { service with table := table, calls := service.calls + 1 }) := by
  rw [TableService.command, processed, result]
  rfl

/-- Describing the table leaves it as it is. -/
theorem describe_state : (service.command (.describeTable tableName)).2 =
    { service with calls := service.calls + 1 } := by
  obtain ⟨table, outcomes, calls, waiting⟩ := service
  unfold TableService.command
  dsimp only
  cases table <;> split
  · rfl
  · next applied _ => cases applied <;> rfl
  · rfl
  · next applied _ => cases applied <;> rfl

theorem attempt_described (retries : Nat) (described : service.Described) :
    (createTable tableName retries).alone answer service =
      some (.ok (), { service with calls := service.calls + 1 }) := by
  obtain ⟨processed, present⟩ := described
  obtain ⟨ttl, present⟩ := Option.isSome_iff_exists.mp present
  have reply : service.command (.describeTable tableName) = (.ok (), _) :=
    command_processed processed (by rw [present]; rfl)
  have after := @describe_state tableName service
  rw [reply] at after
  change ((Prog.ask (.describeTable tableName) _ : TableCode)).alone answer service = _
  rw [Prog.alone, answer, reply]
  · exact congrArg some (congrArg (Prod.mk _) after)
  · exact fun _ same => by cases same

theorem attempt_undescribed (retries : Nat) (undescribed : ¬ service.Described) :
    (createTable tableName retries).alone answer service =
      (makeTable tableName retries).alone answer { service with calls := service.calls + 1 } := by
  have after := @describe_state tableName service
  rcases reply : service.command (.describeTable tableName) with ⟨reply', after'⟩
  rw [reply] at after
  subst after
  have refused : ∃ err, reply' = .error err := by
    cases reply' with
    | error err => exact ⟨err, rfl⟩
    | ok _ =>
        obtain ⟨processed, table, result, _⟩ := command_ok reply
        refine absurd ⟨processed, ?_⟩ undescribed
        cases present : service.table with
        | none =>
            rw [present] at result
            cases result
        | some ttl => rfl
  obtain ⟨err, rfl⟩ := refused
  have same : answer (.describeTable tableName) service = service.command (.describeTable tableName) := rfl
  change ((Prog.ask (.describeTable tableName) _ : TableCode)).alone answer service = _
  rw [Prog.alone, same, reply]
  rfl

theorem makeTable_done (retries : Nat) (absent : service.table = none)
    (created : service.outcomes service.calls = .processed)
    (enabled : service.outcomes (service.calls + 1) = .processed) :
    (makeTable tableName retries).alone answer service =
      some (.ok (), { service with table := some true, calls := service.calls + 2 }) := by
  have first : answer (.createTable tableName) service = (.ok (), _) :=
    command_processed created (by rw [absent]; rfl)
  have second : answer (.updateTimeToLive tableName true)
      { service with table := some false, calls := service.calls + 1 } = (.ok (), _) :=
    command_processed enabled rfl
  change ((Prog.ask (.createTable tableName) _ : TableCode)).alone answer service = _
  rw [Prog.alone, first]
  change ((Prog.ask (.updateTimeToLive tableName true) _ : TableCode)).alone answer _ = _
  rw [Prog.alone, second]
  rfl

/-- A failed attempt with retries left resolves, and the next one is put off. -/
theorem makeTable_failed {retries : Nat} (left : 1 < retries)
    (fails : ¬ (service.table = none ∧ service.outcomes service.calls = .processed ∧
      service.outcomes (service.calls + 1) = .processed)) :
    ∃ after, (makeTable tableName retries).alone answer service = some (.ok (), after) ∧
      after.waiting = some (retries - 1) := by
  have more : ¬ retries - 1 ≤ 0 := by omega
  have later : ∀ (err : String) (state : TableService),
      (if retries - 1 ≤ 0 then throw s!"Failed to create table {tableName}: {err}"
        else Prog.call (TableOp.later (retries - 1)) : TableCode).alone answer state =
      some (.ok (), { state with waiting := some (retries - 1) }) := by
    intro err state
    rw [if_neg more]
    rfl
  rcases first : answer (.createTable tableName) service with ⟨reply, middle⟩
  cases reply with
  | error err =>
      refine ⟨{ middle with waiting := some (retries - 1) }, ?_, rfl⟩
      change ((Prog.ask (.createTable tableName) _ : TableCode)).alone answer service = _
      rw [Prog.alone, first]
      exact later err middle
  | ok reply =>
      rcases second : answer (.updateTimeToLive tableName true) middle with ⟨reply', last⟩
      cases reply' with
      | error err =>
          refine ⟨{ last with waiting := some (retries - 1) }, ?_, rfl⟩
          change ((Prog.ask (.createTable tableName) _ : TableCode)).alone answer service = _
          rw [Prog.alone, first]
          change ((Prog.ask (.updateTimeToLive tableName true) _ : TableCode)).alone answer middle = _
          rw [Prog.alone, second]
          exact later err last
      | ok reply' =>
          obtain ⟨created, table, result, rfl⟩ := command_ok first
          obtain ⟨enabled, _⟩ := command_ok second
          refine absurd ⟨?_, created, enabled⟩ fails
          cases present : service.table with
          | none => rfl
          | some ttl =>
              rw [present] at result
              cases result

/-- An attempt that does not fail is the only one. -/
theorem not_allFail {after : TableService}
    (resolved : (init tableName).alone answer service = some (.ok (), after))
    (quiet : after.waiting = none) : ¬ AllFail tableName service := by
  rintro ⟨length, _⟩
  have lone : attempts tableName WITNESS_TABLE_CREATION_RETRIES WITNESS_TABLE_CREATION_RETRIES service =
      [(.ok (), after)] := by
    rw [init] at resolved
    unfold WITNESS_TABLE_CREATION_RETRIES at resolved ⊢
    rw [attempts, resolved]
    dsimp only
    rw [quiet]
  rw [lone] at length
  cases length

/-- The initialisation tells the truth when its first attempt finds the table with its time to live, or
makes it. -/
theorem init_reports_iff (tableName : String) (table : Option Bool) (outcomes : Nat → Outcome) :
    ReportsTruth tableName (.start table outcomes) ↔
      (table = some true ∧ outcomes 0 = .processed) ∨
        (table = none ∧ outcomes 1 = .processed ∧ outcomes 2 = .processed) := by
  by_cases described : (TableService.start table outcomes).Described
  · obtain ⟨processed, present⟩ := described
    have resolved : (init tableName).alone answer (.start table outcomes) = some (.ok (), _) :=
      attempt_described WITNESS_TABLE_CREATION_RETRIES ⟨processed, present⟩
    constructor
    · rintro ⟨settled, after, ends, truth, _⟩
      rw [resolved] at ends
      obtain ⟨rfl, rfl⟩ := Prod.mk.inj (Option.some.inj ends)
      exact .inl ⟨truth rfl, processed⟩
    · rintro (⟨enabled, _⟩ | ⟨absent, _⟩)
      · exact ⟨_, _, resolved, fun _ => enabled, fun failed => absurd failed (not_allFail resolved rfl), rfl⟩
      · have missing : table.isSome = true := present
        rw [absent] at missing
        cases missing
  · have makes : (init tableName).alone answer (.start table outcomes) =
        (makeTable tableName WITNESS_TABLE_CREATION_RETRIES).alone answer ⟨table, outcomes, 1, none⟩ :=
      attempt_undescribed WITNESS_TABLE_CREATION_RETRIES described
    by_cases creates : table = none ∧ outcomes 1 = .processed ∧ outcomes 2 = .processed
    · have resolved := makes.trans
        (makeTable_done WITNESS_TABLE_CREATION_RETRIES creates.1 creates.2.1 creates.2.2)
      exact iff_of_true
        ⟨_, _, resolved, fun _ => rfl, fun failed => absurd failed (not_allFail resolved rfl), rfl⟩
        (.inr creates)
    · obtain ⟨after, failed, waiting⟩ := @makeTable_failed tableName ⟨table, outcomes, 1, none⟩
        WITNESS_TABLE_CREATION_RETRIES (by decide) creates
      refine iff_of_false ?_ ?_
      · rintro ⟨settled, last, ends, _, _, quiet⟩
        rw [makes, failed] at ends
        obtain ⟨_, rfl⟩ := Prod.mk.inj (Option.some.inj ends)
        rw [waiting] at quiet
        cases quiet
      · rintro (⟨rfl, processed⟩ | made)
        · exact described ⟨processed, rfl⟩
        · exact creates made

/-- The first attempt fails and the initialisation resolves nevertheless. -/
theorem init_resolves_untruthfully :
    ¬ ∀ (tableName : String) (table : Option Bool) (outcomes : Nat → Outcome),
    ReportsTruth tableName (.start table outcomes) := by
  intro claim
  obtain ⟨settled, after, ends, _, _, quiet⟩ := claim "cas-anchor-witness" none fun _ => .lost false
  obtain ⟨rfl⟩ : after = ⟨none, fun _ => .lost false, 2, some 2⟩ :=
    (Prod.mk.inj (Option.some.inj ends)).2.symm
  cases quiet

end CeramicAnchor.DynamoDbWitnessService
