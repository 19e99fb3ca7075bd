import CeramicAnchor.Concurrency.Program

/-
This file translates how the witness service makes sure of its table, and the table service behind it.
-/

namespace CeramicAnchor.DynamoDbWitnessService
open Concurrency

def WITNESS_TABLE_CREATION_RETRIES : Nat := 3

def DEFAULT_WITNESS_TABLE_NAME : String := "cas-anchor-witness"

/-- An empty name in the configuration counts as missing. -/
def tableNameOf (dynamoDbTableName : Option String) : String :=
  (dynamoDbTableName.filter fun name => name ≠ "").getD DEFAULT_WITNESS_TABLE_NAME

/-- The last operation puts off another attempt, which nobody awaits. -/
inductive TableOp where
  | describeTable (tableName : String)
  | createTable (tableName : String)
  | updateTimeToLive (tableName : String) (enabled : Bool)
  | later (retries : Nat)
  deriving DecidableEq, Repr

abbrev TableOp.Reply : TableOp → Type := fun _ => Unit

abbrev TableCode := Prog TableOp TableOp.Reply String Unit

/-- A failed attempt puts off the next one until the retries are used up. -/
def makeTable (tableName : String) (retries : Nat) : TableCode :=
  tryCatch (do
    Prog.call (TableOp.createTable tableName)
    Prog.call (TableOp.updateTimeToLive tableName true)) fun err =>
      if retries - 1 ≤ 0 then throw s!"Failed to create table {tableName}: {err}"
      else Prog.call (TableOp.later (retries - 1))

/-- A table that is described counts as made, whatever its time to live is. -/
def createTable (tableName : String) (retries : Nat) : TableCode :=
  tryCatch (Prog.call (TableOp.describeTable tableName)) fun _ => makeTable tableName retries

def init (tableName : String) : TableCode := createTable tableName WITNESS_TABLE_CREATION_RETRIES

section Service

/-- A command is processed, or it fails with or without its effect. -/
inductive Outcome where
  | processed
  | lost (applied : Bool)
  deriving DecidableEq, Repr

/-- A table that is there has its time to live enabled or not, and one attempt at most is put off. -/
structure TableService where
  table : Option Bool
  outcomes : Nat → Outcome
  calls : Nat
  waiting : Option Nat

/-- This is what the service does when it processes a command. -/
def TableOp.process : TableOp → Option Bool → Except String (Option Bool)
  | .describeTable _, none => .error "ResourceNotFoundException"
  | .describeTable _, some ttl => .ok (some ttl)
  | .createTable _, none => .ok (some false)
  | .createTable _, some _ => .error "ResourceInUseException"
  | .updateTimeToLive _ _, none => .error "ResourceNotFoundException"
  | .updateTimeToLive _ enabled, some ttl =>
      if ttl = enabled then .error "ValidationException" else .ok (some enabled)
  | .later _, table => .ok table

def TableService.command (service : TableService) (op : TableOp) : Except String Unit × TableService :=
  let processed := op.process service.table
  match service.outcomes service.calls with
  | .processed => (processed.map fun _ => (),
      { service with table := processed.toOption.getD service.table, calls := service.calls + 1 })
  | .lost applied => (.error "TimeoutError",
      { service with
        table := if applied then processed.toOption.getD service.table else service.table
        calls := service.calls + 1 })

/-- The commands have their outcomes in order, and putting off an attempt is no command. -/
def answer : (op : TableOp) → TableService → Except String op.Reply × TableService
  | .later retries, service => (.ok (), { service with waiting := some retries })
  | op, service => service.command op

/-- Nothing has been asked of the service yet. -/
def TableService.start (table : Option Bool) (outcomes : Nat → Outcome) : TableService :=
    ⟨table, outcomes, 0, none⟩

/-- The attempts follow each other, each with the retries that are left to it. -/
def attempts (tableName : String) : Nat → Nat → TableService → List (Except String Unit × TableService)
  | 0, _, _ => []
  | rounds + 1, retries, service =>
      match (createTable tableName retries).alone answer service with
      | none => []
      | some (settled, after) =>
          (settled, after) :: match after.waiting with
            | none => []
            | some left => attempts tableName rounds left { after with waiting := none }

end Service

end CeramicAnchor.DynamoDbWitnessService
