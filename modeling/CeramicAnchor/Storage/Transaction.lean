import CeramicAnchor.Concurrency.RelyGuarantee
import CeramicAnchor.Storage.Table

namespace CeramicAnchor.Storage
open Concurrency

/-- An error is a serialization conflict, another rejection of the outside, or an error that the code
throws. -/
inductive Failure where
  | serialization
  | rejected (message : String)
  | thrown (message : String)
  deriving DecidableEq, Repr

/-- The outside rejects, but it never throws for the code. -/
def Failure.External : Failure → Prop
  | .thrown _ => False
  | _ => True

/-- A transaction body reads the chosen rows, reads the clock, or edits the rows with given keys. -/
inductive Statement (Row Value : Type) (unique : List (Row → Value)) where
  | select (chosen : Row → Bool)
  | clock
  | update (keys : List Value) (edit : Edit Row Value unique)

def Statement.Reply {Row Value : Type} {unique : List (Row → Value)} :
    Statement Row Value unique → Type
  | .select _ => List Row
  | .clock => Int
  | .update _ _ => Nat

abbrev Body (Row Value : Type) (unique : List (Row → Value)) (A : Type) :=
  Prog (Statement Row Value unique) Statement.Reply Failure A

/-- The pending edits of a transaction, oldest first. -/
abbrev Pending (Row Value : Type) (unique : List (Row → Value)) := List (Value × Edit Row Value unique)

variable {Row Value A : Type} {unique : List (Row → Value)} [DecidableEq Value]

/-- The batch applies each pending edit to the row with its key. -/
def Edit.batch (key : Row → Value) (pending : Pending Row Value unique) : Edit Row Value unique where
  apply row :=
    pending.foldl (fun current item => if key row = item.1 then item.2.apply current else current) row
  keeps column indexed row := by
    have kept : ∀ (items : Pending Row Value unique) (current : Row),
        column (items.foldl (fun current item =>
          if key row = item.1 then item.2.apply current else current) current) = column current := by
      intro items
      induction items with
      | nil => exact fun _ => rfl
      | cons item items ih =>
          intro current
          rw [List.foldl_cons, ih]
          exact item.2.column_ite indexed _ current
    exact kept pending row

/-- The batch leaves a row without pending edits alone. -/
theorem Edit.batch_apply_of_notMem {key : Row → Value} {pending : Pending Row Value unique} {row : Row}
    (absent : key row ∉ pending.map Prod.fst) : (Edit.batch key pending).apply row = row := by
  have kept : ∀ (items : Pending Row Value unique) (current : Row),
      key row ∉ items.map Prod.fst →
      items.foldl (fun current item => if key row = item.1 then item.2.apply current else current)
        current = current := by
    intro items
    induction items with
    | nil => exact fun _ _ => rfl
    | cons item items ih =>
        intro current outside
        simp only [List.map_cons, List.mem_cons, not_or] at outside
        rw [List.foldl_cons, if_neg outside.1]
        exact ih current outside.2
  exact kept pending row absent

/-- One edit of distinct keys acts once on each of their rows. -/
theorem Edit.batch_apply_map {key : Row → Value} {targets : List Value} {edit : Edit Row Value unique}
    (distinct : targets.Nodup) (row : Row) :
    (Edit.batch key (targets.map fun target => (target, edit))).apply row =
      if key row ∈ targets then edit.apply row else row := by
  have folded : ∀ (items : List Value), items.Nodup → ∀ current : Row,
      (items.map fun target => (target, edit)).foldl
        (fun current item => if key row = item.1 then item.2.apply current else current) current =
        if key row ∈ items then edit.apply current else current := by
    intro items
    induction items with
    | nil => exact fun _ _ => rfl
    | cons item items ih =>
        intro distinct current
        obtain ⟨fresh, distinct⟩ := List.nodup_cons.mp distinct
        rw [List.map_cons, List.foldl_cons, ih distinct]
        by_cases same : key row = item
        · subst item
          simp [fresh]
        · simp [same]
  exact folded targets distinct row

/-- A commit publishes the pending edits to the current rows. -/
def Table.publish (key : Row → Value) (table : Table Row Value unique)
    (pending : Pending Row Value unique) : Table Row Value unique :=
  table.update (fun _ => true) (Edit.batch key pending)

theorem Table.publish_rows (key : Row → Value) (table : Table Row Value unique)
    (pending : Pending Row Value unique) :
    (table.publish key pending).rows = table.rows.map (Edit.batch key pending).apply := by
  simp [publish, update]

@[simp] theorem Table.publish_nil (key : Row → Value) (table : Table Row Value unique) :
    table.publish key [] = table := by
  apply Table.ext
  rw [publish_rows]
  exact List.map_id table.rows

/-- One edit of distinct keys is one update of their rows. -/
theorem Table.publish_map {key : Row → Value} {targets : List Value} (distinct : targets.Nodup)
    (table : Table Row Value unique) (edit : Edit Row Value unique) :
    table.publish key (targets.map fun target => (target, edit)) =
      table.update (fun row => key row ∈ targets) edit := by
  apply Table.ext
  rw [publish_rows]
  apply List.map_congr_left
  intro row _
  rw [Edit.batch_apply_map distinct row]
  simp

theorem Table.lookup_publish {key : Row → Value} (indexed : key ∈ unique)
    (table : Table Row Value unique) (pending : Pending Row Value unique) (value : Value) :
    (table.publish key pending).lookup key value =
      (table.lookup key value).map (Edit.batch key pending).apply := by
  rw [publish, lookup_update indexed]
  simp

/-- A row whose key is not pending stays as it was. -/
theorem Table.lookup_publish_of_notMem {key : Row → Value} (indexed : key ∈ unique)
    {table : Table Row Value unique} {pending : Pending Row Value unique} {value : Value}
    (absent : value ∉ pending.map Prod.fst) :
    (table.publish key pending).lookup key value = table.lookup key value := by
  rw [lookup_publish indexed]
  cases found : table.lookup key value with
  | none => rfl
  | some row =>
      have same := (lookup_mem found).2
      rw [Option.map_some, Edit.batch_apply_of_notMem (by rw [same]; exact absent)]

/-- A transaction in progress knows its pending edits, the rows that it has read, and the time. -/
structure Progress (Row Value : Type) (unique : List (Row → Value)) where
  pending : Pending Row Value unique
  read : List Row
  clock : Int

/-- A new transaction has neither read nor edited a row. -/
def Progress.fresh (clock : Int) : Progress Row Value unique := ⟨[], [], clock⟩

section Snapshot

variable (key : Row → Value)

/-- These are the keys of the snapshot that an update by keys finds. -/
def Table.targets (table : Table Row Value unique) (keys : List Value) : List Value :=
  (table.rows.map key).filter (· ∈ keys)

/-- A statement reads the snapshot with the transaction's own edits on top, in any order of rows. -/
def Statement.Answers (snapshot : Table Row Value unique) :
    (statement : Statement Row Value unique) → Progress Row Value unique → statement.Reply →
      Progress Row Value unique → Prop
  | .select chosen, before, (rows : List Row), after =>
      List.Perm rows ((snapshot.publish key before.pending).rows.filter chosen) ∧
        after = { before with read := before.read ++ rows }
  | .clock, before, (now : Int), after => now = before.clock ∧ after = before
  | .update keys edit, before, (count : Nat), after => ∃ targets : List Value,
      targets.Perm ((snapshot.publish key before.pending).targets key keys) ∧ count = targets.length ∧
      after = { before with pending := before.pending ++ targets.map fun target => (target, edit) }

/-- A transaction body runs alone on its snapshot while time passes. -/
def snapshotSetting (snapshot : Table Row Value unique) :
    Setting (Statement Row Value unique) Statement.Reply Failure (Progress Row Value unique) where
  perform statement before reply after := match reply with
    | .ok value => statement.Answers key snapshot before value after
    | .error error => error.External ∧ after = before
  rely first second := ∃ later, first.clock ≤ later ∧ second = { first with clock := later }
  rely_refl progress := ⟨progress.clock, Int.le_refl _, rfl⟩
  rely_trans := by
    rintro first second third ⟨middle, early, rfl⟩ ⟨last, late, rfl⟩
    exact ⟨last, Int.le_trans early late, rfl⟩

/-- The body returns a value with this progress. -/
def Evaluates (snapshot : Table Row Value unique) (earliest : Int) (body : Body Row Value unique A)
    (value : A) (last : Progress Row Value unique) : Prop :=
  ∃ trace, Path (snapshotSetting key snapshot) body (.fresh earliest) trace (.done value) last

/-- The body rejects with this error. -/
def Raises (snapshot : Table Row Value unique) (earliest : Int) (body : Body Row Value unique A)
    (error : Failure) : Prop :=
  ∃ trace last, Path (snapshotSetting key snapshot) body (.fresh earliest) trace (.fail error) last

/-- A committed transaction found each edited row as its snapshot has it. -/
structure CommitsSnapshot (snapshot current : Table Row Value unique)
    (pending : Pending Row Value unique) (next : Table Row Value unique) : Prop where
  unchanged : ∀ value ∈ pending.map Prod.fst, current.lookup key value = snapshot.lookup key value
  published : next = current.publish key pending

end Snapshot

variable {key : Row → Value}

/-- What a specification of the body says holds for each evaluation. -/
theorem Evaluates.spec {snapshot : Table Row Value unique} {earliest : Int}
    {body : Body Row Value unique A} {value : A} {last : Progress Row Value unique}
    {post : A → Progress Row Value unique → Prop} {raise : Failure → Progress Row Value unique → Prop}
    (evaluates : Evaluates key snapshot earliest body value last)
    (spec : Sat (snapshotSetting key snapshot) (fun _ _ _ _ => True) post raise body (.fresh earliest)) :
    post value last := by
  obtain ⟨trace, path⟩ := evaluates
  exact (sat_path path spec).2

/-- An update by the keys of present rows finds each of them once. -/
theorem Table.targets_perm (indexed : key ∈ unique) {table : Table Row Value unique} {rows : List Row}
    (distinct : (rows.map key).Nodup) (inside : ∀ row ∈ rows, row ∈ table.rows) :
    (table.targets key (rows.map key)).Perm (rows.map key) := by
  refine (List.perm_ext_iff_of_nodup ((table.distinct key indexed).filter _) distinct).mpr ?_
  intro value
  simp only [List.mem_filter, decide_eq_true_eq, List.mem_map]
  constructor
  · exact And.right
  · rintro ⟨row, member, rfl⟩
    exact ⟨⟨row, inside row member, rfl⟩, row, member, rfl⟩

/-- A committed transaction changes no row outside its edits. -/
theorem CommitsSnapshot.changed {snapshot current next : Table Row Value unique}
    {pending : Pending Row Value unique} (indexed : key ∈ unique)
    (commit : CommitsSnapshot key snapshot current pending next) {value : Value}
    (changed : next.lookup key value ≠ current.lookup key value) :
    value ∈ pending.map Prod.fst ∧ current.lookup key value = snapshot.lookup key value := by
  have member : value ∈ pending.map Prod.fst := by
    by_contra absent
    rw [commit.published, Table.lookup_publish_of_notMem indexed absent] at changed
    exact changed rfl
  exact ⟨member, commit.unchanged value member⟩

/-- A current row with a pending edit is a row of the snapshot. -/
theorem CommitsSnapshot.mem_snapshot {snapshot current next : Table Row Value unique}
    {pending : Pending Row Value unique} (indexed : key ∈ unique)
    (commit : CommitsSnapshot key snapshot current pending next) {row : Row} (member : row ∈ current.rows)
    (edited : key row ∈ pending.map Prod.fst) : row ∈ snapshot.rows := by
  have found : current.lookup key (key row) = some row := (Table.lookup_eq_some indexed).mpr ⟨member, rfl⟩
  rw [commit.unchanged (key row) edited] at found
  exact (Table.lookup_mem found).1

end CeramicAnchor.Storage
