import Mathlib.Data.List.Nodup
import Mathlib.Data.List.Basic
import Mathlib.Logic.Function.Basic

namespace CeramicAnchor.Storage

variable {Row Value : Type}

/-- A table holds rows that differ in each unique column. -/
structure Table (Row Value : Type) (unique : List (Row → Value)) where
  rows : List Row
  distinct : ∀ column ∈ unique, (rows.map column).Nodup

/-- An edit changes a row and keeps each unique column. -/
structure Edit (Row Value : Type) (unique : List (Row → Value)) where
  apply : Row → Row
  keeps : ∀ column ∈ unique, ∀ row, column (apply row) = column row

/-- A row keeps its unique columns whether it is edited or not. -/
theorem Edit.column_ite {unique : List (Row → Value)} {column : Row → Value} (indexed : column ∈ unique)
    (edit : Edit Row Value unique) (condition : Prop) [Decidable condition] (row : Row) :
    column (if condition then edit.apply row else row) = column row := by
  split
  · exact edit.keeps column indexed row
  · rfl

namespace Table

variable {unique : List (Row → Value)}

theorem ext {first second : Table Row Value unique} (same : first.rows = second.rows) :
    first = second := by
  cases first
  cases second
  cases same
  rfl

def empty : Table Row Value unique := ⟨[], by simp⟩

/-- Two rows of one table agree when they agree in a unique column. -/
theorem eq_of_column {table : Table Row Value unique} {column : Row → Value}
    (indexed : column ∈ unique) {first second : Row} (inFirst : first ∈ table.rows)
    (inSecond : second ∈ table.rows) (same : column first = column second) : first = second :=
  List.inj_on_of_nodup_map (table.distinct column indexed) inFirst inSecond same

section Lookup

variable [DecidableEq Value]

def lookup (table : Table Row Value unique) (column : Row → Value) (value : Value) : Option Row :=
  table.rows.find? fun row => column row = value

theorem lookup_mem {table : Table Row Value unique} {column : Row → Value} {value : Value} {row : Row}
    (found : table.lookup column value = some row) : row ∈ table.rows ∧ column row = value :=
  ⟨List.mem_of_find?_eq_some found, by simpa using List.find?_some found⟩

theorem lookup_eq_some {table : Table Row Value unique} {column : Row → Value} {value : Value}
    {row : Row} (indexed : column ∈ unique) :
    table.lookup column value = some row ↔ row ∈ table.rows ∧ column row = value := by
  constructor
  · exact lookup_mem
  · rintro ⟨member, same⟩
    cases found : table.lookup column value with
    | none =>
        have absent := List.find?_eq_none.mp found row member
        simp [same] at absent
    | some other =>
        obtain ⟨otherMember, otherSame⟩ := lookup_mem found
        rw [eq_of_column indexed otherMember member (otherSame.trans same.symm)]

theorem lookup_eq_none {table : Table Row Value unique} {column : Row → Value} {value : Value} :
    table.lookup column value = none ↔ ∀ row ∈ table.rows, column row ≠ value := by
  simp [lookup, List.find?_eq_none]

end Lookup

section Update

/-- This statement edits the chosen rows in place. -/
def update (table : Table Row Value unique) (chosen : Row → Bool) (edit : Edit Row Value unique) :
    Table Row Value unique where
  rows := table.rows.map fun row => if chosen row then edit.apply row else row
  distinct column indexed := by
    have same : (column ∘ fun row => if chosen row then edit.apply row else row) = column := by
      funext row
      exact edit.column_ite indexed _ row
    rw [List.map_map, same]
    exact table.distinct column indexed

theorem mem_update {table : Table Row Value unique} {chosen : Row → Bool}
    {edit : Edit Row Value unique} {row : Row} :
    row ∈ (table.update chosen edit).rows ↔
      ∃ old ∈ table.rows, (if chosen old then edit.apply old else old) = row := List.mem_map

theorem lookup_update [DecidableEq Value] {table : Table Row Value unique} {chosen : Row → Bool}
    {edit : Edit Row Value unique} {column : Row → Value} (indexed : column ∈ unique) (value : Value) :
    (table.update chosen edit).lookup column value =
      (table.lookup column value).map fun row => if chosen row then edit.apply row else row := by
  have same : ((fun row => decide (column row = value)) ∘
      fun row => if chosen row then edit.apply row else row) = fun row => decide (column row = value) := by
    funext row
    rw [Function.comp_apply, edit.column_ite indexed]
  rw [lookup, update, List.find?_map, same]
  rfl

end Update

section Insert

/-- This statement appends a row whose unique columns are all new. -/
def insert (table : Table Row Value unique) (row : Row)
    (fresh : ∀ column ∈ unique, ∀ old ∈ table.rows, column old ≠ column row) :
    Table Row Value unique where
  rows := table.rows ++ [row]
  distinct column indexed := by
    rw [List.map_append, List.nodup_append]
    refine ⟨table.distinct column indexed, by simp, ?_⟩
    intro value member other otherMember
    obtain ⟨old, inTable, rfl⟩ := List.mem_map.mp member
    simp only [List.map_cons, List.map_nil, List.mem_singleton] at otherMember
    subst other
    exact fresh column indexed old inTable

theorem mem_insert (table : Table Row Value unique) (row : Row)
    (fresh : ∀ column ∈ unique, ∀ old ∈ table.rows, column old ≠ column row) {member : Row} :
    member ∈ (table.insert row fresh).rows ↔ member ∈ table.rows ∨ member = row := by
  simp [insert]

theorem lookup_insert [DecidableEq Value] (table : Table Row Value unique) (row : Row)
    (fresh : ∀ column ∈ unique, ∀ old ∈ table.rows, column old ≠ column row) {column : Row → Value}
    (indexed : column ∈ unique) :
    (table.insert row fresh).lookup column =
      Function.update (table.lookup column) (column row) (some row) := by
  funext value
  rw [lookup, insert, List.find?_append]
  by_cases same : value = column row
  · subst same
    have absent : table.lookup column (column row) = none := lookup_eq_none.mpr (fresh column indexed)
    rw [lookup] at absent
    simp [absent]
  · have skipped : [row].find? (fun row => column row = value) = none := by simp [Ne.symm same]
    rw [Function.update_of_ne same, skipped, Option.or_none]
    rfl

theorem subset_insert (table : Table Row Value unique) (row : Row)
    (fresh : ∀ column ∈ unique, ∀ old ∈ table.rows, column old ≠ column row) {member : Row}
    (inside : member ∈ table.rows) : member ∈ (table.insert row fresh).rows :=
  (mem_insert table row fresh).mpr (.inl inside)

end Insert

end Table

end CeramicAnchor.Storage
