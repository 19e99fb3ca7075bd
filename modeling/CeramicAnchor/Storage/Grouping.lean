import Mathlib.Data.List.Sort
import Mathlib.Data.List.MinMax
import Mathlib.Data.List.Dedup
import Mathlib.Data.Set.Basic

/-
This file gives the groups of a set of rows in the order of their earliest rows.
-/

namespace CeramicAnchor.Storage

variable {Row Group Date : Type} [LinearOrder Date]

/-- The limit 0 keeps all items. -/
def limited {A : Type} (limit : Nat) (items : List A) : List A :=
    if limit ≠ 0 then items.take limit else items

theorem limited_sublist {A : Type} (limit : Nat) (items : List A) : (limited limit items).Sublist items := by
  unfold limited
  split
  · exact List.take_sublist _ _
  · exact .refl _

theorem limited_map {A B : Type} (limit : Nat) (map : A → B) (items : List A) :
    (limited limit items).map map = limited limit (items.map map) := by
  unfold limited
  split
  · rw [List.map_take]
  · rfl

/-- What follows the kept items. -/
theorem limited_append {A : Type} (limit : Nat) (items : List A) :
    ∃ rest, limited limit items ++ rest = items := by
  unfold limited
  split
  · exact ⟨items.drop limit, List.take_append_drop _ _⟩
  · exact ⟨[], List.append_nil _⟩

theorem limited_ne_nil {A : Type} (limit : Nat) {items : List A} (nonempty : items ≠ []) :
    limited limit items ≠ [] := by
  unfold limited
  split
  · next bounded => simpa [bounded] using nonempty
  · exact nonempty

/-- Some row of the first group comes no later than this row. -/
def Precedes (group : Row → Group) (date : Row → Date) (rows : Set Row) (first : Group) (row : Row) : Prop :=
  ∃ earlier ∈ rows, group earlier = first ∧ date earlier ≤ date row

/-- The chosen groups are the groups of the rows in the order of their earliest dates, up to a limit. -/
structure EarliestGroups (group : Row → Group) (date : Row → Date) (rows : Set Row) (limit : Nat)
    (chosen : List Group) : Prop where
  exists_ : ∃ groups : List Group, groups.Nodup ∧ (∀ name, name ∈ groups ↔ ∃ row ∈ rows, group row = name) ∧
    groups.Pairwise
    (fun first second => ∀ row ∈ rows, group row = second → Precedes group date rows first row) ∧
    chosen = limited limit groups

section Rules

variable {group : Row → Group} {date : Row → Date} {rows : Set Row} {limit : Nat} {chosen : List Group}

/-- The chosen groups come before the groups that the limit cuts off. -/
theorem EarliestGroups.split (earliest : EarliestGroups group date rows limit chosen) : ∃ rest,
    (∀ name, name ∈ chosen ++ rest ↔ ∃ row ∈ rows, group row = name) ∧
      (chosen ++ rest).Pairwise fun first second =>
        ∀ row ∈ rows, group row = second → Precedes group date rows first row := by
  obtain ⟨groups, _, complete, ordered, rfl⟩ := earliest.exists_
  obtain ⟨rest, same⟩ := limited_append limit groups
  refine ⟨rest, ?_⟩
  rw [same]
  exact ⟨complete, ordered⟩

theorem EarliestGroups.inhabited (earliest : EarliestGroups group date rows limit chosen) {name : Group}
    (member : name ∈ chosen) : ∃ row ∈ rows, group row = name := by
  obtain ⟨rest, complete, _⟩ := earliest.split
  exact (complete name).mp (List.mem_append_left rest member)

/-- Some group is chosen as soon as there is a row. -/
theorem EarliestGroups.nonempty (earliest : EarliestGroups group date rows limit chosen) {row : Row}
    (inside : row ∈ rows) : chosen ≠ [] := by
  obtain ⟨groups, _, complete, _, rfl⟩ := earliest.exists_
  exact limited_ne_nil limit (List.ne_nil_of_mem ((complete (group row)).mpr ⟨row, inside, rfl⟩))

/-- No row that is left out is earlier than a chosen group. -/
theorem EarliestGroups.left_out (earliest : EarliestGroups group date rows limit chosen) {name : Group}
    (member : name ∈ chosen) {row : Row} (inside : row ∈ rows) (out : group row ∉ chosen) :
    Precedes group date rows name row := by
  obtain ⟨rest, complete, ordered⟩ := earliest.split
  have all : group row ∈ chosen ++ rest := (complete _).mpr ⟨row, inside, rfl⟩
  have behind : group row ∈ rest := (List.mem_append.mp all).resolve_left out
  exact (List.pairwise_append.mp ordered).2.2 name member (group row) behind row inside rfl

/-- The first group has the earliest row of all. -/
theorem EarliestGroups.head_precedes {first : Group} {rest : List Group}
    (earliest : EarliestGroups group date rows limit (first :: rest)) {row : Row} (inside : row ∈ rows) :
    Precedes group date rows first row := by
  obtain ⟨others, complete, ordered⟩ := earliest.split
  rcases List.mem_cons.mp ((complete (group row)).mpr ⟨row, inside, rfl⟩) with same | behind
  · exact ⟨row, inside, same, le_refl _⟩
  · exact List.rel_of_pairwise_cons ordered behind row inside rfl

end Rules

section Query

variable [DecidableEq Group] [Inhabited Date]

def minimumDate (group : Row → Group) (date : Row → Date) (rows : List Row) (name : Group) : Date :=
  (((rows.filter fun row => group row = name).map date).min?).getD default

/-- The query groups the rows and orders the groups by the minimum of their dates. -/
def groupsByMinimum (group : Row → Group) (date : Row → Date) (rows : List Row) : List (Group × Date) :=
  ((rows.map group).dedup.map fun name => (name, minimumDate group date rows name)).insertionSort
    fun first second => first.2 ≤ second.2

variable {group : Row → Group} {date : Row → Date} {rows : List Row}

/-- The minimum is a date of the group, and no row of the group is earlier. -/
theorem minimumDate_spec (date : Row → Date) {name : Group} (present : ∃ row ∈ rows, group row = name) :
    (∃ row ∈ rows, group row = name ∧ date row = minimumDate group date rows name) ∧
      ∀ row ∈ rows, group row = name → minimumDate group date rows name ≤ date row := by
  have member : ∀ row, row ∈ rows.filter (fun row => group row = name) ↔ row ∈ rows ∧ group row = name := by
    intro row
    rw [List.mem_filter, decide_eq_true_iff]
  have nonempty : (rows.filter fun row => group row = name).map date ≠ [] := by
    obtain ⟨row, inside, same⟩ := present
    exact List.ne_nil_of_mem (List.mem_map_of_mem ((member row).mpr ⟨inside, same⟩))
  obtain ⟨minimum, found⟩ := Option.isSome_iff_exists.mp (List.isSome_min?_of_ne_nil nonempty)
  have value : minimumDate group date rows name = minimum := by
    rw [minimumDate, found, Option.getD_some]
  rw [value]
  obtain ⟨attained, least⟩ := List.min?_eq_some_iff.mp found
  constructor
  · obtain ⟨row, inside, same⟩ := List.mem_map.mp attained
    exact ⟨row, ((member row).mp inside).1, ((member row).mp inside).2, same⟩
  · intro row inside same
    exact least _ (List.mem_map_of_mem ((member row).mpr ⟨inside, same⟩))

theorem groupsByMinimum_minimum (group : Row → Group) (date : Row → Date) (rows : List Row) :
    ∀ entry ∈ groupsByMinimum group date rows, entry.2 = minimumDate group date rows entry.1 := by
  intro entry member
  obtain ⟨name, _, rfl⟩ := List.mem_map.mp ((List.perm_insertionSort _ _).mem_iff.mp member)
  rfl

/-- The query returns the earliest groups of its rows. -/
theorem groupsByMinimum_earliest (group : Row → Group) (date : Row → Date) (rows : List Row) (limit : Nat) :
    EarliestGroups group date {row | row ∈ rows} limit
      ((limited limit (groupsByMinimum group date rows)).map Prod.fst) := by
  have permuted : ((groupsByMinimum group date rows).map Prod.fst).Perm (rows.map group).dedup := by
    have sorted := (List.perm_insertionSort (fun first second : Group × Date => first.2 ≤ second.2)
      ((rows.map group).dedup.map fun name => (name, minimumDate group date rows name))).map Prod.fst
    rw [List.map_map] at sorted
    exact sorted.trans (.of_eq (List.map_id _))
  have complete : ∀ name, name ∈ (groupsByMinimum group date rows).map Prod.fst ↔
      ∃ row ∈ {row | row ∈ rows}, group row = name := by
    intro name
    rw [permuted.mem_iff, List.mem_dedup, List.mem_map]
    rfl
  have minimum := groupsByMinimum_minimum group date rows
  refine ⟨(groupsByMinimum group date rows).map Prod.fst, permuted.nodup_iff.mpr (List.nodup_dedup _),
    complete, ?_, limited_map _ _ _⟩
  · rw [List.pairwise_map]
    have total : Std.Total fun first second : Group × Date => first.2 ≤ second.2 :=
      ⟨fun first second => le_total first.2 second.2⟩
    have trans : IsTrans (Group × Date) fun first second => first.2 ≤ second.2 :=
      ⟨fun _ _ _ early late => le_trans early late⟩
    have sorted : (groupsByMinimum group date rows).Pairwise fun first second => first.2 ≤ second.2 :=
      List.pairwise_insertionSort _ _
    refine sorted.imp_of_mem fun {first second} inFirst inSecond before row inside same => ?_
    have present := (complete first.1).mp (List.mem_map_of_mem inFirst)
    obtain ⟨⟨earlier, member, sameGroup, attained⟩, _⟩ := minimumDate_spec date present
    have least := (minimumDate_spec date ⟨row, inside, same⟩).2 row inside same
    refine ⟨earlier, member, sameGroup, ?_⟩
    rw [attained, ← minimum first inFirst]
    exact before.trans ((minimum second inSecond).trans_le least)

end Query

end CeramicAnchor.Storage
