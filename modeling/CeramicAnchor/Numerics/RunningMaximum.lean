import Mathlib.Data.Finset.Lattice.Fold
import Mathlib.Order.Interval.Finset.Nat
import Mathlib.Order.Iterate

/-
This file gives a maximum over a sequence that moves by one map at each step.
-/

namespace CeramicAnchor.Numerics

variable {α : Type} [LinearOrder α]

/-- Each step moves the maximum so far and compares it with the new entry. -/
def runningMaximum (move : α → α) (entry : Nat → α) : Nat → α
  | 0 => entry 0
  | index + 1 => max (entry (index + 1)) (move (runningMaximum move entry index))

/-- Each entry has moved once for every step since it came. -/
def latestMaximum (move : α → α) (entry : Nat → α) (index : Nat) : α :=
  (Finset.range (index + 1)).sup' Finset.nonempty_range_add_one fun earlier =>
  move^[index - earlier] (entry earlier)

theorem le_runningMaximum {move : α → α} (monotone : Monotone move) (entry : Nat → α) {index earlier : Nat}
    (before : earlier ≤ index) :
    move^[index - earlier] (entry earlier) ≤ runningMaximum move entry index := by
  induction index with
  | zero =>
      obtain rfl : earlier = 0 := by omega
      exact le_refl _
  | succ index ih =>
      by_cases last : earlier = index + 1
      · subst last
        rw [Nat.sub_self]
        exact le_max_left _ _
      · have inside : earlier ≤ index := by omega
        rw [Nat.succ_sub inside, Function.iterate_succ_apply']
        exact le_trans (monotone (ih inside)) (le_max_right _ _)

theorem runningMaximum_attained (move : α → α) (entry : Nat → α) (index : Nat) :
    ∃ earlier ≤ index, runningMaximum move entry index = move^[index - earlier] (entry earlier) := by
  induction index with
  | zero => exact ⟨0, le_refl _, rfl⟩
  | succ index ih =>
      rcases max_cases (entry (index + 1)) (move (runningMaximum move entry index)) with ⟨same, _⟩ | ⟨same, _⟩
      · refine ⟨index + 1, le_refl _, ?_⟩
        rw [runningMaximum, same, Nat.sub_self]
        rfl
      · obtain ⟨earlier, before, attained⟩ := ih
        refine ⟨earlier, by omega, ?_⟩
        rw [runningMaximum, same, attained, Nat.succ_sub before, Function.iterate_succ_apply']

/-- For a monotone map the running maximum needs no recursion over the maxima before it. -/
theorem runningMaximum_eq {move : α → α} (monotone : Monotone move) (entry : Nat → α) (index : Nat) :
    runningMaximum move entry index = latestMaximum move entry index := by
  apply le_antisymm
  · obtain ⟨earlier, before, attained⟩ := runningMaximum_attained move entry index
    rw [attained]
    exact Finset.le_sup' (fun earlier => move^[index - earlier] (entry earlier))
      (Finset.mem_range.mpr (Nat.lt_succ_of_le before))
  · apply Finset.sup'_le
    intro earlier member
    exact le_runningMaximum monotone entry (Nat.le_of_lt_succ (Finset.mem_range.mp member))

theorem latestMaximum_zero (move : α → α) (entry : Nat → α) : latestMaximum move entry 0 = entry 0 := by
  simp [latestMaximum]

theorem latestMaximum_succ {move : α → α} (monotone : Monotone move) (entry : Nat → α) (index : Nat) :
    latestMaximum move entry (index + 1) =
    max (entry (index + 1)) (move (latestMaximum move entry index)) := by
  rw [← runningMaximum_eq monotone, ← runningMaximum_eq monotone]
  rfl

/-- Only the entries up to the index count. -/
theorem latestMaximum_congr (move : α → α) {entry other : Nat → α} {index : Nat}
    (same : ∀ earlier ≤ index, entry earlier = other earlier) :
    latestMaximum move entry index = latestMaximum move other index := by
  apply Finset.sup'_congr _ rfl
  intro earlier member
  rw [same earlier (Nat.le_of_lt_succ (Finset.mem_range.mp member))]

end CeramicAnchor.Numerics
