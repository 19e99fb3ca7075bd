import CeramicAnchor.Construction.Multiprocess

/-
This file says for which limits of the host the loop that forks the workers ends.
-/

namespace CeramicAnchor.Multiprocess
open Concurrency

/-- The start ends, after at least one fork and after no more than the limits allow. -/
def ForksWithin (host : Host) (options : MultiprocessOptions) (quota period : ℕ) : Prop :=
  ∃ fuel done, (start fuel host options).alone record [] = some (.ok (), done) ∧
    1 ≤ done.count .fork ∧ done.count .fork ≤ ⌈(quota : ℚ) / period⌉₊

theorem truthy_iff {value : ℚ} : (Exact.finite value).truthy = true ↔ value ≠ 0 := decide_eq_true_iff

/-- The loop ends just for a number that it counts down to zero. -/
theorem forkWorkers_ends {fuel : ℕ} {value : ℚ} {before after : List ClusterOp} {reply : Except String Unit}
    (ends : (forkWorkers fuel (.finite value)).alone record before = some (reply, after)) :
    ∃ count : ℕ, value = count ∧ after = before ++ List.replicate count .fork := by
  induction fuel generalizing value before with
  | zero => cases ends
  | succ fuel ih =>
      rw [forkWorkers] at ends
      split at ends
      · obtain ⟨count, left, rfl⟩ := ih ends
        refine ⟨count + 1, ?_, ?_⟩
        · rw [Nat.cast_add, Nat.cast_one, ← left, sub_add_cancel]
        · change (before ++ [.fork]) ++ _ = _
          rw [List.append_assoc, List.replicate_succ]
          rfl
      · next zero =>
          obtain rfl : value = 0 := not_not.mp (truthy_iff.not.mp zero)
          cases ends
          exact ⟨0, by simp, by simp⟩

theorem forkWorkers_count (count : ℕ) (before : List ClusterOp) :
    (forkWorkers (count + 1) (.finite count)).alone record before =
      some (.ok (), before ++ List.replicate count .fork) := by
  induction count generalizing before with
  | zero => simp [forkWorkers, Exact.truthy, Prog.alone, pure]
  | succ count ih =>
      have left : ((count + 1 : ℕ) : ℚ) - 1 = count := by push_cast; ring
      have again : (forkWorkers (count + 1 + 1) (.finite (count + 1 : ℕ))).alone record before =
          (forkWorkers (count + 1) (.finite (((count + 1 : ℕ) : ℚ) - 1))).alone record
            (before ++ [.fork]) := by
        rw [forkWorkers, if_pos (truthy_iff.mpr (Nat.cast_ne_zero.mpr (Nat.succ_ne_zero count)))]
        rfl
      rw [again, left, ih, List.append_assoc, List.replicate_succ]
      rfl

/-- The host has limits, and nothing else sets the number of workers. -/
structure Limited (host : Host) (options : MultiprocessOptions) (quota period : ℕ) : Prop where
  quotaPositive : 0 < quota
  periodPositive : 0 < period
  quotaRead : host.readNumber QUOTA = some (.finite quota)
  periodRead : host.readNumber PERIOD = some (.finite period)
  unset : options.workers = none
  unsetEnv : host.MULTIPROCESS_SIZE = none

variable {host : Host} {options : MultiprocessOptions} {quota period : ℕ}

theorem Limited.processes (limited : Limited host options quota period) :
    Multiprocess.processes host options = .finite (quota / period) := by
  have divisor : ((period : ℕ) : ℚ) ≠ 0 := Nat.cast_ne_zero.mpr limited.periodPositive.ne'
  have limits : readCPULimits host = .finite (quota / period) := by
    rw [readCPULimits, limited.quotaRead, limited.periodRead]
    exact if_pos divisor
  have positive : (Exact.finite (quota / period : ℚ)).positive = true := by
    have quotaPositive : (0 : ℚ) < quota := Nat.cast_pos.mpr limited.quotaPositive
    have periodPositive : (0 : ℚ) < period := Nat.cast_pos.mpr limited.periodPositive
    exact decide_eq_true (div_pos quotaPositive periodPositive)
  rw [Multiprocess.processes, workersFromEnv, limited.unset, limited.unsetEnv]
  change cpuSize host = _
  rw [cpuSize, limits, if_pos positive]

def registered : List ClusterOp := [.onSignals, .onOnline, .onExit]

theorem Limited.start_alone (limited : Limited host options quota period) (fuel : ℕ) :
    (start fuel host options).alone record [] =
      (forkWorkers fuel (.finite (quota / period))).alone record registered := by
  rw [start, limited.unset, if_neg (by rintro ⟨⟩), limited.processes]
  rfl

/-- The loop keeps to the limits just when they are a whole number of processors. -/
theorem forks_within_iff (limited : Limited host options quota period) :
    ForksWithin host options quota period ↔ period ∣ quota := by
  have divisor : ((period : ℕ) : ℚ) ≠ 0 := Nat.cast_ne_zero.mpr limited.periodPositive.ne'
  constructor
  · rintro ⟨fuel, done, ends, _⟩
    rw [limited.start_alone] at ends
    obtain ⟨count, whole, _⟩ := forkWorkers_ends ends
    refine ⟨count, ?_⟩
    rw [div_eq_iff divisor] at whole
    rw [mul_comm]
    exact_mod_cast whole
  · rintro ⟨count, rfl⟩
    have whole : ((period * count : ℕ) : ℚ) / period = count := by
      rw [Nat.cast_mul, mul_div_cancel_left₀ _ divisor]
    have some_ : 1 ≤ count := Nat.pos_of_mul_pos_left limited.quotaPositive
    have forks : (registered ++ List.replicate count ClusterOp.fork).count .fork = count := by
      rw [List.count_append, List.count_replicate_self]
      exact Nat.zero_add count
    refine ⟨count + 1, registered ++ List.replicate count .fork, ?_, ?_, ?_⟩
    · rw [limited.start_alone, whole, forkWorkers_count]
    · rw [forks]
      exact some_
    · rw [forks, whole, Nat.ceil_natCast]

/-- The host may use its processors for this part of each period. -/
def limitedHost (quota period : ℕ) : Host where
  readNumber file := if file = QUOTA then some (.finite quota) else some (.finite period)
  cpus := 8
  MULTIPROCESS_SIZE := none
  isWorker := false

theorem limitedHost_limited {quota period : ℕ} (quotaPositive : 0 < quota) (periodPositive : 0 < period) :
    Limited (limitedHost quota period) ⟨true, none⟩ quota period where
  quotaPositive := quotaPositive
  periodPositive := periodPositive
  quotaRead := by simp [limitedHost]
  periodRead := by simp [limitedHost, PERIOD, QUOTA]
  unset := rfl
  unsetEnv := rfl

theorem forks_within_two_processors :
    ForksWithin (limitedHost 200000 100000) ⟨true, none⟩ 200000 100000 ↔ 100000 ∣ 200000 :=
  forks_within_iff (limitedHost_limited (by decide) (by decide))

/-- Half a processor is counted down past zero. -/
theorem forks_without_end : ¬ ∀ (host : Host) (options : MultiprocessOptions) (quota period : ℕ),
    Limited host options quota period → ForksWithin host options quota period := by
  intro claim
  have limited : Limited (limitedHost 50000 100000) ⟨true, none⟩ 50000 100000 :=
    limitedHost_limited (by decide) (by decide)
  obtain ⟨fuel, done, ends, _⟩ := claim _ _ _ _ limited
  rw [limited.start_alone] at ends
  obtain ⟨count, whole, _⟩ := forkWorkers_ends ends
  rw [div_eq_iff (by norm_num)] at whole
  have halves : 50000 = count * 100000 := by exact_mod_cast whole
  omega

end CeramicAnchor.Multiprocess
