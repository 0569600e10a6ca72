import Mathlib.Algebra.Order.Ring.Nat
import SourceTutor.Chat.RetryPolicy

/-!
# How the waits grow

The rule for the wait after an attempt is the base delay times two to the attempt, at most the
longest delay (`RetryPolicy.ruledNanos`). The wait itself is made with two operations that saturate.
The product never shows it, since the longest delay cuts it off (`RetryPolicy.nanos_steadyDelay`).
The power does: from attempt thirty-two on it stays where it is, and a wait that has not come up to
the longest delay by then never will (`RetryPolicy.steadyDelay_ruled_iff`).
-/

set_option autoImplicit false

namespace SourceTutor

/-! ## Lengths of time -/

section

variable (d e : Duration)

/-- No length is longer than the longest. -/
theorem nanos_le_longest : d.nanos ≤ Duration.longest.nanos := by
  have hlt := d.nanos_lt
  show d.nanos ≤ Duration.limit - 1
  omega

/-- A product that is out of range is the longest length. -/
theorem nanos_saturatingMul (n : Nat) :
    (d.saturatingMul n).nanos = min (d.nanos * n) Duration.longest.nanos := by
  have hlongest : Duration.longest.nanos = Duration.limit - 1 := rfl
  have hpos := Duration.limit_pos
  unfold Duration.saturatingMul Duration.ofNanos?
  by_cases hfits : d.nanos * n < Duration.limit
  · rw [dif_pos hfits, Option.getD_some]
    show d.nanos * n = min (d.nanos * n) Duration.longest.nanos
    omega
  · rw [dif_neg hfits, Option.getD_none]
    omega

theorem nanos_min : (d.min e).nanos = min d.nanos e.nanos := by
  unfold Duration.min
  split <;> omega

end

namespace Chat.RetryPolicy

variable {i j : Nat}

/-! ## The factor -/

theorem growth_of_lt (h : i < 32) : growth i = 2 ^ i := if_pos h

theorem growth_of_le (h : 32 ≤ i) : growth i = UInt32.size - 1 := if_neg (by omega)

theorem growth_lt (i : Nat) : growth i < UInt32.size := by
  by_cases h : i < 32
  · rw [growth_of_lt h]
    exact Nat.pow_lt_pow_right (by decide) h
  · rw [growth_of_le (by omega)]
    decide

theorem growth_mono (h : i ≤ j) : growth i ≤ growth j := by
  by_cases hj : j < 32
  · have hi : i < 32 := by omega
    rw [growth_of_lt hj, growth_of_lt hi]
    exact Nat.pow_le_pow_right (by decide) h
  · have hlt := growth_lt i
    have hj' : 32 ≤ j := by omega
    rw [growth_of_le hj']
    omega

/-- The power falls short of the exact one as soon as it saturates. -/
theorem growth_lt_pow (h : 32 ≤ i) : growth i < 2 ^ i := by
  calc growth i < UInt32.size := growth_lt i
    _ = 2 ^ 32 := by decide
    _ ≤ 2 ^ i := Nat.pow_le_pow_right (by decide) h

/-! ## The wait -/

variable (policy : RetryPolicy)

/-- The nanoseconds that the rule asks for after an attempt, in exact arithmetic. -/
def ruledNanos (attempt : Nat) : Nat :=
  min (policy.baseDelay.nanos * 2 ^ attempt) policy.maxDelay.nanos

/-- That the product saturates is hidden by the longest delay. -/
theorem nanos_steadyDelay (i : Nat) :
    (policy.steadyDelay i).nanos =
      min (policy.baseDelay.nanos * growth i) policy.maxDelay.nanos := by
  have hle := nanos_le_longest policy.maxDelay
  calc (policy.steadyDelay i).nanos
      = min (policy.baseDelay.saturatingMul (growth i)).nanos policy.maxDelay.nanos :=
        nanos_min _ _
    _ = min (min (policy.baseDelay.nanos * growth i) Duration.longest.nanos)
          policy.maxDelay.nanos := by rw [nanos_saturatingMul]
    _ = min (policy.baseDelay.nanos * growth i) policy.maxDelay.nanos := by omega

/-- The waits do not become shorter. -/
theorem steadyDelay_mono (h : i ≤ j) :
    (policy.steadyDelay i).nanos ≤ (policy.steadyDelay j).nanos := by
  have hmul := Nat.mul_le_mul_left policy.baseDelay.nanos (growth_mono h)
  rw [nanos_steadyDelay, nanos_steadyDelay]
  omega

/-- As long as the power is exact, so is the wait. -/
theorem nanos_steadyDelay_of_lt (h : i < 32) :
    (policy.steadyDelay i).nanos = policy.ruledNanos i := by
  rw [nanos_steadyDelay, growth_of_lt h, ruledNanos]

/-- When the saturated power brings the wait up to the longest delay, the exact one does too. -/
theorem nanos_steadyDelay_of_reached (h : 32 ≤ i)
    (hreached : policy.maxDelay.nanos ≤ policy.baseDelay.nanos * growth i) :
    (policy.steadyDelay i).nanos = policy.ruledNanos i := by
  have hmul := Nat.mul_le_mul_left policy.baseDelay.nanos (Nat.le_of_lt (growth_lt_pow h))
  rw [nanos_steadyDelay, ruledNanos]
  omega

/-- When it does not, the wait falls short of the rule. -/
theorem nanos_steadyDelay_lt (h : 32 ≤ i) (hbase : 0 < policy.baseDelay.nanos)
    (hshort : policy.baseDelay.nanos * growth i < policy.maxDelay.nanos) :
    (policy.steadyDelay i).nanos = policy.baseDelay.nanos * growth i ∧
      (policy.steadyDelay i).nanos < policy.ruledNanos i := by
  have hmul := Nat.mul_lt_mul_of_pos_left (growth_lt_pow h) hbase
  rw [nanos_steadyDelay, ruledNanos]
  constructor
  · omega
  · omega

/-- **When the wait is that of the rule**: for the first thirty-two attempts, and afterwards if the
delay starts at nothing or has come up to the longest delay by then. Otherwise it stays below the
rule from there on, always the same. Only the saturated power makes the difference. -/
theorem steadyDelay_ruled_iff (attempt : Nat) :
    (policy.steadyDelay attempt).nanos =
      min (policy.baseDelay.nanos * growth attempt) policy.maxDelay.nanos ∧
    ((policy.steadyDelay attempt).nanos = policy.ruledNanos attempt ↔
      attempt < 32 ∨ policy.baseDelay.nanos = 0 ∨
        policy.maxDelay.nanos ≤ policy.baseDelay.nanos * (UInt32.size - 1)) ∧
    ((policy.steadyDelay attempt).nanos ≠ policy.ruledNanos attempt →
      (policy.steadyDelay attempt).nanos = policy.baseDelay.nanos * (UInt32.size - 1) ∧
      (policy.steadyDelay attempt).nanos < policy.ruledNanos attempt) := by
  refine ⟨policy.nanos_steadyDelay attempt, ?_⟩
  by_cases hlt : attempt < 32
  · have heq := policy.nanos_steadyDelay_of_lt hlt
    exact ⟨⟨fun _ => .inl hlt, fun _ => heq⟩, fun hne => absurd heq hne⟩
  have hle : 32 ≤ attempt := by omega
  have hgrowth := growth_of_le hle
  by_cases hbase : policy.baseDelay.nanos = 0
  · have heq : (policy.steadyDelay attempt).nanos = policy.ruledNanos attempt := by
      rw [nanos_steadyDelay, ruledNanos, hbase, Nat.zero_mul, Nat.zero_mul]
    exact ⟨⟨fun _ => .inr (.inl hbase), fun _ => heq⟩, fun hne => absurd heq hne⟩
  by_cases hreached : policy.maxDelay.nanos ≤ policy.baseDelay.nanos * growth attempt
  · have heq := policy.nanos_steadyDelay_of_reached hle hreached
    rw [hgrowth] at hreached
    exact ⟨⟨fun _ => .inr (.inr hreached), fun _ => heq⟩, fun hne => absurd heq hne⟩
  · obtain ⟨hwait, hshort⟩ := policy.nanos_steadyDelay_lt hle (by omega) (by omega)
    rw [hgrowth] at hreached hwait
    refine ⟨⟨fun heq => absurd heq (by omega), ?_⟩, fun _ => ⟨hwait, hshort⟩⟩
    rintro (h | h | h)
    · exact absurd h hlt
    · exact absurd h hbase
    · exact absurd h hreached

/-- **The rule does not always hold**: a delay that starts at one nanosecond stays a little above
four seconds, and never comes to the minute that it may grow to. -/
theorem not_always_ruled :
    ¬ ∀ (policy : RetryPolicy) (attempt : Nat), attempt < UInt32.size →
      (policy.steadyDelay attempt).nanos = policy.ruledNanos attempt := by
  intro h
  have hslow := h ⟨41, ⟨1, by decide⟩, .ofSeconds 60, .finite false 1, .finite false 1⟩ 40
    (by decide)
  revert hslow
  decide

end Chat.RetryPolicy

end SourceTutor
