import SourceTutor.Proofs.Chat.Sending
import SourceTutor.Proofs.Settings.Accepted
import SourceTutor.Proofs.Settings.Loaded

/-!
# The waits of accepted settings

Settings that are sound and pass the checks come to a policy whose waits are lengths of time, and so
is the sum of as many as there may be attempts (`Settings.exists_retryPolicy?`). The jitter factor
is drawn between two bounds that are lower than two (`FairDraw`).
-/

set_option autoImplicit false

namespace SourceTutor

open Binary SourceTutor.Chat

/-- What is drawn between two numbers lies between them. -/
def FairDraw (draw : Value → Value → Value) : Prop :=
  ∀ low high : Rat, 0 ≤ low → low ≤ high →
    ∃ x, draw (.finite false low) (.finite false high) = .finite false x ∧ low ≤ x ∧ x ≤ high

namespace Settings

variable {s : Settings} {v : Value}

/-- A delay that the checks accept is a length of time, of an hour and a nanosecond at most. -/
theorem exists_ofSeconds? (h : FairDelay v) (hv : v.HasMagnitude) :
    ∃ d, Duration.ofSeconds? v = some d ∧ d.nanos ≤ 3600 * nanosPerSecond + 1 := by
  obtain ⟨negative, x, rfl, hle, hle'⟩ := h
  have hx := hv negative x rfl
  cases negative with
  | false => exact Duration.ofSeconds?_of_le hx hle' (by decide)
  | true =>
      -- a negative zero is a zero
      have hneg : 0 ≤ -x := hle
      obtain rfl : x = 0 := by linarith
      exact Duration.ofSeconds?_of_le (le_refl 0) (by norm_num) (by decide)

theorem steadyDelay_le (policy : RetryPolicy) (attempt : Nat) :
    (policy.steadyDelay attempt).nanos ≤ policy.maxDelay.nanos := by
  rw [RetryPolicy.steadyDelay, Duration.min]
  split
  · assumption
  · exact Nat.le_refl _

/-- As many of the longest waits as there may be attempts are a length of time. -/
theorem sum_waits_lt {delay : Nat → Duration} {n : Nat} (hn : n < UInt32.size)
    (h : ∀ i, (delay i).nanos ≤ 7211 * nanosPerSecond + 1) :
    ((List.range n).map fun i => (delay i).nanos).sum < Duration.limit := by
  have hsum := sum_map_range_le (Nat.le_refl n) fun i _ => h i
  have hconst : ((List.range n).map fun _ => 7211 * nanosPerSecond + 1).sum =
      n * (7211 * nanosPerSecond + 1) := by
    rw [List.map_const', List.length_range, List.sum_replicate_nat]
  have hwide : UInt32.size * (7211 * nanosPerSecond + 1) < Duration.limit := by decide
  have hmul := Nat.mul_le_mul_right (7211 * nanosPerSecond + 1) hn.le
  omega

/-- The waits fit when the longest one is an hour and the factor is at most two. -/
theorem waitsFit_of_le {policy : RetryPolicy} {factor : Rat}
    (hattempts : policy.maxAttempts < UInt32.size)
    (hdelay : policy.maxDelay.nanos ≤ 3600 * nanosPerSecond + 1) (hfactor : 0 ≤ factor)
    (hfactor' : factor ≤ 2) : policy.WaitsFit (.finite false factor) := by
  have hwait : ∀ i, ∃ d, policy.delay? i (.finite false factor) = some d ∧
      d.nanos ≤ 7211 * nanosPerSecond + 1 := by
    intro i
    have hsteady := (steadyDelay_le policy i).trans hdelay
    have hfair : 2 * (3600 + 5) + 1 ≤ Format.fair := by decide
    obtain ⟨d, hd, hle⟩ := Duration.scale?_of_le hsteady hfair hfactor hfactor'
    exact ⟨d, hd, hle.trans (by decide)⟩
  refine ⟨fun i => (policy.delay? i (.finite false factor)).getD .zero, fun i _ => ?_,
    sum_waits_lt (by omega) fun i => ?_⟩
  · obtain ⟨d, hd, -⟩ := hwait i
    dsimp only
    rw [hd, Option.getD_some]
  · obtain ⟨d, hd, hle⟩ := hwait i
    rwa [hd, Option.getD_some]

/-- Accepted settings come to a policy whose longest delay is an hour. -/
theorem exists_delays (hs : s.Accepted) (hsound : s.Sound) :
    ∃ policy, s.retryPolicy? = some policy ∧ policy.maxAttempts = s.maxAttempts ∧
      policy.jitterLow = double.ofDecimal false 8 (-1) ∧
      policy.jitterHigh = double.ofDecimal false 12 (-1) ∧
      policy.maxDelay.nanos ≤ 3600 * nanosPerSecond + 1 := by
  obtain ⟨base, hbase, -⟩ := exists_ofSeconds? hs.baseDelay hsound.baseDelay
  obtain ⟨longest, hlongest, hle⟩ := exists_ofSeconds? hs.maxDelay hsound.maxDelay
  refine ⟨⟨s.maxAttempts, base, longest, double.ofDecimal false 8 (-1),
    double.ofDecimal false 12 (-1)⟩, ?_, rfl, rfl, rfl, hle⟩
  · rw [retryPolicy?, hbase, hlongest]
    rfl

/-- The factor that such a policy draws. -/
theorem exists_jitter {policy : RetryPolicy}
    (hlow : policy.jitterLow = double.ofDecimal false 8 (-1))
    (hhigh : policy.jitterHigh = double.ofDecimal false 12 (-1)) {draw : Value → Value → Value}
    (hdraw : FairDraw draw) :
    ∃ factor : Rat, policy.jitter draw = .finite false factor ∧ 4 / 5 ≤ factor ∧
      factor ≤ 6 / 5 := by
  have hleast : double.ofDecimal false 8 (-1) =
      .finite false (3602879701896397 / 4503599627370496) := by decide +kernel
  have hgreatest : double.ofDecimal false 12 (-1) =
      .finite false (5404319552844595 / 4503599627370496) := by decide +kernel
  obtain ⟨factor, hfactor, hle, hle'⟩ := hdraw
    (3602879701896397 / 4503599627370496) (5404319552844595 / 4503599627370496)
    (by norm_num) (by norm_num)
  refine ⟨factor, ?_, by linarith, by linarith⟩
  rw [RetryPolicy.jitter, hlow, hhigh, hleast, hgreatest, if_neg, hfactor]
  rw [Value.le_finite_iff]
  norm_num [Value.number]

/-- **Accepted settings come to a policy whose waits are lengths of time.** -/
theorem exists_retryPolicy? (hs : s.Accepted) (hsound : s.Sound) :
    ∃ policy, s.retryPolicy? = some policy ∧
      ∀ draw, FairDraw draw → policy.WaitsFit (policy.jitter draw) := by
  obtain ⟨policy, hpolicy, hcount, hlow, hhigh, hle⟩ := exists_delays hs hsound
  refine ⟨policy, hpolicy, fun draw hdraw => ?_⟩
  obtain ⟨factor, hjitter, hleast, hgreatest⟩ := exists_jitter hlow hhigh hdraw
  have hattempts : policy.maxAttempts < UInt32.size := by
    rw [hcount]
    exact hsound.maxAttempts
  rw [hjitter]
  exact waitsFit_of_le hattempts hle (by linarith) (by linarith)

/-- The pause between two questions is a length of time. -/
theorem exists_pacing? (hs : s.Accepted) (hsound : s.Sound) : ∃ d, s.pacing? = some d := by
  obtain ⟨d, hd, -⟩ := exists_ofSeconds? hs.pacing hsound.pacing
  exact ⟨d, hd⟩

end Settings

end SourceTutor
