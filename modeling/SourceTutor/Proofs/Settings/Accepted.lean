import SourceTutor.Settings.Basic

/-!
# What the checks accept

Settings pass the checks exactly if they are `Settings.Accepted`: the numbers are positive, the
model is named, the name of the artifact directories is not blank and has no slashes, and every
delay is a number of seconds between zero and an hour.
-/

set_option autoImplicit false

namespace SourceTutor

namespace Binary.Value

/-! ## Finite values -/

/-- The number that a finite value stands for. -/
def number (negative : Bool) (x : Rat) : Rat := if negative then -x else x

theorem le_finite_iff {negative negative' : Bool} {x y : Rat} :
    (finite negative x).le (finite negative' y) = true ↔
      number negative x ≤ number negative' y := by
  rw [le, decide_eq_true_iff]
  rfl

theorem exists_of_isFinite {v : Value} (h : v.isFinite = true) :
    ∃ negative x, v = .finite negative x := by
  cases v with
  | nan => cases h
  | infinite negative => cases h
  | finite negative x => exact ⟨negative, x, rfl⟩

end Binary.Value

namespace Settings

open Binary

variable {s : Settings} {a b c : Value}

/-! ## Delays -/

/-- A delay that the checks accept: between zero and an hour. -/
def FairDelay (v : Value) : Prop :=
  ∃ negative x, v = .finite negative x ∧ 0 ≤ Value.number negative x ∧
    Value.number negative x ≤ 3600

theorem isDelay_iff :
    isDelay a = true ↔ ∃ negative x, a = .finite negative x ∧ 0 ≤ Value.number negative x := by
  rw [isDelay, Bool.and_eq_true]
  constructor
  · rintro ⟨hfinite, hle⟩
    obtain ⟨negative, x, rfl⟩ := Value.exists_of_isFinite hfinite
    exact ⟨negative, x, rfl, Value.le_finite_iff.mp hle⟩
  · rintro ⟨negative, x, rfl, hle⟩
    exact ⟨rfl, Value.le_finite_iff.mpr hle⟩

theorem fairDelay_iff : FairDelay a ↔ isDelay a = true ∧ a.le longestDelay = true := by
  rw [isDelay_iff]
  constructor
  · rintro ⟨negative, x, rfl, hle, hle'⟩
    exact ⟨⟨negative, x, rfl, hle⟩, Value.le_finite_iff.mpr hle'⟩
  · rintro ⟨⟨negative, x, rfl, hle⟩, hle'⟩
    exact ⟨negative, x, rfl, hle, Value.le_finite_iff.mp hle'⟩

/-- The greater of two delays is one of them, and at least as great as the other. -/
theorem isDelay_greater (ha : isDelay a = true) (hb : isDelay b = true) :
    isDelay (greater a b) = true ∧
      ∀ c, isDelay c = true →
        ((greater a b).le c = true ↔ a.le c = true ∧ b.le c = true) := by
  obtain ⟨negative, x, rfl, -⟩ := isDelay_iff.mp ha
  obtain ⟨negative', y, rfl, -⟩ := isDelay_iff.mp hb
  rw [greater]
  split
  · rename_i hle
    rw [Value.le_finite_iff] at hle
    refine ⟨hb, fun c hc => ?_⟩
    obtain ⟨negative'', z, rfl, -⟩ := isDelay_iff.mp hc
    simp only [Value.le_finite_iff]
    exact ⟨fun h => ⟨Rat.le_trans hle h, h⟩, And.right⟩
  · rename_i hle
    rw [Value.le_finite_iff] at hle
    refine ⟨ha, fun c hc => ?_⟩
    obtain ⟨negative'', z, rfl, -⟩ := isDelay_iff.mp hc
    simp only [Value.le_finite_iff]
    exact ⟨fun h => ⟨h, Rat.le_trans (Rat.le_of_lt (Rat.not_le.mp hle)) h⟩, And.left⟩

/-! ## All of the settings -/

/-- The settings that the checks accept. -/
structure Accepted (s : Settings) : Prop where
  batchSize : s.batchSize ≠ 0
  maxAttempts : s.maxAttempts ≠ 0
  model : Text.isBlankText s.model = false
  outputDir : isPlainName s.outputDir = true
  baseDelay : FairDelay s.baseDelaySecs
  maxDelay : FairDelay s.maxDelaySecs
  pacing : FairDelay s.pacingSecs

/-- The greatest delay is at most an hour if all of them are. -/
theorem greatestDelay_le (hbase : isDelay s.baseDelaySecs = true)
    (hmax : isDelay s.maxDelaySecs = true) (hpacing : isDelay s.pacingSecs = true) :
    s.greatestDelay.le longestDelay = true ↔
      (s.baseDelaySecs.le longestDelay = true ∧ s.maxDelaySecs.le longestDelay = true) ∧
        s.pacingSecs.le longestDelay = true := by
  have hlongest : isDelay longestDelay = true := by decide
  obtain ⟨hdelay, hgreater⟩ := isDelay_greater hbase hmax
  rw [greatestDelay, (isDelay_greater hdelay hpacing).2 _ hlongest, hgreater _ hlongest]

/-- **The checks pass exactly for the settings that are acceptable.** -/
theorem validate_eq_ok_iff : s.validate = .ok () ↔ s.Accepted := by
  rw [validate]
  constructor
  · intro h
    split at h
    · cases h
    rename_i hbatch
    split at h
    · cases h
    rename_i hattempts
    split at h
    · cases h
    rename_i hmodel
    split at h
    · cases h
    rename_i hname
    split at h
    · cases h
    rename_i hdelays
    split at h
    · cases h
    rename_i hgreatest
    simp only [Bool.not_eq_true', Bool.not_eq_false, Bool.and_eq_true] at hname hdelays hgreatest
    obtain ⟨⟨hbase, hmax⟩, hpacing⟩ := hdelays
    obtain ⟨⟨hbase', hmax'⟩, hpacing'⟩ := (greatestDelay_le hbase hmax hpacing).mp hgreatest
    exact ⟨hbatch, hattempts, Bool.eq_false_iff.mpr hmodel, hname,
      fairDelay_iff.mpr ⟨hbase, hbase'⟩, fairDelay_iff.mpr ⟨hmax, hmax'⟩,
      fairDelay_iff.mpr ⟨hpacing, hpacing'⟩⟩
  · rintro ⟨hbatch, hattempts, hmodel, hname, hbase, hmax, hpacing⟩
    obtain ⟨hbase, hbase'⟩ := fairDelay_iff.mp hbase
    obtain ⟨hmax, hmax'⟩ := fairDelay_iff.mp hmax
    obtain ⟨hpacing, hpacing'⟩ := fairDelay_iff.mp hpacing
    have hgreatest := (greatestDelay_le hbase hmax hpacing).mpr ⟨⟨hbase', hmax'⟩, hpacing'⟩
    rw [if_neg hbatch, if_neg hattempts, if_neg (Bool.eq_false_iff.mp hmodel)]
    simp [hname, hbase, hmax, hpacing, hgreatest]

end Settings

end SourceTutor
