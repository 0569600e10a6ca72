import Mathlib.Algebra.Order.Field.Basic
import Mathlib.Algebra.Order.Field.Rat
import Mathlib.Tactic.Linarith
import SourceTutor.Duration

/-!
# What rounding may add

Magnitudes that are not too great for whole numbers to be values of the format stay finite when they
are rounded, and grow by at most one (`Format.round_of_le`). That is far from the best bound, but it
is enough to see that lengths of time stay lengths of time when they are turned into seconds,
multiplied and turned back (`Duration.scale?_of_le`).
-/

set_option autoImplicit false

namespace SourceTutor

namespace Binary

variable {x : Rat} {f : Format} {negative : Bool}

/-! ## Whole numbers -/

theorem roundHalfEven_le_floor (x : Rat) : roundHalfEven x ≤ x.num.natAbs / x.den + 1 := by
  rw [roundHalfEven]
  split
  · omega
  split
  · omega
  · omega

/-- The quotient of the numerator by the denominator is at most the number itself. -/
theorem natAbs_div_den_le (hx : 0 ≤ x) : ((x.num.natAbs / x.den : Nat) : Rat) ≤ x := by
  have hden : (0 : Rat) < x.den := by exact_mod_cast x.den_pos
  have hnum : ((x.num.natAbs : Nat) : Rat) = x * x.den := by
    rw [Rat.mul_den_eq_num]
    have habs : (x.num.natAbs : Int) = x.num := Int.natAbs_of_nonneg (Rat.num_nonneg.mpr hx)
    have hcast := congrArg (Int.cast : Int → Rat) habs
    rwa [Int.cast_natCast] at hcast
  have hmul : ((x.num.natAbs / x.den : Nat) : Rat) * x.den ≤ x * x.den := by
    rw [← hnum]
    exact_mod_cast Nat.div_mul_le_self x.num.natAbs x.den
  exact le_of_mul_le_mul_right hmul hden

theorem roundHalfEven_le (hx : 0 ≤ x) : (roundHalfEven x : Rat) ≤ x + 1 := by
  have hfloor : (roundHalfEven x : Rat) ≤ ((x.num.natAbs / x.den : Nat) : Rat) + 1 := by
    exact_mod_cast roundHalfEven_le_floor x
  have hbelow := natAbs_div_den_le hx
  linarith

/-! ## Powers of two -/

theorem twoPow_pos (e : Int) : 0 < twoPow e := by
  rw [twoPow]
  split
  · have hpow : (0 : Rat) < (Nat.pow 2 e.natAbs : Nat) := by exact_mod_cast Nat.two_pow_pos _
    exact one_div_pos.mpr hpow
  · exact_mod_cast Nat.two_pow_pos _

theorem twoPow_le_one {e : Int} (he : e ≤ 0) : twoPow e ≤ 1 := by
  rw [twoPow]
  split
  · have hpow : (1 : Rat) ≤ (Nat.pow 2 e.natAbs : Nat) := by exact_mod_cast Nat.one_le_two_pow
    exact (div_le_one (lt_of_lt_of_le one_pos hpow)).mpr hpow
  · obtain rfl : e = 0 := by omega
    exact le_of_eq (by norm_num)

/-- A magnitude up to a power of two has no greater exponent. -/
theorem log2_le {k : Nat} (hx : 0 ≤ x) (hk : x ≤ (2 ^ k : Nat)) : log2 x ≤ k := by
  have hnum : x.num.natAbs ≤ 2 ^ k * x.den := by
    have hden : (0 : Rat) < x.den := by exact_mod_cast x.den_pos
    have hmul : x * x.den ≤ (2 ^ k : Nat) * x.den := mul_le_mul_of_nonneg_right hk hden.le
    rw [Rat.mul_den_eq_num] at hmul
    have hint : x.num ≤ ((2 ^ k * x.den : Nat) : Int) := by exact_mod_cast hmul
    have habs : (x.num.natAbs : Int) = x.num := Int.natAbs_of_nonneg (Rat.num_nonneg.mpr hx)
    omega
  have hlog : x.num.natAbs.log2 ≤ k + x.den.log2 := by
    by_cases hzero : x.num.natAbs = 0
    · rw [hzero]
      exact Nat.zero_le _
    · have hlt : x.num.natAbs < 2 ^ (k + x.den.log2 + 1) := by
        have hden : x.den < 2 ^ (x.den.log2 + 1) := Nat.lt_log2_self
        have hmul := Nat.mul_lt_mul_of_pos_left hden (Nat.two_pow_pos k)
        rw [← Nat.pow_add] at hmul
        exact Nat.lt_of_le_of_lt hnum hmul
      have hlog := (Nat.log2_lt hzero).mpr hlt
      omega
  rw [log2]
  split <;> omega

/-! ## Values of a format -/

namespace Format

theorem nearest_nonneg (f : Format) (x : Rat) : 0 ≤ f.nearest x := by
  rw [nearest]
  split
  · exact le_refl 0
  · have hround : (0 : Rat) ≤ (roundHalfEven (x / twoPow (f.unitExponent x)) : Nat) := by
      exact_mod_cast Nat.zero_le _
    exact mul_nonneg hround (twoPow_pos _).le

/-- In units of at most one, the nearest value is greater by at most one. -/
theorem nearest_le (hx : 0 ≤ x) (hunit : f.unitExponent x ≤ 0) : f.nearest x ≤ x + 1 := by
  rw [nearest]
  split
  · linarith
  · have hpos := twoPow_pos (f.unitExponent x)
    have hround := roundHalfEven_le (div_nonneg hx hpos.le)
    calc (roundHalfEven (x / twoPow (f.unitExponent x)) : Rat) * twoPow (f.unitExponent x)
        ≤ (x / twoPow (f.unitExponent x) + 1) * twoPow (f.unitExponent x) :=
          mul_le_mul_of_nonneg_right hround hpos.le
      _ = x + twoPow (f.unitExponent x) := by
          rw [add_mul, div_mul_cancel₀ _ hpos.ne', one_mul]
      _ ≤ x + 1 := by
          have hone := twoPow_le_one hunit
          linarith

/-- The greatest magnitude that is looked at here: up to it whole numbers are values. -/
def fair : Nat := 2 ^ 52

theorem nearest_double_le (hx : 0 ≤ x) (hfair : x ≤ fair) : double.nearest x ≤ x + 1 := by
  have hlog : log2 x ≤ 52 := log2_le hx hfair
  have hunit : double.unitExponent x ≤ 0 := by
    have hprecision : (double.precision : Int) = 53 := rfl
    have hleast : double.leastExponent = -1074 := rfl
    rw [unitExponent, hprecision, hleast]
    omega
  exact nearest_le hx hunit

/-- **Rounding a fair magnitude** leaves it finite and adds at most one. -/
theorem round_of_le (negative : Bool) (hx : 0 ≤ x) (hfair : x ≤ fair) :
    ∃ y, double.round negative x = .finite negative y ∧ 0 ≤ y ∧ y ≤ x + 1 := by
  have hle := nearest_double_le hx hfair
  have hbound : ((fair : Nat) : Rat) + 1 < twoPow double.boundExponent := by decide +kernel
  have hlt : double.nearest x < twoPow double.boundExponent := by linarith
  exact ⟨_, by rw [round, if_pos hlt], double.nearest_nonneg x, hle⟩

end Format

end Binary

/-! ## Lengths of time -/

namespace Duration

open Binary

variable {x : Rat} {d : Duration} {seconds : Nat}

/-- So many seconds are a length of time. -/
theorem ofSeconds?_of_le (hx : 0 ≤ x) (hle : x ≤ seconds) (hfair : seconds ≤ Format.fair) :
    ∃ d, ofSeconds? (.finite false x) = some d ∧ d.nanos ≤ seconds * nanosPerSecond + 1 := by
  have hnanos : (0 : Rat) ≤ (nanosPerSecond : Nat) := by exact_mod_cast Nat.zero_le _
  have hround := roundHalfEven_le (mul_nonneg hx hnanos)
  have hmul : x * (nanosPerSecond : Nat) ≤ seconds * (nanosPerSecond : Nat) :=
    mul_le_mul_of_nonneg_right hle hnanos
  have hbound : roundHalfEven (x * (nanosPerSecond : Nat)) ≤ seconds * nanosPerSecond + 1 := by
    have hcast : (roundHalfEven (x * (nanosPerSecond : Nat)) : Rat) ≤
        ((seconds * nanosPerSecond + 1 : Nat) : Rat) := by
      push_cast
      linarith
    exact_mod_cast hcast
  have hlimit : roundHalfEven (x * (nanosPerSecond : Nat)) < limit := by
    have hwide : Format.fair * nanosPerSecond + 1 < limit := by decide
    have hseconds := Nat.mul_le_mul_right nanosPerSecond hfair
    omega
  refine ⟨⟨_, hlimit⟩, ?_, hbound⟩
  rw [ofSeconds?, if_neg (by simp), ofNanos?, dif_pos hlimit]

/-- The seconds of a length of time, with what rounding adds. -/
theorem toSeconds_of_le (h : d.nanos ≤ seconds * nanosPerSecond + 1)
    (hfair : seconds + 4 ≤ Format.fair) :
    ∃ x, d.toSeconds = .finite false x ∧ 0 ≤ x ∧ x ≤ ((seconds + 5 : Nat) : Rat) := by
  have hwhole : d.seconds ≤ seconds + 1 := by
    rw [Duration.seconds, nanosPerSecond] at *
    omega
  have hpart : (d.subsecond : Rat) / (nanosPerSecond : Nat) ≤ 1 := by
    have hpos : (0 : Rat) < (nanosPerSecond : Nat) :=
      Nat.cast_pos.mpr (show 0 < nanosPerSecond by decide)
    refine (div_le_one hpos).mpr ?_
    have hlt : d.subsecond ≤ nanosPerSecond := (Nat.mod_lt _ (by decide)).le
    exact_mod_cast hlt
  have hfair' : ((seconds + 4 : Nat) : Rat) ≤ (Format.fair : Nat) := by exact_mod_cast hfair
  have hwhole' : ((d.seconds : Nat) : Rat) ≤ ((seconds + 1 : Nat) : Rat) := by
    exact_mod_cast hwhole
  push_cast at hfair' hwhole'
  have hseconds : (0 : Rat) ≤ seconds := by exact_mod_cast Nat.zero_le _
  have h₀ : (0 : Rat) ≤ d.seconds := by exact_mod_cast Nat.zero_le _
  have h₁ : (0 : Rat) ≤ (d.subsecond : Rat) / (nanosPerSecond : Nat) :=
    div_nonneg (by exact_mod_cast Nat.zero_le _) (by exact_mod_cast Nat.zero_le _)
  have hround := Format.nearest_double_le h₀ (by linarith)
  have hround' := Format.nearest_double_le h₁ (by linarith)
  have hnonneg := Binary.double.nearest_nonneg (d.seconds : Rat)
  have hnonneg' :=
    Binary.double.nearest_nonneg ((d.subsecond : Rat) / (nanosPerSecond : Nat))
  obtain ⟨y, hy, hpos, hle⟩ := Format.round_of_le (x := Binary.double.nearest (d.seconds : Rat) +
    Binary.double.nearest ((d.subsecond : Rat) / (nanosPerSecond : Nat))) false
      (by linarith) (by linarith)
  refine ⟨y, hy, hpos, ?_⟩
  push_cast
  linarith

/-- **A length of time times a factor of at most two** is one. -/
theorem scale?_of_le {factor : Rat} (h : d.nanos ≤ seconds * nanosPerSecond + 1)
    (hfair : 2 * (seconds + 5) + 1 ≤ Format.fair) (hfactor : 0 ≤ factor) (hfactor' : factor ≤ 2) :
    ∃ d', d.scale? (.finite false factor) = some d' ∧
      d'.nanos ≤ (2 * (seconds + 5) + 1) * nanosPerSecond + 1 := by
  obtain ⟨x, hx, hpos, hle⟩ := toSeconds_of_le h (by omega)
  have hproduct : factor * x ≤ ((2 * (seconds + 5) : Nat) : Rat) := by
    have hmul := mul_le_mul hfactor' hle hpos (by norm_num)
    push_cast at hmul ⊢
    linarith
  have hfair' : ((2 * (seconds + 5) + 1 : Nat) : Rat) ≤ (Format.fair : Nat) := by
    exact_mod_cast hfair
  push_cast at hproduct hfair'
  obtain ⟨y, hy, hpos', hle'⟩ := Format.round_of_le (x := factor * x) false
    (mul_nonneg hfactor hpos) (by linarith)
  have hscale : d.scale? (.finite false factor) = ofSeconds? (.finite false y) := by
    rw [scale?, hx, Format.mul, ← hy]
    rfl
  rw [hscale]
  refine ofSeconds?_of_le hpos' ?_ hfair
  push_cast
  linarith

end Duration

end SourceTutor
