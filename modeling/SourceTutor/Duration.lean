import SourceTutor.Binary.Format

/-!
# Lengths of time

A length of time is a whole number of nanoseconds, its seconds fitting into sixty-four bits.
Arithmetic that leaves this range has no result, except for the saturating product. Seconds given
as a floating-point number are taken to the nearest nanosecond.
-/

set_option autoImplicit false

namespace SourceTutor

/-- The nanoseconds of one second. -/
def nanosPerSecond : Nat := 1000000000

/-- The first number of nanoseconds that is too long. -/
def Duration.limit : Nat := UInt64.size * nanosPerSecond

/-- A length of time. -/
structure Duration where
  nanos : Nat
  /-- The seconds fit into sixty-four bits. -/
  nanos_lt : nanos < Duration.limit
  deriving DecidableEq

namespace Duration

theorem limit_pos : 0 < limit := by decide

/-- No time at all. -/
def zero : Duration := ⟨0, limit_pos⟩

/-- The greatest length. -/
def longest : Duration := ⟨limit - 1, by decide⟩

/-- The length of this many nanoseconds, if it is in range. -/
def ofNanos? (n : Nat) : Option Duration := if h : n < limit then some ⟨n, h⟩ else none

/-- The length of this many milliseconds, if it is in range. -/
def ofMillis? (n : Nat) : Option Duration := ofNanos? (n * 1000000)

/-- The length of a whole number of seconds. -/
def ofSeconds (n : UInt64) : Duration :=
  ⟨n.toNat * nanosPerSecond, by
    have := n.toNat_lt
    simp only [limit, nanosPerSecond, UInt64.size]
    omega⟩

/-- The whole seconds. -/
def seconds (d : Duration) : Nat := d.nanos / nanosPerSecond

/-- The nanoseconds beyond the whole seconds. -/
def subsecond (d : Duration) : Nat := d.nanos % nanosPerSecond

/-- Whether no time passes. -/
def isZero (d : Duration) : Bool := d.nanos == 0

/-- The milliseconds of the longest sleep: thirty years of 365 days. -/
def longestSleep : Nat := 30 * 365 * 86400 * 1000

/-- How long a sleep takes on a clock that ticks in milliseconds: a part of one counts as a whole
one, and whatever is longer than the longest sleep is cut to it. -/
def sleepMillis (d : Duration) : Nat := Nat.min ((d.nanos + 999999) / 1000000) longestSleep

/-- The sum, if it is in range. -/
def add? (a b : Duration) : Option Duration := ofNanos? (a.nanos + b.nanos)

/-- The sum of a list, if every sum on the way is in range. -/
def sum? (ds : List Duration) : Option Duration := ds.foldlM add? zero

/-- The multiple, or the greatest length if it is out of range. -/
def saturatingMul (d : Duration) (n : Nat) : Duration := (ofNanos? (d.nanos * n)).getD longest

/-- The shorter of two lengths. -/
def min (a b : Duration) : Duration := if a.nanos ≤ b.nanos then a else b

/-- The length of so many seconds to the nearest nanosecond. There is none when the number is
negative, too great, infinite or not a number. -/
def ofSeconds? : Binary.Value → Option Duration
  | .finite negative x =>
    if negative && x != 0 then none
    else ofNanos? (Binary.roundHalfEven (x * (nanosPerSecond : Rat)))
  | _ => none

/-- The length in seconds: the whole seconds plus the part of a second, each rounded. -/
def toSeconds (d : Duration) : Binary.Value :=
  let whole := Binary.double.nearest (d.seconds : Rat)
  let part := Binary.double.nearest ((d.subsecond : Rat) / (nanosPerSecond : Rat))
  Binary.double.round false (whole + part)

/-- The length times a factor, if the product in seconds is one. -/
def scale? (d : Duration) (factor : Binary.Value) : Option Duration :=
  ofSeconds? (Binary.double.mul factor d.toSeconds)

end Duration

end SourceTutor
