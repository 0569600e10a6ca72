/-!
# Binary floating-point numbers

A value of a binary floating-point format is not a number, an infinity, or a sign with an exact
rational magnitude. A format has a precision, a least unit and a bound; `Format.round` takes a
magnitude to the nearest value of the format, a tie going to the even neighbour, and to infinity
when it comes out at or beyond the bound. Every operation is the exact one followed by one
rounding.
-/

set_option autoImplicit false

namespace SourceTutor.Binary

/-- A value of some binary format. Zero has two signs. -/
inductive Value where
  | nan
  | infinite (negative : Bool)
  | finite (negative : Bool) (magnitude : Rat)
  deriving DecidableEq

/-- A binary format. -/
structure Format where
  /-- The number of digits of a normal value. -/
  precision : Nat
  /-- The exponent of the least positive value. -/
  leastExponent : Int
  /-- Finite magnitudes lie below two to this exponent. -/
  boundExponent : Int

/-- Values of sixty-four bits. -/
def double : Format := ⟨53, -1074, 1024⟩

/-- Values of thirty-two bits. -/
def single : Format := ⟨24, -149, 128⟩

/-- Two to an integer exponent. -/
def twoPow (e : Int) : Rat :=
  if e < 0 then 1 / (Nat.pow 2 e.natAbs : Rat) else (Nat.pow 2 e.toNat : Rat)

/-- Ten to an integer exponent. -/
def tenPow (e : Int) : Rat :=
  if e < 0 then 1 / (Nat.pow 10 e.natAbs : Rat) else (Nat.pow 10 e.toNat : Rat)

/-- The integer nearest to a magnitude, a half going to the even neighbour. -/
def roundHalfEven (x : Rat) : Nat :=
  let below := x.num.natAbs / x.den
  let twice := 2 * (x.num.natAbs % x.den)
  if twice < x.den then below
  else if x.den < twice then below + 1
  else below + below % 2

/-- The greatest exponent of two that does not exceed a positive magnitude. -/
def log2 (x : Rat) : Int :=
  let guess : Int := (x.num.natAbs.log2 : Int) - (x.den.log2 : Int)
  if twoPow guess ≤ x then guess else guess - 1

namespace Format

/-- The exponent of the unit in which the format writes a magnitude. -/
def unitExponent (f : Format) (x : Rat) : Int := max f.leastExponent (log2 x + 1 - f.precision)

/-- The magnitude on the format's grid that is nearest to `x`. -/
def nearest (f : Format) (x : Rat) : Rat :=
  if x = 0 then 0
  else
    let unit := twoPow (f.unitExponent x)
    (roundHalfEven (x / unit) : Rat) * unit

/-- The value of the format nearest to the number with this sign and magnitude. -/
def round (f : Format) (negative : Bool) (x : Rat) : Value :=
  let y := f.nearest x
  if y < twoPow f.boundExponent then .finite negative y else .infinite negative

/-- The value nearest to `digits * 10 ^ exponent`. Numbers far beyond the range of the format are
decided by their size alone: ten lies between the third and the fourth power of two. -/
def ofDecimal (f : Format) (negative : Bool) (digits : Nat) (exponent : Int) : Value :=
  if digits = 0 then .finite negative 0
  else
    let size : Int := digits.log2
    let least := size + (if exponent < 0 then 4 * exponent else 3 * exponent)
    let most := size + 1 + (if exponent < 0 then 3 * exponent else 4 * exponent)
    if 1100 < least then .infinite negative
    else if most < -1100 then .finite negative 0
    else f.round negative ((digits : Rat) * tenPow exponent)

/-- A value in the nearest one of this format. -/
def convert (f : Format) : Value → Value
  | .nan => .nan
  | .infinite negative => .infinite negative
  | .finite negative x => f.round negative x

/-- The product. -/
def mul (f : Format) : Value → Value → Value
  | .finite a x, .finite b y => f.round (a != b) (x * y)
  | .finite a x, .infinite b => if x = 0 then .nan else .infinite (a != b)
  | .infinite a, .finite b y => if y = 0 then .nan else .infinite (a != b)
  | .infinite a, .infinite b => .infinite (a != b)
  | _, _ => .nan

end Format

namespace Value

/-- Whether the value is a number, and an infinity neither. -/
def isFinite : Value → Bool
  | .finite _ _ => true
  | _ => false

/-- Whether the first value is at most the second; never when one is not a number. -/
def le : Value → Value → Bool
  | .nan, _ => false
  | _, .nan => false
  | .infinite a, .infinite b => a || !b
  | .infinite a, .finite _ _ => a
  | .finite _ _, .infinite b => !b
  | .finite a x, .finite b y => (if a then -x else x) ≤ (if b then -y else y)

end Value

end SourceTutor.Binary
