import SourceTutor.Binary.Format

/-!
# The fewest digits that read back

A finite magnitude of a binary format is written with the fewest significant decimal digits that
still round to it, and among those with the ones nearest to it. The numbers that round to a value
reach halfway to its neighbours; the ends belong to it when its count of units is even.
`positional` lays the digits out without an exponent.
-/

set_option autoImplicit false

namespace SourceTutor.Binary

/-- A number `digits * 10 ^ exponent`. -/
structure Decimal where
  /-- The significant digits, as one number. -/
  digits : Nat
  /-- The power of ten of the last digit. -/
  exponent : Int
  deriving DecidableEq

namespace Decimal

/-- The exact number. -/
def toRat (d : Decimal) : Rat := (d.digits : Rat) * tenPow d.exponent

/-- The text without an exponent: digits, and a point with the digits after it where needed. -/
def positional (d : Decimal) : List Char :=
  let ds := Nat.toDigits 10 d.digits
  if 0 ≤ d.exponent then
    if d.digits = 0 then ds else ds ++ List.replicate d.exponent.toNat '0'
  else
    let places := d.exponent.natAbs
    let padded := List.replicate (places + 1 - ds.length) '0' ++ ds
    padded.take (padded.length - places) ++ ['.'] ++ padded.drop (padded.length - places)

end Decimal

/-- Whether a magnitude rounds to the positive value `x` of the format. -/
def Format.readsBack (f : Format) (x y : Rat) : Bool := f.nearest y == x

/-- The least exponent `k` with `x < 10 ^ k`, found by counting up from `k`. -/
def decimalScale (x : Rat) : Nat → Int → Int
  | 0, k => k
  | fuel + 1, k => if x < tenPow k then k else decimalScale x fuel (k + 1)

/-- The digits of the given count that read back to `x`, if there are any: of the two neighbours
of `x` on the grid of that many digits, the nearer one that reads back. -/
def Format.digitsOf? (f : Format) (x : Rat) (scale : Int) (count : Nat) : Option Decimal :=
  let exponent := scale - count
  let below := (x / tenPow exponent).floor.toNat
  let low : Decimal := ⟨below, exponent⟩
  let high : Decimal := ⟨below + 1, exponent⟩
  match f.readsBack x low.toRat, f.readsBack x high.toRat with
  | true, true =>
    let gapLow := x - low.toRat
    let gapHigh := high.toRat - x
    if gapHigh < gapLow || (gapHigh == gapLow && below % 2 == 1) then some high else some low
  | true, false => some low
  | false, true => some high
  | false, false => none

/-- The digits without the zeros at their end. -/
def Decimal.strip : Nat → Decimal → Decimal
  | 0, d => d
  | fuel + 1, d =>
    if d.digits != 0 && d.digits % 10 == 0 then strip fuel ⟨d.digits / 10, d.exponent + 1⟩ else d

/-- The first digit count from `count` on that reads back; seventeen digits always do. -/
def Format.searchDigits (f : Format) (x : Rat) (scale : Int) : Nat → Nat → Decimal
  | 0, count => ⟨(x / tenPow (scale - count)).floor.toNat, scale - count⟩
  | fuel + 1, count =>
    match f.digitsOf? x scale count with
    | some d => d
    | none => f.searchDigits x scale fuel (count + 1)

/-- The fewest digits that read back to the magnitude `x` of the format. -/
def Format.shortest (f : Format) (x : Rat) : Decimal :=
  if x = 0 then ⟨0, 0⟩
  else
    let start : Int := log2 x * 3 / 10 - 2
    let scale := decimalScale x 400 start
    Decimal.strip 20 (f.searchDigits x scale 17 1)

/-- The text of a value without an exponent. -/
def Format.positionalText (f : Format) : Value → String
  | .nan => "NaN"
  | .infinite negative => if negative then "-inf" else "inf"
  | .finite negative x =>
    (if negative then "-" else "") ++ String.ofList (f.shortest x).positional

end SourceTutor.Binary
