/-!
# Decimals

A `Decimal` is a non-negative finite decimal: its significant digits and where the point stands.
The digits carry no leading and no trailing zero, so equal magnitudes have equal representations
and a number keeps its representation when zeros are written before or after its digits.
-/

namespace JobWire

/-- The magnitude `0.d₁d₂…dₙ · 10 ^ point`; no digits stand for zero. -/
structure Decimal where
  digits : List Char
  point : Int
deriving DecidableEq

namespace Decimal

/-- The decimal without digits. -/
def zero : Decimal := ⟨[], 0⟩

/-- A digit sequence without its trailing zeros. -/
def dropTrailingZeros (ds : List Char) : List Char :=
  (ds.reverse.dropWhile (· == '0')).reverse

/-- The magnitude `0.d₁d₂…dₙ · 10 ^ point` of any digit sequence. -/
def ofDigits (ds : List Char) (point : Int) : Decimal :=
  let significant := ds.dropWhile (· == '0')
  match dropTrailingZeros significant with
  | [] => zero
  | trimmed => ⟨trimmed, point - (ds.length - significant.length : Nat)⟩

/-- The digits read as a natural number. -/
def mantissa (d : Decimal) : Nat :=
  Nat.ofDigitChars 10 d.digits 0

/-- The power of ten that belongs to the mantissa. -/
def exponent (d : Decimal) : Int :=
  d.point - d.digits.length

/-- The decimal `n · 10 ^ e`. -/
def ofNat (n : Nat) (e : Int) : Decimal :=
  let ds := Nat.toDigits 10 n
  ofDigits ds (ds.length + e)

end Decimal
end JobWire
