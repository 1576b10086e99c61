import JobWire.Number.Decimal

/-!
# Binary floating-point numbers of 64 bits

A datum is not-a-number, an infinity, or a finite number.  The finite magnitudes form one ascending
sequence, and a finite number is held as a sign and its *rank* in that sequence: rank `0` is zero,
rank `1` the least positive magnitude `2 ^ -1074`, and the last rank the greatest finite magnitude.
Each binade spans `2 ^ 52` ranks, so rounding a quotient to the nearest magnitude adds the rounded
significand to the rank where its binade starts, and a carry runs into the next binade by itself.

**Results.**
* `divRound_mul`: an exact quotient is not changed by rounding.
-/

namespace JobWire

/-- The quotient rounded to the nearest natural number, a tie to the even one. -/
def divRound (num den : Nat) : Nat :=
  let q := num / den
  let twice := 2 * (num % den)
  if twice < den then q else if den < twice then q + 1 else q + q % 2

namespace Binary64

/-- The number of magnitudes in a binade. -/
def binade : Nat := Nat.pow 2 52

/-- The number of finite magnitudes. -/
def rankCount : Nat := 2047 * binade

/-- The number of units of `2 ^ -1074` in one. -/
def unitsInOne : Nat := Nat.pow 2 1074

/-- The bit that holds the sign. -/
def signBit : Nat := Nat.pow 2 63

end Binary64

/-- A floating-point datum of 64 bits, the not-a-number values taken as one. -/
inductive Binary64 where
  | nan
  | infinite (negative : Bool)
  | finite (negative : Bool) (rank : Fin Binary64.rankCount)
deriving DecidableEq

namespace Binary64

/-- The magnitude of a rank, in units of `2 ^ -1074`. -/
def units (rank : Nat) : Nat :=
  if rank < binade then rank
  else (binade + rank % binade) * Nat.pow 2 (rank / binade - 1)

/-- The rank nearest to `num / den`, a tie to the even one, as if there were no greatest rank. -/
def rankOfRatio (num den : Nat) : Nat :=
  let scaled := num * unitsInOne
  let shift := (scaled / den).log2 - 52
  shift * binade + divRound scaled (den * Nat.pow 2 shift)

/-- The datum of a sign and a rank, infinite from the first rank that is not finite. -/
def ofRank (negative : Bool) (rank : Nat) : Binary64 :=
  if h : rank < rankCount then finite negative ⟨rank, h⟩ else infinite negative

/-- The datum nearest to `± num / den`. -/
def ofRatio (negative : Bool) (num den : Nat) : Binary64 :=
  ofRank negative (rankOfRatio num den)

/-- The datum nearest to a signed decimal.  From `10 ^ 400` on every magnitude is infinite, and
below `10 ^ -400` every magnitude is nearest to zero. -/
def ofDecimal (negative : Bool) (d : Decimal) : Binary64 :=
  if 400 < d.point then infinite negative
  else if d.point < -400 then ofRank negative 0
  else if 0 ≤ d.exponent then ofRatio negative (d.mantissa * Nat.pow 10 d.exponent.toNat) 1
  else ofRatio negative d.mantissa (Nat.pow 10 (-d.exponent).toNat)

/-- The decimal that is exactly the magnitude of a rank. -/
def exactDecimal (rank : Nat) : Decimal :=
  Decimal.ofNat (units rank * Nat.pow 5 1074) (-1074)

/-- The datum with the given bits: the sign, then the rank. -/
def ofBits (bits : UInt64) : Binary64 :=
  let negative := decide (signBit ≤ bits.toNat)
  let rank := bits.toNat % signBit
  if rankCount < rank then nan else ofRank negative rank

/-- The bits of a datum. -/
def toBits : Binary64 → UInt64
  | nan => (0x7FF8000000000000 : UInt64)
  | infinite negative => (rankCount + if negative then signBit else 0).toUInt64
  | finite negative rank => (rank.val + if negative then signBit else 0).toUInt64

/-- The datum of a machine number. -/
def ofFloat (x : Float) : Binary64 :=
  ofBits x.toBits

/-- The machine number of a datum. -/
def toFloat (x : Binary64) : Float :=
  Float.ofBits x.toBits

theorem divRound_mul {q den : Nat} (h : 0 < den) : divRound (q * den) den = q := by
  simp [divRound, Nat.mul_div_cancel q h, h]

end Binary64
end JobWire
