import JobWire.Number.Shortest

/-!
# Layouts of numbers

The shortest decimal of a number fixes its digits, and a `Layout` fixes how they are set: which
powers of ten are written positionally, how an exponent is written, and what the data that are not
numbers are called.  A positional number always shows at least one decimal, and an exponent always
shows its sign.

`Layout.fixed` is the other way to write a number: with a given number of decimals, the exact value
rounded to them and a tie going to the even digit.
-/

namespace JobWire

/-- How the digits of a number are set. -/
structure Layout where
  /-- The least power of ten that is written positionally. -/
  lowest : Int
  /-- The greatest power of ten that is written positionally. -/
  highest : Int
  /-- The least number of digits of an exponent. -/
  exponentWidth : Nat
  /-- The text of not-a-number. -/
  nan : String
  /-- The text of positive infinity. -/
  infinity : String

namespace Layout

/-- A natural number in at least the given number of digits. -/
def padded (width n : Nat) : List Char :=
  let ds := Nat.toDigits 10 n
  List.replicate (width - ds.length) '0' ++ ds

/-- The digits around a decimal point. -/
def positional (d : Decimal) : List Char :=
  if d.point ≤ 0 then
    '0' :: '.' :: List.replicate (-d.point).toNat '0' ++ d.digits
  else
    let whole := d.point.toNat
    let fraction := d.digits.drop whole
    d.digits.take whole ++ List.replicate (whole - d.digits.length) '0'
      ++ '.' :: (if fraction.isEmpty then ['0'] else fraction)

/-- The first digit, the others behind a point, and the power of ten. -/
def scientific (l : Layout) (d : Decimal) : List Char :=
  let power := d.point - 1
  let sign := if power < 0 then '-' else '+'
  let rest := d.digits.drop 1
  d.digits.take 1 ++ (if rest.isEmpty then [] else '.' :: rest)
    ++ 'e' :: sign :: padded l.exponentWidth power.natAbs

/-- The text of a magnitude. -/
def magnitude (l : Layout) (d : Decimal) : List Char :=
  if d.digits.isEmpty then ['0', '.', '0']
  else if l.lowest < d.point ∧ d.point ≤ l.highest + 1 then positional d
  else l.scientific d

/-- The text of a datum. -/
def chars (l : Layout) : Binary64 → List Char
  | .nan => l.nan.toList
  | .infinite negative => (if negative then ['-'] else []) ++ l.infinity.toList
  | .finite negative rank =>
    (if negative then ['-'] else []) ++ l.magnitude (Binary64.shortest rank)

/-- A datum with the given number of decimals. -/
def fixed (l : Layout) (places : Nat) : Binary64 → List Char
  | .nan => l.nan.toList
  | .infinite negative => (if negative then ['-'] else []) ++ l.infinity.toList
  | .finite negative rank =>
    let scaled := divRound (Binary64.units rank * Nat.pow 10 places) Binary64.unitsInOne
    let ds := padded (places + 1) scaled
    let whole := ds.take (ds.length - places)
    let fraction := ds.drop (ds.length - places)
    (if negative then ['-'] else []) ++ whole
      ++ (if fraction.isEmpty then [] else '.' :: fraction)

end Layout
end JobWire
