import JobWire.Number.Binary64

/-!
# Shortest decimals

Every finite magnitude is written with the fewest significant digits that read back as the same
datum; of two such decimals of equal length the nearer one is taken, and of two equally near the
one that ends in an even digit.

Seventeen digits always suffice, and a grid of decimals meets the interval that rounds to a
magnitude only if one of the magnitude's two neighbours on that grid lies in it.  So the search
tries, for one digit, two digits, and so on, just these two neighbours.  Whatever the search
returns has been read back; the exact decimal stands in reserve.
-/

namespace JobWire
namespace Binary64

/-- The power of ten by which magnitudes are scaled up to read off leading digits. -/
def searchScale : Nat := 400

/-- The decimal neighbours of a magnitude with the given number of digits: the one not above it,
the one above it, and whether the second is preferred when both read back. -/
def neighbours (rank digits : Nat) : Decimal × Decimal × Bool :=
  let scaled := units rank * Nat.pow 10 searchScale
  let whole := scaled / unitsInOne
  let dropped := (Nat.toDigits 10 whole).length - digits
  let grid := Nat.pow 10 dropped
  let below := whole / grid
  let gapBelow := scaled - below * grid * unitsInOne
  let gapAbove := (below + 1) * grid * unitsInOne - scaled
  let candidate (n : Nat) := Decimal.ofNat n ((dropped : Int) - searchScale)
  (candidate below, candidate (below + 1),
    decide (gapAbove < gapBelow) || (decide (gapAbove = gapBelow) && decide (below % 2 = 1)))

/-- Whether a decimal is read as the magnitude of the given rank. -/
def readsBack (rank : Nat) (d : Decimal) : Bool :=
  decide (ofDecimal false d = ofRank false rank)

/-- The decimal with the given number of digits that reads back as the magnitude, if there is one;
of two the nearer. -/
def withDigits? (rank digits : Nat) : Option Decimal :=
  let (below, above, preferAbove) := neighbours rank digits
  let candidates := if preferAbove then [above, below] else [below, above]
  candidates.find? (readsBack rank)

/-- The shortest decimal of the magnitude of a rank. -/
def shortest (rank : Nat) : Decimal :=
  ((List.range' 1 17).findSome? (withDigits? rank)).getD (exactDecimal rank)

end Binary64
end JobWire
