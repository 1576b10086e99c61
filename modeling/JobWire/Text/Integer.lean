/-!
# Integers in sentences

A sentence that names an integer gives all of its digits.  Their number is limited, and an integer
that has more of them is not named at all: the text that was to name it is not made, and its place
is taken by a sentence about the limit.
-/

namespace JobWire
namespace Text

/-- The number of digits that an integer may have in a sentence. -/
def maxDigits : Nat := 4300

/-- What is said where an integer has more digits. -/
def tooManyDigits : String :=
  "Exceeds the limit (" ++ toString maxDigits ++ " digits) for integer string conversion; "
    ++ "use sys.set_int_max_str_digits() to increase the limit"

/-- The text of an integer, or what is said in its place. -/
def integer (i : Int) : Except String String :=
  if (Nat.toDigits 10 i.natAbs).length ≤ maxDigits then .ok (toString i) else .error tooManyDigits

end Text
end JobWire
