/-!
# Blank text

The server uses blank strings as placeholders: a job that has left every queue reports the queue
`""`, and a worker that holds nothing is `""` as well.  A text is *blank* when it has no character
outside a fixed table of white-space characters; the empty text is blank.

**Results.**
* `isBlank_append`: a concatenation is blank exactly when both parts are.
-/

namespace JobWire
namespace Text

/-- The white-space characters, as inclusive ranges of code points in ascending order. -/
def blankRanges : List (Nat × Nat) :=
  [(0x09, 0x0D), (0x1C, 0x20), (0x85, 0x85), (0xA0, 0xA0), (0x1680, 0x1680), (0x2000, 0x200A),
    (0x2028, 0x2029), (0x202F, 0x202F), (0x205F, 0x205F), (0x3000, 0x3000)]

/-- Whether a character is white space. -/
def isBlankChar (c : Char) : Bool :=
  blankRanges.any fun r => decide (r.1 ≤ c.toNat) && decide (c.toNat ≤ r.2)

/-- Whether a text is empty or white space throughout. -/
def isBlank (s : String) : Bool :=
  s.toList.all isBlankChar

/-- A text, unless it is blank. -/
def unlessBlank (s : String) : Option String :=
  if isBlank s then none else some s

/-- The characters left after white space is taken off both ends. -/
def trimChars (cs : List Char) : List Char :=
  ((cs.dropWhile isBlankChar).reverse.dropWhile isBlankChar).reverse

/-- The text left after white space is taken off both ends. -/
def trim (s : String) : String :=
  String.ofList (trimChars s.toList)

section Lemmas

@[simp] theorem isBlank_append {s t : String} :
    isBlank (s ++ t) = (isBlank s && isBlank t) := by
  simp [isBlank]

end Lemmas

end Text
end JobWire
