import JobWire.Json.Basic
import JobWire.Number.Layout
import JobWire.Text.Hex

/-!
# JSON text of a value

Values are written without spaces, members in their order, and characters beyond ASCII as they are.
Inside a string only the quote, the backslash and the characters below the space are escaped; those
with a letter of their own by it, the others by four hexadecimal digits.
-/

namespace JobWire
namespace Json

/-- Numbers are positional from `10 ^ -5` to below `10 ^ 16`, and exponents are not padded. -/
def numberLayout : Layout where
  lowest := -5
  highest := 15
  exponentWidth := 1
  nan := "NaN"
  infinity := "Infinity"

/-- One character of a string. -/
def escapedChar (c : Char) : List Char :=
  if c = '"' then ['\\', '"']
  else if c = '\\' then ['\\', '\\']
  else if 0x20 ≤ c.toNat then [c]
  else if c = '\x08' then ['\\', 'b']
  else if c = '\x0C' then ['\\', 'f']
  else if c = '\n' then ['\\', 'n']
  else if c = '\r' then ['\\', 'r']
  else if c = '\t' then ['\\', 't']
  else '\\' :: 'u' :: Text.hexDigits 4 c.toNat

/-- A string between quotes. -/
def stringChars (s : String) : List Char :=
  '"' :: s.toList.flatMap escapedChar ++ ['"']

/-- An integer in decimal. -/
def intChars (i : Int) : List Char :=
  (if i < 0 then ['-'] else []) ++ Nat.toDigits 10 i.natAbs

mutual

/-- The text of a value. -/
def chars : Json → List Char
  | null => ['n', 'u', 'l', 'l']
  | bool true => ['t', 'r', 'u', 'e']
  | bool false => ['f', 'a', 'l', 's', 'e']
  | int i => intChars i
  | float x => numberLayout.chars x
  | str s => stringChars s
  | arr [] => ['[', ']']
  | arr (v :: vs) => '[' :: chars v ++ moreItems vs ++ [']']
  | obj [] => ['{', '}']
  | obj ((k, v) :: ms) => '{' :: stringChars k ++ ':' :: chars v ++ moreMembers ms ++ ['}']

/-- The text of the items after the first one. -/
def moreItems : List Json → List Char
  | [] => []
  | v :: vs => ',' :: chars v ++ moreItems vs

/-- The text of the members after the first one. -/
def moreMembers : List (String × Json) → List Char
  | [] => []
  | (k, v) :: ms => ',' :: stringChars k ++ ':' :: chars v ++ moreMembers ms

end

/-- The text of a value, as a string. -/
def render (v : Json) : String :=
  String.ofList v.chars

end Json
end JobWire
