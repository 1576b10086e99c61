import JobWire.Json.Basic
import JobWire.Text.Hex

/-!
# Tokens of JSON text

The text is read one character at a time by a `Scanner`, whose mode says what the next character
belongs to.  A maximal run of letters, digits, signs and points is a *bare* token; it must be a
literal or a number.  Besides the literals `null`, `true` and `false` the floating-point data that
have no digits are accepted: `NaN`, `Infinity` and `-Infinity`.

A number without fraction and exponent is an exact integer; any other is the nearest floating-point
datum.  Of either, the whole part has at most `maxDigits` digits, while a fraction and an exponent
may be of any length.

**Results.**
* `Scanner.run_append`: a text is read part by part.
-/

namespace JobWire
namespace Json

/-- The tokens of JSON text. -/
inductive Token where
  | openArray | closeArray | openObject | closeObject | comma | colon
  | text (s : String)
  | scalar (v : Json)
deriving DecidableEq

/-- The greatest number of digits of an integer, and of the whole part of any other number. -/
def maxDigits : Nat := 4300

namespace Numeral

/-- The run of digits at the start of a text, and what follows. -/
def digits (cs : List Char) : List Char × List Char :=
  cs.span Char.isDigit

/-- The digits of a fraction, and what follows; a text that does not start with a point has none. -/
def fraction : List Char → Option (List Char × List Char)
  | '.' :: cs =>
    match digits cs with
    | ([], _) => none
    | (ds, rest) => some (ds, rest)
  | cs => some ([], cs)

/-- The digits of an exponent, which must be all of the text. -/
def exponentDigits (negative : Bool) (cs : List Char) : Option Int :=
  match digits cs with
  | ([], _) => none
  | (ds, []) =>
    let n : Int := Nat.ofDigitChars 10 ds 0
    some (if negative then -n else n)
  | _ => none

/-- The exponent that a text is, with its letter and its sign. -/
def exponent : List Char → Option Int
  | 'e' :: '-' :: cs | 'E' :: '-' :: cs => exponentDigits true cs
  | 'e' :: '+' :: cs | 'E' :: '+' :: cs => exponentDigits false cs
  | 'e' :: cs | 'E' :: cs => exponentDigits false cs
  | _ => none

/-- The number with the given sign that an unsigned text is. -/
def unsigned (negative : Bool) (cs : List Char) : Option Json :=
  match digits cs with
  | ([], _) | ('0' :: _ :: _, _) => none
  | (whole, rest) =>
    if maxDigits < whole.length then none
    else if rest.isEmpty then
      let n : Int := Nat.ofDigitChars 10 whole 0
      some (.int (if negative then -n else n))
    else do
      let (frac, rest) ← fraction rest
      let power ← if rest.isEmpty then some 0 else exponent rest
      some (.float (.ofDecimal negative (.ofDigits (whole ++ frac) (whole.length + power))))

/-- The number that a text is. -/
def read : List Char → Option Json
  | '-' :: cs => unsigned true cs
  | cs => unsigned false cs

end Numeral

/-- The token that a bare text is. -/
def bareToken (cs : List Char) : Option Token :=
  if cs = "null".toList then some (.scalar .null)
  else if cs = "true".toList then some (.scalar (.bool true))
  else if cs = "false".toList then some (.scalar (.bool false))
  else if cs = "NaN".toList then some (.scalar (.float .nan))
  else if cs = "Infinity".toList then some (.scalar (.float (.infinite false)))
  else if cs = "-Infinity".toList then some (.scalar (.float (.infinite true)))
  else (Numeral.read cs).map .scalar

/-- What the next character belongs to. -/
inductive Mode where
  /-- No token has been begun. -/
  | between
  /-- A literal or a number, the latest character first. -/
  | bare (seen : List Char)
  /-- A string, the latest character first. -/
  | text (seen : List Char)
  /-- The character after a backslash. -/
  | escape (seen : List Char)
  /-- The hexadecimal digits of a code unit, after a first half of a pair or none. -/
  | unit (seen : List Char) (high : Option Nat) (left value : Nat)
  /-- The backslash that must follow the first half of a pair. -/
  | pairBackslash (seen : List Char) (high : Nat)
  /-- The letter that must follow that backslash. -/
  | pairLetter (seen : List Char) (high : Nat)
deriving DecidableEq

/-- The tokens read so far, the latest first, and what the next character belongs to. -/
structure Scanner where
  mode : Mode
  tokens : List Token
deriving DecidableEq

namespace Scanner

/-- Nothing has been read. -/
def start : Scanner := ⟨.between, []⟩

/-- White space between tokens. -/
def isSpace (c : Char) : Bool :=
  c == ' ' || c == '\t' || c == '\n' || c == '\r'

/-- The characters of literals and numbers. -/
def isBare (c : Char) : Bool :=
  c.isAlphanum || c == '+' || c == '-' || c == '.'

/-- The character that stands behind a backslash as a single letter. -/
def escapeLetter? : Char → Option Char
  | '"' => some '"'
  | '\\' => some '\\'
  | '/' => some '/'
  | 'b' => some '\x08'
  | 'f' => some '\x0C'
  | 'n' => some '\n'
  | 'r' => some '\r'
  | 't' => some '\t'
  | _ => none

/-- The character between tokens, which may begin one. -/
def begin (tokens : List Token) (c : Char) : Option Scanner :=
  match c with
  | '[' => some ⟨.between, .openArray :: tokens⟩
  | ']' => some ⟨.between, .closeArray :: tokens⟩
  | '{' => some ⟨.between, .openObject :: tokens⟩
  | '}' => some ⟨.between, .closeObject :: tokens⟩
  | ',' => some ⟨.between, .comma :: tokens⟩
  | ':' => some ⟨.between, .colon :: tokens⟩
  | '"' => some ⟨.text [], tokens⟩
  | c =>
    if isSpace c then some ⟨.between, tokens⟩
    else if isBare c then some ⟨.bare [c], tokens⟩
    else none

/-- What a code unit of four digits adds to a string: a character, or half of a pair of units. -/
def codeUnit (seen : List Char) (high : Option Nat) (value : Nat) : Option Mode :=
  let isHigh := decide (0xD800 ≤ value) && decide (value < 0xDC00)
  let isLow := decide (0xDC00 ≤ value) && decide (value < 0xE000)
  match high with
  | none =>
    if isHigh then some (.pairBackslash seen value)
    else if isLow then none
    else some (.text (Char.ofNat value :: seen))
  | some h =>
    if isLow then
      some (.text (Char.ofNat (0x10000 + (h - 0xD800) * 0x400 + (value - 0xDC00)) :: seen))
    else none

/-- The scanner after one more character; none if no JSON text goes on like this. -/
def step (s : Scanner) (c : Char) : Option Scanner :=
  match s.mode with
  | .between => begin s.tokens c
  | .bare seen =>
    if isBare c then some { s with mode := .bare (c :: seen) }
    else (bareToken seen.reverse).bind fun t => begin (t :: s.tokens) c
  | .text seen =>
    if c = '"' then some ⟨.between, .text (String.ofList seen.reverse) :: s.tokens⟩
    else if c = '\\' then some { s with mode := .escape seen }
    else if c.toNat < 0x20 then none
    else some { s with mode := .text (c :: seen) }
  | .escape seen =>
    if c = 'u' then some { s with mode := .unit seen none 4 0 }
    else (escapeLetter? c).map fun e => { s with mode := .text (e :: seen) }
  | .unit seen high left value =>
    (Text.hexValue? c).bind fun d =>
      if left ≤ 1 then (codeUnit seen high (16 * value + d)).map fun m => { s with mode := m }
      else some { s with mode := .unit seen high (left - 1) (16 * value + d) }
  | .pairBackslash seen high =>
    if c = '\\' then some { s with mode := .pairLetter seen high } else none
  | .pairLetter seen high =>
    if c = 'u' then some { s with mode := .unit seen (some high) 4 0 } else none

/-- The scanner after a run of characters. -/
def run (s : Scanner) (cs : List Char) : Option Scanner :=
  cs.foldlM step s

theorem run_append (s : Scanner) (cs ds : List Char) :
    s.run (cs ++ ds) = (s.run cs).bind fun t => t.run ds :=
  List.foldlM_append

@[simp] theorem run_nil (s : Scanner) : s.run [] = some s := rfl

theorem run_cons (s : Scanner) (c : Char) (cs : List Char) :
    s.run (c :: cs) = (s.step c).bind fun t => t.run cs := rfl

/-- The tokens at the end of the text, in order. -/
def finish (s : Scanner) : Option (List Token) :=
  match s.mode with
  | .between => some s.tokens.reverse
  | .bare seen => (bareToken seen.reverse).map fun t => (t :: s.tokens).reverse
  | _ => none

end Scanner

/-- The tokens of a text. -/
def tokens (cs : List Char) : Option (List Token) :=
  (Scanner.start.run cs).bind Scanner.finish

end Json
end JobWire
