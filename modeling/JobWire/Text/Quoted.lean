import JobWire.Text.Hex
import JobWire.Text.Printable

/-!
# Quoted text

Names that come from a document are shown in log lines and error texts between quotes, with every
character that could break the line escaped.  Single quotes are used unless the text holds a single
quote and no double one.  The backslash and the quote in use are escaped by a backslash; line feed,
carriage return and tab have their letters; every other unprintable character is written by its
code point, in the narrowest of the forms `\x`, `\u` and `\U` that holds it.
-/

namespace JobWire
namespace Text

/-- The quote that encloses a text. -/
def quoteFor (s : String) : Char :=
  if s.toList.contains '\'' && !s.toList.contains '"' then '"' else '\''

/-- One character of a text enclosed in the given quote. -/
def quotedChar (quote c : Char) : List Char :=
  if c = quote then ['\\', c]
  else if c = '\\' then ['\\', '\\']
  else if c = '\n' then ['\\', 'n']
  else if c = '\r' then ['\\', 'r']
  else if c = '\t' then ['\\', 't']
  else if isPrintable c then [c]
  else if c.toNat < 0x100 then '\\' :: 'x' :: hexDigits 2 c.toNat
  else if c.toNat < 0x10000 then '\\' :: 'u' :: hexDigits 4 c.toNat
  else '\\' :: 'U' :: hexDigits 8 c.toNat

/-- A text between quotes. -/
def quoted (s : String) : String :=
  let quote := quoteFor s
  String.ofList (quote :: s.toList.flatMap (quotedChar quote) ++ [quote])

/-- A list of texts, each between quotes, in square brackets. -/
def quotedList (names : List String) : String :=
  "[" ++ ", ".intercalate (names.map quoted) ++ "]"

end Text
end JobWire
