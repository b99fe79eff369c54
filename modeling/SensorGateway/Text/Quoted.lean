import SensorGateway.Text.GraphemeExtend
import SensorGateway.Text.Ranges
import SensorGateway.Text.Unprintable

/-!
Text in quotes, as messages cite it. What a reader could not see is written as an escape:
line breaks and tabs by a letter, other invisible characters by their code point.
-/

namespace SensorGateway.Text

/-- The halfwidth sound marks of Katakana: they extend the character before them, but fill a
cell of their own. -/
def isHalfwidthMark (c : Char) : Bool :=
  c = '\uff9e' || c = '\uff9f'

def isVisible (c : Char) : Bool :=
  !isUnprintable c && !isIgnorable c && (!isGraphemeExtend c || isHalfwidthMark c)

/-- A character between the given quotes: the quote itself and the backslash are escaped,
and so is every character that does not show as one glyph. -/
def escaped (quote c : Char) : List Char :=
  if c = '\x00' then ['\\', '0']
  else if c = '\t' then ['\\', 't']
  else if c = '\n' then ['\\', 'n']
  else if c = '\r' then ['\\', 'r']
  else if c = '\\' ∨ c = quote then ['\\', c]
  else if isVisible c then [c]
  else ['\\', 'u', '\x7b'] ++ Nat.toDigits 16 c.toNat ++ ['\x7d']

def quoted (text : String) : String :=
  String.ofList ('"' :: text.toList.flatMap (escaped '"') ++ ['"'])

def quotedChar (c : Char) : String :=
  String.ofList ('\x27' :: escaped '\x27' c ++ ['\x27'])

end SensorGateway.Text
