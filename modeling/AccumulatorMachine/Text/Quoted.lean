import AccumulatorMachine.Text.Blank
import AccumulatorMachine.Text.Unprintable

/-!
# Quoted texts

A text is quoted between double quotes.  Quotes, backslashes and the usual
controls are written with a backslash, and any other character that cannot be
shown is written by its code point in hexadecimal, as in `\u{7f}`.
-/

namespace AccumulatorMachine
namespace Text

/-- The quoted form of one character. -/
def quotedChar (c : Char) : Text :=
  if c = '"' then ['\\', '"']
  else if c = '\\' then ['\\', '\\']
  else if c = '\n' then ['\\', 'n']
  else if c = '\r' then ['\\', 'r']
  else if c = '\t' then ['\\', 't']
  else if c = '\x00' then ['\\', '0']
  else if isPrintable c then [c]
  else ['\\', 'u', '\x7b'] ++ Nat.toDigits 16 c.toNat ++ ['\x7d']

/-- A text between double quotes. -/
def quoted (text : Text) : Text :=
  ['"'] ++ text.flatMap quotedChar ++ ['"']

end Text
end AccumulatorMachine
