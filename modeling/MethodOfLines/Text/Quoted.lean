import MethodOfLines.Text.Mark
import MethodOfLines.Text.Unseen

/-!
# Text/Quoted — a string inside a description

A string shown inside a description of a value stands between double quotes. The quote and the
backslash are escaped, the usual control characters have their letter, and a character that cannot
be read by itself, because it is drawn on another or not at all, is given by its code point in
hexadecimal.
-/

namespace MethodOfLines.Text

/-- One character of a quoted string. -/
def escape (c : Char) : List Char :=
  if c = '"' then ['\\', '"']
  else if c = '\\' then ['\\', '\\']
  else if c = '\n' then ['\\', 'n']
  else if c = '\r' then ['\\', 'r']
  else if c = '\t' then ['\\', 't']
  else if c = '\x00' then ['\\', '0']
  else if isMark c || isUnseen c then ['\\', 'u', '\x7b'] ++ Nat.toDigits 16 c.toNat ++ ['\x7d']
  else [c]

/-- **A string between quotes.** -/
def quoted (s : String) : String :=
  String.ofList ('"' :: s.toList.flatMap escape ++ ['"'])

end MethodOfLines.Text
