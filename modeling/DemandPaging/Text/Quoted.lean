import DemandPaging.Text.Extender
import DemandPaging.Text.Unprintable

/-!
# Quoted text

Text in double quotes, in which every character can be told apart: quotes and
backslashes are escaped, and so is everything that would not show as a
character of its own.
-/

namespace DemandPaging.Text

/-- A character inside double quotes. -/
def escape (c : Char) : List Char :=
  if c = '"' then ['\\', '"']
  else if c = '\\' then ['\\', '\\']
  else if c = '\x00' then ['\\', '0']
  else if c = '\t' then ['\\', 't']
  else if c = '\n' then ['\\', 'n']
  else if c = '\r' then ['\\', 'r']
  else if isExtender c || isUnprintable c then
    ['\\', 'u', '\x7b'] ++ Nat.toDigits 16 c.toNat ++ ['\x7d']
  else [c]

def quoted (text : String) : String :=
  String.ofList (['"'] ++ text.toList.flatMap escape ++ ['"'])

end DemandPaging.Text
