import Descent.Unicode.Char
/-! How literal texts appear in messages: between double quotes, with the backslash, the quote,
NUL, tab, carriage return and line feed escaped by a backslash, and every nonspacing or enclosing
mark that extends a grapheme and every character that is not printable written as `\u` followed
by its hex code in braces (lowercase, no leading zeros). The apostrophe and every other printable character stand as they are. -/

namespace Descent

namespace Quoted

def hexDigits (n : Nat) : List Char := Nat.toDigits 16 n

/-- The written form of one character. -/
def escape (c : Char) : List Char :=
  if c = '\x00' then ['\\', '0']
  else if c = '\t' then ['\\', 't']
  else if c = '\r' then ['\\', 'r']
  else if c = '\n' then ['\\', 'n']
  else if c = '\\' then ['\\', '\\']
  else if c = '"' then ['\\', '"']
  else if Unicode.isExtendingMark c || !Unicode.isPrintable c then
    ['\\', 'u', '\x7b'] ++ hexDigits c.toNat ++ ['\x7d']
  else [c]

def quote (s : String) : String := String.ofList ('"' :: s.toList.flatMap escape ++ ['"'])

end Quoted

end Descent
