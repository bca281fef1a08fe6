import TripletFacts.Unicode.Visible

/-!
# Texts in quotes

A text is quoted so that all of it can be seen: quotes and backslashes follow a backslash, some
controls have a letter, and any other character that would not be seen is written as its number.

## Main definitions

* `Unicode.quote`: a text in double quotes.
-/

namespace TripletFacts.Unicode

/-- A character inside of double quotes. -/
def quoteChar (c : Char) : List Char :=
  if c = '"' then ['\\', '"']
  else if c = '\\' then ['\\', '\\']
  else if c = '\n' then ['\\', 'n']
  else if c = '\r' then ['\\', 'r']
  else if c = '\t' then ['\\', 't']
  else if c = '\x00' then ['\\', '0']
  else if isVisible c then [c]
  else ['\\', 'u', '\x7b'] ++ Nat.toDigits 16 c.toNat ++ ['\x7d']

/-- A text in double quotes. -/
def quote (s : String) : List Char := '"' :: (s.toList.flatMap quoteChar ++ ['"'])

end TripletFacts.Unicode
