import MarkupCleaner.Text.Quoted

/-!
# String literals

A text as a double-quoted literal of the data notation shared by script languages: the quote, the
backslash and the control characters are escaped, everything else stands as it is.
-/

namespace MarkupCleaner.Text

/-- One character inside a literal. -/
def literalChar (c : Char) : List Char :=
  if c = '"' then ['\\', '"']
  else if c = '\\' then ['\\', '\\']
  else if c = '\n' then ['\\', 'n']
  else if c = '\r' then ['\\', 'r']
  else if c = '\t' then ['\\', 't']
  else if c = '\x0c' then ['\\', 'f']
  else if c = '\x08' then ['\\', 'b']
  else if c.toNat < 0x20 then '\\' :: 'u' :: paddedHex 4 c.toNat
  else [c]

/-- A text as a double-quoted literal. -/
def stringLiteral (cs : List Char) : List Char := '"' :: cs.flatMap literalChar ++ ['"']

end MarkupCleaner.Text
