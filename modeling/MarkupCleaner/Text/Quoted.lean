import MarkupCleaner.Unicode.Character

/-!
# Quoted text

A text between quotes, as messages show it: control characters and other unprintable ones are
escaped, printable characters of every script stand as they are.
-/

namespace MarkupCleaner.Text

/-- The digits of `n` in base sixteen, lower case. -/
def hexDigits (n : Nat) : List Char := Nat.toDigits 16 n

/-- The digits of `n` in base sixteen, filled up with zeros to a width. -/
def paddedHex (width n : Nat) : List Char :=
  let digits := hexDigits n
  List.replicate (width - digits.length) '0' ++ digits

/-- One character inside the given quotes. -/
def quotedChar (quote c : Char) : List Char :=
  if c = quote || c = '\\' then ['\\', c]
  else if c = '\n' then ['\\', 'n']
  else if c = '\r' then ['\\', 'r']
  else if c = '\t' then ['\\', 't']
  else if Unicode.isPrintable c then [c]
  else if c.toNat < 0x100 then '\\' :: 'x' :: paddedHex 2 c.toNat
  else if c.toNat < 0x10000 then '\\' :: 'u' :: paddedHex 4 c.toNat
  else '\\' :: 'U' :: paddedHex 8 c.toNat

/-- Single quotes, unless the text has one and no double quote. -/
def quoteFor (cs : List Char) : Char :=
  if cs.contains '\'' && !cs.contains '"' then '"' else '\''

/-- A text in quotes. -/
def quotedChars (cs : List Char) : List Char :=
  let quote := quoteFor cs
  quote :: cs.flatMap (quotedChar quote) ++ [quote]

/-- A text in quotes. -/
def quoted (s : String) : String := .ofList (quotedChars s.toList)

end MarkupCleaner.Text
