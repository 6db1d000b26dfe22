/-!
# UTF-8

Bytes as text. A character takes one to four bytes: the first one tells how many more are owed and
narrows down the one after it, so that a character has a single form and no surrogate has one. Bytes
that are no text are refused at the first byte that cannot stand where it does.
-/

namespace MarkupCleaner.Text

/-- Why bytes are no text. -/
inductive Utf8Cause where
  /-- No character starts with this byte. -/
  | invalidStart
  /-- A byte is not one of those that are owed. -/
  | invalidContinuation
  /-- Bytes are still owed at the end. -/
  | unexpectedEnd
deriving DecidableEq, Repr

/-- A refusal: the bytes of the character that cannot be read, their place, and the cause. -/
structure Utf8Fault where
  bytes : List UInt8
  place : Nat
  cause : Utf8Cause
deriving DecidableEq, Repr

/-- A character that is being read: its bytes so far with the last one first, the value they stand
    for, the number of bytes owed, and the bounds of the next one. -/
structure Utf8Partial where
  bytes : List UInt8
  value : Nat
  owed : Nat
  least : Nat
  greatest : Nat

/-- The character that a first byte starts. -/
def Utf8Partial.start? (b : UInt8) : Option Utf8Partial :=
  let n := b.toNat
  if 0xC2 ≤ n && n ≤ 0xDF then some ⟨[b], n - 0xC0, 1, 0x80, 0xBF⟩
  else if n = 0xE0 then some ⟨[b], 0, 2, 0xA0, 0xBF⟩
  else if n = 0xED then some ⟨[b], 0xD, 2, 0x80, 0x9F⟩
  else if 0xE1 ≤ n && n ≤ 0xEF then some ⟨[b], n - 0xE0, 2, 0x80, 0xBF⟩
  else if n = 0xF0 then some ⟨[b], 0, 3, 0x90, 0xBF⟩
  else if 0xF1 ≤ n && n ≤ 0xF3 then some ⟨[b], n - 0xF0, 3, 0x80, 0xBF⟩
  else if n = 0xF4 then some ⟨[b], 4, 3, 0x80, 0x8F⟩
  else none

/-- The character after one more of its bytes. -/
def Utf8Partial.push (p : Utf8Partial) (b : UInt8) : Utf8Partial :=
  ⟨b :: p.bytes, p.value * 64 + (b.toNat - 0x80), p.owed - 1, 0x80, 0xBF⟩

/-- Reads bytes from a place on; `unfinished` is the character that is being read. -/
def utf8From (place : Nat) (unfinished : Option Utf8Partial) :
    List UInt8 → Except Utf8Fault (List Char)
  | [] =>
    match unfinished with
    | none => .ok []
    | some p => .error ⟨p.bytes.reverse, place - p.bytes.length, .unexpectedEnd⟩
  | b :: bs =>
    match unfinished with
    | none =>
      if b.toNat < 0x80 then (Char.ofNat b.toNat :: ·) <$> utf8From (place + 1) none bs
      else
        match Utf8Partial.start? b with
        | none => .error ⟨[b], place, .invalidStart⟩
        | some p => utf8From (place + 1) (some p) bs
    | some p =>
      if p.least ≤ b.toNat && b.toNat ≤ p.greatest then
        let p := p.push b
        if p.owed = 0 then (Char.ofNat p.value :: ·) <$> utf8From (place + 1) none bs
        else utf8From (place + 1) (some p) bs
      else .error ⟨p.bytes.reverse, place - p.bytes.length, .invalidContinuation⟩

/-- The text of bytes. -/
def ofUtf8 (bytes : List UInt8) : Except Utf8Fault (List Char) := utf8From 0 none bytes

/-- A text with every end of line written as a line feed. -/
def withLineFeeds : List Char → List Char
  | [] => []
  | '\r' :: '\n' :: cs => '\n' :: withLineFeeds cs
  | '\r' :: cs => '\n' :: withLineFeeds cs
  | c :: cs => c :: withLineFeeds cs

end MarkupCleaner.Text
