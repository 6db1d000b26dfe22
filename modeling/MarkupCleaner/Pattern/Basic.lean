import MarkupCleaner.Text.Blank
import MarkupCleaner.Unicode.Caseless
import MarkupCleaner.Unicode.Character

/-!
# Patterns

The expressions of the pattern language. Characters are code points, because a pattern may name code
points that no text contains. A list of alternatives and a list of items in a row are nested pairs.
-/

namespace MarkupCleaner

/-- A switch that changes how a pattern is read or matched. -/
inductive Flag where
  | ignoreCase
  | locale
  | multiline
  | dotAll
  | verbose
  | ascii
  | template
  | unicode
deriving DecidableEq, Repr

/-- A set of flags. -/
abbrev Flags := List Flag

namespace Flags

/-- Whether a flag is set. -/
def on (flags : Flags) (flag : Flag) : Bool := flags.contains flag

/-- The flags that choose the classes of characters; at most one of them is in force. -/
def choosesClasses (flag : Flag) : Bool := flag = .ascii || flag = .locale || flag = .unicode

/-- The flags inside a group that sets some flags and clears others. -/
def within (flags added removed : Flags) : Flags :=
  let base :=
    if added.any choosesClasses then flags.filter fun f => !choosesClasses f else flags
  (base ++ added).filter fun f => !removed.contains f

end Flags

namespace Pattern

/-- A class of characters with a name of its own. -/
inductive Category where
  | digit
  | blank
  | word
deriving DecidableEq, Repr

/-- A member of a set of characters. A range of one character is not the same as the character: they
    are compared differently without regard to case. -/
inductive Member where
  | code (value : Nat)
  | range (first last : Nat)
  | category (kind : Category) (negated : Bool)
deriving DecidableEq, Repr

/-- A condition on a place in the text. -/
inductive Anchor where
  | lineStart
  | lineEnd
  | textStart
  | textEnd
  | wordEdge
  | insideWord
deriving DecidableEq, Repr

/-- How often a repetition tries to go on. -/
inductive Greed where
  /-- As often as possible, giving back one by one. -/
  | greedy
  /-- As rarely as possible, adding one by one. -/
  | lazy
  /-- As often as possible, giving nothing back. -/
  | possessive
deriving DecidableEq, Repr

/-- The least and the greatest number of characters that a pattern takes up. -/
structure Width where
  least : Nat
  greatest : Nat
deriving DecidableEq, Repr

end Pattern

/-- An expression of the pattern language. -/
inductive Pattern where
  | empty
  | literal (code : Nat)
  /-- Any character but one. -/
  | notLiteral (code : Nat)
  | any
  | set (negated : Bool) (members : List Pattern.Member)
  | anchor (kind : Pattern.Anchor)
  | seq (first second : Pattern)
  | alt (first second : Pattern)
  | group (number : Nat) (body : Pattern)
  | flagged (added removed : Flags) (body : Pattern)
  | atomic (body : Pattern)
  | repeated (greed : Pattern.Greed) (least : Nat) (most : Option Nat) (body : Pattern)
  | backreference (number : Nat)
  | lookahead (negated : Bool) (body : Pattern)
  | lookbehind (negated : Bool) (width : Pattern.Width) (body : Pattern)
  | conditional (number : Nat) (yes no : Pattern)
deriving DecidableEq, Repr, Inhabited

namespace Pattern

/-- Items in a row. -/
def ofItems (items : List Pattern) : Pattern := items.foldr seq empty

/-- Alternatives, tried from the first to the last. -/
def ofAlternatives : List Pattern → Pattern
  | [] => empty
  | [p] => p
  | p :: ps => alt p (ofAlternatives ps)

/-- The least bound that a repetition cannot have. A repetition without a bound counts as one with
    this bound, and no pattern counts as wider. -/
def repetitionLimit : Nat := 4294967295

/-- A width within bounds. The least width stays below the limit even if there is no other. -/
def Width.capped (w : Width) : Width :=
  ⟨min w.least (repetitionLimit - 1), min w.greatest repetitionLimit⟩

/-- The width of one part after the other. -/
def Width.add (v w : Width) : Width := Width.capped ⟨v.least + w.least, v.greatest + w.greatest⟩

/-- The width of one part or the other. -/
def Width.either (v w : Width) : Width := ⟨min v.least w.least, max v.greatest w.greatest⟩

/-- The width of a repetition. -/
def Width.times (w : Width) (least : Nat) (most : Option Nat) : Width :=
  Width.capped ⟨w.least * least, w.greatest * most.getD repetitionLimit⟩

/-- The width of a pattern, given the widths of the groups it may refer to. -/
def width (groupWidth : Nat → Width) : Pattern → Width
  | empty | anchor _ | lookahead .. | lookbehind .. => ⟨0, 0⟩
  | literal _ | notLiteral _ | any | set .. => ⟨1, 1⟩
  | seq p q => (p.width groupWidth).add (q.width groupWidth)
  | alt p q => (p.width groupWidth).either (q.width groupWidth)
  | group _ p | flagged _ _ p | atomic p => p.width groupWidth
  | repeated _ least most p => (p.width groupWidth).times least most
  | backreference n => groupWidth n
  | conditional _ yes no => (yes.width groupWidth).either (no.width groupWidth)

end Pattern
end MarkupCleaner
