import Mathlib.Data.List.Infix
import Mathlib.Tactic.Common
import MarkupCleaner.Markup.Draft
import MarkupCleaner.Proofs.Markup.Reading

/-!
# Canonical trees

The trees that written markup stands for exactly: every name can be read back, nothing is written that
the tree builder would move or merge, and no blank text has a form that the builder would shorten.
-/

namespace MarkupCleaner.Markup

/-- A lower-case ASCII letter. -/
def isLowerLetter (c : Char) : Bool := 'a' ≤ c && c ≤ 'z'

/-- A character of a plain name after its first letter. -/
def isPlainNameChar (c : Char) : Bool := isLowerLetter c || isAsciiDigit c || c = '-'

/-- A lower-case ASCII letter with lower-case ASCII letters, digits and hyphens after it. -/
def isPlainName (name : String) : Bool :=
  match name.toList with
  | [] => false
  | c :: cs => isLowerLetter c && cs.all isPlainNameChar

/-- The names are plain and pairwise distinct, and none is a spelling that is written differently.
    The values may be anything. -/
structure CanonicalAttributes (attrs : Attributes) : Prop where
  plain : ∀ a ∈ attrs, isPlainName a.name = true
  written : ∀ a ∈ attrs, a.name ≠ "classname" ∧ a.name ≠ "htmlfor"
  distinct : (attrs.map Attribute.name).Nodup

/-- A text that is not empty and that keeps its form where it is placed: if it consists of ASCII white
    space and no element around it keeps that, it is one space or one line feed. -/
structure CanonicalText (kept : Bool) (value : String) : Prop where
  notEmpty : value ≠ ""
  short : kept = false → value.toList.all isAsciiBlank = true → value = " " ∨ value = "\n"

/-- Whether a node is a text. -/
def isText : Node → Bool
  | .text _ => true
  | _ => false

mutual

/-- A canonical subtree; `kept` tells whether an element around it keeps blank text. -/
def Canonical (kept : Bool) : Node → Prop
  | .element tag attrs children ns =>
    (isPlainName tag = true ∧ isRawTextElement tag = false) ∧
      (tag ∈ emptyElements → children = []) ∧ CanonicalAttributes attrs ∧ ns = none ∧
      CanonicalBelow (kept || keepsBlankText tag) children
  | .text value => CanonicalText kept value
  | .comment data => CanonicalText kept data ∧ EndsNoComment data.toList

/-- Canonical subtrees side by side, no text next to another. -/
def CanonicalBelow (kept : Bool) : List Node → Prop
  | [] => True
  | n :: ns =>
    Canonical kept n ∧ (isText n = true → ∀ m ∈ ns.head?, isText m = false) ∧
      CanonicalBelow kept ns

end

instance (attrs : Attributes) : Decidable (CanonicalAttributes attrs) :=
  decidable_of_iff ((∀ a ∈ attrs, isPlainName a.name = true) ∧
      (∀ a ∈ attrs, a.name ≠ "classname" ∧ a.name ≠ "htmlfor") ∧
      (attrs.map Attribute.name).Nodup)
    ⟨fun h => ⟨h.1, h.2.1, h.2.2⟩, fun h => ⟨h.plain, h.written, h.distinct⟩⟩

instance (kept : Bool) (value : String) : Decidable (CanonicalText kept value) :=
  decidable_of_iff (value ≠ "" ∧
      (kept = false → value.toList.all isAsciiBlank = true → value = " " ∨ value = "\n"))
    ⟨fun h => ⟨h.1, h.2⟩, fun h => ⟨h.notEmpty, h.short⟩⟩

instance (data : List Char) : Decidable (EndsNoComment data) :=
  decidable_of_iff (∀ cs ∈ data.tails, commentEnd? cs = none) (by simp only [List.mem_tails, EndsNoComment])

mutual

/-- Whether a subtree is canonical can be computed. -/
def Canonical.decide (kept : Bool) : (n : Node) → Decidable (Canonical kept n)
  | .element tag _ children _ =>
    have := CanonicalBelow.decide (kept || keepsBlankText tag) children
    inferInstanceAs (Decidable ((_ ∧ _) ∧ (_ → _) ∧ _ ∧ _ ∧ _))
  | .text value => inferInstanceAs (Decidable (CanonicalText kept value))
  | .comment _ => inferInstanceAs (Decidable (_ ∧ _))

/-- Whether several subtrees are canonical can be computed. -/
def CanonicalBelow.decide (kept : Bool) : (ns : List Node) → Decidable (CanonicalBelow kept ns)
  | [] => inferInstanceAs (Decidable True)
  | n :: ns =>
    have := Canonical.decide kept n
    have := CanonicalBelow.decide kept ns
    inferInstanceAs (Decidable (_ ∧ (_ → ∀ m ∈ ns.head?, _) ∧ _))

end

instance (kept : Bool) (ns : List Node) : Decidable (CanonicalBelow kept ns) :=
  CanonicalBelow.decide kept ns

example : CanonicalBelow false [.element "p" [⟨"id", "a\"b"⟩] [.text "x < y", .comment " - "] none] := by
  decide

end MarkupCleaner.Markup
