import Mathlib.Data.List.TakeWhile
import MarkupCleaner.ClassRules.Template
import MarkupCleaner.Proofs.Data.Runs

/-!
# Quoted text in templates

Any text can stand in a template: with every dollar sign doubled it expands to itself, whatever stands next
to it. A template is read once from left to right, so that a reference between quoted texts expands to what
it stands for, and that is not read again.
-/

namespace MarkupCleaner.ClassRules

/-- A text as it is quoted in a template: every dollar sign is doubled. -/
def quoted (cs : List Char) : List Char := cs.flatMap fun c => if c = '$' then ['$', '$'] else [c]

/-- A part of a template: quoted text, a reference to the whole match, or one to a group by its name. -/
inductive Piece where
  | text (cs : List Char)
  | whole
  | named (name : List Char)

namespace Piece

/-- How a part is written. -/
def written : Piece → List Char
  | text cs => quoted cs
  | whole => ['$', '&']
  | named name => '$' :: '<' :: name ++ ['>']

/-- What a part stands for. -/
def meaning (p : CompiledPattern) (m : Pattern.Match) : Piece → List Char
  | text cs => cs
  | whole => m.whole
  | named name => namedText p m name

/-- A name that can be written: the bracket that ends it is not in it. -/
def IsWritable : Piece → Prop
  | text _ => True
  | whole => True
  | named name => '>' ∉ name

end Piece

section

variable (p : CompiledPattern) (m : Pattern.Match)

/-- Characters that a reference has taken up are passed over. -/
theorem expandFrom_append (front back : List Char) :
    expandFrom p m front.length (front ++ back) = expandFrom p m 0 back := by
  induction front with
  | nil => rfl
  | cons c front ih => exact ih

/-- A reference is replaced by its text, and the template is read on behind it. -/
theorem expandFrom_reference (reference : List Char) {rest text : List Char}
    (h : referenceText? p m (reference ++ rest) = some (text, reference.length)) :
    expandFrom p m 0 ('$' :: (reference ++ rest)) = text ++ expandFrom p m 0 rest := by
  rw [expandFrom, if_pos rfl, h, ← expandFrom_append p m reference rest]

theorem expandFrom_quoted (cs rest : List Char) :
    expandFrom p m 0 (quoted cs ++ rest) = cs ++ expandFrom p m 0 rest := by
  induction cs with
  | nil => rfl
  | cons c cs ih =>
    rw [quoted, List.flatMap_cons, ← quoted, List.append_assoc, List.cons_append, ← ih]
    by_cases hc : c = '$'
    · -- the first sign of a pair takes up the second one, so that pairs never overlap
      rw [if_pos hc, hc]
      exact expandFrom_reference p m ['$'] rfl
    · rw [if_neg hc, List.singleton_append, expandFrom, if_neg hc]

theorem expandFrom_whole (rest : List Char) :
    expandFrom p m 0 ('$' :: '&' :: rest) = m.whole ++ expandFrom p m 0 rest :=
  expandFrom_reference p m ['&'] rfl

theorem referenceText?_named {name : List Char} (h : '>' ∉ name) (rest : List Char) :
    referenceText? p m ('<' :: (name ++ '>' :: rest)) = some (namedText p m name, name.length + 2) := by
  have hends : name.length < (name ++ '>' :: rest).length := by simp
  simp only [referenceText?, takeWhile_ne_append h, if_pos hends]

theorem expandFrom_named {name : List Char} (h : '>' ∉ name) (rest : List Char) :
    expandFrom p m 0 ('$' :: '<' :: (name ++ '>' :: rest)) = namedText p m name ++ expandFrom p m 0 rest := by
  have hsplit : '<' :: (name ++ '>' :: rest) = ('<' :: name ++ ['>']) ++ rest := by simp
  have hlength : ('<' :: name ++ ['>']).length = name.length + 2 := by simp
  rw [hsplit]
  refine expandFrom_reference p m _ ?_
  rw [← hsplit, referenceText?_named p m h, hlength]

theorem expandFrom_written {piece : Piece} (h : piece.IsWritable) (rest : List Char) :
    expandFrom p m 0 (piece.written ++ rest) = piece.meaning p m ++ expandFrom p m 0 rest := by
  cases piece with
  | text cs => exact expandFrom_quoted p m cs rest
  | whole => exact expandFrom_whole p m rest
  | named name =>
    rw [Piece.written, List.append_assoc]
    exact expandFrom_named p m h rest

/-- A template of quoted texts and references expands to what these stand for, one after the other. -/
theorem expand_flatMap_written (pieces : List Piece) (h : ∀ piece ∈ pieces, piece.IsWritable) :
    expand p m (pieces.flatMap Piece.written) = pieces.flatMap (Piece.meaning p m) := by
  induction pieces with
  | nil => rfl
  | cons piece pieces ih =>
    obtain ⟨hpiece, hpieces⟩ := List.forall_mem_cons.1 h
    rw [expand, List.flatMap_cons, expandFrom_written p m hpiece, List.flatMap_cons, ← ih hpieces, expand]

end

/-- Quoted text expands to itself, next to a reference as well. A reference to the whole match or to a named
    group stands for the text of the match or of the group, which is empty if the group took no part, and
    that text is taken as it is, dollar signs and all. -/
theorem expand_quoted (p : CompiledPattern) (m : Pattern.Match) (a b : List Char) :
    expand p m (quoted a) = a ∧
      expand p m (quoted a ++ ['$', '&'] ++ quoted b) = a ++ m.whole ++ b ∧
      ∀ name number, p.names.lookup name = some number → '>' ∉ name →
        expand p m (quoted a ++ ('$' :: '<' :: name ++ ['>']) ++ quoted b) =
          a ++ (m.group? number).getD [] ++ b := by
  refine ⟨?_, ?_, fun name number hname hwritable => ?_⟩
  · simpa [Piece.written, Piece.meaning] using
      expand_flatMap_written p m [.text a] (by simp [Piece.IsWritable])
  · simpa [Piece.written, Piece.meaning] using
      expand_flatMap_written p m [.text a, .whole, .text b] (by simp [Piece.IsWritable])
  · have htext : namedText p m name = (m.group? number).getD [] := by
      rw [namedText, hname]
      rfl
    simpa [Piece.written, Piece.meaning, htext] using
      expand_flatMap_written p m [.text a, .named name, .text b] (by simp [Piece.IsWritable, hwritable])

/-- A group that has captured a dollar sign, between quoted dollar signs. -/
theorem expand_quoted_dollar :
    ∃ p m, Pattern.compile "(?P<n>.)x?".toList = .ok p ∧ p.search? "$x&".toList = .ok (some m) ∧
      p.names.lookup ['n'] = some 1 ∧ '>' ∉ ['n'] ∧ m.group? 1 = some ['$'] ∧
      expand p m (quoted ['$'] ++ ['$', '<', 'n', '>'] ++ quoted ['&']) = ['$', '$', '&'] := by
  let p : CompiledPattern :=
    { pattern := .seq (.group 1 (.seq .any .empty))
        (.seq (.repeated .greedy 0 (some 1) (.literal 120)) .empty)
      width := ⟨1, 2⟩, flags := [], groupCount := 1, names := [(['n'], 1)] }
  let m : Pattern.Match := { text := "$x&".toList, span := ⟨0, 2⟩, groups := [some ⟨0, 1⟩] }
  have hname : p.names.lookup ['n'] = some 1 := rfl
  have hgroup : m.group? 1 = some ['$'] := by decide +kernel
  refine ⟨p, m, by decide +kernel, by decide +kernel, hname, by decide, hgroup, ?_⟩
  have hexpand := (expand_quoted p m ['$'] ['&']).2.2 ['n'] 1 hname (by decide)
  rwa [hgroup] at hexpand

end MarkupCleaner.ClassRules
