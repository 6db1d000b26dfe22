import MarkupCleaner.Output.React
import MarkupCleaner.Proofs.Output.Places

/-!
# The expressions of component source

What is written into an expression stays there: a number, a style whose property names are plain, and a
comment that does not hold its own end. Afterwards the reader is in the expression with as many braces open
as before.
-/

namespace MarkupCleaner.Output

variable {inTag : Bool} {depth : Nat}

/-- A character that means nothing in an expression, be it in single quotes or not. -/
def isPlainCodeChar (c : Char) : Bool :=
  !(c = '{' || c = '}' || c = '"' || c = '\'' || c = '`' || c = '\\' || c = '/')

/-- The property names of a style are plain. -/
def HasPlainKeys (style : List Char) : Prop := ∀ d ∈ declarations style, d.1.all isPlainCodeChar = true

instance (style : List Char) : Decidable (HasPlainKeys style) :=
  inferInstanceAs (Decidable (∀ d ∈ declarations style, d.1.all isPlainCodeChar = true))

theorem nextPlain_of_plain {c : Char} (h : isPlainCodeChar c = true) :
    Place.nextPlain inTag depth c = .code inTag depth .plain := by
  simp only [isPlainCodeChar, Bool.not_eq_true', Bool.or_eq_false_iff, decide_eq_false_iff_not] at h
  obtain ⟨⟨⟨⟨⟨⟨hopen, hclose⟩, hdouble⟩, hsingle⟩, htick⟩, -⟩, hslash⟩ := h
  simp [Place.nextPlain, hopen, hclose, hslash, htick, Markup.isQuote, hsingle, hdouble]

theorem keeps_plainCode {cs : List Char} (h : ∀ c ∈ cs, isPlainCodeChar c = true) :
    Keeps (.code inTag depth .plain) cs :=
  Keeps.of_stays (fun _ => rfl) fun c hc => nextPlain_of_plain (h c hc)

/-! ## Strings -/

/-- Characters of a string that neither end it nor escape anything. -/
theorem keeps_stringRun {quote : Char} {cs : List Char} (hquote : quote ∉ cs) (hescape : '\\' ∉ cs) :
    Keeps (.code inTag depth (.string quote)) cs := by
  refine Keeps.of_stays (fun _ => rfl) fun c hc => ?_
  have hne : c ≠ quote := fun heq => hquote (heq ▸ hc)
  have hne' : c ≠ '\\' := fun heq => hescape (heq ▸ hc)
  simp [Place.next, hne, hne']

/-- A string between its quotes. -/
theorem keeps_string {quote : Char} (hquote : quote = '"' ∨ quote = '\'') {cs : List Char}
    (h : Keeps (.code inTag depth (.string quote)) cs) :
    Keeps (.code inTag depth .plain) (quote :: cs ++ [quote]) := by
  have hopen : Decides (.code inTag depth .plain) (foreign [quote]) (.code inTag depth (.string quote)) True := by
    rcases hquote with rfl | rfl <;> exact Decides.of_eq rfl rfl
  have hclose : Decides (.code inTag depth (.string quote)) (foreign [quote]) (.code inTag depth .plain) True := by
    rcases hquote with rfl | rfl <;> exact Decides.of_eq rfl rfl
  exact Keeps.wrap hopen h hclose

/-- The digits of a control character. -/
theorem notMem_paddedHex {n : Nat} (h : n < 0x20) :
    '"' ∉ Text.paddedHex 4 n ∧ '\\' ∉ Text.paddedHex 4 n := by
  have hall : ∀ m < 0x20, '"' ∉ Text.paddedHex 4 m ∧ '\\' ∉ Text.paddedHex 4 m := by decide
  exact hall n h

theorem keeps_literalChar (c : Char) :
    Keeps (.code inTag depth (.string '"')) (Text.literalChar c) := by
  have hescape (d : Char) : Keeps (.code inTag depth (.string '"')) ['\\', d] := Decides.of_eq rfl rfl
  unfold Text.literalChar
  split_ifs with hquote hbackslash _ _ _ _ _ hcontrol
  · exact hescape '"'
  · exact hescape '\\'
  · exact hescape 'n'
  · exact hescape 'r'
  · exact hescape 't'
  · exact hescape 'f'
  · exact hescape 'b'
  · obtain ⟨hdigits, hdigits'⟩ := notMem_paddedHex hcontrol
    exact (hescape 'u').append (keeps_stringRun hdigits hdigits')
  · exact keeps_stringRun (by simpa using Ne.symm hquote) (by simpa using Ne.symm hbackslash)

/-- A string literal hides whatever it stands for. -/
theorem keeps_stringLiteral (cs : List Char) : Keeps (.code inTag depth .plain) (Text.stringLiteral cs) := by
  refine keeps_string (Or.inl rfl) ?_
  induction cs with
  | nil => exact Keeps.nil _
  | cons c cs ih =>
    rw [List.flatMap_cons]
    exact (keeps_literalChar c).append ih

/-! ## Styles -/

theorem isPlainCodeChar_capital {c : Char} (h : ('a' ≤ c && c ≤ 'z') = true) :
    isPlainCodeChar (capital c) = true := by
  have hall : ∀ n < 123, 97 ≤ n → isPlainCodeChar (Char.ofNat (n - 32)) = true := by decide
  rw [Bool.and_eq_true, decide_eq_true_eq, decide_eq_true_eq] at h
  exact hall c.toNat (Nat.lt_succ_of_le h.2) h.1

theorem plain_camelCase {key : List Char} (h : ∀ c ∈ key, isPlainCodeChar c = true) :
    ∀ c ∈ camelCase key, isPlainCodeChar c = true := by
  fun_induction camelCase key with
  | case1 => exact h
  | case2 c => exact h
  | case3 c cs hletter ih =>
    rw [List.forall_mem_cons, List.forall_mem_cons] at h
    exact List.forall_mem_cons.2 ⟨isPlainCodeChar_capital hletter, ih h.2.2⟩
  | case4 c cs hletter ih =>
    rw [List.forall_mem_cons] at h
    exact List.forall_mem_cons.2 ⟨h.1, ih h.2⟩
  | case5 c d cs hne ih =>
    rw [List.forall_mem_cons] at h
    exact List.forall_mem_cons.2 ⟨h.1, ih h.2⟩

theorem keeps_styleKey (mode : StyleMode) {key : List Char} (h : ∀ c ∈ key, isPlainCodeChar c = true) :
    Keeps (.code inTag depth .plain) (styleKey mode key) := by
  unfold styleKey
  split
  · have hquote : '\'' ∉ key := fun hmem => absurd (h _ hmem) (by decide)
    have hescape : '\\' ∉ key := fun hmem => absurd (h _ hmem) (by decide)
    exact keeps_string (Or.inr rfl) (keeps_stringRun hquote hescape)
  · exact keeps_plainCode (plain_camelCase h)

/-- Pieces between commas. -/
theorem keeps_intercalate {pieces : List (List Char)}
    (h : ∀ cs ∈ pieces, Keeps (.code inTag depth .plain) cs) :
    Keeps (.code inTag depth .plain) ([',', ' '].intercalate pieces) := by
  have hcomma : Keeps (.code inTag depth .plain) [',', ' '] := Decides.of_eq rfl rfl
  induction pieces with
  | nil => exact Keeps.nil _
  | cons cs pieces ih =>
    rw [List.forall_mem_cons] at h
    cases pieces with
    | nil => simpa using h.1
    | cons ds pieces =>
      rw [List.intercalate_cons_cons]
      exact (h.1.append hcomma).append (ih h.2)

/-- The braces of an object literal are closed again. -/
theorem keeps_styleObject (mode : StyleMode) {style : List Char} (h : HasPlainKeys style) :
    Keeps (.code inTag depth .plain) (styleObject mode style) := by
  unfold styleObject
  cases hentries : declarations style with
  | nil => exact Decides.of_eq rfl rfl
  | cons first later =>
    have hproperties : ∀ cs ∈ (first :: later).map fun d =>
          styleKey mode d.1 ++ ':' :: ' ' :: Text.stringLiteral d.2,
        Keeps (.code inTag (depth + 1) .plain) cs := by
      intro cs hcs
      obtain ⟨d, hd, rfl⟩ := List.mem_map.1 hcs
      have hcolon : Keeps (.code inTag (depth + 1) .plain) [':', ' '] := Decides.of_eq rfl rfl
      have hplain : ∀ c ∈ d.1, isPlainCodeChar c = true := List.all_eq_true.1 (h d (hentries ▸ hd))
      exact (keeps_styleKey mode hplain).append (hcolon.append (keeps_stringLiteral d.2))
    have hopen : Decides (.code inTag depth .plain) (foreign ['{', ' ']) (.code inTag (depth + 1) .plain) True :=
      Decides.of_eq rfl rfl
    have hclose : Decides (.code inTag (depth + 1) .plain) (foreign [' ', '}']) (.code inTag depth .plain) True :=
      Decides.of_eq rfl rfl
    exact Keeps.wrap hopen (keeps_intercalate hproperties) hclose

/-! ## Comments -/

/-- Behind the star that is written after its characters a comment is still open, unless the characters
end it. If one of them was a star before, a slash may end it right away. -/
theorem decides_comment (inTag : Bool) (depth : Nat) (data : List Char) :
    Decides (.code inTag depth .comment) (foreign (data ++ ['*'])) (.code inTag depth .star)
        (¬['*', '/'] <:+: data) ∧
      Decides (.code inTag depth .star) (foreign (data ++ ['*'])) (.code inTag depth .star)
        (¬['*', '/'] <:+: '*' :: data) := by
  induction data with
  | nil => exact ⟨(Decides.of_eq rfl rfl).congr (by decide), (Decides.of_eq rfl rfl).congr (by decide)⟩
  | cons c data ih =>
    obtain ⟨hcomment, hstar⟩ := ih
    have hpair (d : Char) : ['*', '/'] <:+: d :: c :: data ↔
        (d = '*' ∧ c = '/') ∨ ['*', '/'] <:+: c :: data := by
      simp [List.infix_cons_iff, List.cons_prefix_cons, eq_comm]
    by_cases hc : c = '*'
    · rw [hc] at hpair ⊢
      have hpair : ['*', '/'] <:+: '*' :: '*' :: data ↔ ['*', '/'] <:+: '*' :: data := by simp [hpair]
      constructor
      · exact Decides.cons (p := .code inTag depth .comment) (c := '*') rfl hstar
      · exact (Decides.cons (p := .code inTag depth .star) (c := '*') rfl hstar).congr (not_congr hpair.symm)
    · have hskip : ['*', '/'] <:+: c :: data ↔ ['*', '/'] <:+: data := by
        simp [List.infix_cons_iff, List.cons_prefix_cons, Ne.symm hc]
      have hcomment' : Decides (.code inTag depth .comment) (foreign (c :: data ++ ['*']))
          (.code inTag depth .star) (¬['*', '/'] <:+: c :: data) := by
        refine (Decides.cons rfl ?_).congr (not_congr hskip.symm)
        simpa [Place.next, hc] using hcomment
      refine ⟨hcomment', ?_⟩
      by_cases hslash : c = '/'
      · have hnot : ¬¬['*', '/'] <:+: '*' :: c :: data := not_not_intro ((hpair '*').2 (Or.inl ⟨rfl, hslash⟩))
        refine ⟨iff_of_false ?_ hnot, fun hgood => absurd hgood hnot⟩
        simp [foreign, ownsDelimiters, Place.delimits, hslash]
      · have hpair : ['*', '/'] <:+: '*' :: c :: data ↔ ['*', '/'] <:+: data := by simp [hpair, hslash, hskip]
        refine (Decides.cons ?_ ?_).congr (not_congr hpair.symm)
        · simp [Place.delimits, hslash]
        · simpa [Place.next, hc, hslash] using hcomment

end MarkupCleaner.Output
