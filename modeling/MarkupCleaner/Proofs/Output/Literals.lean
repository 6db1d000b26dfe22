import Mathlib.Data.List.TakeWhile
import MarkupCleaner.Output.React
import MarkupCleaner.Proofs.Data.Runs
import MarkupCleaner.Proofs.Output.Expressions

/-!
# The literals of component source

Styles are written as object literals and plain numbers as numbers. A style is one exactly if every property
name that is written without quotes becomes an identifier, which it does if each of its hyphens has a
lower-case letter behind it. A number is one exactly if it has no leading zero.
-/

namespace MarkupCleaner.Output

open Markup

/-! ## Grammar -/

/-- A character that starts an identifier. -/
def isIdentifierStart (c : Char) : Bool := isAsciiLetter c || c = '_' || c = '$'

/-- An identifier of a script: a letter, `_` or `$`, then letters, digits, `_` and `$`. -/
def IsIdentifier (cs : List Char) : Prop :=
  ∃ c rest, cs = c :: rest ∧ isIdentifierStart c = true ∧
    ∀ d ∈ rest, isIdentifierStart d = true ∨ isAsciiDigit d = true

/-- What stands between the double quotes of a string: characters other than the quote, the backslash and the
    ends of lines, and escapes. -/
inductive IsStringBody : List Char → Prop where
  | nil : IsStringBody []
  | plain {c : Char} {cs : List Char} (hc : c ∉ ['"', '\\', '\n', '\r']) (h : IsStringBody cs) :
    IsStringBody (c :: cs)
  | escape {c : Char} {cs : List Char} (hc : c ∈ ['"', '\\', 'n', 'r', 't', 'f', 'b']) (h : IsStringBody cs) :
    IsStringBody ('\\' :: c :: cs)
  | code {digits cs : List Char} (hlength : digits.length = 4)
    (hdigits : ∀ d ∈ digits, Number.isHexDigit d = true) (h : IsStringBody cs) :
    IsStringBody ('\\' :: 'u' :: (digits ++ cs))

/-- A key of an object: an identifier, or text in single quotes that holds none and escapes nothing. -/
inductive IsKey : List Char → Prop where
  | identifier {cs : List Char} (h : IsIdentifier cs) : IsKey cs
  | quoted {cs : List Char} (h : ∀ c ∈ cs, c ∉ ['\'', '\\', '\n', '\r']) : IsKey ('\'' :: cs ++ ['\''])

/-- A key and the string after it. -/
def propertyText (key body : List Char) : List Char := key ++ ':' :: ' ' :: ('"' :: body ++ ['"'])

/-- An object whose values are strings. -/
inductive IsObjectLiteral : List Char → Prop where
  | empty : IsObjectLiteral ['{', '}']
  | properties {ps : List (List Char × List Char)} (hne : ps ≠ [])
    (h : ∀ p ∈ ps, IsKey p.1 ∧ IsStringBody p.2) :
    IsObjectLiteral ('{' :: ' ' :: [',', ' '].intercalate (ps.map fun p => propertyText p.1 p.2) ++ [' ', '}'])

/-- Digits, at least one. -/
def IsDigits (cs : List Char) : Prop := cs ≠ [] ∧ ∀ c ∈ cs, isAsciiDigit c = true

/-- Digits, perhaps with a minus sign before them, and with a point and more digits behind them. -/
structure IsSplit (cs sign whole fraction : List Char) : Prop where
  eq_append : cs = sign ++ whole ++ fraction
  sign : sign = [] ∨ sign = ['-']
  whole : IsDigits whole
  fraction : fraction = [] ∨ ∃ digits, fraction = '.' :: digits ∧ IsDigits digits

/-- A decimal number with a minus sign or without: what stands before the point is a zero or does not start
    with one. -/
def IsDecimalLiteral (cs : List Char) : Prop :=
  ∃ sign whole fraction, IsSplit cs sign whole fraction ∧ (whole = ['0'] ∨ whole.head? ≠ some '0')

/-! ## Strings -/

theorem IsStringBody.append {cs ds : List Char} (hcs : IsStringBody cs) (hds : IsStringBody ds) :
    IsStringBody (cs ++ ds) := by
  induction hcs with
  | nil => exact hds
  | plain hc _ ih => exact .plain hc ih
  | escape hc _ ih => exact .escape hc ih
  | @code digits cs hlength hdigits _ ih =>
    have hcode := IsStringBody.code hlength hdigits ih
    rwa [← List.append_assoc] at hcode

theorem isHexDigit_paddedHex {n : Nat} (h : n < 0x20) :
    (Text.paddedHex 4 n).length = 4 ∧ ∀ d ∈ Text.paddedHex 4 n, Number.isHexDigit d = true := by
  have hall : ∀ m < 0x20, (Text.paddedHex 4 m).length = 4 ∧
      (Text.paddedHex 4 m).all Number.isHexDigit = true := by decide
  obtain ⟨hlength, hdigits⟩ := hall n h
  exact ⟨hlength, List.all_eq_true.1 hdigits⟩

theorem isStringBody_literalChar (c : Char) : IsStringBody (Text.literalChar c) := by
  unfold Text.literalChar
  split_ifs with hquote hbackslash hfeed hreturn _ _ _ hcontrol
  · exact .escape (by simp) .nil
  · exact .escape (by simp) .nil
  · exact .escape (by simp) .nil
  · exact .escape (by simp) .nil
  · exact .escape (by simp) .nil
  · exact .escape (by simp) .nil
  · exact .escape (by simp) .nil
  · obtain ⟨hlength, hdigits⟩ := isHexDigit_paddedHex hcontrol
    have hcode := IsStringBody.code hlength hdigits .nil
    rwa [List.append_nil] at hcode
  · exact .plain (by simp [hquote, hbackslash, hfeed, hreturn]) .nil

/-- Any text can stand in a string. -/
theorem isStringBody_literal (cs : List Char) : IsStringBody (cs.flatMap Text.literalChar) := by
  induction cs with
  | nil => exact .nil
  | cons c cs ih =>
    rw [List.flatMap_cons]
    exact (isStringBody_literalChar c).append ih

/-- Where a string ends is told by its characters. -/
theorem IsStringBody.unique {cs ds rest more : List Char} (hcs : IsStringBody cs) (hds : IsStringBody ds)
    (h : cs ++ '"' :: rest = ds ++ '"' :: more) : cs = ds ∧ rest = more := by
  induction hcs generalizing ds with
  | nil =>
    cases hds with
    | nil => exact ⟨rfl, (List.cons.inj h).2⟩
    | plain hc _ => simp [← (List.cons.inj h).1] at hc
    | escape _ _ => exact absurd (List.cons.inj h).1 (by decide)
    | code _ _ _ => exact absurd (List.cons.inj h).1 (by decide)
  | @plain c cs hc _ ih =>
    cases hds with
    | nil => simp [(List.cons.inj h).1] at hc
    | plain _ hds =>
      obtain ⟨rfl, hrest⟩ := List.cons.inj h
      obtain ⟨rfl, rfl⟩ := ih hds hrest
      exact ⟨rfl, rfl⟩
    | escape _ _ => simp [(List.cons.inj h).1] at hc
    | code _ _ _ => simp [(List.cons.inj h).1] at hc
  | @escape c cs hc _ ih =>
    cases hds with
    | nil => exact absurd (List.cons.inj h).1 (by decide)
    | plain hd _ => simp [← (List.cons.inj h).1] at hd
    | escape _ hds =>
      obtain ⟨rfl, hrest⟩ := List.cons.inj (List.cons.inj h).2
      obtain ⟨rfl, rfl⟩ := ih hds hrest
      exact ⟨rfl, rfl⟩
    | code _ _ _ => simp [(List.cons.inj (List.cons.inj h).2).1] at hc
  | @code digits cs hlength _ _ ih =>
    cases hds with
    | nil => exact absurd (List.cons.inj h).1 (by decide)
    | plain hd _ => simp [← (List.cons.inj h).1] at hd
    | escape hd _ => simp [← (List.cons.inj (List.cons.inj h).2).1] at hd
    | @code digits' ds hlength' _ hds =>
      have hcodes : digits ++ (cs ++ '"' :: rest) = digits' ++ (ds ++ '"' :: more) := by simpa using h
      obtain ⟨rfl, hrest⟩ := List.append_inj hcodes (hlength.trans hlength'.symm)
      obtain ⟨rfl, rfl⟩ := ih hds hrest
      exact ⟨rfl, rfl⟩

/-! ## Keys -/

/-- A text that ends where the colon behind it stands: it holds no colon, or it is in quotes. -/
inductive IsKeyText : List Char → Prop where
  | bare {cs : List Char} (hcolon : ':' ∉ cs) (hquote : cs.head? ≠ some '\'') (hne : cs ≠ []) : IsKeyText cs
  | quoted {cs : List Char} (hquote : '\'' ∉ cs) : IsKeyText ('\'' :: cs ++ ['\''])

theorem IsKey.isKeyText {cs : List Char} (h : IsKey cs) : IsKeyText cs := by
  cases h with
  | identifier h =>
    obtain ⟨c, rest, rfl, hc, hrest⟩ := h
    have hcolon : ':' ∉ c :: rest := by
      intro hmem
      rcases List.mem_cons.1 hmem with rfl | hmem
      · exact absurd hc (by decide)
      · exact absurd (hrest _ hmem) (by decide)
    have hquote : (c :: rest).head? ≠ some '\'' := by
      intro hhead
      obtain rfl := Option.some.inj hhead
      exact absurd hc (by decide)
    exact .bare hcolon hquote (by simp)
  | @quoted cs h =>
    have hquote : '\'' ∉ cs := by
      intro hmem
      exact absurd (h _ hmem) (by decide)
    exact .quoted hquote

/-- The first place of a character is one place. -/
theorem eq_of_append_cons_eq {c : Char} {cs ds rest more : List Char} (hcs : c ∉ cs) (hds : c ∉ ds)
    (h : cs ++ c :: rest = ds ++ c :: more) : cs = ds ∧ rest = more := by
  rcases List.append_eq_append_iff.1 h with ⟨later, rfl, hlater⟩ | ⟨later, rfl, hlater⟩
  · cases later with
    | nil => exact ⟨(List.append_nil cs).symm, (List.cons.inj hlater).2⟩
    | cons d later =>
      obtain ⟨rfl, -⟩ := List.cons.inj hlater
      exact absurd (by simp) hds
  · cases later with
    | nil => exact ⟨List.append_nil ds, (List.cons.inj hlater).2.symm⟩
    | cons d later =>
      obtain ⟨rfl, -⟩ := List.cons.inj hlater
      exact absurd (by simp) hcs

/-- Where a key ends is told by its characters. -/
theorem IsKeyText.unique {cs ds rest more : List Char} (hcs : IsKeyText cs) (hds : IsKeyText ds)
    (h : cs ++ ':' :: rest = ds ++ ':' :: more) : cs = ds ∧ rest = more := by
  -- a key in quotes and one without them differ in their first characters
  have hmixed {cs ds rest more : List Char} (hquote : cs.head? ≠ some '\'') (hne : cs ≠ []) :
      cs ++ ':' :: rest ≠ '\'' :: ds ++ ['\''] ++ ':' :: more := by
    intro heq
    have hhead := congrArg List.head? heq
    rw [List.head?_append_of_ne_nil _ hne] at hhead
    exact hquote hhead
  cases hcs with
  | bare hcolon hquote hne =>
    cases hds with
    | bare hcolon' _ _ => exact eq_of_append_cons_eq hcolon hcolon' h
    | quoted _ => exact absurd h (hmixed hquote hne)
  | @quoted cs hquote =>
    cases hds with
    | bare _ hquote' hne => exact absurd h.symm (hmixed hquote' hne)
    | @quoted ds hquote' =>
      have hinner : cs ++ '\'' :: ':' :: rest = ds ++ '\'' :: ':' :: more := by simpa using h
      obtain ⟨rfl, hrest⟩ := eq_of_append_cons_eq hquote hquote' hinner
      exact ⟨rfl, (List.cons.inj hrest).2⟩

/-! ## Objects -/

/-- The key of a property comes first, and its string ends in front of the rest. -/
theorem intercalate_propertyText_cons (p : List Char × List Char) (ps : List (List Char × List Char)) :
    [',', ' '].intercalate ((p :: ps).map fun p => propertyText p.1 p.2) =
      p.1 ++ ':' :: (' ' :: '"' :: (p.2 ++ '"' :: (if ps = [] then [] else
        ',' :: ' ' :: [',', ' '].intercalate (ps.map fun p => propertyText p.1 p.2)))) := by
  cases ps with
  | nil => simp [propertyText]
  | cons next ps => simp [propertyText, List.intercalate_cons_cons]

/-- The keys and strings of an object can be told apart, be the keys allowed or not. -/
theorem intercalate_propertyText_inj {ps qs : List (List Char × List Char)}
    (hps : ∀ p ∈ ps, IsKeyText p.1 ∧ IsStringBody p.2) (hqs : ∀ q ∈ qs, IsKeyText q.1 ∧ IsStringBody q.2)
    (hnotNil : ps ≠ []) (hnotNil' : qs ≠ [])
    (h : [',', ' '].intercalate (ps.map fun p => propertyText p.1 p.2) =
      [',', ' '].intercalate (qs.map fun q => propertyText q.1 q.2)) : ps = qs := by
  induction ps generalizing qs with
  | nil => exact absurd rfl hnotNil
  | cons p ps ih =>
    cases qs with
    | nil => exact absurd rfl hnotNil'
    | cons q qs =>
      obtain ⟨⟨hkey, hbody⟩, hlater⟩ := List.forall_mem_cons.1 hps
      obtain ⟨⟨hkey', hbody'⟩, hlater'⟩ := List.forall_mem_cons.1 hqs
      rw [intercalate_propertyText_cons, intercalate_propertyText_cons] at h
      obtain ⟨heq, hvalues⟩ := hkey.unique hkey' h
      obtain ⟨heq', hrest⟩ := hbody.unique hbody' (List.cons.inj (List.cons.inj hvalues).2).2
      obtain rfl : p = q := Prod.ext heq heq'
      refine congrArg (p :: ·) ?_
      by_cases hnil : ps = []
      · by_cases hnil' : qs = []
        · rw [hnil, hnil']
        · rw [if_pos hnil, if_neg hnil'] at hrest
          cases hrest
      · by_cases hnil' : qs = []
        · rw [if_neg hnil, if_pos hnil'] at hrest
          cases hrest
        · rw [if_neg hnil, if_neg hnil'] at hrest
          exact ih hlater hlater' hnil hnil' (List.cons.inj (List.cons.inj hrest).2).2

/-- Whether keys and strings make an object is a question of the keys. -/
theorem isObjectLiteral_properties_iff {ps : List (List Char × List Char)} (hne : ps ≠ [])
    (hps : ∀ p ∈ ps, IsKeyText p.1 ∧ IsStringBody p.2) :
    IsObjectLiteral ('{' :: ' ' :: [',', ' '].intercalate (ps.map fun p => propertyText p.1 p.2) ++ [' ', '}']) ↔
      ∀ p ∈ ps, IsKey p.1 := by
  constructor
  · intro h
    generalize hwhole : '{' :: ' ' :: [',', ' '].intercalate (ps.map fun p => propertyText p.1 p.2) ++ [' ', '}'] =
      whole at h
    cases h with
    | empty => cases (List.cons.inj (List.cons.inj hwhole).2).1
    | @properties qs hne' hqs =>
      have hkeys : ∀ q ∈ qs, IsKeyText q.1 ∧ IsStringBody q.2 := by
        intro q hq
        exact ⟨(hqs q hq).1.isKeyText, (hqs q hq).2⟩
      have hinner := List.append_cancel_right (List.cons.inj (List.cons.inj hwhole).2).2
      obtain rfl := intercalate_propertyText_inj hps hkeys hne hne' hinner
      intro p hp
      exact (hqs p hp).1
  · intro h
    refine .properties hne fun p hp => ?_
    exact ⟨h p hp, (hps p hp).2⟩

/-! ## Names in camel case -/

/-- A name of ASCII letters and hyphens with at least one letter. -/
def IsPropertyName (name : List Char) : Prop :=
  (∀ c ∈ name, isAsciiLetter c = true ∨ c = '-') ∧ ∃ c ∈ name, isAsciiLetter c = true

theorem isPropertyName_iff {name : List Char} : IsPropertyName name ↔
    name.all (fun c => isAsciiLetter c || c = '-') = true ∧ name.any isAsciiLetter = true := by
  simp [IsPropertyName]

instance : DecidablePred IsPropertyName := fun _ => decidable_of_iff _ isPropertyName_iff.symm

/-- A hyphen with something else than a lower-case letter behind it. -/
def HasLooseHyphen (name : List Char) : Prop :=
  ∃ before after, name = before ++ '-' :: after ∧ ∀ c ∈ after.head?, ¬('a' ≤ c ∧ c ≤ 'z')

theorem hasLooseHyphen_cons {c : Char} {cs : List Char} : HasLooseHyphen (c :: cs) ↔
    (c = '-' ∧ ∀ d ∈ cs.head?, ¬('a' ≤ d ∧ d ≤ 'z')) ∨ HasLooseHyphen cs := by
  constructor
  · rintro ⟨before, after, heq, hafter⟩
    cases before with
    | nil =>
      obtain ⟨rfl, rfl⟩ := List.cons.inj heq
      exact .inl ⟨rfl, hafter⟩
    | cons d before =>
      obtain ⟨rfl, rfl⟩ := List.cons.inj heq
      exact .inr ⟨before, after, rfl, hafter⟩
  · rintro (⟨rfl, hafter⟩ | ⟨before, after, rfl, hafter⟩)
    · exact ⟨[], cs, rfl, hafter⟩
    · exact ⟨c :: before, after, rfl, hafter⟩

theorem not_hasLooseHyphen_nil : ¬HasLooseHyphen [] := by
  rintro ⟨before, after, heq, -⟩
  simp at heq

/-- A capital stands for every lower-case letter. -/
theorem isAsciiLetter_capital {c : Char} (h : 'a' ≤ c ∧ c ≤ 'z') : isAsciiLetter (capital c) = true := by
  have hall : ∀ n < 123, 97 ≤ n → isAsciiLetter (Char.ofNat (n - 32)) = true := by decide
  exact hall c.toNat (Nat.lt_succ_of_le h.2) h.1

/-- Just the loose hyphens are left in camel case. -/
theorem hyphen_mem_camelCase_iff (name : List Char) : '-' ∈ camelCase name ↔ HasLooseHyphen name := by
  fun_induction camelCase name with
  | case1 => simp [not_hasLooseHyphen_nil]
  | case2 c =>
    rw [hasLooseHyphen_cons]
    simp [not_hasLooseHyphen_nil, eq_comm]
  | case3 c cs hlower ih =>
    have hlower : 'a' ≤ c ∧ c ≤ 'z' := by simpa using hlower
    have hcapital : '-' ≠ capital c := by
      intro heq
      exact absurd (isAsciiLetter_capital hlower) (by rw [← heq]; decide)
    have hc : c ≠ '-' := by
      rintro rfl
      exact absurd hlower (by decide)
    have hbound : ¬('-' = '-' ∧ ∀ d ∈ (c :: cs).head?, ¬('a' ≤ d ∧ d ≤ 'z')) := fun h => h.2 c rfl hlower
    rw [List.mem_cons, or_iff_right hcapital, ih, hasLooseHyphen_cons, or_iff_right hbound, hasLooseHyphen_cons,
      or_iff_right fun h => hc h.1]
  | case4 c cs hlower ih =>
    rw [hasLooseHyphen_cons]
    have hloose : '-' = '-' ∧ ∀ d ∈ (c :: cs).head?, ¬('a' ≤ d ∧ d ≤ 'z') := by simpa using hlower
    exact iff_of_true List.mem_cons_self (.inl hloose)
  | case5 c d cs hne ih =>
    have hc : c ≠ '-' := fun heq => hne heq
    rw [List.mem_cons, or_iff_right hc.symm, ih, hasLooseHyphen_cons (c := c), or_iff_right fun h => hc h.1]

instance : DecidablePred HasLooseHyphen := fun name => decidable_of_iff _ (hyphen_mem_camelCase_iff name)

theorem letters_camelCase {name : List Char} (h : ∀ c ∈ name, isAsciiLetter c = true ∨ c = '-') :
    ∀ c ∈ camelCase name, isAsciiLetter c = true ∨ c = '-' := by
  fun_induction camelCase name with
  | case1 => exact h
  | case2 c => exact h
  | case3 c cs hlower ih =>
    rw [List.forall_mem_cons, List.forall_mem_cons] at h
    exact List.forall_mem_cons.2 ⟨.inl (isAsciiLetter_capital (by simpa using hlower)), ih h.2.2⟩
  | case4 c cs hlower ih =>
    rw [List.forall_mem_cons] at h
    exact List.forall_mem_cons.2 ⟨h.1, ih h.2⟩
  | case5 c d cs hne ih =>
    rw [List.forall_mem_cons] at h
    exact List.forall_mem_cons.2 ⟨h.1, ih h.2⟩

theorem camelCase_ne_nil {name : List Char} (h : name ≠ []) : camelCase name ≠ [] := by
  fun_cases camelCase name <;> simp_all

theorem not_hyphen_of_isIdentifier {cs : List Char} (h : IsIdentifier cs) : '-' ∉ cs := by
  obtain ⟨c, rest, rfl, hc, hrest⟩ := h
  intro hmem
  rcases List.mem_cons.1 hmem with rfl | hmem
  · exact absurd hc (by decide)
  · exact absurd (hrest _ hmem) (by decide)

theorem isIdentifier_of_letters {cs : List Char} (hne : cs ≠ []) (h : ∀ c ∈ cs, isAsciiLetter c = true) :
    IsIdentifier cs := by
  have hstart : ∀ c ∈ cs, isIdentifierStart c = true := by
    intro c hc
    simp [isIdentifierStart, h c hc]
  cases cs with
  | nil => exact absurd rfl hne
  | cons c rest =>
    refine ⟨c, rest, rfl, hstart c List.mem_cons_self, fun d hd => ?_⟩
    exact .inl (hstart d (List.mem_cons_of_mem c hd))

section

variable {mode : StyleMode} {name : List Char}

theorem IsPropertyName.ne_nil (h : IsPropertyName name) : name ≠ [] := by
  rintro rfl
  obtain ⟨c, hc, -⟩ := h.2
  cases hc

theorem isIdentifier_camelCase_iff (h : IsPropertyName name) :
    IsIdentifier (camelCase name) ↔ ¬HasLooseHyphen name := by
  rw [← hyphen_mem_camelCase_iff]
  refine ⟨not_hyphen_of_isIdentifier, fun hnone => ?_⟩
  refine isIdentifier_of_letters (camelCase_ne_nil h.ne_nil) fun c hc => ?_
  rcases letters_camelCase h.1 c hc with hletter | rfl
  · exact hletter
  · exact absurd hc hnone

/-- A key that is written without quotes is made of letters and hyphens. -/
theorem bare_camelCase (h : IsPropertyName name) :
    ':' ∉ camelCase name ∧ (camelCase name).head? ≠ some '\'' ∧ camelCase name ≠ [] := by
  have hchars := letters_camelCase h.1
  refine ⟨fun hmem => ?_, fun hhead => ?_, camelCase_ne_nil h.ne_nil⟩
  · exact absurd (hchars _ hmem) (by decide)
  · exact absurd (hchars _ (List.mem_of_head? hhead)) (by decide)

theorem isKeyText_styleKey (h : IsPropertyName name) : IsKeyText (styleKey mode name) := by
  unfold styleKey
  split
  · refine .quoted fun hmem => ?_
    exact absurd (h.1 _ hmem) (by decide)
  · obtain ⟨hcolon, hquote, hne⟩ := bare_camelCase h
    exact .bare hcolon hquote hne

theorem isKey_styleKey_iff (h : IsPropertyName name) : IsKey (styleKey mode name) ↔
    mode = .string ∨ ['-', '-'] <+: name ∨ ¬HasLooseHyphen name := by
  unfold styleKey
  split
  · next hquoted =>
    have hcase : mode = .string ∨ ['-', '-'] <+: name := by simpa using hquoted
    have hkey : IsKey ('\'' :: name ++ ['\'']) := by
      refine .quoted fun c hc => ?_
      rcases h.1 c hc with hletter | rfl
      · intro hmem
        simp only [List.mem_cons, List.not_mem_nil, or_false] at hmem
        rcases hmem with rfl | rfl | rfl | rfl <;> exact absurd hletter (by decide)
      · decide
    exact iff_of_true hkey (or_assoc.1 (.inl hcase))
  · next hbare =>
    have hcase : ¬mode = .string ∧ ¬['-', '-'] <+: name := by simpa using hbare
    rw [or_iff_right hcase.1, or_iff_right hcase.2, ← isIdentifier_camelCase_iff h]
    refine ⟨fun hkey => ?_, .identifier⟩
    -- a key in quotes would start with one
    generalize heq : camelCase name = key at hkey
    cases hkey with
    | identifier hidentifier => exact hidentifier
    | quoted _ =>
      have hhead := congrArg List.head? heq
      exact absurd hhead (bare_camelCase h).2.1

end

/-! ## Styles -/

/-- The property names of a style are made of ASCII letters and hyphens, and each has a letter. -/
def HasPropertyNames (style : List Char) : Prop := ∀ d ∈ declarations style, IsPropertyName d.1

instance (style : List Char) : Decidable (HasPropertyNames style) :=
  inferInstanceAs (Decidable (∀ d ∈ declarations style, IsPropertyName d.1))

theorem styleObject_of_declarations {style : List Char} (h : declarations style ≠ []) (mode : StyleMode) :
    styleObject mode style = '{' :: ' ' :: [',', ' '].intercalate (((declarations style).map fun d =>
      (styleKey mode d.1, d.2.flatMap Text.literalChar)).map fun p => propertyText p.1 p.2) ++ [' ', '}'] := by
  unfold styleObject
  cases hentries : declarations style with
  | nil => exact absurd hentries h
  | cons first later =>
    rw [List.map_map]
    rfl

/-- A style is an object literal if no property name that is written without quotes has a loose hyphen. -/
theorem isObjectLiteral_styleObject_iff {style : List Char} (h : HasPropertyNames style) (mode : StyleMode) :
    IsObjectLiteral (styleObject mode style) ↔
      ∀ d ∈ declarations style, mode = .string ∨ ['-', '-'] <+: d.1 ∨ ¬HasLooseHyphen d.1 := by
  by_cases hnil : declarations style = []
  · have hempty : styleObject mode style = ['{', '}'] := by
      rw [styleObject, hnil]
    rw [hempty, hnil]
    exact iff_of_true .empty (List.forall_mem_nil _)
  · have hproperties : ∀ p ∈ (declarations style).map fun d =>
        (styleKey mode d.1, d.2.flatMap Text.literalChar), IsKeyText p.1 ∧ IsStringBody p.2 := by
      intro p hp
      obtain ⟨d, hd, rfl⟩ := List.mem_map.1 hp
      exact ⟨isKeyText_styleKey (h d hd), isStringBody_literal d.2⟩
    rw [styleObject_of_declarations hnil, isObjectLiteral_properties_iff (by simpa using hnil) hproperties,
      List.forall_mem_map]
    refine forall₂_congr fun d hd => ?_
    exact isKey_styleKey_iff (h d hd)

/-! ## Numbers -/

/-- Digits, perhaps with a minus sign and a fraction. -/
def IsNumeral (cs : List Char) : Prop := ∃ sign whole fraction, IsSplit cs sign whole fraction

/-- A number that has a digit behind a leading zero. -/
def HasLeadingZero (cs : List Char) : Prop :=
  ∃ d rest, (cs = '0' :: d :: rest ∨ cs = '-' :: '0' :: d :: rest) ∧ isAsciiDigit d = true

/-- The digits at the front of a number without a sign. -/
theorem takeWhile_dropWhile_digits {whole fraction : List Char} (hwhole : ∀ c ∈ whole, isAsciiDigit c = true)
    (hfraction : fraction = [] ∨ ∃ digits, fraction = '.' :: digits ∧ IsDigits digits) :
    (whole ++ fraction).takeWhile isAsciiDigit = whole ∧ (whole ++ fraction).dropWhile isAsciiDigit = fraction := by
  have hstop : ∀ c ∈ fraction.head?, isAsciiDigit c = false := by
    rcases hfraction with rfl | ⟨digits, rfl, -⟩
    · simp
    · simp only [List.head?_cons, Option.mem_some_iff, forall_eq']
      decide
  exact ⟨takeWhile_run_append hwhole hstop, dropWhile_run_append hwhole hstop⟩

section

variable {cs sign whole fraction : List Char}

theorem IsSplit.append_ne_minus (h : IsSplit cs sign whole fraction) (rest : List Char) :
    whole ++ fraction ≠ '-' :: rest := by
  obtain ⟨hne, hwhole⟩ := h.whole
  intro heq
  cases whole with
  | nil => exact hne rfl
  | cons c whole =>
    obtain ⟨rfl, -⟩ := List.cons.inj heq
    exact absurd (hwhole _ List.mem_cons_self) (by decide)

/-- A leading zero stands before the point together with the digit behind it. -/
theorem IsSplit.hasLeadingZero_iff (h : IsSplit cs sign whole fraction) :
    HasLeadingZero cs ↔ ∃ d rest, whole = '0' :: d :: rest := by
  have hinside {d : Char} {rest : List Char} (hd : isAsciiDigit d = true)
      (heq : whole ++ fraction = '0' :: d :: rest) : ∃ d rest, whole = '0' :: d :: rest := by
    cases whole with
    | nil => exact absurd rfl h.whole.1
    | cons c whole =>
      cases whole with
      | nil =>
        -- behind a single digit there is a point or nothing
        rcases h.fraction with rfl | ⟨digits, rfl, -⟩
        · simp at heq
        · obtain ⟨rfl, -⟩ := List.cons.inj (List.cons.inj heq).2
          exact absurd hd (by decide)
      | cons e whole => exact ⟨e, whole, congrArg (· :: e :: whole) (List.cons.inj heq).1⟩
  constructor
  · rintro ⟨d, rest, hcs, hd⟩
    have heq := h.eq_append
    rcases h.sign with rfl | rfl
    · rcases hcs with rfl | rfl
      · exact hinside hd heq.symm
      · exact absurd heq.symm (h.append_ne_minus _)
    · rcases hcs with rfl | rfl
      · exact absurd (List.cons.inj heq).1 (by decide)
      · exact hinside hd (List.cons.inj heq).2.symm
  · rintro ⟨d, rest, rfl⟩
    have hd : isAsciiDigit d = true := h.whole.2 d (by simp)
    refine ⟨d, rest ++ fraction, ?_, hd⟩
    rcases h.sign with rfl | rfl
    · exact .inl h.eq_append
    · exact .inr h.eq_append

end

/-- Whether a text is a number without a sign. -/
def isUnsigned (cs : List Char) : Bool :=
  match cs.takeWhile isAsciiDigit, cs.dropWhile isAsciiDigit with
  | [], _ => false
  | _, [] => true
  | _, '.' :: fraction => !fraction.isEmpty && fraction.all isAsciiDigit
  | _, _ => false

theorem isPlainNumber_minus (cs : List Char) : isPlainNumber ('-' :: cs) = isUnsigned cs := rfl

theorem isPlainNumber_of_ne {cs : List Char} (h : cs.head? ≠ some '-') : isPlainNumber cs = isUnsigned cs := by
  unfold isPlainNumber
  split
  · exact absurd rfl h
  · rfl

theorem isUnsigned_iff {cs : List Char} : isUnsigned cs = true ↔ ∃ whole fraction, IsSplit cs [] whole fraction := by
  constructor
  · intro h
    have hall : ∀ c ∈ cs.takeWhile isAsciiDigit, isAsciiDigit c = true := fun c hc => List.mem_takeWhile_imp hc
    have hsplit : cs = [] ++ cs.takeWhile isAsciiDigit ++ cs.dropWhile isAsciiDigit := by
      rw [List.nil_append, List.takeWhile_append_dropWhile]
    unfold isUnsigned at h
    split at h
    · cases h
    · next hdrop hne => exact ⟨_, _, hsplit, .inl rfl, ⟨hne, hall⟩, .inl hdrop⟩
    · next fraction hdrop hne =>
      rw [Bool.and_eq_true, List.all_eq_true] at h
      have hdigits : IsDigits fraction := ⟨by simpa using h.1, h.2⟩
      exact ⟨_, _, hsplit, .inl rfl, ⟨hne, hall⟩, .inr ⟨fraction, hdrop, hdigits⟩⟩
    · cases h
  · rintro ⟨whole, fraction, h⟩
    obtain ⟨hne, hwhole⟩ := h.whole
    obtain ⟨htake, hdrop⟩ := takeWhile_dropWhile_digits hwhole h.fraction
    have hcs : cs = whole ++ fraction := h.eq_append
    rw [isUnsigned, hcs, htake, hdrop]
    cases whole with
    | nil => exact absurd rfl hne
    | cons c whole =>
      rcases h.fraction with rfl | ⟨digits, rfl, hdigits⟩
      · rfl
      · simpa using And.intro hdigits.1 hdigits.2

theorem isPlainNumber_iff {cs : List Char} : isPlainNumber cs = true ↔ IsNumeral cs := by
  by_cases hminus : cs.head? = some '-'
  · obtain ⟨rest, rfl⟩ := List.head?_eq_some_iff.1 hminus
    rw [isPlainNumber_minus, isUnsigned_iff]
    constructor
    · rintro ⟨whole, fraction, h⟩
      exact ⟨['-'], whole, fraction, congrArg ('-' :: ·) h.eq_append, .inr rfl, h.whole, h.fraction⟩
    · rintro ⟨sign, whole, fraction, h⟩
      rcases h.sign with rfl | rfl
      · exact absurd h.eq_append.symm (h.append_ne_minus rest)
      · exact ⟨whole, fraction, (List.cons.inj h.eq_append).2, .inl rfl, h.whole, h.fraction⟩
  · rw [isPlainNumber_of_ne hminus, isUnsigned_iff]
    constructor
    · rintro ⟨whole, fraction, h⟩
      exact ⟨[], whole, fraction, h⟩
    · rintro ⟨sign, whole, fraction, h⟩
      rcases h.sign with rfl | rfl
      · exact ⟨whole, fraction, h⟩
      · exact absurd (congrArg List.head? h.eq_append) hminus

theorem isDecimalLiteral_iff {cs : List Char} : IsDecimalLiteral cs ↔ IsNumeral cs ∧ ¬HasLeadingZero cs := by
  constructor
  · rintro ⟨sign, whole, fraction, h, hzero⟩
    refine ⟨⟨sign, whole, fraction, h⟩, ?_⟩
    rw [h.hasLeadingZero_iff]
    rintro ⟨d, rest, rfl⟩
    simp at hzero
  · rintro ⟨⟨sign, whole, fraction, h⟩, hzero⟩
    rw [h.hasLeadingZero_iff] at hzero
    refine ⟨sign, whole, fraction, h, ?_⟩
    cases whole with
    | nil => exact absurd rfl h.whole.1
    | cons c whole =>
      by_cases hc : c = '0'
      · cases whole with
        | nil => exact .inl (by rw [hc])
        | cons d whole => exact absurd ⟨d, whole, by rw [hc]⟩ hzero
      · exact .inr (by simpa using hc)

/-! ## Properties -/

theorem propertyName_of_length {options : ReactOptions} {name : String} (h : name = "width" ∨ name = "height") :
    propertyName options name = name := by
  rcases h with rfl | rfl <;> simp [propertyName]

/-- A length is written as an expression if it is a numeral, and in quotes otherwise. -/
theorem reactAttribute_of_length {options : ReactOptions} {a : Attribute}
    (h : a.name = "width" ∨ a.name = "height") : reactAttribute options a =
      " " ++ a.name ++ (if isPlainNumber a.value.toList then "=" ++ braced a.value
        else "=\"" ++ escapeValue a.value ++ "\"") := by
  have hne : a.name ≠ "" ∧ a.name ≠ "style" := by
    rcases h with h | h <;> rw [h] <;> decide
  have hlength : (a.name = "width" || a.name = "height") = true := by simpa using h
  simp only [reactAttribute, propertyName_of_length h, hne.1, hne.2, hlength, if_false, Bool.true_and]
  split <;> simp only [String.append_assoc]

theorem braced_inj {code code' : String} (h : braced code = braced code') : code = code' := by
  have hlist := congrArg String.toList h
  simp only [braced, String.toList_append] at hlist
  exact String.toList_injective (List.append_cancel_left (List.append_cancel_right hlist))

/-- What is written in the braces of a length. -/
theorem isNumeral_of_reactAttribute {options : ReactOptions} {a : Attribute} {code : String}
    (h : a.name = "width" ∨ a.name = "height")
    (hcode : reactAttribute options a = " " ++ a.name ++ ("=" ++ braced code)) :
    code = a.value ∧ IsNumeral a.value.toList := by
  rw [reactAttribute_of_length h, String.append_right_inj] at hcode
  split at hcode
  · next hnumber =>
    rw [String.append_right_inj] at hcode
    exact ⟨(braced_inj hcode).symm, isPlainNumber_iff.1 hnumber⟩
  · have hlist := congrArg String.toList hcode
    simp [braced] at hlist

/-- The expressions in component source. A style whose property names are made of letters and hyphens is an
    object literal if the names are written in quotes, and otherwise exactly if each name that is no custom
    property has a lower-case letter behind each of its hyphens, for then it becomes an identifier. A length
    is written in braces exactly if it is a numeral, and what stands there is a number of the script exactly
    if it has no leading zero. -/
theorem isLiteral_expression_iff (options : ReactOptions) (a : Attribute) (mode : StyleMode) (style : List Char) :
    (HasPropertyNames style → (IsObjectLiteral (styleObject mode style) ↔
        mode = .string ∨ ∀ d ∈ declarations style, ['-', '-'] <+: d.1 ∨ ¬HasLooseHyphen d.1)) ∧
      (propertyName options a.name = "style" → reactAttribute options a =
        " style=" ++ braced (.ofList (styleObject options.styleMode a.value.toList))) ∧
      (a.name = "width" ∨ a.name = "height" →
        (IsNumeral a.value.toList → reactAttribute options a = " " ++ a.name ++ ("=" ++ braced a.value)) ∧
        ∀ code, reactAttribute options a = " " ++ a.name ++ ("=" ++ braced code) →
          code = a.value ∧ IsNumeral code.toList ∧ (IsDecimalLiteral code.toList ↔ ¬HasLeadingZero code.toList)) := by
  refine ⟨?style, ?styleAttribute, fun hlength => ⟨?numeral, ?number⟩⟩
  case style =>
    intro hnames
    rw [isObjectLiteral_styleObject_iff hnames]
    by_cases hmode : mode = .string <;> simp [hmode]
  case styleAttribute =>
    intro hname
    have hne : "style" ≠ "" := by decide
    simp only [reactAttribute, hname, hne, if_false, if_true]
  case numeral =>
    intro hnumeral
    rw [reactAttribute_of_length hlength, if_pos (isPlainNumber_iff.2 hnumeral)]
  case number =>
    intro code hcode
    obtain ⟨rfl, hnumeral⟩ := isNumeral_of_reactAttribute hlength hcode
    refine ⟨rfl, hnumeral, ?_⟩
    rw [isDecimalLiteral_iff, and_iff_right hnumeral]

/-- A vendor prefix, a custom property with a hyphen at its end and a value with quotes make an object literal.
    A fraction below one with a minus sign is a number. -/
theorem isLiteral_expression_iff_prefixed :
    let style := "-moz-box-flex: 1; --X-: 'a' \"b\"".toList
    HasPropertyNames style ∧ IsObjectLiteral (styleObject .object style) ∧
      String.ofList (styleObject .object style) = "\x7b MozBoxFlex: \"1\", '--X-': \"'a' \\\"b\\\"\" \x7d" ∧
      reactAttribute {} ⟨"width", "-0.50"⟩ = " width=\x7b-0.50\x7d" ∧ IsDecimalLiteral "-0.50".toList := by
  intro style
  have hnames : HasPropertyNames style := by decide
  obtain ⟨hstyle, -, hlength⟩ := isLiteral_expression_iff {} ⟨"width", "-0.50"⟩ .object style
  have hobject : IsObjectLiteral (styleObject .object style) := by
    refine (hstyle hnames).2 (.inr ?_)
    decide
  have hwidth : reactAttribute {} ⟨"width", "-0.50"⟩ = " width=\x7b-0.50\x7d" := by decide
  obtain ⟨-, -, hnumber⟩ := (hlength (.inl rfl)).2 "-0.50" hwidth
  refine ⟨hnames, hobject, by decide, hwidth, hnumber.2 ?_⟩
  rintro ⟨d, rest, hzero | hzero, hd⟩
  · exact absurd (List.cons.inj hzero).1 (by decide)
  · obtain ⟨rfl, -⟩ := List.cons.inj (List.cons.inj (List.cons.inj hzero).2).2
    exact absurd hd (by decide)

/-- A capital behind a hyphen and a leading zero: both stand in the source as they are, and neither the key nor
    the number is one of the script. -/
theorem isLiteral_expression_fails :
    HasPropertyNames "Font-Size: 1px".toList ∧
      String.ofList (styleObject .object "Font-Size: 1px".toList) = "\x7b Font-Size: \"1px\" \x7d" ∧
      ¬IsObjectLiteral (styleObject .object "Font-Size: 1px".toList) ∧
      reactAttribute {} ⟨"width", "007"⟩ = " width=\x7b007\x7d" ∧ ¬IsDecimalLiteral "007".toList := by
  have hnames : HasPropertyNames "Font-Size: 1px".toList := by decide
  refine ⟨hnames, by decide, ?_, by decide, ?_⟩
  · rw [isObjectLiteral_styleObject_iff hnames]
    decide
  · rw [isDecimalLiteral_iff]
    rintro ⟨-, hzero⟩
    exact hzero ⟨'0', ['7'], .inl rfl, by decide⟩

end MarkupCleaner.Output
