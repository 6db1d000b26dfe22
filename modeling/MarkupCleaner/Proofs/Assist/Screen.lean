import MarkupCleaner.Assist.Screen
import MarkupCleaner.Proofs.Markup.Refused
import MarkupCleaner.Proofs.Unicode.Caseless

/-!
# What the screen sees of letter case

Scripts and script addresses are refused in any spelling, event handlers only if they are spelled in small
letters. So the screen decides alike on all texts that differ in capitals only, unless one of them is
refused for an event handler alone.
-/

namespace MarkupCleaner.Assist

open Unicode

theorem somewhere_iff {holds : List Char → Bool} (cs : List Char) :
    somewhere holds cs ↔ ∃ rest, rest <:+ cs ∧ holds rest := by
  induction cs with
  | nil => simp [somewhere]
  | cons c cs ih =>
    simp only [somewhere, Bool.or_eq_true, ih, List.suffix_cons_iff]
    constructor
    · rintro (h | ⟨rest, hrest, h⟩)
      · exact ⟨c :: cs, .inl rfl, h⟩
      · exact ⟨rest, .inr hrest, h⟩
    · rintro ⟨rest, rfl | hrest, h⟩
      · exact .inl h
      · exact .inr ⟨rest, hrest, h⟩

/-- A search that asks at each place for the start of one of some pieces finds the texts that hold one. -/
theorem somewhere_iff_piece {holds : List Char → Bool} {IsPiece : List Char → Prop}
    (hholds : ∀ rest, holds rest ↔ ∃ piece, piece <+: rest ∧ IsPiece piece) (cs : List Char) :
    somewhere holds cs ↔ ∃ piece, piece <:+: cs ∧ IsPiece piece := by
  simp only [somewhere_iff, hholds, List.infix_iff_prefix_suffix]
  constructor
  · rintro ⟨rest, hrest, piece, hpiece, h⟩
    exact ⟨piece, ⟨rest, hpiece, hrest⟩, h⟩
  · rintro ⟨piece, ⟨rest, hpiece, hrest⟩, h⟩
    exact ⟨rest, hrest, piece, hpiece, h⟩

theorem somewhere_afterCaseless_iff (word cs : List Char) :
    somewhere (fun rest => (afterCaseless? word rest).isSome) cs ↔ HoldsWord word cs :=
  somewhere_iff_piece (isSome_afterCaseless?_iff word) cs

theorem somewhere_isPrefixOf_iff (word cs : List Char) :
    somewhere (fun rest => word.isPrefixOf rest) cs ↔ word <:+: cs := by
  simp only [somewhere_iff, List.isPrefixOf_iff_prefix, List.infix_iff_prefix_suffix, and_comm]

/-! ## Event handlers -/

/-- An event handler as far as its equals sign, spelled in small letters. -/
def IsHandler (piece : List Char) : Prop :=
  ∃ name blanks, piece = 'o' :: 'n' :: (name ++ (blanks ++ ['='])) ∧ name ≠ [] ∧ name.all Char.isLower
    ∧ blanks.all Text.isBlankChar

/-- A text holds an event handler that is spelled in small letters. -/
def HoldsHandler (cs : List Char) : Prop := ∃ piece, piece <:+: cs ∧ IsHandler piece

/-- White space is no ASCII letter. -/
theorem not_letter_of_isBlankChar {c : Char} (hc : Text.isBlankChar c) : ¬c.isUpper ∧ ¬c.isLower := by
  have hcode : ¬(32 < c.toNat ∧ c.toNat < 133) := by
    intro hvisible
    rw [Markup.isBlankChar_eq_false hvisible] at hc
    cases hc
  rw [isUpper_iff, isLower_iff]
  omega

/-- The white space and the equals sign after a name end it. -/
theorem endsRun_isLower {blanks : List Char} (hblanks : blanks.all Text.isBlankChar) (rest : List Char) :
    Markup.EndsRun Char.isLower (blanks ++ '=' :: rest) := by
  intro c hc
  cases blanks with
  | nil =>
    cases hc
    decide
  | cons d blanks =>
    cases hc
    have hblank := List.all_eq_true.1 hblanks c List.mem_cons_self
    exact Bool.eq_false_iff.2 (not_letter_of_isBlankChar hblank).2

theorem isEventHandler_cons (rest : List Char) :
    isEventHandler ('o' :: 'n' :: rest) ↔ rest.takeWhile Char.isLower ≠ []
      ∧ ((rest.dropWhile Char.isLower).dropWhile Text.isBlankChar).head? = some '=' := by
  rw [← List.isEmpty_eq_false_iff, ← Bool.not_eq_true', ← decide_eq_true_iff
    (p := List.head? _ = some '='), ← Bool.and_eq_true_iff]
  rfl

theorem isEventHandler_iff (rest : List Char) :
    isEventHandler rest ↔ ∃ piece, piece <+: rest ∧ IsHandler piece := by
  constructor
  · intro h
    obtain ⟨tail, rfl⟩ : ∃ tail, rest = 'o' :: 'n' :: tail := by
      unfold isEventHandler at h
      split at h
      · exact ⟨_, rfl⟩
      · cases h
    obtain ⟨hname, hsign⟩ := (isEventHandler_cons tail).1 h
    obtain ⟨after, hafter⟩ := List.head?_eq_some_iff.1 hsign
    have htail := List.takeWhile_append_dropWhile (p := Char.isLower) (l := tail)
    have hblanks :=
      List.takeWhile_append_dropWhile (p := Text.isBlankChar) (l := tail.dropWhile Char.isLower)
    rw [← hblanks, hafter] at htail
    refine ⟨_, ⟨after, ?_⟩, tail.takeWhile Char.isLower,
      (tail.dropWhile Char.isLower).takeWhile Text.isBlankChar, rfl, hname, List.all_takeWhile,
      List.all_takeWhile⟩
    conv_rhs => rw [← htail]
    simp
  · rintro ⟨_, ⟨after, rfl⟩, name, blanks, rfl, hname, hlower, hblanks⟩
    have hrest : 'o' :: 'n' :: (name ++ (blanks ++ ['='])) ++ after
        = 'o' :: 'n' :: (name ++ (blanks ++ '=' :: after)) := by simp
    have hend := endsRun_isLower hblanks after
    rw [hrest, isEventHandler_cons, Markup.takeWhile_append_of_endsRun hlower hend,
      Markup.dropWhile_append_of_endsRun hlower hend,
      Markup.dropWhile_append_of_endsRun hblanks (by simp [Markup.EndsRun]; decide)]
    exact ⟨hname, rfl⟩

theorem somewhere_isEventHandler_iff (cs : List Char) : somewhere isEventHandler cs ↔ HoldsHandler cs :=
  somewhere_iff_piece isEventHandler_iff cs

/-- An event handler that is spelled in small letters has no capital. -/
theorem IsHandler.asciiLower_eq {piece : List Char} (h : IsHandler piece) : asciiLower piece = piece := by
  obtain ⟨name, blanks, rfl, -, hlower, hblanks⟩ := h
  have hname : ∀ c ∈ name, ¬c.isUpper := fun c hc =>
    Char.not_isUpper_of_isLower (List.all_eq_true.1 hlower c hc)
  have hspace : ∀ c ∈ blanks, ¬c.isUpper := fun c hc =>
    (not_letter_of_isBlankChar (List.all_eq_true.1 hblanks c hc)).1
  apply asciiLower_eq_self
  simp only [List.forall_mem_cons, List.forall_mem_append]
  exact ⟨by decide, by decide, hname, hspace, by decide, by simp⟩

/-- Making the capitals small leaves the event handlers of a text as they are. -/
theorem HoldsHandler.asciiLower {cs : List Char} (h : HoldsHandler cs) :
    HoldsHandler (Unicode.asciiLower cs) := by
  obtain ⟨piece, hpiece, hhandler⟩ := h
  exact ⟨piece, hhandler.asciiLower_eq ▸ hpiece.map Char.toLower, hhandler⟩

/-- In capitals, a text holds no event handler. -/
theorem not_holdsHandler_asciiUpper (cs : List Char) : ¬HoldsHandler (asciiUpper cs) := by
  rintro ⟨_, hpiece, name, blanks, rfl, -⟩
  obtain ⟨c, -, hc⟩ := List.mem_map.1 (hpiece.mem List.mem_cons_self)
  have hlower := Char.isLower_toUpper_eq_false c
  rw [hc] at hlower
  cases hlower

/-! ## The verdict -/

/-- What is refused in any letter case: nothing at all, a fence, a script and a script address. -/
inductive Barred (code : List Char) : Prop where
  | empty (h : code = [])
  | fenced (h : ['`', '`', '`'] <:+: code)
  | script (h : HoldsWord "<script".toList code)
  | address (h : HoldsWord "javascript:".toList code)

theorem toLower_eq_fence_iff (c : Char) : c.toLower = '`' ↔ c = '`' := by
  by_cases hc : c.isUpper
  · have hcode := (isUpper_iff c).1 hc
    have hlower := toNat_toLower_of_isUpper hc
    constructor
    · intro h
      rw [h] at hlower
      simp at hlower
      omega
    · rintro rfl
      cases hc
  · rw [Char.toLower_eq_of_not_isUpper hc]

theorem fence_infix_asciiLower (code : List Char) :
    ['`', '`', '`'] <:+: asciiLower code ↔ ['`', '`', '`'] <:+: code := by
  constructor
  · intro h
    obtain ⟨piece, hpiece, hfence⟩ := List.infix_map_iff.1 h
    have hfixed : piece = ['`', '`', '`'] := by
      simpa [List.map_eq_cons_iff, toLower_eq_fence_iff] using hfence.symm
    exact hfixed ▸ hpiece
  · intro h
    exact h.map Char.toLower

theorem barred_asciiLower (code : List Char) : Barred (asciiLower code) ↔ Barred code := by
  constructor
  · rintro (h | h | h | h)
    · exact .empty (List.map_eq_nil_iff.1 h)
    · exact .fenced ((fence_infix_asciiLower code).1 h)
    · exact .script ((holdsWord_asciiLower _ code).1 h)
    · exact .address ((holdsWord_asciiLower _ code).1 h)
  · rintro (h | h | h | h)
    · exact .empty (List.map_eq_nil_iff.2 h)
    · exact .fenced ((fence_infix_asciiLower code).2 h)
    · exact .script ((holdsWord_asciiLower _ code).2 h)
    · exact .address ((holdsWord_asciiLower _ code).2 h)

/-- Texts that differ in capitals only are barred alike. -/
theorem barred_congr {code other : List Char} (h : asciiLower other = asciiLower code) :
    Barred other ↔ Barred code := by
  rw [← barred_asciiLower other, h, barred_asciiLower]

theorem screen_eq_ok_iff (code : String) :
    screen code = .ok () ↔ ¬Barred code.toList ∧ ¬HoldsHandler code.toList := by
  have hreason : screen code = .ok () ↔ unsafe? code.toList = none := by
    unfold screen
    cases unsafe? code.toList <;> simp
  rw [hreason, unsafe?]
  split_ifs with hempty hfence hscript hhandler haddress
  · exact iff_of_false (by simp) fun h => h.1 (.empty (List.isEmpty_iff.1 hempty))
  · exact iff_of_false (by simp) fun h => h.1 (.fenced ((somewhere_isPrefixOf_iff _ _).1 hfence))
  · exact iff_of_false (by simp) fun h => h.1 (.script ((somewhere_afterCaseless_iff _ _).1 hscript))
  · exact iff_of_false (by simp) fun h => h.2 ((somewhere_isEventHandler_iff _).1 hhandler)
  · exact iff_of_false (by simp) fun h => h.1 (.address ((somewhere_afterCaseless_iff _ _).1 haddress))
  · refine iff_of_true rfl ⟨?_, fun h => hhandler ((somewhere_isEventHandler_iff _).2 h)⟩
    rintro (h | h | h | h)
    · exact hempty (List.isEmpty_iff.2 h)
    · exact hfence ((somewhere_isPrefixOf_iff _ _).2 h)
    · exact hscript ((somewhere_afterCaseless_iff _ _).2 h)
    · exact haddress ((somewhere_afterCaseless_iff _ _).2 h)

theorem accept_eq_ok_iff (reply code : String) :
    accept reply = .ok code ↔ code = Text.stripped reply ∧ screen code = .ok () := by
  simp only [accept]
  cases h : screen (Text.stripped reply) with
  | error e =>
    refine iff_of_false (by simp [bind, Except.bind]) ?_
    rintro ⟨rfl, hok⟩
    cases h.symm.trans hok
  | ok =>
    constructor
    · intro hok
      cases hok
      exact ⟨rfl, h⟩
    · rintro ⟨rfl, -⟩
      rfl

/-- Texts that differ in capitals only are accepted or refused together unless they hold an event handler
    in some letter case and are not refused for anything else. -/
theorem screen_alike_iff (code : String) :
    (∀ other : String, asciiLower other.toList = asciiLower code.toList →
        (screen other = .ok () ↔ screen code = .ok ()))
      ↔ Barred code.toList ∨ ¬HoldsHandler (asciiLower code.toList) := by
  constructor
  · intro halike
    by_contra hnot
    obtain ⟨hbarred, hhandler⟩ := not_or.1 hnot
    have hsmall := halike (.ofList (asciiLower code.toList)) (by simp)
    have hcapital := halike (.ofList (asciiUpper code.toList)) (by simp)
    rw [screen_eq_ok_iff, String.toList_ofList] at hsmall hcapital
    have haccepted : screen code = .ok () := hcapital.1
      ⟨fun h => hbarred ((barred_congr (asciiLower_asciiUpper _)).1 h), not_holdsHandler_asciiUpper _⟩
    exact (hsmall.2 haccepted).2 (not_not.1 hhandler)
  · rintro (hbarred | hhandler) other hother
    · have hrefused : Barred other.toList := (barred_congr hother).2 hbarred
      simp only [screen_eq_ok_iff, hbarred, hrefused, not_true, false_and]
    · have hcode : ¬HoldsHandler code.toList := fun h => hhandler h.asciiLower
      have hother' : ¬HoldsHandler other.toList := fun h => hhandler (hother ▸ h.asciiLower)
      simp only [screen_eq_ok_iff, barred_congr hother, hcode, hother']

/-- Code that is accepted holds no script and no script address in any letter case. An event handler that
    it holds in some letter case is spelled with a capital. -/
theorem not_holds_of_accept {reply code : String} (h : accept reply = .ok code) :
    ¬"<script".toList <:+: asciiLower code.toList ∧ ¬"javascript:".toList <:+: asciiLower code.toList
      ∧ ∀ piece, piece <:+: code.toList → IsHandler (asciiLower piece) → ∃ c ∈ piece, c.isUpper := by
  obtain ⟨hbarred, hhandler⟩ := (screen_eq_ok_iff code).1 ((accept_eq_ok_iff reply code).1 h).2
  refine ⟨fun h => ?_, fun h => ?_, fun piece hpiece hlower => ?_⟩
  · exact hbarred (.script ((holdsWord_asciiLower _ _).1 (holdsWord_of_stands h)))
  · exact hbarred (.address ((holdsWord_asciiLower _ _).1 (holdsWord_of_stands h)))
  · by_contra hcapital
    have hsmall : asciiLower piece = piece :=
      asciiLower_eq_self fun c hc hupper => hcapital ⟨c, hc, hupper⟩
    exact hhandler ⟨piece, hpiece, hsmall ▸ hlower⟩

/-- Code is accepted if it is not barred and holds no event handler in small letters. So all texts that differ
    from it in capitals only get its verdict if and only if it is barred or holds no event handler in any
    letter case. What is accepted holds no script and no script address in any letter case, and no event
    handler without a capital. -/
theorem screen_in_any_case (code : String) :
    (screen code = .ok () ↔ ¬Barred code.toList ∧ ¬HoldsHandler code.toList)
      ∧ ((∀ other : String, asciiLower other.toList = asciiLower code.toList →
            (screen other = .ok () ↔ screen code = .ok ()))
          ↔ Barred code.toList ∨ ¬HoldsHandler (asciiLower code.toList))
      ∧ ∀ reply, accept reply = .ok code →
          ¬"<script".toList <:+: asciiLower code.toList ∧ ¬"javascript:".toList <:+: asciiLower code.toList
            ∧ ∀ piece, piece <:+: code.toList → IsHandler (asciiLower piece) → ∃ c ∈ piece, c.isUpper :=
  ⟨screen_eq_ok_iff code, screen_alike_iff code, fun _ h => not_holds_of_accept h⟩

/-- A paragraph is judged alike in all its spellings and free of scripts, and the event handler of a
    component that is accepted has a capital. -/
theorem screen_in_any_case_paragraph :
    (∀ other : String, asciiLower other.toList = asciiLower "<P>one</P>".toList →
        (screen other = .ok () ↔ screen "<P>one</P>" = .ok ()))
      ∧ ¬"<script".toList <:+: asciiLower "<P>one</P>".toList
      ∧ ∃ c ∈ "onClick=".toList, c.isUpper := by
  refine ⟨(screen_in_any_case "<P>one</P>").2.1.2 (.inr ?_),
    ((screen_in_any_case "<P>one</P>").2.2 " <P>one</P>\n" (by decide +kernel)).1,
    ((screen_in_any_case "<p onClick=go>").2.2 "<p onClick=go>" (by decide +kernel)).2.2 _ (by decide)
      ⟨"click".toList, [], by decide, by decide, by decide, rfl⟩⟩
  rw [← somewhere_isEventHandler_iff]
  decide +kernel

/-- The attribute of a component that has a capital goes through, the same in small letters does not. -/
theorem screen_passes_capital :
    asciiLower "<button onClick=\x7bgo()\x7d>x</button>".toList
        = asciiLower "<button onclick=\x7bgo()\x7d>x</button>".toList
      ∧ screen "<button onClick=\x7bgo()\x7d>x</button>" = .ok ()
      ∧ screen "<button onclick=\x7bgo()\x7d>x</button>" = .error .eventHandler
      ∧ accept "<button onClick=\x7bgo()\x7d>x</button>"
        = .ok "<button onClick=\x7bgo()\x7d>x</button>" := by
  decide +kernel

end MarkupCleaner.Assist
