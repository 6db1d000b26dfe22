import MarkupCleaner.ClassRules.Rules
import MarkupCleaner.Proofs.Text.Cuts
import MarkupCleaner.Proofs.Text.Trim

/-!
# Rules as a user writes them

Classes between commas and renames one per line are read as they are meant. A class may hold anything but a
comma, a source anything but an arrow, and a target may hold arrows; what cannot be written is white space at
the ends, a class between slashes and a rename of several lines.
-/

namespace MarkupCleaner.ClassRules

open Text

/-- A text between slashes, with something in between. -/
def IsDelimited (cs : List Char) : Prop := ∃ inner, inner ≠ [] ∧ cs = '/' :: inner ++ ['/']

theorem withoutSlashes_eq_self {cs : List Char} (h : ¬IsDelimited cs) : withoutSlashes cs = cs := by
  unfold withoutSlashes
  split
  · next rest =>
    split
    · next hslash =>
      rw [Bool.and_eq_true, decide_eq_true_eq, decide_eq_true_eq] at hslash
      obtain ⟨hlast, hlength⟩ := hslash
      obtain ⟨inner, rfl⟩ := List.getLast?_eq_some_iff.1 hlast
      refine absurd ⟨inner, ?_, rfl⟩ h
      rintro rfl
      simp at hlength
    · rfl
  · rfl

theorem isDelimited_iff {cs : List Char} : IsDelimited cs ↔ withoutSlashes cs ≠ cs := by
  refine ⟨?_, fun h => by_contra fun hnot => h (withoutSlashes_eq_self hnot)⟩
  rintro ⟨inner, hinner, rfl⟩ heq
  have hlength : 2 ≤ (inner ++ ['/']).length := by
    have hpos := List.length_pos_iff.2 hinner
    rw [List.length_append, List.length_singleton]
    omega
  simp only [withoutSlashes, List.cons_append, List.getLast?_concat, hlength, decide_true, Bool.and_self,
    if_true, List.dropLast_concat] at heq
  -- a text is no part of itself
  have hlonger := congrArg List.length heq
  simp only [List.length_cons, List.length_append] at hlonger
  omega

instance : DecidablePred IsDelimited := fun _ => decidable_of_iff _ isDelimited_iff.symm

/-- A class that can be an entry of a list between commas. -/
structure IsWritableClass (entry : String) : Prop where
  nonempty : entry ≠ ""
  trimmed : IsTrimmed entry.toList
  comma : ',' ∉ entry.toList
  slashes : ¬IsDelimited entry.toList

instance : DecidablePred IsWritableClass := fun entry =>
  decidable_of_iff (entry ≠ "" ∧ IsTrimmed entry.toList ∧ ',' ∉ entry.toList ∧ ¬IsDelimited entry.toList)
    ⟨fun h => ⟨h.1, h.2.1, h.2.2.1, h.2.2.2⟩, fun h => ⟨h.1, h.2, h.3, h.4⟩⟩

/-- A rename that can be written in a line. The target may hold arrows: the parts between them are trimmed, and
    there is something before the first one. -/
structure IsWritableRename (source target : List Char) : Prop where
  source_nonempty : source ≠ []
  source_trimmed : IsTrimmed source
  source_line : IsInLine source
  source_arrow : ¬arrow <:+: source
  target_trimmed : IsTrimmed target
  target_line : IsInLine target
  target_parts : ∃ first more, target = arrow.intercalate (first :: more) ∧ first ≠ [] ∧
    ∀ part ∈ first :: more, IsTrimmed part ∧ ¬arrow <:+: part

/-- A rename in its line. -/
def renameLine (source target : String) : String := source ++ " -> " ++ target

/-! ## Lists between commas -/

theorem parseClassList_intercalate {classes : List String} (h : ∀ entry ∈ classes, IsWritableClass entry) :
    parseClassList (",".intercalate classes) = classes := by
  have hcomma : ",".toList = [','] := rfl
  cases classes with
  | nil => rfl
  | cons first others =>
    have hpieces : pieces (· = ',') ([','].intercalate ((first :: others).map String.toList)) =
        (first :: others).map String.toList := by
      refine pieces_intercalate (by simp) fun text htext => ?_
      obtain ⟨entry, hentry, rfl⟩ := List.mem_map.1 htext
      exact (h entry hentry).comma
    have htrim : ((first :: others).map String.toList).map trim = (first :: others).map String.toList := by
      rw [List.map_map]
      refine List.map_congr_left fun entry hentry => ?_
      exact trim_of_isTrimmed (h entry hentry).trimmed
    have hkept : ((first :: others).map String.toList).filter (fun entry => !entry.isEmpty) =
        (first :: others).map String.toList := by
      refine List.filter_eq_self.2 fun text htext => ?_
      obtain ⟨entry, hentry, rfl⟩ := List.mem_map.1 htext
      simpa using (h entry hentry).nonempty
    have hslashes : ∀ entry ∈ first :: others, String.ofList (withoutSlashes entry.toList) = entry := by
      intro entry hentry
      rw [withoutSlashes_eq_self (h entry hentry).slashes, String.ofList_toList]
    rw [parseClassList, String.toList_intercalate, hcomma, hpieces, htrim, hkept, List.map_map]
    exact (List.map_congr_left hslashes).trans (List.map_id _)

/-! ## Lines of renames -/

/-- A space next to a text makes no arrow. -/
theorem not_arrow_infix_concat {cs : List Char} (h : ¬arrow <:+: cs) : ¬arrow <:+: cs ++ [' '] := by
  rw [List.infix_concat_iff, not_or]
  refine ⟨?_, h⟩
  rintro ⟨front, hfront⟩
  have hlast := congrArg List.getLast? hfront
  simp [arrow] at hlast

theorem not_arrow_infix_cons {cs : List Char} (h : ¬arrow <:+: cs) : ¬arrow <:+: ' ' :: cs := by
  rw [List.infix_cons_iff, not_or]
  refine ⟨?_, h⟩
  rintro ⟨back, hback⟩
  simp [arrow] at hback

theorem toList_renameLine (source target : String) :
    (renameLine source target).toList = source.toList ++ [' ', '-', '>', ' '] ++ target.toList := by
  have harrow : " -> ".toList = [' ', '-', '>', ' '] := rfl
  rw [renameLine, String.toList_append, String.toList_append, harrow]

variable {source target : List Char}

/-- A line starts with its source and ends with its target, so that there is nothing to trim. -/
theorem IsWritableRename.trim_line (h : IsWritableRename source target) :
    trim (source ++ [' ', '-', '>', ' '] ++ target) = source ++ [' ', '-', '>', ' '] ++ target := by
  obtain ⟨first, more, hparts, hfirst, -⟩ := h.target_parts
  have htarget : target ≠ [] := by
    rw [hparts]
    cases more with
    | nil => simpa using hfirst
    | cons next more => simp [arrow, List.intercalate_cons_cons]
  refine trim_of_isTrimmed ⟨fun c hc => ?_, fun c hc => ?_⟩
  · rw [List.append_assoc, List.head?_append_of_ne_nil _ h.source_nonempty] at hc
    exact h.source_trimmed.start c hc
  · rw [List.getLast?_append_of_ne_nil _ htarget] at hc
    exact h.target_trimmed.stop c hc

theorem parseRename?_line (h : IsWritableRename source target) :
    parseRename? (source ++ [' ', '-', '>', ' '] ++ target) =
      some { source := .ofList source, target := .ofList target } := by
  obtain ⟨first, more, hparts, hfirst, hmore⟩ := h.target_parts
  obtain ⟨⟨htrimmed, harrow⟩, hothers⟩ := List.forall_mem_cons.1 hmore
  -- the arrow in the middle is the first one, and the space after it belongs to the target
  have hline : source ++ [' ', '-', '>', ' '] ++ target =
      arrow.intercalate ((source ++ [' ']) :: (' ' :: first) :: more) := by
    rw [hparts]
    cases more with
    | nil => simp [arrow, List.intercalate_cons_cons]
    | cons next more => simp [arrow, List.intercalate_cons_cons]
  have hpieces : arrowPieces (source ++ [' ', '-', '>', ' '] ++ target) =
      (source ++ [' ']) :: (' ' :: first) :: more := by
    rw [hline]
    refine arrowPieces_intercalate (by simp) ?_
    rw [List.forall_mem_cons, List.forall_mem_cons]
    refine ⟨not_arrow_infix_concat h.source_arrow, not_arrow_infix_cons harrow, ?_⟩
    intro part hpart
    exact (hothers part hpart).2
  have hsource : trim (source ++ [' ']) = source :=
    @trim_append_append [] source [' '] (by simp) h.source_trimmed (by simp [isBlankChar_space])
  have hhead : trim (' ' :: first) = first :=
    @trim_append [' '] first (by simp [isBlankChar_space]) htrimmed
  have htail : more.map trim = more := by
    refine (List.map_congr_left fun part hpart => ?_).trans (List.map_id more)
    exact trim_of_isTrimmed (hothers part hpart).1
  have hfilled : (source.isEmpty || first.isEmpty) = false := by
    simp [h.source_nonempty, hfirst]
  rw [parseRename?, h.trim_line, hpieces, List.map_cons, List.map_cons, hsource, hhead, htail]
  simp only [hfilled, Bool.false_eq_true, if_false]
  rw [hparts]
  rfl

theorem IsWritableRename.isInLine (h : IsWritableRename source target) :
    IsInLine (source ++ [' ', '-', '>', ' '] ++ target) := by
  have hmark : IsInLine [' ', '-', '>', ' '] := by decide
  exact List.forall_mem_append.2 ⟨List.forall_mem_append.2 ⟨h.source_line, hmark⟩, h.target_line⟩

theorem parseRenameMap_intercalate {renames : List (String × String)}
    (h : ∀ r ∈ renames, IsWritableRename r.1.toList r.2.toList) :
    parseRenameMap ("\n".intercalate (renames.map fun r => renameLine r.1 r.2)) =
      renames.map fun r => { source := r.1, target := r.2 } := by
  have hnewline : "\n".toList = ['\n'] := rfl
  have hlines : lines (['\n'].intercalate ((renames.map fun r => renameLine r.1 r.2).map String.toList)) =
      (renames.map fun r => renameLine r.1 r.2).map String.toList := by
    refine lines_intercalate ?nonempty ?inLine
    case nonempty =>
      rw [List.map_map]
      intro hmem
      obtain ⟨r, -, hr⟩ := List.mem_map.1 hmem
      rw [Function.comp_apply, toList_renameLine] at hr
      simp at hr
    case inLine =>
      intro text htext
      rw [List.map_map] at htext
      obtain ⟨r, hr, rfl⟩ := List.mem_map.1 htext
      rw [Function.comp_apply, toList_renameLine]
      exact (h r hr).isInLine
  have hparsed : ∀ r ∈ renames, (parseRename? ∘ String.toList ∘ fun r => renameLine r.1 r.2) r =
      (some ∘ fun r => ({ source := r.1, target := r.2 } : RenameRule)) r := by
    intro r hr
    have hline := parseRename?_line (h r hr)
    rw [← toList_renameLine, String.ofList_toList, String.ofList_toList] at hline
    exact hline
  rw [parseRenameMap, String.toList_intercalate, hnewline, hlines, List.map_map, List.filterMap_map,
    List.filterMap_congr hparsed, List.filterMap_eq_map]

/-- What a user writes down is what the rules say: the classes between commas are removed, as they are or as
    patterns, the renames of the lines are literal and in their order, and a lead is written if it is not
    empty. -/
theorem ofText_written {classes : List String} {renames : List (String × String)}
    (hclasses : ∀ entry ∈ classes, IsWritableClass entry)
    (hrenames : ∀ r ∈ renames, IsWritableRename r.1.toList r.2.toList) (regex : Bool) (lead : String) :
    ofText (",".intercalate classes) regex lead
        ("\n".intercalate (renames.map fun r => renameLine r.1 r.2)) =
      { remove := if regex then [] else classes
        removeRegex := if regex then classes else []
        rename := renames.map fun r => { source := r.1, target := r.2, isRegex := false }
        lead := if lead = "" then none else some lead } := by
  rw [ofText, parseClassList_intercalate hclasses, parseRenameMap_intercalate hrenames]

/-- A slash alone, a source that ends with a hyphen and targets that start with half an arrow or hold one. -/
theorem ofText_written_arrows :
    (∀ entry ∈ ["a b", "/"], IsWritableClass entry) ∧
      (∀ r ∈ [("x-", ">y"), ("y", "z->->w")], IsWritableRename r.1.toList r.2.toList) ∧
      ofText "a b,/" true "" "x- -> >y\ny -> z->->w" =
        { removeRegex := ["a b", "/"]
          rename := [{ source := "x-", target := ">y" }, { source := "y", target := "z->->w" }] } := by
  have hclasses : ∀ entry ∈ ["a b", "/"], IsWritableClass entry := by decide
  have hhyphen : IsWritableRename "x-".toList ">y".toList :=
    { source_nonempty := by decide, source_trimmed := by decide, source_line := by decide
      source_arrow := by decide, target_trimmed := by decide, target_line := by decide
      target_parts := ⟨['>', 'y'], [], rfl, by decide, by decide⟩ }
  have harrows : IsWritableRename "y".toList "z->->w".toList :=
    { source_nonempty := by decide, source_trimmed := by decide, source_line := by decide
      source_arrow := by decide, target_trimmed := by decide, target_line := by decide
      target_parts := ⟨['z'], [[], ['w']], rfl, by decide, by decide⟩ }
  have hrenames : ∀ r ∈ [("x-", ">y"), ("y", "z->->w")], IsWritableRename r.1.toList r.2.toList := by
    intro r hr
    rcases List.mem_pair.1 hr with rfl | rfl
    · exact hhyphen
    · exact harrows
  refine ⟨hclasses, hrenames, ?_⟩
  exact ofText_written hclasses hrenames true ""

end MarkupCleaner.ClassRules
