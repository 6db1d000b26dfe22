import MarkupCleaner.Proofs.ClassRules.Sweep

/-!
# The lead

The lead is put in front of every value that removal and renames leave of the tokens; only then are
repeated and empty tokens left out. So it keeps the values apart that differ, and it makes a token of the
empty value, which is none without a lead. A token is renamed to the empty value by a target or a template
that comes to nothing.
-/

namespace MarkupCleaner.ClassRules

open Attributes

/-! ## Leads and repetitions -/

theorem append_left_injective (lead : String) : Function.Injective (lead ++ ·) :=
  fun _ _ h => String.append_right_inj lead |>.1 h

/-- Values stay apart under a lead, and none becomes another. -/
theorem eraseDups_map_append (lead : String) (values : List String) :
    (values.map (lead ++ ·)).eraseDups = values.eraseDups.map (lead ++ ·) := by
  match values with
  | [] => rfl
  | value :: rest =>
    have hsame (other : String) : (!(lead ++ other) == (lead ++ value)) = !other == value := by
      rw [Bool.eq_iff_iff, Bool.not_eq_true', Bool.not_eq_true', beq_eq_false_iff_ne, beq_eq_false_iff_ne,
        (append_left_injective lead).ne_iff]
    rw [List.map_cons, List.eraseDups_cons, List.eraseDups_cons, List.map_cons, List.filter_map]
    simp only [Function.comp_def, hsame]
    rw [eraseDups_map_append lead]
termination_by values.length
decreasing_by exact Nat.lt_succ_of_le (List.length_filter_le _ _)

/-- With a lead no value is empty. -/
theorem distinctTokens_map_append {lead : String} (hlead : lead ≠ "") (values : List String) :
    distinctTokens (values.map (lead ++ ·)) = values.eraseDups.map (lead ++ ·) := by
  rw [distinctTokens_eq_filter, eraseDups_map_append, List.filter_eq_self]
  intro token htoken
  obtain ⟨value, -, rfl⟩ := List.mem_map.1 htoken
  rw [decide_eq_true_iff, ne_eq, String.append_eq_empty_iff]
  exact fun hempty => hlead hempty.1

/-- The lead can be put in front of the distinct tokens as well, unless one of the values is empty. -/
theorem distinctTokens_map_append_eq_iff {lead : String} (hlead : lead ≠ "") (values : List String) :
    distinctTokens (values.map (lead ++ ·)) = (distinctTokens values).map (lead ++ ·) ↔ "" ∉ values := by
  have hinjective : Function.Injective (List.map (lead ++ ·)) :=
    List.map_injective_iff.2 (append_left_injective lead)
  rw [distinctTokens_map_append hlead, hinjective.eq_iff, distinctTokens_eq_filter, eq_comm,
    List.filter_eq_self]
  simp only [List.mem_eraseDups, decide_eq_true_eq]
  exact List.forall_mem_ne'

namespace Engine

/-! ## What a lead is put in front of -/

/-- The same rules with a lead. -/
def leading (e : Engine) (lead : String) : Engine := { e with lead := some lead }

/-- The values that removal and renames leave of tokens. -/
def values (e : Engine) (tokens : List String) : Applied (List String) := do
  let kept ← e.keep tokens
  kept.mapM e.rename

theorem apply_eq_map_values (e : Engine) (tokens : List String) :
    e.apply tokens = (fun values => distinctTokens (values.map e.withLead)) <$> e.values tokens := by
  unfold apply values
  cases e.keep tokens with
  | error fault => rfl
  | ok kept => rfl

theorem keep_leading (e : Engine) (lead : String) (tokens : List String) :
    (e.leading lead).keep tokens = e.keep tokens := by
  induction tokens with
  | nil => rfl
  | cons token tokens ih =>
    unfold keep
    rw [ih]
    rfl

theorem apply_leading_eq (e : Engine) (lead : String) (tokens : List String) :
    (e.leading lead).apply tokens =
      (fun values => distinctTokens (values.map (lead ++ ·))) <$> e.values tokens := by
  have hvalues : (e.leading lead).values tokens = e.values tokens := by
    unfold values
    rw [keep_leading]
    rfl
  rw [apply_eq_map_values, hvalues]
  rfl

theorem apply_of_no_lead {e : Engine} (h : e.lead.getD "" = "") (tokens : List String) :
    e.apply tokens = distinctTokens <$> e.values tokens := by
  have hid : e.withLead = id := by
    funext token
    rw [withLead, h, String.empty_append, id]
  rw [apply_eq_map_values, hid]
  simp only [List.map_id]

theorem mem_of_keep {e : Engine} {tokens kept : List String} (h : e.keep tokens = .ok kept)
    {token : String} : token ∈ kept ↔ token ∈ tokens ∧ e.removes token = .ok false := by
  induction tokens generalizing kept with
  | nil =>
    obtain rfl := Except.ok.inj h
    simp only [List.not_mem_nil, false_and]
  | cons first tokens ih =>
    obtain ⟨isRemoved, hfirst, h⟩ := except_bind_eq_ok.1 h
    obtain ⟨rest, hrest, h⟩ := except_bind_eq_ok.1 h
    obtain rfl := Except.ok.inj h
    cases isRemoved with
    | true =>
      rw [if_pos rfl, ih hrest, List.mem_cons]
      constructor
      · rintro ⟨hmem, hkept⟩
        exact ⟨Or.inr hmem, hkept⟩
      · rintro ⟨rfl | hmem, hkept⟩
        · rw [hfirst] at hkept
          cases hkept
        · exact ⟨hmem, hkept⟩
    | false =>
      rw [if_neg Bool.false_ne_true, List.mem_cons, List.mem_cons, ih hrest]
      constructor
      · rintro (rfl | ⟨hmem, hkept⟩)
        · exact ⟨Or.inl rfl, hfirst⟩
        · exact ⟨Or.inr hmem, hkept⟩
      · rintro ⟨rfl | hmem, hkept⟩
        · exact Or.inl rfl
        · exact Or.inr ⟨hmem, hkept⟩

/-- A value is what the renames make of some token that is not removed. -/
theorem mem_of_values {e : Engine} {tokens values : List String} (h : e.values tokens = .ok values)
    {value : String} :
    value ∈ values ↔ ∃ token ∈ tokens, e.removes token = .ok false ∧ e.rename token = .ok value := by
  obtain ⟨kept, hkept, hvalues⟩ := except_bind_eq_ok.1 h
  rw [mem_of_mapM_eq_ok hvalues]
  simp only [mem_of_keep hkept, and_assoc]

end Engine

/-! ## Rules with a lead and without one -/

/-- Rules with a lead against the same rules without one. They stop at the same broken group. Where they
    come to an end, the values that removal and renames leave are the same, and of these each is taken
    once: with the lead in front of it, or without one if it is not empty. So the lead is put in front of
    the tokens that the rules come to without it exactly if no token that they do not remove is renamed to
    the empty one; otherwise the lead by itself is one more token. -/
theorem apply_leading {rules : ClassRules} (hcompile : rules.AllCompile)
    (hnone : rules.lead.getD "" = "") {lead : String} (hlead : lead ≠ "") :
    ∃ e, engine rules = (.ok e, []) ∧
      engine { rules with lead := some lead } = (.ok (e.leading lead), []) ∧
      ∀ tokens,
        (∀ fault, (e.leading lead).apply tokens = .error fault ↔ e.apply tokens = .error fault) ∧
        ∀ result, e.apply tokens = .ok result → ∃ values, e.values tokens = .ok values ∧
          result = values.eraseDups.filter (· ≠ "") ∧
          (e.leading lead).apply tokens = .ok (values.eraseDups.map (lead ++ ·)) ∧
          ((e.leading lead).apply tokens = .ok (result.map (lead ++ ·)) ↔
            ∀ token ∈ tokens, e.removes token = .ok false → e.rename token ≠ .ok "") := by
  have hled : engine { rules with lead := some lead } = (.ok (rules.readyEngine.leading lead), []) :=
    engine_eq_readyEngine hcompile
  refine ⟨rules.readyEngine, engine_eq_readyEngine hcompile, hled, fun tokens => ?_⟩
  rw [Engine.apply_leading_eq, Engine.apply_of_no_lead hnone]
  constructor
  · intro fault
    rw [except_map_eq_error, except_map_eq_error]
  · intro result hresult
    obtain ⟨values, hvalues, rfl⟩ := except_map_eq_ok.1 hresult
    have hempty : "" ∉ values ↔ ∀ token ∈ tokens,
        rules.readyEngine.removes token = .ok false → rules.readyEngine.rename token ≠ .ok "" := by
      rw [Engine.mem_of_values hvalues]
      simp only [not_exists, not_and, ne_eq]
    refine ⟨values, hvalues, distinctTokens_eq_filter values, ?_, ?_⟩
    · rw [hvalues, ← distinctTokens_map_append hlead]
      rfl
    · rw [hvalues, ← hempty, ← distinctTokens_map_append_eq_iff hlead]
      change Except.ok _ = Except.ok _ ↔ _
      rw [Except.ok.injEq]

/-- Five tokens, one of which is removed and two of which are renamed to others of them. -/
theorem apply_leading_renamed :
    let rules : ClassRules :=
      { remove := ["x"]
        rename := [{ source := "a", target := "b" },
          { source := "^(.)-.*$", target := "$1", isRegex := true }] }
    let tokens := ["a", "x", "b", "c-1", "c"]
    rules.AllCompile ∧ ∃ e, engine rules = (.ok e, []) ∧
      engine { rules with lead := some "tw-" } = (.ok (e.leading "tw-"), []) ∧
      e.values tokens = .ok ["b", "b", "c", "c"] ∧ e.apply tokens = .ok ["b", "c"] ∧
      (e.leading "tw-").apply tokens = .ok ["tw-b", "tw-c"] ∧
      ∀ token ∈ tokens, e.removes token = .ok false → e.rename token ≠ .ok "" := by
  intro rules tokens
  have hcompile : rules.AllCompile := by decide +kernel
  have hrun : ((engine rules).1.toOption.map fun e =>
      ((e.values tokens).toOption, (e.apply tokens).toOption)) =
        some (some ["b", "b", "c", "c"], some ["b", "c"]) := by
    decide +kernel
  obtain ⟨e, he, hled, hall⟩ := apply_leading hcompile rfl (by decide : "tw-" ≠ "")
  rw [he] at hrun
  obtain ⟨hrunValues, hrunApply⟩ := Prod.mk.inj (Option.some.inj hrun)
  have hvalues : e.values tokens = .ok ["b", "b", "c", "c"] := except_toOption_eq_some.1 hrunValues
  have happly : e.apply tokens = .ok ["b", "c"] := except_toOption_eq_some.1 hrunApply
  obtain ⟨values, hsame, -, hleading, hiff⟩ := (hall tokens).2 _ happly
  obtain rfl := Except.ok.inj (hvalues.symm.trans hsame)
  exact ⟨hcompile, e, he, hled, hvalues, happly, hleading, hiff.1 hleading⟩

/-- A token that is renamed to the empty one: without a lead nothing is left of it, with one the lead is. -/
theorem apply_leading_ne :
    let rules : ClassRules := { rename := [{ source := "a", target := "" }] }
    rules.AllCompile ∧ ∃ e, engine rules = (.ok e, []) ∧
      engine { rules with lead := some "tw-" } = (.ok (e.leading "tw-"), []) ∧
      e.apply ["a"] = .ok [] ∧ (e.leading "tw-").apply ["a"] = .ok ["tw-"] ∧
      (e.leading "tw-").apply ["a"] ≠ .ok ([].map ("tw-" ++ ·)) :=
  ⟨by decide, ⟨[], [], [.literal "a" ""], none⟩, rfl, rfl, by decide, by decide, by decide⟩

end MarkupCleaner.ClassRules
