import MarkupCleaner.Pattern.Match
import MarkupCleaner.Proofs.Data.Except

/-!
# Searching

A search tries a pattern at one place after the other, from the start of the text on, except where the
pattern is known not to start, and stops at the first one at which it matches. Only then it looks at what the
groups have captured: a group that ends before it starts is a fault, and no later place is tried instead.
-/

namespace MarkupCleaner

namespace Pattern

/-! ## Groups -/

namespace Trace

/-- A group that has ended before it has started. -/
def IsBroken (t : Trace) (number : Nat) : Prop :=
  ∃ start stop, t.span? number = some (start, stop) ∧ stop < start

/-- The stretch between where a group has started and where it has ended last. -/
def stretch? (t : Trace) (number : Nat) : Option Span :=
  (t.span? number).map fun (start, stop) => ⟨start, stop⟩

theorem group_eq_ok_iff {t : Trace} {number : Nat} {captured : Option Span} :
    t.group number = .ok captured ↔ ¬t.IsBroken number ∧ t.stretch? number = captured := by
  unfold group IsBroken stretch?
  cases t.span? number with
  | none => simp
  | some span =>
    obtain ⟨start, stop⟩ := span
    by_cases h : stop < start
    · simp [h]
    · simp [h]

theorem groups_eq_ok_iff {t : Trace} {numbers : List Nat} {groups : List (Option Span)} :
    numbers.mapM t.group = .ok groups ↔
      (∀ number ∈ numbers, ¬t.IsBroken number) ∧ numbers.map t.stretch? = groups := by
  induction numbers generalizing groups with
  | nil => simp [pure, Except.pure]
  | cons number numbers ih =>
    simp only [List.mapM_cons, except_bind_eq_ok, group_eq_ok_iff, ih, pure, Except.pure, Except.ok.injEq,
      List.forall_mem_cons, List.map_cons]
    constructor
    · rintro ⟨_, ⟨hnumber, rfl⟩, _, ⟨hnumbers, rfl⟩, rfl⟩
      exact ⟨⟨hnumber, hnumbers⟩, rfl⟩
    · rintro ⟨⟨hnumber, hnumbers⟩, rfl⟩
      exact ⟨_, ⟨hnumber, rfl⟩, _, ⟨hnumbers, rfl⟩, rfl⟩

theorem groups_eq_error_iff {t : Trace} {numbers : List Nat} {fault : BrokenGroup} :
    numbers.mapM t.group = .error fault ↔ ∃ number ∈ numbers, t.IsBroken number := by
  have hfault : numbers.mapM t.group = .error fault ↔ ∃ e, numbers.mapM t.group = .error e :=
    ⟨fun h => ⟨fault, h⟩, fun ⟨_, h⟩ => h⟩
  rw [hfault, exists_eq_error_iff]
  simp only [groups_eq_ok_iff, exists_and_left, exists_eq', and_true, not_forall, not_not, exists_prop]

end Trace

/-! ## Places -/

section

variable {starts : Starts} {text : Array Char} {program : Program} {left p place : Nat} {trace : Trace}

/-- A place at which a search starts and a program matches, and the trace of the match. -/
def Hits (starts : Starts) (text : Array Char) (program : Program) (p : Nat) (t : Trace) : Prop :=
  starts.holds text p = true ∧ program.run text false none finish p { place := p } = .matched t

theorem Hits.unique {t : Trace} (h : Hits starts text program p t) (h' : Hits starts text program p trace) :
    t = trace :=
  Attempt.matched.inj (h.2.symm.trans h'.2)

theorem searchFrom_of_hits (h : Hits starts text program p trace) :
    searchFrom starts text program (left + 1) p = some (p, trace) := by
  rw [searchFrom, if_pos h.1, h.2]

theorem searchFrom_of_not_hits (h : ∀ t, ¬Hits starts text program p t) :
    searchFrom starts text program (left + 1) p = searchFrom starts text program left (p + 1) := by
  rw [searchFrom]
  split
  · next hstarts =>
    split
    · next t ht => exact absurd ⟨hstarts, ht⟩ (h t)
    · rfl
  · rfl

/-- A search comes to the first place at which it starts and the program matches. -/
theorem searchFrom_eq_some_iff : searchFrom starts text program left p = some (place, trace) ↔
    p ≤ place ∧ place < p + left ∧ Hits starts text program place trace ∧
      ∀ q, p ≤ q → q < place → ∀ t, ¬Hits starts text program q t := by
  induction left generalizing p with
  | zero =>
    refine iff_of_false nofun ?_
    rintro ⟨hle, hlt, -⟩
    omega
  | succ left ih =>
    by_cases hhits : ∃ t, Hits starts text program p t
    · obtain ⟨t, ht⟩ := hhits
      rw [searchFrom_of_hits ht, Option.some.injEq, Prod.mk.injEq]
      constructor
      · rintro ⟨rfl, rfl⟩
        exact ⟨(Nat.le_refl p), by omega, ht, fun q hle hlt => absurd hle (by omega)⟩
      · rintro ⟨hle, -, hplace, hearlier⟩
        obtain rfl : p = place := by
          by_contra hne
          exact hearlier p (Nat.le_refl p) (by omega) t ht
        exact ⟨rfl, ht.unique hplace⟩
    · rw [not_exists] at hhits
      rw [searchFrom_of_not_hits hhits, ih]
      constructor
      · rintro ⟨hle, hlt, hplace, hearlier⟩
        refine ⟨by omega, by omega, hplace, fun q hq hqplace => ?_⟩
        rcases Nat.eq_or_lt_of_le hq with rfl | hq
        · exact hhits
        · exact hearlier q hq hqplace
      · rintro ⟨hle, hlt, hplace, hearlier⟩
        have hne : p ≠ place := by
          rintro rfl
          exact hhits trace hplace
        exact ⟨by omega, by omega, hplace, fun q hq => hearlier q (by omega)⟩

theorem searchFrom_eq_none_iff : searchFrom starts text program left p = none ↔
    ∀ q, p ≤ q → q < p + left → ∀ t, ¬Hits starts text program q t := by
  induction left generalizing p with
  | zero => exact iff_of_true rfl fun q hle hlt => absurd hle (by omega)
  | succ left ih =>
    by_cases hhits : ∃ t, Hits starts text program p t
    · obtain ⟨t, ht⟩ := hhits
      rw [searchFrom_of_hits ht]
      exact iff_of_false nofun fun h => h p (Nat.le_refl p) (by omega) t ht
    · rw [not_exists] at hhits
      rw [searchFrom_of_not_hits hhits, ih]
      constructor
      · intro h q hq hlt
        rcases Nat.eq_or_lt_of_le hq with rfl | hq
        · exact hhits
        · exact h q hq (by omega)
      · intro h q hq hlt
        exact h q (by omega) (by omega)

end

end Pattern

namespace CompiledPattern

open Pattern

/-! ## Matches -/

/-- A pattern matches a text at a place at which a search for it starts, and leaves a trace. -/
def MatchesAt (p : CompiledPattern) (text : List Char) (place : Nat) (trace : Trace) : Prop :=
  place ≤ text.length ∧ ∃ starts, starts? p text.length = some starts ∧
    Hits starts text.toArray (p.pattern.program p.flags .done) place trace

/-- The first place of a text at which a pattern matches. -/
structure MatchesFirst (p : CompiledPattern) (text : List Char) (place : Nat) (trace : Trace) : Prop where
  here : p.MatchesAt text place trace
  nowhereBefore : ∀ earlier < place, ∀ t, ¬p.MatchesAt text earlier t

/-- A pattern matches nowhere in a text. -/
def Misses (p : CompiledPattern) (text : List Char) : Prop := ∀ place trace, ¬p.MatchesAt text place trace

/-- The leftmost match of a pattern in a text: it starts at the first place at which the pattern matches and
    ends where that attempt has ended, and no group of it is broken. -/
def IsLeftmost (p : CompiledPattern) (text : List Char) (m : Match) : Prop :=
  ∃ trace, p.MatchesFirst text m.span.start trace ∧
    (∀ number ∈ List.range' 1 p.groupCount, ¬trace.IsBroken number) ∧
    m = { text, span := ⟨m.span.start, trace.place⟩
          groups := (List.range' 1 p.groupCount).map trace.stretch? }

/-- At the first place of a text at which a pattern matches a group is broken. -/
def Breaks (p : CompiledPattern) (text : List Char) : Prop :=
  ∃ place trace, p.MatchesFirst text place trace ∧
    ∃ number ∈ List.range' 1 p.groupCount, trace.IsBroken number

/-- The first place of a text at which a search finds a pattern. -/
def first? (p : CompiledPattern) (text : List Char) : Option (Nat × Trace) :=
  (starts? p text.length).bind fun starts =>
    searchFrom starts text.toArray (p.pattern.program p.flags .done) (text.length + 1) 0

theorem search?_eq (p : CompiledPattern) (text : List Char) : p.search? text =
    match p.first? text with
    | none => .ok none
    | some (start, trace) =>
      (fun groups => some { text, span := ⟨start, trace.place⟩, groups }) <$>
        (List.range' 1 p.groupCount).mapM trace.group := by
  have hfirst : p.first? text = (starts? p text.toArray.size).bind fun starts =>
      searchFrom starts text.toArray (p.pattern.program p.flags .done) (text.toArray.size + 1) 0 := rfl
  unfold search?
  dsimp only
  rw [← hfirst]
  cases p.first? text with
  | none => rfl
  | some found => rfl

section

variable {p : CompiledPattern} {text : List Char}

theorem first?_eq_none_iff : p.first? text = none ↔ p.Misses text := by
  unfold first? Misses MatchesAt
  cases starts? p text.length with
  | none => simp
  | some starts =>
    rw [Option.bind_some, searchFrom_eq_none_iff]
    constructor
    · rintro h place trace ⟨hle, _, hsame, hhits⟩
      obtain rfl := Option.some.inj hsame
      exact h place (Nat.zero_le _) (by omega) trace hhits
    · intro h place _ hlt trace hhits
      exact h place trace ⟨by omega, starts, rfl, hhits⟩

theorem first?_eq_some_iff {place : Nat} {trace : Trace} :
    p.first? text = some (place, trace) ↔ p.MatchesFirst text place trace := by
  unfold first?
  cases hstarts : starts? p text.length with
  | none =>
    refine iff_of_false nofun fun h => ?_
    obtain ⟨-, starts, hsome, -⟩ := h.here
    rw [hstarts] at hsome
    cases hsome
  | some starts =>
    rw [Option.bind_some, searchFrom_eq_some_iff]
    constructor
    · rintro ⟨-, hlt, hhits, hearlier⟩
      refine ⟨⟨by omega, starts, hstarts, hhits⟩, fun earlier hbefore t ht => ?_⟩
      obtain ⟨-, starts', hsame, hhits'⟩ := ht
      obtain rfl := Option.some.inj (hstarts.symm.trans hsame)
      exact hearlier earlier (Nat.zero_le _) hbefore t hhits'
    · rintro ⟨⟨hle, starts', hsame, hhits⟩, hnowhere⟩
      obtain rfl := Option.some.inj (hstarts.symm.trans hsame)
      refine ⟨Nat.zero_le _, by omega, hhits, fun q _ hq t ht => ?_⟩
      exact hnowhere q hq t ⟨by omega, starts, hstarts, ht⟩

theorem search?_eq_ok_none_iff : p.search? text = .ok none ↔ p.Misses text := by
  rw [← first?_eq_none_iff, search?_eq]
  cases p.first? text with
  | none => exact iff_of_true rfl rfl
  | some found =>
    refine iff_of_false (fun h => ?_) nofun
    obtain ⟨groups, -, h⟩ := except_map_eq_ok.1 h
    cases h

theorem search?_eq_ok_some_iff {m : Match} : p.search? text = .ok (some m) ↔ p.IsLeftmost text m := by
  rw [search?_eq, IsLeftmost]
  cases hfirst : p.first? text with
  | none =>
    refine iff_of_false nofun ?_
    rintro ⟨trace, hmatches, -⟩
    exact first?_eq_none_iff.1 hfirst _ _ hmatches.here
  | some found =>
    obtain ⟨place, trace⟩ := found
    simp only [except_map_eq_ok, Trace.groups_eq_ok_iff, Option.some.injEq]
    constructor
    · rintro ⟨_, ⟨hunbroken, rfl⟩, rfl⟩
      exact ⟨trace, first?_eq_some_iff.1 hfirst, hunbroken, rfl⟩
    · rintro ⟨trace', hmatches, hunbroken, hm⟩
      obtain ⟨rfl, rfl⟩ := Prod.mk.inj
        (Option.some.inj (hfirst.symm.trans (first?_eq_some_iff.2 hmatches)))
      exact ⟨_, ⟨hunbroken, rfl⟩, hm.symm⟩

/-- A search does not go on from a match with a broken group. -/
theorem search?_eq_error_iff {fault : BrokenGroup} : p.search? text = .error fault ↔ p.Breaks text := by
  rw [search?_eq, Breaks]
  cases hfirst : p.first? text with
  | none =>
    refine iff_of_false nofun ?_
    rintro ⟨place, trace, hmatches, -⟩
    exact first?_eq_none_iff.1 hfirst _ _ hmatches.here
  | some found =>
    obtain ⟨place, trace⟩ := found
    have hmatches := first?_eq_some_iff.1 hfirst
    rw [except_map_eq_error, Trace.groups_eq_error_iff]
    constructor
    · intro hbroken
      exact ⟨place, trace, hmatches, hbroken⟩
    · rintro ⟨place', trace', hmatches', hbroken⟩
      obtain ⟨-, rfl⟩ := Prod.mk.inj
        (Option.some.inj (hfirst.symm.trans (first?_eq_some_iff.2 hmatches')))
      exact hbroken

end

end CompiledPattern
end MarkupCleaner
