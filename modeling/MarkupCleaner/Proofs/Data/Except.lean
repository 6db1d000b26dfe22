import Mathlib.Tactic.Common

/-!
# Computations that can fail

How a computation in steps comes to a result: every step does.
-/

namespace MarkupCleaner

variable {ε α β : Type}

theorem except_ok_bind (a : α) (f : α → Except ε β) : Except.ok a >>= f = f a := rfl

theorem except_error_bind (e : ε) (f : α → Except ε β) : Except.error e >>= f = .error e := rfl

theorem except_bind_eq_ok {x : Except ε α} {f : α → Except ε β} {b : β} :
    x >>= f = .ok b ↔ ∃ a, x = .ok a ∧ f a = .ok b := by
  cases x with
  | error e => simp [bind, Except.bind]
  | ok a => simp [bind, Except.bind]

theorem except_map_eq_ok {x : Except ε α} {f : α → β} {b : β} :
    f <$> x = .ok b ↔ ∃ a, x = .ok a ∧ f a = b := by
  cases x with
  | error e => simp [Functor.map, Except.map]
  | ok a => simp [Functor.map, Except.map]

theorem except_mapError_eq_ok {ε' : Type} {x : Except ε α} {f : ε → ε'} {a : α} :
    x.mapError f = .ok a ↔ x = .ok a := by
  cases x with
  | error e => simp [Except.mapError]
  | ok b => simp [Except.mapError]

/-- Two steps in turn fail as the first of them does that fails. -/
theorem bind_eq_error_iff_or {x : Except ε α} {f : α → Except ε β} {first second : Option ε} {e : ε}
    (hx : ∀ e, x = .error e ↔ first = some e) (hf : ∀ a, f a = .error e ↔ second = some e) :
    x >>= f = .error e ↔ first.or second = some e := by
  cases x with
  | error e' =>
    have hfirst : first = some e' := (hx e').1 rfl
    simp [hfirst, bind, Except.bind]
  | ok a =>
    have hfirst : first = none := Option.eq_none_iff_forall_ne_some.2 fun e' he' => nomatch (hx e').2 he'
    simp [hfirst, hf, bind, Except.bind]

/-- Two steps in turn fail as the first does if the second never fails. -/
theorem bind_eq_error_iff_left {x : Except ε α} {f : α → Except ε β} {e : ε} (hf : ∀ a, f a ≠ .error e) :
    x >>= f = .error e ↔ x = .error e := by
  cases x with
  | error e' => simp [bind, Except.bind]
  | ok a => simp [hf, bind, Except.bind]

theorem except_map_eq_error {x : Except ε α} {f : α → β} {e : ε} : f <$> x = .error e ↔ x = .error e := by
  cases x with
  | error e' => simp [Functor.map, Except.map]
  | ok a => simp [Functor.map, Except.map]

/-- A computation in steps fails if a step does. -/
theorem exists_bind_eq_error {x : Except ε α} {f : α → Except ε β} :
    (∃ e, x >>= f = .error e) ↔ (∃ e, x = .error e) ∨ ∃ a, x = .ok a ∧ ∃ e, f a = .error e := by
  cases x with
  | error e => simp [bind, Except.bind]
  | ok a => simp [bind, Except.bind]

theorem exists_map_eq_error {x : Except ε α} {f : α → β} :
    (∃ e, f <$> x = .error e) ↔ ∃ e, x = .error e := by
  cases x with
  | error e => simp [Functor.map, Except.map]
  | ok a => simp [Functor.map, Except.map]

theorem exists_eq_error_iff {x : Except ε α} : (∃ e, x = .error e) ↔ ¬∃ a, x = .ok a := by
  cases x with
  | error e => simp
  | ok a => simp

theorem except_toOption_eq_some {x : Except ε α} {a : α} : x.toOption = some a ↔ x = .ok a := by
  cases x with
  | error e => simp [Except.toOption]
  | ok b => simp [Except.toOption]

/-- A computation over a list fails as its first element does for which it fails. -/
theorem mapM_eq_error_iff {f : α → Except ε β} {refusal? : α → Option ε}
    (h : ∀ x e, f x = .error e ↔ refusal? x = some e) (xs : List α) (e : ε) :
    xs.mapM f = .error e ↔ xs.findSome? refusal? = some e := by
  induction xs with
  | nil => simp [pure, Except.pure]
  | cons x xs ih =>
    have hor : (x :: xs).findSome? refusal? = (refusal? x).or (xs.findSome? refusal?) := by
      rw [List.findSome?_cons]
      cases refusal? x <;> rfl
    have hlater (y : β) : (xs.mapM f >>= fun ys => pure (y :: ys)) = .error e ↔
        xs.findSome? refusal? = some e := by
      rw [← ih]
      exact except_map_eq_error
    rw [List.mapM_cons, hor]
    exact bind_eq_error_iff_or (h x) hlater

/-- A computation over a list comes to a result for each of its elements. -/
theorem mapM_eq_ok_iff_forall₂ {f : α → Except ε β} {xs : List α} {ys : List β} :
    xs.mapM f = .ok ys ↔ List.Forall₂ (fun x y => f x = .ok y) xs ys := by
  induction xs generalizing ys with
  | nil =>
    constructor
    · intro h
      obtain rfl := Except.ok.inj h
      exact .nil
    · rintro ⟨⟩
      rfl
  | cons x xs ih =>
    rw [List.mapM_cons]
    constructor
    · intro h
      obtain ⟨first, hfirst, h⟩ := except_bind_eq_ok.1 h
      obtain ⟨others, hothers, h⟩ := except_bind_eq_ok.1 h
      obtain rfl := Except.ok.inj h
      exact .cons hfirst (ih.1 hothers)
    · rintro (_ | ⟨hfirst, hothers⟩)
      rw [hfirst, ih.2 hothers]
      rfl

/-- What a computation over a list comes to are the results for its elements. -/
theorem mem_of_mapM_eq_ok {f : α → Except ε β} {xs : List α} {ys : List β} (h : xs.mapM f = .ok ys)
    {y : β} : y ∈ ys ↔ ∃ x ∈ xs, f x = .ok y := by
  induction xs generalizing ys with
  | nil =>
    obtain rfl := Except.ok.inj h
    exact iff_of_false List.not_mem_nil fun ⟨_, hx, _⟩ => nomatch hx
  | cons x xs ih =>
    rw [List.mapM_cons] at h
    obtain ⟨first, hfirst, h⟩ := except_bind_eq_ok.1 h
    obtain ⟨others, hothers, h⟩ := except_bind_eq_ok.1 h
    obtain rfl := Except.ok.inj h
    simp only [List.mem_cons, exists_eq_or_imp, ih hothers, hfirst, Except.ok.injEq]
    rw [eq_comm]

end MarkupCleaner
