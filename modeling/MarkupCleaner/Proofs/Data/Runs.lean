import Mathlib.Data.List.TakeWhile

/-!
# Runs at the front of a list

Elements of a kind, and behind them nothing or an element that is not of the kind: what is taken as long as
elements are of the kind is the run, and what is left is the rest.
-/

namespace MarkupCleaner

variable {α : Type} {p : α → Bool} {run rest : List α}

theorem takeWhile_run_append (hrun : ∀ x ∈ run, p x = true) (hrest : ∀ x ∈ rest.head?, p x = false) :
    (run ++ rest).takeWhile p = run := by
  rw [List.takeWhile_append_of_pos hrun]
  cases rest with
  | nil => exact List.append_nil run
  | cons x rest => rw [List.takeWhile_cons_of_neg (by simp [hrest x rfl]), List.append_nil]

theorem dropWhile_run_append (hrun : ∀ x ∈ run, p x = true) (hrest : ∀ x ∈ rest.head?, p x = false) :
    (run ++ rest).dropWhile p = rest := by
  rw [List.dropWhile_append_of_pos hrun]
  cases rest with
  | nil => rfl
  | cons x rest => rw [List.dropWhile_cons_of_neg (by simp [hrest x rfl])]

/-! ## Up to an element that ends the run -/

variable {stop : α}

theorem takeWhile_run_cons (hrun : ∀ x ∈ run, p x = true) (hstop : p stop = false) (rest : List α) :
    (run ++ stop :: rest).takeWhile p = run :=
  takeWhile_run_append hrun fun _ hx => Option.some.inj hx ▸ hstop

theorem dropWhile_run_cons (hrun : ∀ x ∈ run, p x = true) (hstop : p stop = false) (rest : List α) :
    (run ++ stop :: rest).dropWhile p = stop :: rest :=
  dropWhile_run_append hrun fun _ hx => Option.some.inj hx ▸ hstop

/-- Whatever stands in front of such an element, nothing behind it is taken. -/
theorem takeWhile_append_stop (front : List α) (hstop : p stop = false) (rest : List α) :
    (front ++ stop :: rest).takeWhile p = front.takeWhile p := by
  induction front with
  | nil => exact List.takeWhile_cons_of_neg (by simp [hstop])
  | cons x front ih => rw [List.cons_append, List.takeWhile_cons, List.takeWhile_cons, ih]

theorem dropWhile_append_stop (front : List α) (hstop : p stop = false) (rest : List α) :
    (front ++ stop :: rest).dropWhile p = front.dropWhile p ++ stop :: rest := by
  induction front with
  | nil => exact List.dropWhile_cons_of_neg (by simp [hstop])
  | cons x front ih =>
    rw [List.cons_append, List.dropWhile_cons, List.dropWhile_cons, ih]
    split <;> rfl

section

variable [DecidableEq α]

theorem decide_ne_of_notMem (h : stop ∉ run) : ∀ x ∈ run, decide (x ≠ stop) = true :=
  fun _ hx => decide_eq_true (ne_of_mem_of_not_mem hx h)

theorem takeWhile_ne_append (h : stop ∉ run) (rest : List α) :
    (run ++ stop :: rest).takeWhile (· ≠ stop) = run :=
  takeWhile_run_cons (decide_ne_of_notMem h) (by simp) rest

theorem dropWhile_ne_append (h : stop ∉ run) (rest : List α) :
    (run ++ stop :: rest).dropWhile (· ≠ stop) = stop :: rest :=
  dropWhile_run_cons (decide_ne_of_notMem h) (by simp) rest

end

end MarkupCleaner
