import MarkupCleaner.Log
import Mathlib.Tactic.Common

/-!
# Computations that log

What a computation that logs and can fail comes to, and what it adds to the log. Neither depends on what
was logged before, so both are found step by step.
-/

namespace MarkupCleaner

variable {ε α β : Type}

/-- The computation comes to `result` and adds `log` to what was logged before. -/
def ComesTo (x : ExceptT ε (StateM Log) α) (result : Except ε α) (log : Log) : Prop :=
  ∀ before : Log, x.run before = (result, before ++ log)

namespace ComesTo

theorem pure (a : α) : ComesTo (Pure.pure a : ExceptT ε (StateM Log) α) (.ok a) [] := by
  intro before
  rw [List.append_nil]
  rfl

theorem throw (e : ε) : ComesTo (MonadExceptOf.throw e : ExceptT ε (StateM Log) α) (.error e) [] := by
  intro before
  rw [List.append_nil]
  rfl

theorem record (log : Log) :
    ComesTo (modify fun before => before ++ log : ExceptT ε (StateM Log) Unit) (.ok ()) log :=
  fun _ => rfl

theorem run_bind (x : ExceptT ε (StateM Log) α) (f : α → ExceptT ε (StateM Log) β) (before : Log) :
    (x >>= f).run before = (ExceptT.bindCont f (x.run before).1).run (x.run before).2 := rfl

/-- A step that succeeds is followed by the rest. -/
theorem bind {x : ExceptT ε (StateM Log) α} {f : α → ExceptT ε (StateM Log) β} {a : α}
    {result : Except ε β} {log log' : Log} (hx : ComesTo x (.ok a) log) (hf : ComesTo (f a) result log') :
    ComesTo (x >>= f) result (log ++ log') := by
  intro before
  rw [run_bind, hx before, ← List.append_assoc]
  exact hf (before ++ log)

/-- A step that fails ends everything. -/
theorem bind_error {x : ExceptT ε (StateM Log) α} {e : ε} {log : Log} (hx : ComesTo x (.error e) log)
    (f : α → ExceptT ε (StateM Log) β) : ComesTo (x >>= f) (.error e) log := by
  intro before
  rw [run_bind, hx before]
  rfl

/-- What is made of the result logs nothing. -/
theorem map (f : α → β) {x : ExceptT ε (StateM Log) α} {result : Except ε α} {log : Log}
    (hx : ComesTo x result log) : ComesTo (f <$> x) (f <$> result) log := by
  cases result with
  | error e =>
    rw [← bind_pure_comp]
    exact hx.bind_error _
  | ok a =>
    rw [← bind_pure_comp, ← List.append_nil log]
    exact hx.bind (.pure (f a))

end ComesTo

/-- The computation comes to `result`, whatever it logs. -/
def ResultsIn (x : ExceptT ε (StateM Log) α) (result : Except ε α) : Prop := ∃ log, ComesTo x result log

namespace ResultsIn

variable {x : ExceptT ε (StateM Log) α} {result : Except ε α}

theorem run_fst (h : ResultsIn x result) (before : Log) : (x.run before).1 = result := by
  obtain ⟨log, hx⟩ := h
  rw [hx before]

theorem pure (a : α) : ResultsIn (Pure.pure a : ExceptT ε (StateM Log) α) (.ok a) := ⟨[], .pure a⟩

/-- The results of steps are put together like the steps. -/
theorem bind {f : α → ExceptT ε (StateM Log) β} {next : α → Except ε β} (hx : ResultsIn x result)
    (hf : ∀ a, ResultsIn (f a) (next a)) : ResultsIn (x >>= f) (result >>= next) := by
  obtain ⟨log, hx⟩ := hx
  cases result with
  | error e => exact ⟨log, hx.bind_error f⟩
  | ok a =>
    obtain ⟨log', hnext⟩ := hf a
    exact ⟨log ++ log', hx.bind hnext⟩

end ResultsIn
end MarkupCleaner
