/-!
# Scanners

A scanner reads a list one symbol at a time, carries a state and emits tokens. Reading a
concatenation is reading its parts one after the other, which is how the printers of this library
are shown to be read back.
-/

namespace StoreAdmin

/-- A machine with state `σ` that reads symbols `α` and emits tokens `β`. -/
structure Scanner (σ α β : Type) where
  /-- The state after a symbol and the tokens that it completes. -/
  step : σ → α → σ × List β
  /-- The tokens that the end of the input completes. -/
  finish : σ → List β

namespace Scanner

variable {σ α β : Type} (m : Scanner σ α β)

/-- The tokens of a whole input. -/
def run : σ → List α → List β
  | s, [] => m.finish s
  | s, x :: rest => (m.step s x).2 ++ run (m.step s x).1 rest

/-- The state after an input that goes on. -/
def stateAfter : σ → List α → σ
  | s, [] => s
  | s, x :: rest => stateAfter (m.step s x).1 rest

/-- The tokens that are complete at the end of an input that goes on. -/
def emitted : σ → List α → List β
  | _, [] => []
  | s, x :: rest => (m.step s x).2 ++ emitted (m.step s x).1 rest

theorem run_append (s : σ) (xs ys : List α) :
    m.run s (xs ++ ys) = m.emitted s xs ++ m.run (m.stateAfter s xs) ys := by
  induction xs generalizing s with
  | nil => rfl
  | cons x rest ih => simp [run, emitted, stateAfter, ih]

theorem emitted_append (s : σ) (xs ys : List α) :
    m.emitted s (xs ++ ys) = m.emitted s xs ++ m.emitted (m.stateAfter s xs) ys := by
  induction xs generalizing s with
  | nil => rfl
  | cons x rest ih => simp [emitted, stateAfter, ih]

theorem stateAfter_append (s : σ) (xs ys : List α) :
    m.stateAfter s (xs ++ ys) = m.stateAfter (m.stateAfter s xs) ys := by
  induction xs generalizing s with
  | nil => rfl
  | cons x rest ih => simp [stateAfter, ih]

end Scanner
end StoreAdmin
