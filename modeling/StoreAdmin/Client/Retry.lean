import StoreAdmin.Error

/-!
# Attempts

A call whose credentials are refused is made again after another login, up to a number of attempts.
All other errors end it at once.
-/

namespace StoreAdmin.Retry

/-- The number of attempts where nothing else is said. -/
def defaultAttempts : Nat := 3

/-- The error of a login between two attempts. -/
def loginError : Error → Error
  | .cancelled => .cancelled
  | e => .authorization ("retry login: " ++ e.message)

variable {m : Type → Type} [Monad m] {α : Type}

/-- Makes up to `left` attempts, the first of which has the given number. -/
def attempts (attempt : Nat → m (Except Error α)) (login : m (Except Error Unit)) :
    (left : Nat) → (number : Nat) → m (Except Error α)
  | 0, _ => pure (.error .exhausted)
  | left + 1, number => do
    match ← attempt number with
    | .error .unauthorized =>
      if left = 0 then pure (.error .exhausted)
      else
        match ← login with
        | .error e => pure (.error (loginError e))
        | .ok () => attempts attempt login left (number + 1)
    | outcome => pure outcome

/-- Makes up to `limit` attempts, numbered from one, with a login between two of them. -/
def run (limit : Nat) (attempt : Nat → m (Except Error α)) (login : m (Except Error Unit)) :
    m (Except Error α) :=
  attempts attempt login limit 1

end StoreAdmin.Retry
