/-!
# Computations that may fail
-/

namespace StoreAdmin

/-- A composed computation returns through both of its parts. -/
theorem exists_of_bind_ok {ε α β : Type} {first : Except ε α}
    {second : α → Except ε β} {b : β}
    (hbind : first >>= second = .ok b) : ∃ a, first = .ok a ∧ second a = .ok b := by
  cases first with
  | error e => cases hbind
  | ok a => exact ⟨a, rfl, hbind⟩

theorem bind_of_ok {ε α β : Type} {first : Except ε α} {a : α} (hfirst : first = .ok a)
    (second : α → Except ε β) : first >>= second = second a := by
  rw [hfirst]
  rfl

theorem bind_of_error {ε α β : Type} {first : Except ε α} {e : ε} (hfirst : first = .error e)
    (second : α → Except ε β) : first >>= second = .error e := by
  rw [hfirst]
  rfl

/-- What returns was not kept from it by a check. -/
theorem of_check_ok {ε α : Type} {failing : Prop} [Decidable failing] {e : ε}
    {rest : Except ε α} {a : α} (hcheck : (if failing then .error e else rest) = .ok a) :
    rest = .ok a := by
  split at hcheck
  · cases hcheck
  · exact hcheck

end StoreAdmin
