/-!
# Cutting texts

A text is cut into pieces where a character of some kind stands.
-/

namespace StoreAdmin.Text

/-- Cuts a text where `p` holds. There is always one piece more than there are cuts. -/
def splitWhere (p : Char → Bool) : List Char → List (List Char)
  | [] => [[]]
  | c :: rest =>
    if p c then [] :: splitWhere p rest
    else
      match splitWhere p rest with
      | piece :: pieces => (c :: piece) :: pieces
      | [] => [[c]]

theorem splitWhere_ne_nil (p : Char → Bool) (text : List Char) : splitWhere p text ≠ [] := by
  cases text with
  | nil => simp [splitWhere]
  | cons c rest =>
    rw [splitWhere]
    split
    · simp
    · split <;> simp

/-- Putting the cut characters back between the pieces gives the text. -/
theorem intercalate_splitWhere (c : Char) (text : List Char) :
    [c].intercalate (splitWhere (· = c) text) = text := by
  induction text with
  | nil => rfl
  | cons d rest ih =>
    rw [splitWhere]
    have inhabited := splitWhere_ne_nil (· = c) rest
    split
    · next same =>
      have same : d = c := of_decide_eq_true same
      cases pieces : splitWhere (· = c) rest with
      | nil => exact absurd pieces inhabited
      | cons piece more =>
        rw [pieces] at ih
        simpa [List.intercalate, same] using ih
    · cases pieces : splitWhere (· = c) rest with
      | nil => exact absurd pieces inhabited
      | cons piece more =>
        rw [pieces] at ih
        cases more <;> simpa [List.intercalate] using ih

end StoreAdmin.Text
