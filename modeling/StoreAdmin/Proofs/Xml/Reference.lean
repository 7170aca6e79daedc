import StoreAdmin.Xml.Reference
import StoreAdmin.Proofs.Text.Blank

/-!
# Reading escaped text back

Resolving undoes escaping.  Escaped text has no `<`, so no markup starts in it, and its blanks are
those of the text, so it may be trimmed before or after it is escaped.
-/

namespace StoreAdmin.Xml

/-- Whether a character is replaced in text. -/
def isEscaped (c : Char) : Bool :=
  c = '<' || c = '>' || c = '&'

theorem escapeChar_of_not (c : Char) (hc : isEscaped c = false) : escapeChar c = [c] := by
  simp only [isEscaped, Bool.or_eq_false_iff, decide_eq_false_iff_not] at hc
  simp only [escapeChar, hc, if_false]

theorem isEscaped_cases {c : Char} (hc : isEscaped c = true) : c = '<' ∨ c = '>' ∨ c = '&' := by
  simpa [isEscaped, or_assoc] using hc

/-- The reference for a character is resolved to the character, whatever follows it. -/
theorem resolveFrom_escapeChar (c : Char) (rest : List Char) :
    resolveFrom none (escapeChar c ++ rest) = (resolveFrom none rest).map (c :: ·) := by
  cases hc : isEscaped c with
  | true => obtain rfl | rfl | rfl := isEscaped_cases hc <;> rfl
  | false =>
    have hplain : c ≠ '&' := by
      rintro rfl
      cases hc
    rw [escapeChar_of_not c hc, List.singleton_append, resolveFrom, if_neg hplain]

theorem resolve?_escape (text : List Char) : resolve? (escape text) = some text := by
  unfold resolve? escape
  induction text with
  | nil => rfl
  | cons c rest ih => rw [List.flatMap_cons, resolveFrom_escapeChar, ih, Option.map_some]

/-- No markup starts in escaped text. -/
theorem not_mem_escape (text : List Char) : '<' ∉ escape text := by
  intro hmem
  obtain ⟨c, -, hc⟩ := List.mem_flatMap.mp hmem
  cases hescaped : isEscaped c with
  | true => obtain rfl | rfl | rfl := isEscaped_cases hescaped <;> revert hc <;> decide
  | false =>
    rw [escapeChar_of_not c hescaped, List.mem_singleton] at hc
    subst hc
    cases hescaped

/-- A text without characters that are replaced is its own escaped text. -/
theorem escape_of_none {text : List Char} (hnone : ∀ c ∈ text, isEscaped c = false) :
    escape text = text := by
  induction text with
  | nil => rfl
  | cons c rest ih =>
    have hrest : escape rest = rest := ih fun d hd => hnone d (List.mem_cons_of_mem c hd)
    rw [escape, List.flatMap_cons, escapeChar_of_not c (hnone c List.mem_cons_self), ← escape,
      hrest, List.singleton_append]

/-! ## Trimming -/

theorem isEscaped_of_isBlank {c : Char} (hblank : Text.isBlank c = true) : isEscaped c = false := by
  by_contra hescaped
  rw [Bool.not_eq_false] at hescaped
  obtain rfl | rfl | rfl := isEscaped_cases hescaped <;> cases hblank

/-- A character is written as it is or as a reference. -/
theorem escapeChar_cases (c : Char) :
    escapeChar c = [c] ∨ ∃ name, escapeChar c = '&' :: name ++ [';'] := by
  cases hc : isEscaped c with
  | true =>
    right
    obtain rfl | rfl | rfl := isEscaped_cases hc
    · exact ⟨"lt".toList, rfl⟩
    · exact ⟨"gt".toList, rfl⟩
    · exact ⟨"amp".toList, rfl⟩
  | false => exact .inl (escapeChar_of_not c hc)

theorem keepsEnds_escapeChar : Text.KeepsEnds Text.isBlank escapeChar where
  dropped c hblank := escapeChar_of_not c (isEscaped_of_isBlank hblank)
  start c hsolid := by
    obtain hc | ⟨name, hc⟩ := escapeChar_cases c
    · exact ⟨c, [], hc, hsolid⟩
    · exact ⟨'&', name ++ [';'], hc, rfl⟩
  finish c hsolid := by
    obtain hc | ⟨name, hc⟩ := escapeChar_cases c
    · exact ⟨[], c, hc, hsolid⟩
    · exact ⟨'&' :: name, ';', hc, rfl⟩

/-- Blanks are dropped before references are resolved, which drops the blanks of the text. -/
theorem resolve?_trim_escape (text : List Char) :
    resolve? (Text.trim Text.isBlank (escape text)) = some (Text.trim Text.isBlank text) := by
  rw [escape, Text.trim_flatMap keepsEnds_escapeChar]
  exact resolve?_escape _

end StoreAdmin.Xml
