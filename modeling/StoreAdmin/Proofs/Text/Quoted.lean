import StoreAdmin.Proofs.Number.Hex
import StoreAdmin.Text.Quoted

/-!
# Telling quoted texts apart

What stands for a character inside of quotes is read as that character, whatever follows it.  So a
log shows different texts differently.
-/

namespace StoreAdmin.Text

/-- The first character that stands inside of quotes, unless they end, and what follows it. -/
def quotedHead? : List Char → Option (Char × List Char)
  | [] => none
  | '"' :: _ => none
  | '\\' :: 'n' :: rest => some ('\n', rest)
  | '\\' :: 'r' :: rest => some ('\r', rest)
  | '\\' :: 't' :: rest => some ('\t', rest)
  | '\\' :: '0' :: rest => some (Char.ofNat 0, rest)
  | '\\' :: 'u' :: rest =>
    some (Char.ofNat (Hex.value ((rest.drop 1).takeWhile (· ≠ '}'))),
      ((rest.drop 1).dropWhile (· ≠ '}')).drop 1)
  | '\\' :: c :: rest => some (c, rest)
  | c :: rest => some (c, rest)

theorem quotedHead?_shown {c : Char} (hsign : ¬(c = '"' ∨ c = '\\')) (rest : List Char) :
    quotedHead? (c :: rest) = some (c, rest) := by
  unfold quotedHead?
  split <;> simp_all

theorem ne_brace_of_mem_lower {n : Nat} {c : Char} (hc : c ∈ Hex.lower n) : c ≠ '}' := by
  have hdigit : ∀ m < 16, Hex.lowerDigit m ≠ '}' := by decide
  rcases Hex.mem_digitsOnto hc with hnone | ⟨m, hm, rfl⟩
  · cases hnone
  · exact hdigit m hm

/-- A character that is spelled out by its number is read by its number. -/
theorem quotedHead?_number (c : Char) (rest : List Char) :
    quotedHead? ("\\u\x7b".toList ++ Hex.lower c.toNat ++ ['}'] ++ rest) = some (c, rest) := by
  have hdigits : ∀ d ∈ Hex.lower c.toNat, decide (d ≠ '}') = true :=
    fun d hd => decide_eq_true (ne_brace_of_mem_lower hd)
  have htext : "\\u\x7b".toList ++ Hex.lower c.toNat ++ ['}'] ++ rest =
      '\\' :: 'u' :: '\x7b' :: (Hex.lower c.toNat ++ '}' :: rest) := by
    simp
  rw [htext]
  simp only [quotedHead?, List.drop_succ_cons, List.drop_zero]
  rw [List.takeWhile_append_of_pos hdigits, List.dropWhile_append_of_pos hdigits]
  simp [Hex.value_lower, Char.ofNat_toNat]

theorem quotedHead?_quotedChar (c : Char) (rest : List Char) :
    quotedHead? (quotedChar c ++ rest) = some (c, rest) := by
  unfold quotedChar
  split
  · next hsign => rcases hsign with rfl | rfl <;> rfl
  split
  · next hline => exact hline ▸ rfl
  split
  · next hreturn => exact hreturn ▸ rfl
  split
  · next htab => exact htab ▸ rfl
  split
  · next hzero =>
    have hc : Char.ofNat 0 = c := by rw [← hzero, Char.ofNat_toNat]
    exact hc ▸ rfl
  split
  · next hsign _ _ _ _ _ => exact quotedHead?_shown hsign rest
  · exact quotedHead?_number c rest

/-- A quoted text is told from any other, whatever follows them. -/
theorem quoted_append_inj {text other rest rest' : List Char}
    (heq : quoted text ++ rest = quoted other ++ rest') : text = other ∧ rest = rest' := by
  have hbody :
      text.flatMap quotedChar ++ '"' :: rest = other.flatMap quotedChar ++ '"' :: rest' := by
    simpa [quoted] using heq
  clear heq
  induction text generalizing other with
  | nil =>
    cases other with
    | nil => exact ⟨rfl, (List.cons.inj hbody).2⟩
    | cons d other =>
      have hend := quotedHead?_quotedChar d (other.flatMap quotedChar ++ '"' :: rest')
      rw [← List.append_assoc, ← List.flatMap_cons, ← hbody] at hend
      cases hend
  | cons c text ih =>
    have hhead := quotedHead?_quotedChar c (text.flatMap quotedChar ++ '"' :: rest)
    rw [← List.append_assoc, ← List.flatMap_cons, hbody] at hhead
    cases other with
    | nil => cases hhead
    | cons d other =>
      rw [List.flatMap_cons, List.append_assoc, quotedHead?_quotedChar d] at hhead
      obtain ⟨rfl, htail⟩ := Prod.mk.inj (Option.some.inj hhead)
      obtain ⟨rfl, rfl⟩ := ih htail.symm
      exact ⟨rfl, rfl⟩

end StoreAdmin.Text
