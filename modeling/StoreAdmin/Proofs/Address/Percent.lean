import StoreAdmin.Proofs.Number.Hex
import StoreAdmin.Proofs.Text.Utf8
import StoreAdmin.Url.Percent

/-!
# Reading back what is escaped

Percent encoding loses nothing as long as the percent sign does not stand for
itself, and what it writes consists of plain characters, percent signs and
digits.
-/

namespace StoreAdmin.Url

theorem isUnreserved_upperDigit {n : Nat} (hn : n < 16) :
    isUnreserved (Hex.upperDigit n) = true := by
  have hall : ∀ m : Fin 16, isUnreserved (Hex.upperDigit m) = true := by decide
  exact hall ⟨n, hn⟩

/-! ## Decoding -/

theorem percentDecode_cons {c : Char} (hc : c ≠ '%') (rest : List Char) :
    percentDecode (c :: rest) = String.utf8EncodeChar c ++ percentDecode rest := by
  match rest with
  | [] => rfl
  | [high] => rfl
  | high :: low :: rest =>
      rw [percentDecode]
      split
      · rw [if_neg hc]
      · rfl

theorem percentDecode_escapeByte (b : UInt8) (rest : List Char) :
    percentDecode (escapeByte b ++ rest) = b :: percentDecode rest := by
  have hbyte : b.toNat < 256 := b.toNat_lt
  have hhigh := Hex.digit?_upperDigit (b.toNat / 16) (by omega)
  have hlow := Hex.digit?_upperDigit (b.toNat % 16) (by omega)
  have hvalue : UInt8.ofNat (16 * (b.toNat / 16) + b.toNat % 16) = b := by
    rw [Nat.div_add_mod, UInt8.ofNat_toNat]
  rw [escapeByte, List.cons_append, List.cons_append, List.cons_append, List.nil_append,
    percentDecode, hhigh, hlow]
  simp only [if_true, hvalue]

theorem percentDecode_escapeBytes (bytes : List UInt8) (rest : List Char) :
    percentDecode (bytes.flatMap escapeByte ++ rest) = bytes ++ percentDecode rest := by
  induction bytes with
  | nil => rfl
  | cons b bytes ih =>
      rw [List.flatMap_cons, List.append_assoc, percentDecode_escapeByte, ih,
        List.cons_append]

/-- What is escaped can be read back, if the percent sign is escaped too. -/
theorem percentDecode_percentEncode {plain : Char → Bool} (hplain : plain '%' = false)
    (text : List Char) : percentDecode (percentEncode plain text) = Utf8.encode text := by
  induction text with
  | nil => rfl
  | cons c text ih =>
      have hcons : percentEncode plain (c :: text) =
          (if plain c then [c] else escapeChar c) ++ percentEncode plain text := rfl
      have hbytes : Utf8.encode (c :: text) = String.utf8EncodeChar c ++ Utf8.encode text := rfl
      rw [hcons, hbytes, ← ih]
      by_cases hc : plain c = true
      · have hsign : c ≠ '%' := by
          intro hsign
          rw [hsign, hplain] at hc
          cases hc
        rw [if_pos hc]
        exact percentDecode_cons hsign _
      · rw [if_neg hc]
        exact percentDecode_escapeBytes _ _

/-! ## What encoding writes -/

theorem percentEncode_of_plain {plain : Char → Bool} {text : List Char}
    (hplain : ∀ c ∈ text, plain c = true) : percentEncode plain text = text := by
  induction text with
  | nil => rfl
  | cons c text ih =>
      have hcons : percentEncode plain (c :: text) =
          (if plain c then [c] else escapeChar c) ++ percentEncode plain text := rfl
      rw [hcons, if_pos (hplain c List.mem_cons_self),
        ih fun d hd => hplain d (List.mem_cons_of_mem c hd)]
      rfl

theorem mem_escapeChar {c d : Char} (hd : d ∈ escapeChar c) :
    d = '%' ∨ isUnreserved d = true := by
  obtain ⟨b, -, hb⟩ := List.mem_flatMap.1 hd
  have hbyte : b.toNat < 256 := b.toNat_lt
  simp only [escapeByte, List.mem_cons, List.not_mem_nil, or_false] at hb
  rcases hb with rfl | rfl | rfl
  · exact .inl rfl
  · exact .inr (isUnreserved_upperDigit (by omega))
  · exact .inr (isUnreserved_upperDigit (by omega))

theorem mem_percentEncode {plain : Char → Bool} {text : List Char} {d : Char}
    (hd : d ∈ percentEncode plain text) :
    plain d = true ∨ d = '%' ∨ isUnreserved d = true := by
  obtain ⟨c, -, hc⟩ := List.mem_flatMap.1 hd
  split at hc
  · next hplain =>
      rw [List.mem_singleton.1 hc]
      exact .inl hplain
  · exact .inr (mem_escapeChar hc)

end StoreAdmin.Url
