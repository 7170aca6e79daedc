import Mathlib.Data.List.TakeDrop
import Mathlib.Data.List.TakeWhile
import StoreAdmin.Proofs.Address.Segments
import StoreAdmin.Url.Parse

/-!
# Reading forms

A form is read as any server does it: it is cut at the ampersands, every piece is
cut at its first equals sign, and plus signs and escapes are undone.  This gives
back every list of fields from the text that is written for it.
-/

namespace StoreAdmin.Url

/-! ## Cutting once -/

theorem cutAt_of_none {mark : Char} {text : List Char} (htext : mark ∉ text) :
    cutAt mark text = (text, none) := by
  have hspan : text.span (· ≠ mark) = (text, []) := by
    rw [List.span_eq_takeWhile_dropWhile]
    have hall : ∀ c ∈ text, decide (c ≠ mark) = true := fun c hc =>
      decide_eq_true fun heq => htext (heq ▸ hc)
    rw [List.takeWhile_eq_self_iff.2 hall, List.dropWhile_eq_nil_iff.2 hall]
  rw [cutAt, hspan]

theorem cutAt_append {mark : Char} {front : List Char} (hfront : mark ∉ front)
    (rest : List Char) : cutAt mark (front ++ mark :: rest) = (front, some rest) := by
  have hall : ∀ c ∈ front, decide (c ≠ mark) = true := fun c hc =>
    decide_eq_true fun heq => hfront (heq ▸ hc)
  have hspan : (front ++ mark :: rest).span (· ≠ mark) = (front, mark :: rest) := by
    rw [List.span_eq_takeWhile_dropWhile, List.takeWhile_append_of_pos hall,
      List.dropWhile_append_of_pos hall]
    simp
  rw [cutAt, hspan]

/-! ## Reading -/

/-- What a part of a field stands for. -/
def formDecode (text : List Char) : String :=
  String.ofList (Utf8.decodeLossy (percentDecode (text.map fun c => if c = '+' then ' ' else c)))

/-- A field; without an equals sign it is a name with an empty value. -/
def formField (piece : List Char) : String × String :=
  (formDecode (cutAt '=' piece).1, formDecode ((cutAt '=' piece).2.getD []))

/-- The fields of a form.  Empty pieces are none. -/
def formFields (text : List Char) : List (String × String) :=
  ((Text.splitWhere (· = '&') text).filter (· ≠ [])).map formField

/-! ## What is written -/

theorem formEncode_cons (c : Char) (text : List Char) :
    formEncode (c :: text) =
      (if c.isAlphanum || c = '*' || c = '-' || c = '.' || c = '_' then [c]
        else if c = ' ' then ['+'] else escapeChar c) ++ formEncode text := rfl

theorem mem_formEncode {text : List Char} {d : Char} (hd : d ∈ formEncode text) :
    d = '*' ∨ d = '+' ∨ d = '%' ∨ isUnreserved d = true := by
  obtain ⟨c, -, hc⟩ := List.mem_flatMap.1 hd
  split at hc
  · next hplain =>
      rw [List.mem_singleton.1 hc]
      simp only [isUnreserved, Bool.or_eq_true, decide_eq_true_eq] at hplain ⊢
      grind
  split at hc
  · exact .inr (.inl (List.mem_singleton.1 hc))
  · exact .inr (.inr (mem_escapeChar hc))

theorem not_mem_formEncode {mark : Char} (hmark : mark ∉ ['*', '+', '%'])
    (hreserved : isUnreserved mark = false) (text : List Char) : mark ∉ formEncode text := by
  intro hmem
  obtain rfl | rfl | rfl | hplain := mem_formEncode hmem
  · exact hmark (by decide)
  · exact hmark (by decide)
  · exact hmark (by decide)
  · rw [hreserved] at hplain
    cases hplain

theorem map_escapeChar (c : Char) :
    (escapeChar c).map (fun d => if d = '+' then ' ' else d) = escapeChar c := by
  rw [List.map_congr_left (g := id), List.map_id]
  intro d hd
  have hne : d ≠ '+' := by
    rintro rfl
    obtain h | h := mem_escapeChar hd
    · exact absurd h (by decide)
    · exact absurd h (by decide)
  exact if_neg hne

theorem percentDecode_formEncode (text : List Char) :
    percentDecode ((formEncode text).map fun c => if c = '+' then ' ' else c) =
      Utf8.encode text := by
  induction text with
  | nil => rfl
  | cons c text ih =>
      have hbytes : Utf8.encode (c :: text) = String.utf8EncodeChar c ++ Utf8.encode text := rfl
      rw [formEncode_cons, List.map_append, hbytes, ← ih]
      split
      · next hplain =>
          have hplus : c ≠ '+' := by
            rintro rfl
            exact absurd hplain (by decide)
          have hsign : c ≠ '%' := by
            rintro rfl
            exact absurd hplain (by decide)
          rw [List.map_singleton, if_neg hplus]
          exact percentDecode_cons hsign _
      split
      · next hspace =>
          subst hspace
          exact percentDecode_cons (by decide) _
      · rw [map_escapeChar]
        exact percentDecode_escapeBytes _ _

theorem formDecode_formEncode (text : String) : formDecode (formEncode text.toList) = text := by
  rw [formDecode, percentDecode_formEncode, Utf8.decodeLossy, Utf8.units_encode, List.map_map]
  have hid : (fun unit : Option Char => unit.getD (Char.ofNat 0xFFFD)) ∘ some = id := rfl
  rw [hid, List.map_id, String.ofList_toList]

/-- The text of a field. -/
def fieldText (field : String × String) : List Char :=
  formEncode field.1.toList ++ '=' :: formEncode field.2.toList

theorem formField_fieldText (field : String × String) : formField (fieldText field) = field := by
  have hname : '=' ∉ formEncode field.1.toList :=
    not_mem_formEncode (by decide) (by decide) _
  rw [formField, fieldText, cutAt_append hname, Option.getD_some, formDecode_formEncode,
    formDecode_formEncode]

theorem not_mem_fieldText (field : String × String) : '&' ∉ fieldText field := by
  intro hmem
  obtain h | h := List.mem_append.1 hmem
  · exact not_mem_formEncode (by decide) (by decide) _ h
  obtain h | h := List.mem_cons.1 h
  · exact absurd h (by decide)
  · exact not_mem_formEncode (by decide) (by decide) _ h

theorem formText_cons_cons (field next : String × String) (rest : List (String × String)) :
    formText (field :: next :: rest) = fieldText field ++ '&' :: formText (next :: rest) := by
  have htext : formText (field :: next :: rest) =
      formEncode field.1.toList ++
        '=' :: formEncode field.2.toList ++ '&' :: formText (next :: rest) := rfl
  rw [htext, fieldText]

/-- Cutting a form at its ampersands gives the texts of its fields. -/
theorem splitWhere_formText (field : String × String) (rest : List (String × String)) :
    Text.splitWhere (· = '&') (formText (field :: rest)) = (field :: rest).map fieldText := by
  have hcut : ∀ f : String × String, ∀ c ∈ fieldText f,
      decide (c = '&') = false := fun f c hc =>
    decide_eq_false fun heq => not_mem_fieldText f (heq ▸ hc)
  induction rest generalizing field with
  | nil => exact Text.splitWhere_of_none (hcut field)
  | cons next rest ih =>
      rw [formText_cons_cons, Text.splitWhere_append_cons (hcut field) (by decide), ih]
      rfl

/-- A form says what was written. -/
theorem formFields_formText (fields : List (String × String)) :
    formFields (formText fields) = fields := by
  cases fields with
  | nil => rfl
  | cons field rest =>
      have hfilter : ((field :: rest).map fieldText).filter (· ≠ []) =
          (field :: rest).map fieldText := by
        apply List.filter_eq_self.2
        intro piece hpiece
        obtain ⟨f, -, rfl⟩ := List.mem_map.1 hpiece
        simp [fieldText]
      rw [formFields, splitWhere_formText, hfilter, List.map_map]
      exact (List.map_congr_left fun f _ => formField_fieldText f).trans (List.map_id _)

end StoreAdmin.Url
