import StoreAdmin.Proofs.Address.Route

/-!
# Joined paths

A path is joined of texts that are escaped one by one.  What is joined consists of
slashes, plain characters and whole escapes, and as no escaped text holds a
slash, cutting the path at its slashes gives the texts back: none is lost, and none
runs into the next one.
-/

namespace StoreAdmin

namespace Url

/-- The digits of an escape. -/
def isUpperHex (c : Char) : Bool :=
  c.isDigit || ('A' ≤ c && c ≤ 'F')

/-- A text of slashes, plain characters of ASCII and whole escapes. -/
inductive IsPathText : List Char → Prop
  | nil : IsPathText []
  | slash {rest : List Char} (hrest : IsPathText rest) : IsPathText ('/' :: rest)
  | plain {c : Char} {rest : List Char} (hc : isUnreserved c = true) (hascii : c.toNat < 128)
      (hrest : IsPathText rest) : IsPathText (c :: rest)
  | escape {high low : Char} {rest : List Char} (hhigh : isUpperHex high = true)
      (hlow : isUpperHex low = true) (hrest : IsPathText rest) :
      IsPathText ('%' :: high :: low :: rest)

theorem isUpperHex_upperDigit : ∀ n < 16, isUpperHex (Hex.upperDigit n) = true := by
  decide

namespace IsPathText

variable {rest : List Char}

theorem escapeByte_append (b : UInt8) (hrest : IsPathText rest) :
    IsPathText (escapeByte b ++ rest) := by
  have hbyte : b.toNat < 256 := b.toNat_lt
  exact .escape (isUpperHex_upperDigit _ (by omega)) (isUpperHex_upperDigit _ (by omega)) hrest

theorem escapeBytes_append (bytes : List UInt8) (hrest : IsPathText rest) :
    IsPathText (bytes.flatMap escapeByte ++ rest) := by
  induction bytes with
  | nil => exact hrest
  | cons b bytes ih =>
      rw [List.flatMap_cons, List.append_assoc]
      exact ih.escapeByte_append b

theorem percentEncode_append (text : List Char) (hrest : IsPathText rest) :
    IsPathText (percentEncode isUnreserved text ++ rest) := by
  induction text with
  | nil => exact hrest
  | cons c text ih =>
      have hcons : percentEncode isUnreserved (c :: text) =
          (if isUnreserved c then [c] else escapeChar c) ++ percentEncode isUnreserved text := rfl
      rw [hcons, List.append_assoc]
      split
      · next hplain => exact .plain hplain (toNat_lt_of_isUnreserved hplain) ih
      · exact ih.escapeBytes_append _

/-- Escaped texts behind slashes make up a path. -/
theorem pathText_escaped (texts : List String) : IsPathText (pathText (texts.map escaped)) := by
  induction texts with
  | nil => exact .nil
  | cons text texts ih =>
      rw [List.map_cons, pathText_cons]
      exact .slash (ih.percentEncode_append text.toList)

end IsPathText

/-! ## Reading a joined path -/

/-- The text that a segment stands for, if its bytes encode one. -/
def textOf? (s : Segment) : Option String :=
  (Utf8.decode? (percentDecode s)).map String.ofList

/-- The texts that a path is joined of, with `none` for a segment without a text. -/
def textsOf : List Char → List (Option String)
  | [] => []
  | _ :: rest => (Text.splitWhere (· = '/') rest).map textOf?

theorem textOf?_escaped (text : String) : textOf? (escaped text) = some text := by
  rw [textOf?, decode?_escaped, Option.map_some, String.ofList_toList]

/-- Behind the first slash of a path each escaped text is one piece. -/
theorem splitWhere_escaped (first : String) (others : List String) :
    Text.splitWhere (· = '/') (escaped first ++ pathText (others.map escaped)) =
      (first :: others).map escaped := by
  have hslash : ∀ text : String, ∀ c ∈ escaped text, decide (c = '/') = false := by
    intro text c hc
    exact decide_eq_false (ne_of_mem_escaped hc (by decide) (by decide))
  rw [List.map_cons]
  refine splitWhere_append_pathText (by decide) (hslash first) ?_
  intro s hs
  obtain ⟨text, -, rfl⟩ := List.mem_map.1 hs
  exact hslash text

/-- Each piece stands for its text. -/
theorem map_textOf?_splitWhere (first : String) (others : List String) :
    (Text.splitWhere (· = '/') (escaped first ++ pathText (others.map escaped))).map textOf? =
      (first :: others).map some := by
  rw [splitWhere_escaped, List.map_map]
  exact List.map_congr_left fun text _ => textOf?_escaped text

theorem textsOf_pathText (texts : List String) :
    textsOf (pathText (texts.map escaped)) = texts.map some := by
  cases texts with
  | nil => rfl
  | cons first others => exact map_textOf?_splitWhere first others

end Url

namespace Request

theorem textsOf_pathJoin (texts : List String) :
    Url.textsOf (pathJoin texts).toList = texts.map some := by
  rw [toList_pathJoin, Url.textsOf_pathText]

theorem pathJoin_injective : Function.Injective pathJoin := by
  intro first second h
  have hsome : first.map some = second.map some := by
    rw [← textsOf_pathJoin, ← textsOf_pathJoin, h]
  exact List.map_injective_iff.2 (Option.some_injective String) hsome

/-- What joining writes, and that nothing is lost in it.  No text at all is the empty
path, and any other path has a slash in front and one piece for each text
between its slashes, which is that text again without its escapes.  So
different texts have different paths. -/
theorem pathJoin_lossless (texts : List String) :
    Url.IsPathText (pathJoin texts).toList ∧
    (texts = [] ∧ pathJoin texts = "" ∨
      ∃ rest, (pathJoin texts).toList = '/' :: rest ∧
        (Text.splitWhere (· = '/') rest).map Url.textOf? = texts.map some) ∧
    ∀ others, pathJoin others = pathJoin texts ↔ others = texts := by
  refine ⟨?_, ?_, fun others => pathJoin_injective.eq_iff⟩
  · rw [toList_pathJoin]
    exact Url.IsPathText.pathText_escaped texts
  · cases texts with
    | nil => exact .inl ⟨rfl, rfl⟩
    | cons first others =>
        refine .inr ⟨Url.escaped first ++ Url.pathText (others.map Url.escaped), ?_, ?_⟩
        · rw [toList_pathJoin, List.map_cons, Url.pathText_cons]
        · exact Url.map_textOf?_splitWhere first others

end Request
end StoreAdmin
