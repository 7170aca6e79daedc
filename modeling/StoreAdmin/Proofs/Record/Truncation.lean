import StoreAdmin.Proofs.Json.Depth
import StoreAdmin.Proofs.Record.Body
import StoreAdmin.Proofs.Text.Cut
import StoreAdmin.Proofs.Xml.Root

/-!
# Bodies that break off

No part of a written body is read as a record.  An object that breaks off has an
open container, and an element that breaks off is not closed, wherever that is,
even within a character.  Only a body without bytes is read, as the empty record.
-/

namespace StoreAdmin

section Written

variable {α : Type} [Model α]

/-- The bodies that a record is written as: JSON, or XML under its own root or another name. -/
inductive Model.WrittenAs (a : α) (body : Body) : Prop where
  | json (hbody : Body.json a = .ok body)
  | xml (hbody : Body.xml a = .ok body)
  | xmlUnder (root : String) (hbody : Body.xmlUnder root a = .ok body)

theorem Body.ofBytes?_json_of_cut {a : α} {body : Body} (hbody : Body.json a = .ok body)
    {front : List UInt8} (hfront : front <+: body.bytes) (hproper : front ≠ body.bytes) :
    (Model.ofBytes? body.format front : Option α) = none := by
  cases hbody
  rw [bytes, String.toList_ofList, Model.jsonText_eq] at hfront hproper
  obtain ⟨kept, cut, hcut⟩ := Utf8.exists_isCut hfront hproper
  rw [Model.ofBytes?, Json.ofBytes?, hcut.units_eq,
    Json.ofUnits?_of_cut (Json.steady_membersText _) hcut.starts hcut.proper hcut.units_cut,
    Option.bind_none]

theorem Body.ofBytes?_xmlUnder_of_cut (hnamed : (Model.shape α).every Shape.isNamed = true)
    {root : String} {a : α} {body : Body} (hbody : Body.xmlUnder root a = .ok body)
    {front : List UInt8} (hfront : front <+: body.bytes) (hproper : front ≠ body.bytes) :
    (Model.ofBytes? body.format front : Option α) = none := by
  rw [xmlUnder, Model.xmlText?] at hbody
  by_cases hroot : Xml.isWritableName root.toList = true
  · rw [if_pos hroot] at hbody
    cases hbody
    have hname : root.toList = [] ∨ Xml.isTagName root.toList = true := by
      by_cases hempty : root.toList = []
      · exact .inl hempty
      · exact .inr (Xml.isTagName_of_isWritableName hroot hempty)
    rw [bytes, String.toList_ofList] at hfront hproper
    obtain ⟨kept, cut, hcut⟩ := Utf8.exists_isCut hfront hproper
    have hnone : Xml.root? kept = none :=
      Xml.root?_of_cut hname (Model.isContent hnamed a) hcut.starts hcut.proper
    rw [Model.ofBytes?]
    cases hread : Utf8.decode? front with
    | none => rfl
    | some read => rw [hcut.eq_of_decode? hread, Option.bind_some, Model.ofXml?, hnone]
  · rw [if_neg hroot] at hbody
    cases hbody

theorem Model.WrittenAs.ofBytes?_of_cut (hnamed : (Model.shape α).every Shape.isNamed = true)
    {a : α} {body : Body} (hwritten : WrittenAs a body) {front : List UInt8}
    (hfront : front <+: body.bytes) (hproper : front ≠ body.bytes) :
    (Model.ofBytes? body.format front : Option α) = none := by
  cases hwritten with
  | json hbody => exact Body.ofBytes?_json_of_cut hbody hfront hproper
  | xml hbody => exact Body.ofBytes?_xmlUnder_of_cut hnamed hbody hfront hproper
  | xmlUnder root hbody => exact Body.ofBytes?_xmlUnder_of_cut hnamed hbody hfront hproper

end Written

namespace Kind

/-- A written body that breaks off is refused, unless nothing is left of it: then it is read as the
empty record. -/
theorem truncated_refused {k : Kind} (hk : k ∈ all) {a : k.carrier} {body : Body}
    (hwritten : Model.WrittenAs a body) {front : List UInt8} (hfront : front <+: body.bytes)
    (hproper : front ≠ body.bytes) :
    Payload.decode k.carrier { format := body.format, body := front } =
      if front = [] then .ok (Model.empty k.carrier)
      else .error (.decode body.format .malformed) := by
  have hnone := hwritten.ofBytes?_of_cut (isNamed_of_mem k hk) hfront hproper
  unfold Payload.decode
  split
  · rfl
  · rw [Model.ofBytes, hnone]

/-- A tag with a character of two bytes. -/
def accented : Tag :=
  { key := "é" }

/-- The text is cut behind the first byte of the character. -/
theorem truncated_refused_accented :
    of Tag ∈ all ∧
    Body.xml accented = .ok { format := .xml, text := "<Tag><Key>é</Key><Value/></Tag>" } ∧
    Payload.decode Tag { format := .xml, body := Utf8.encode "<Tag><Key>".toList ++ [0xC3] } =
      .error (.decode .xml .malformed) := by
  have hmem : of Tag ∈ all := by simp [all]
  have hbody : Body.xml accented =
      .ok { format := .xml, text := "<Tag><Key>é</Key><Value/></Tag>" } := by
    decide +kernel
  refine ⟨hmem, hbody, ?_⟩
  have hrefused := truncated_refused hmem (.xml hbody)
    (show Utf8.encode "<Tag><Key>".toList ++ [0xC3] <+: _ by decide +kernel) (by decide +kernel)
  exact hrefused.trans (if_neg (by decide +kernel))

end Kind
end StoreAdmin
