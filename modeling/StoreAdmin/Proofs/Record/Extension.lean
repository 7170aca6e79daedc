import StoreAdmin.Proofs.Json.End
import StoreAdmin.Proofs.Record.Catalogue
import StoreAdmin.Client.Body
import StoreAdmin.Proofs.Text.Cut
import StoreAdmin.Proofs.Xml.Root

/-!
# Bodies that go on

A body is followed by letters and digits.  A JSON document does not go on, so
the longer body is refused.  An XML document is read up to the end of its root,
so the longer body is read as the same record.
-/

namespace StoreAdmin

/-- Whether a character is a letter or a digit.  All characters outside of ASCII count as such. -/
def isLetterOrDigit (c : Char) : Bool :=
  c.isAlphanum || 0x80 ≤ c.toNat

theorem isInner_of_isLetterOrDigit {c : Char} (hc : isLetterOrDigit c = true) :
    Json.isInner c = true := by
  have hsigns : " \t\n\r\"[]\x7b\x7d,:".toList.all (!isLetterOrDigit ·) = true := by decide
  have hne : ∀ d ∈ " \t\n\r\"[]\x7b\x7d,:".toList, c ≠ d := by
    rintro d hd rfl
    simpa [hc] using List.all_eq_true.mp hsigns c hd
  simp at hne
  simp [Json.isInner, Json.isPlain, Json.isBracket, Text.isBlank, hne]

theorem exists_not_isBlank {more : List Char} (hne : more ≠ [])
    (hmore : more.all isLetterOrDigit = true) : ∃ c ∈ more, Text.isBlank c = false := by
  obtain ⟨c, rest, rfl⟩ := List.exists_cons_of_ne_nil hne
  have hinner := isInner_of_isLetterOrDigit (List.all_eq_true.mp hmore c List.mem_cons_self)
  simp only [Json.isInner, Bool.and_eq_true, Bool.not_eq_true'] at hinner
  exact ⟨c, List.mem_cons_self, hinner.1.1.1⟩

section Bodies

variable {α : Type} [Model α] {format : Format} {body : List UInt8} {a : α} {more : List Char}

/-- Only an object or an array is read as a record. -/
theorem Model.isContainer_of_ofJson? {v : Json.Value} (hread : (ofJson? v : Option α) = some a) :
    v.isContainer = true := by
  cases v with
  | object | array => rfl
  | _ => cases hread

/-- A record in JSON does not go on. -/
theorem Model.ofBytes?_json_append (hread : ofBytes? .json body = some a) (hne : more ≠ [])
    (hmore : more.all isLetterOrDigit = true) :
    (ofBytes? .json (body ++ Utf8.encode more) : Option α) = none := by
  obtain ⟨v, hvalue, hrecord⟩ := Option.bind_eq_some_iff.mp hread
  have hnone : Json.ofUnits? (Utf8.units body ++ more.map some) = none :=
    Json.ofUnits?_append hvalue (isContainer_of_ofJson? hrecord) (exists_not_isBlank hne hmore)
  rw [ofBytes?, Json.ofBytes?, Utf8.units_append_encode, hnone, Option.bind_none]

/-- A record in XML is read up to the end of its root. -/
theorem Model.ofBytes?_xml_append (hread : ofBytes? .xml body = some a) (more : List Char) :
    ofBytes? .xml (body ++ Utf8.encode more) = some a := by
  obtain ⟨text, htext, hrecord⟩ := Option.bind_eq_some_iff.mp hread
  rw [ofBytes?, Utf8.decode?_append_encode, htext, Option.map_some, Option.bind_some, ofXml?]
  cases hroot : Xml.root? text with
  | none =>
    rw [ofXml?, hroot] at hrecord
    cases hrecord
  | some root =>
    rw [ofXml?, hroot] at hrecord
    rw [Xml.root?_append hroot]
    exact hrecord

/-- Letters and digits alone are no record. -/
theorem Model.ofBytes?_of_letters (hmore : more.all isLetterOrDigit = true) :
    (ofBytes? format (Utf8.encode more) : Option α) = none := by
  cases format with
  | json =>
    cases hread : (ofBytes? .json (Utf8.encode more) : Option α) with
    | none => rfl
    | some a =>
      obtain ⟨v, hvalue, hrecord⟩ := Option.bind_eq_some_iff.mp hread
      rw [Json.ofBytes?, Utf8.units_encode] at hvalue
      have hscalar := Json.isContainer_of_inner
        (fun c hc => isInner_of_isLetterOrDigit (List.all_eq_true.mp hmore c hc)) hvalue
      rw [isContainer_of_ofJson? hrecord] at hscalar
      cases hscalar
  | xml =>
    have htag : '<' ∉ more := by
      intro hmem
      exact absurd (List.all_eq_true.mp hmore '<' hmem) (by decide)
    rw [ofBytes?, Utf8.decode?_encode, Option.bind_some, ofXml?, Xml.root?_of_plain htag]

/-- A body that is read, followed by letters and digits, is refused exactly if it is JSON or has no
bytes of its own.  Any other body is XML, and what follows its root is not looked at. -/
theorem Payload.extended_refused_iff
    (hread : Payload.decode α { format, body } = .ok a) (hne : more ≠ [])
    (hmore : more.all isLetterOrDigit = true) :
    (Payload.decode α { format, body := body ++ Utf8.encode more } =
        .error (.decode format .malformed) ↔ format = .json ∨ body = []) ∧
      (format = .xml → body ≠ [] →
        Payload.decode α { format, body := body ++ Utf8.encode more } = .ok a) := by
  have hlong : body ++ Utf8.encode more ≠ [] := by
    intro hnil
    exact hne (Utf8.encode_injective (List.append_eq_nil_iff.mp hnil).2)
  have hdecode : Payload.decode α { format, body := body ++ Utf8.encode more } =
      Model.ofBytes format (body ++ Utf8.encode more) := if_neg hlong
  rw [hdecode]
  by_cases hempty : body = []
  · subst hempty
    have hnone : (Model.ofBytes? format ([] ++ Utf8.encode more) : Option α) = none :=
      Model.ofBytes?_of_letters hmore
    refine ⟨iff_of_true ?_ (.inr rfl), fun _ habsurd => absurd rfl habsurd⟩
    rw [Model.ofBytes, hnone]
  · have hsome : Model.ofBytes? format body = some a := by
      rw [Payload.decode, if_neg hempty, Model.ofBytes] at hread
      split at hread
      · next b hb => rw [hb, Except.ok.inj hread]
      · cases hread
    cases format with
    | json =>
      refine ⟨iff_of_true ?_ (.inl rfl), fun hxml => by cases hxml⟩
      rw [Model.ofBytes, Model.ofBytes?_json_append hsome hne hmore]
    | xml =>
      have hlonger : (Model.ofBytes .xml (body ++ Utf8.encode more) : Except Error α) = .ok a := by
        rw [Model.ofBytes, Model.ofBytes?_xml_append hsome]
      refine ⟨iff_of_false ?_ (by simp [hempty]), fun _ _ => hlonger⟩
      rw [hlonger]
      exact fun heq => by cases heq

end Bodies

/-- A tenant in JSON. -/
def tenantObject : List UInt8 :=
  Utf8.encode "\x7b\"id\":\"ns1\"\x7d".toList

theorem Payload.extended_refused_iff_tenant :
    Payload.decode Tenant { format := .json, body := tenantObject } = .ok { id := "ns1" } ∧
    "x1".toList.all isLetterOrDigit = true ∧
    Payload.decode Tenant { format := .json, body := tenantObject ++ Utf8.encode "x1".toList } =
      .error (.decode .json .malformed) := by
  have hread : Payload.decode Tenant { format := .json, body := tenantObject } =
      .ok { id := "ns1" } := by
    decide +kernel
  have hmore : "x1".toList.all isLetterOrDigit = true := by decide
  exact ⟨hread, hmore, (extended_refused_iff hread (by decide) hmore).1.mpr (.inl rfl)⟩

/-- A tenant in XML. -/
def tenantElement : List UInt8 :=
  Utf8.encode "<tenant><id>ns1</id></tenant>".toList

/-- A tenant in XML that is followed by letters and digits is read as the tenant. -/
theorem Payload.not_refused_tenant :
    ¬∀ (body : List UInt8) (a : Tenant) (more : List Char),
      Payload.decode Tenant { format := .xml, body } = .ok a → more ≠ [] →
      more.all isLetterOrDigit = true →
      Payload.decode Tenant { format := .xml, body := body ++ Utf8.encode more } =
        .error (.decode .xml .malformed) := by
  intro hall
  have hread : Payload.decode Tenant { format := .xml, body := tenantElement } =
      .ok { id := "ns1" } := by
    decide +kernel
  have hlonger :
      Payload.decode Tenant { format := .xml, body := tenantElement ++ Utf8.encode "x1".toList } =
        .ok { id := "ns1" } := by
    decide +kernel
  have hrefused := hall tenantElement _ "x1".toList hread (by decide) (by decide)
  rw [hlonger] at hrefused
  cases hrefused

end StoreAdmin
