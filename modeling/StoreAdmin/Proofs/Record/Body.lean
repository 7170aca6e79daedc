import StoreAdmin.Client.Body
import StoreAdmin.Proofs.Record.Catalogue
import StoreAdmin.Proofs.Record.Json
import StoreAdmin.Proofs.Record.Xml
import StoreAdmin.Proofs.Text.Utf8

/-!
# Records that are sent and received

What a body is decoded to that was written from a record.
-/

namespace StoreAdmin

/-! ## Bodies -/

/-- A body as it is received. -/
def Body.bytes (b : Body) : List UInt8 :=
  Utf8.encode b.text.toList

section Bodies

variable {α : Type} [Model α]

/-- The record `a` is written as XML, under its own root and under every other name, and what is
written is read as `b`. -/
structure Model.ReadFromXml (a b : α) : Prop where
  own : ∃ body, Body.xml a = .ok body ∧
    Payload.decode α { format := .xml, body := body.bytes } = .ok b
  under : ∀ root : String, root ≠ "" → Xml.isWritableName root.toList = true →
    ∃ body, Body.xmlUnder root a = .ok body ∧
      Payload.decode α { format := .xml, body := body.bytes } = .ok b

theorem Body.decode_xmlUnder (hlegible : (Model.shape α).every Shape.isLegible = true)
    {root : String} (hne : root ≠ "") (hroot : Xml.isWritableName root.toList = true) (a : α) :
    ∃ body, xmlUnder root a = .ok body ∧
      Payload.decode α { format := .xml, body := body.bytes } = .ok (Model.received a) := by
  have htag : Xml.isTagName root.toList = true :=
    Xml.isTagName_of_isWritableName hroot fun hempty => hne (String.toList_inj.mp hempty)
  have hread := Model.ofXml?_elementText hlegible htag a
  have hwritten : Model.xmlText? root a =
      some (Xml.elementText root.toList ((Model.fields α).xmlContent (Model.toVal a))) :=
    if_pos hroot
  have hsome : Xml.elementText root.toList ((Model.fields α).xmlContent (Model.toVal a)) ≠ [] :=
    Xml.elementText_ne_nil
  generalize Xml.elementText root.toList _ = text at hread hwritten hsome
  refine ⟨{ format := .xml, text := String.ofList text }, by rw [xmlUnder, hwritten], ?_⟩
  have hbytes : Utf8.encode text ≠ [] := fun hempty => hsome (Utf8.encode_injective hempty)
  rw [bytes, String.toList_ofList, Payload.decode, if_neg hbytes, Model.ofBytes, Model.ofBytes?,
    Utf8.decode?_encode, Option.bind_some, hread]

theorem Model.readFromXml_received (hlegible : (Model.shape α).every Shape.isLegible = true)
    (hne : (Model.heading α).root ≠ "")
    (hroot : Xml.isWritableName (Model.heading α).root.toList = true) (a : α) :
    Model.ReadFromXml a (Model.received a) where
  own := Body.decode_xmlUnder hlegible hne hroot a
  under _ hne hroot := Body.decode_xmlUnder hlegible hne hroot a

/-- The record `a` is written as JSON, and what is written is read as `b`. -/
def Model.ReadFromJson (a b : α) : Prop :=
  ∃ body, Body.json a = .ok body ∧
    Payload.decode α { format := .json, body := body.bytes } = .ok b

/-- The bytes that a record is sent as in JSON. -/
def Model.jsonBytes (a : α) : Except Error (List UInt8) :=
  (Body.json a).map Body.bytes

theorem Model.readFromJson_shared (hlegible : (Model.shape α).every Shape.isLegible = true)
    (a : α) : Model.ReadFromJson a (Model.shared a) := by
  have hread := Model.ofJson?_jsonText hlegible a
  have hsome : Model.jsonText a ≠ [] := by
    rw [Model.jsonText_eq]
    exact List.cons_ne_nil _ _
  generalize htext : Model.jsonText a = text at hread hsome
  have hbytes : Utf8.encode text ≠ [] := fun hempty => hsome (Utf8.encode_injective hempty)
  refine ⟨{ format := .json, text := String.ofList text }, by rw [Body.json, htext], ?_⟩
  rw [Body.bytes, String.toList_ofList, Payload.decode, if_neg hbytes, Model.ofBytes,
    Model.ofBytes?, hread]

/-- Records with the same bytes are read as the same record. -/
theorem Model.ReadFromJson.eq_of_jsonBytes {a b a' b' : α} (ha : ReadFromJson a a')
    (hb : ReadFromJson b b') (hbytes : jsonBytes a = jsonBytes b) : a' = b' := by
  obtain ⟨first, hfirst, hreadFirst⟩ := ha
  obtain ⟨second, hsecond, hreadSecond⟩ := hb
  rw [jsonBytes, jsonBytes, hfirst, hsecond] at hbytes
  have heq : first.bytes = second.bytes := Except.ok.inj hbytes
  rw [heq, hreadSecond] at hreadFirst
  exact (Except.ok.inj hreadFirst).symm

end Bodies

/-! ## All kinds of records -/

namespace Kind

theorem readFromXml_received {k : Kind} (hk : k ∈ all) (hexact : k.isExact = true)
    (a : k.carrier) :
    Model.ReadFromXml a (Model.received a) :=
  have hroot := isWritableName_of_mem k hk
  Model.readFromXml_received (isLegible_of_mem k hk hexact) hroot.1 hroot.2 a

/-- Every record without a ratio comes back from XML with its texts stripped of the blanks at their
ends.  Of a new bucket quota, the name of the bucket is lost as well. -/
theorem xml_round_trip :
    (∀ k ∈ all, k.isExact = true → k ≠ of BucketQuotaUpdate → ∀ a : k.carrier,
      Model.ReadFromXml a (Model.stripped a)) ∧
    ∀ a : BucketQuotaUpdate, Model.ReadFromXml a { Model.stripped a with bucketName := "" } := by
  constructor
  · intro k hk hexact hne a
    rw [← Model.received_eq_stripped (isShared_of_mem k hk hne) a]
    exact readFromXml_received hk hexact a
  · intro a
    have hmem : of BucketQuotaUpdate ∈ all := by simp [all]
    exact readFromXml_received hmem rfl a

/-- A bucket with blanks and signs of markup in its texts, an empty tag and an empty group. -/
def tagged : Bucket :=
  { name := "\tone", locked := true, retention := -1,
    tags := { tags := [{ key := " a<b ", value := "\"x\"  & y\r\n" }, {}] } }

theorem xml_round_trip_tagged : of Bucket ∈ all ∧ (of Bucket).isExact = true ∧
    of Bucket ≠ of BucketQuotaUpdate ∧
    Model.ReadFromXml tagged
      { name := "one", locked := true, retention := -1,
        tags := { tags := [{ key := "a<b", value := "\"x\"  & y" }, {}] } } := by
  have hmem : of Bucket ∈ all := by simp [all]
  have hne : of Bucket ≠ of BucketQuotaUpdate := by
    intro heq
    exact absurd (congrArg (fun k => (Model.heading k.carrier).name) heq) (by decide)
  have hstripped : Model.stripped tagged =
      { name := "one", locked := true, retention := -1,
        tags := { tags := [{ key := "a<b", value := "\"x\"  & y" }, {}] } } := by
    decide +kernel
  exact ⟨hmem, rfl, hne, hstripped ▸ xml_round_trip.1 (of Bucket) hmem rfl hne tagged⟩

theorem readFromJson_shared {k : Kind} (hk : k ∈ all) (hexact : k.isExact = true)
    (a : k.carrier) :
    Model.ReadFromJson a (Model.shared a) :=
  Model.readFromJson_shared (isLegible_of_mem k hk hexact) a

theorem readFromJson_self {k : Kind} (hk : k ∈ all) (hexact : k.isExact = true)
    (hne : k ≠ of BucketQuotaUpdate) (a : k.carrier) : Model.ReadFromJson a a := by
  have hread := readFromJson_shared hk hexact a
  rwa [Model.shared_eq (isShared_of_mem k hk hne)] at hread

theorem readFromJson_quotaUpdate (a : BucketQuotaUpdate) :
    Model.ReadFromJson a { a with bucketName := "" } := by
  have hmem : of BucketQuotaUpdate ∈ all := by simp [all]
  exact readFromJson_shared hmem rfl a

/-- Every record without a ratio comes back from JSON as it is, so different records have different
bytes.  Of a new bucket quota, the name of the bucket is lost, and nothing else. -/
theorem json_round_trip :
    (∀ k ∈ all, k.isExact = true → k ≠ of BucketQuotaUpdate →
      (∀ a : k.carrier, Model.ReadFromJson a a) ∧
        ∀ a b : k.carrier, a ≠ b → Model.jsonBytes a ≠ Model.jsonBytes b) ∧
    (∀ a : BucketQuotaUpdate, Model.ReadFromJson a { a with bucketName := "" }) ∧
    ∀ a b : BucketQuotaUpdate, { a with bucketName := "" } ≠ { b with bucketName := "" } →
      Model.jsonBytes a ≠ Model.jsonBytes b := by
  refine ⟨fun k hk hexact hne => ?_, readFromJson_quotaUpdate, fun a b hab hbytes => ?_⟩
  · have hread := readFromJson_self hk hexact hne
    exact ⟨hread, fun a b hab hbytes => hab ((hread a).eq_of_jsonBytes (hread b) hbytes)⟩
  · exact hab ((readFromJson_quotaUpdate a).eq_of_jsonBytes (readFromJson_quotaUpdate b) hbytes)

/-- A key with signs of JSON, a control character and a character of four bytes. -/
def quoted : SecretKeyCreation :=
  { secretKey := "\\\"\u0001\n🔑", namespaceName := "\\u0041" }

theorem json_round_trip_quoted : of SecretKeyCreation ∈ all ∧
    (of SecretKeyCreation).isExact = true ∧ of SecretKeyCreation ≠ of BucketQuotaUpdate ∧
    Model.ReadFromJson quoted quoted ∧ quoted ≠ { quoted with namespaceName := "A" } ∧
    Model.jsonBytes quoted ≠ Model.jsonBytes { quoted with namespaceName := "A" } := by
  have hmem : of SecretKeyCreation ∈ all := by simp [all]
  have hne : of SecretKeyCreation ≠ of BucketQuotaUpdate := by
    intro heq
    exact absurd (congrArg (fun k => (Model.heading k.carrier).name) heq) (by decide)
  have hdiffers : quoted ≠ { quoted with namespaceName := "A" } := by decide
  obtain ⟨hread, hbytes⟩ := json_round_trip.1 (of SecretKeyCreation) hmem rfl hne
  exact ⟨hmem, rfl, hne, hread quoted, hdiffers, hbytes _ _ hdiffers⟩

end Kind
end StoreAdmin
