import StoreAdmin.Client.Body
import StoreAdmin.Model.Metering.Count
import StoreAdmin.Model.Tenant
import StoreAdmin.Proofs.Record.Children
import StoreAdmin.Proofs.Record.Members
import StoreAdmin.Proofs.Xml.Spelling
import Mathlib.Logic.Relation

/-!
# Bodies that describe the same record

Two bodies are decoded alike, whatever type of records is asked for, if the values that they spell
can be turned into each other by variations that no reader of records can see: moves of members and
of whole runs of children, unknown members and children, prefixes, and the name of the root.
-/

namespace StoreAdmin

open Relation (EqvGen)

/-- What no single variation changes is not changed by any number of them. -/
theorem eq_of_eqvGen {α β : Type} {r : α → α → Prop} {f : α → β} {a b : α}
    (hstep : ∀ a b, r a b → f a = f b) (hvaries : EqvGen r a b) : f a = f b := by
  induction hvaries with
  | rel a b hr => exact hstep a b hr
  | refl a => rfl
  | symm a b _ ih => exact ih.symm
  | trans a b c _ _ ihab ihbc => exact ihab.trans ihbc

namespace Xml

/-- What may change in the root of a document that is read as a record. -/
inductive VariesRoot (fields : Fields) : Node → Node → Prop
  | renamed (name name' attributes : List Char) (content : List Node) :
    VariesRoot fields (.element name attributes content) (.element name' attributes content)
  | varied (name attributes : List Char) {elements elements' : List Element}
    (hvaries : Varies (some fields) elements elements') :
    VariesRoot fields (.element name attributes (elements.map Element.node))
      (.element name attributes (elements'.map Element.node))

theorem VariesRoot.ofSource?_eq {heading : Heading} {fields : Fields} {root root' : Node}
    (hvaries : VariesRoot fields root root') :
    (Shape.record heading fields).ofSource? (.nodes [root]) =
      (Shape.record heading fields).ofSource? (.nodes [root']) := by
  cases hvaries with
  | renamed name name' attributes content =>
    exact Shape.ofSource?_name _ name name' attributes content
  | varied name attributes hvaries => exact hvaries.readAlike _ rfl name name attributes

end Xml

namespace Payload

variable {α : Type} [Model α] {body : List UInt8}

theorem decode_json {v : Json.Value} (hdocument : Json.IsDocument body v) :
    decode α ⟨.json, body⟩ = match (Model.ofJson? v : Option α) with
      | some a => .ok a
      | none => .error (.decode .json .malformed) := by
  have hvalue := hdocument.ofBytes?_eq
  have hne : body ≠ [] := by
    rintro rfl
    cases hvalue
  rw [decode, if_neg hne, Model.ofBytes, Model.ofBytes?, hvalue]
  rfl

theorem decode_xml {root : Xml.Node} (hdocument : Xml.IsDocument body root) :
    decode α ⟨.xml, body⟩ =
      match ((Model.shape α).ofSource? (.nodes [root])).map Model.ofVal with
      | some a => .ok a
      | none => .error (.decode .xml .malformed) := by
  obtain ⟨text, htext, hroot⟩ := hdocument.root?_eq
  have hne : body ≠ [] := by
    rintro rfl
    cases htext
    cases hroot
  have hread : (Model.ofBytes? .xml body : Option α) =
      ((Model.shape α).ofSource? (.nodes [root])).map Model.ofVal := by
    rw [Model.ofBytes?, htext, Option.bind_some, Model.ofXml?, hroot]
  rw [← hread, decode, if_neg hne]
  rfl

/-- Bodies that spell the same value but for variations are decoded as the same record, or neither
of them is decoded. -/
theorem decode_varied (α : Type) [Model α] (body body' : List UInt8) :
    (∀ v v', Json.IsDocument body v → Json.IsDocument body' v' →
      EqvGen (Model.shape α).VariesJson v v' →
        decode α ⟨.json, body⟩ = decode α ⟨.json, body'⟩) ∧
    ∀ root root', Xml.IsDocument body root → Xml.IsDocument body' root' →
      EqvGen (Xml.VariesRoot (Model.fields α)) root root' →
        decode α ⟨.xml, body⟩ = decode α ⟨.xml, body'⟩ := by
  constructor
  · intro v v' hdocument hdocument' hvaries
    have hread : (Model.shape α).ofJson? v = (Model.shape α).ofJson? v' :=
      eq_of_eqvGen (fun _ _ => Shape.VariesJson.ofJson?_eq) hvaries
    rw [decode_json hdocument, decode_json hdocument', Model.ofJson?, Model.ofJson?, hread]
  · intro root root' hdocument hdocument' hvaries
    have hread : (Model.shape α).ofSource? (.nodes [root]) =
        (Model.shape α).ofSource? (.nodes [root']) :=
      eq_of_eqvGen (f := fun root => (Model.shape α).ofSource? (.nodes [root]))
        (fun _ _ => Xml.VariesRoot.ofSource?_eq) hvaries
    rw [decode_xml hdocument, decode_xml hdocument', hread]

/-! ## One record in four bodies -/

section Bodies

open Json (Value)
open Xml (Element Varies VariesRoot)

/-- The members of a tenant. -/
def plainMembers : List (Option String × Value) :=
  [(some "id", .string (some "ns1")), (some "is_compliance_enabled", .boolean true)]

/-- The members in another order, with one more of them. -/
def variedMembers : List (Option String × Value) :=
  [(some "is_compliance_enabled", .boolean true),
   (some "labels", .array [.object [(some "id", .null)]]), (some "id", .string (some "ns1"))]

def plainJson : List UInt8 :=
  Utf8.encode "\x7b\"id\": \"ns1\", \"is_compliance_enabled\": true\x7d".toList

def variedJson : List UInt8 :=
  Utf8.encode ("\x7b\"is_compliance_enabled\":true," ++
    "\"labels\":[\x7b\"id\":null\x7d],\"id\":\"ns1\"\x7d").toList

/-- An element that holds a text. -/
def textElement (name text : String) : Element :=
  ⟨name.toList, [], [.text [.text text.toList]]⟩

/-- An element that no tenant knows. -/
def labelsElement : Element :=
  ⟨"labels".toList, [], [.element "id".toList [] []]⟩

/-- The children of a tenant. -/
def plainChildren : List Element :=
  [textElement "id" "ns1", textElement "is_compliance_enabled" "true"]

/-- The children in another order, with prefixes and with one more of them. -/
def variedChildren : List Element :=
  [textElement "t:is_compliance_enabled" "true", labelsElement, textElement "t:id" "ns1"]

def plainXml : List UInt8 :=
  Utf8.encode ("<?xml version='1.0'?><tenant xmlns:t='urn:t'>\n<id>ns1</id>" ++
    "<is_compliance_enabled>true</is_compliance_enabled></tenant>").toList

def variedXml : List UInt8 :=
  Utf8.encode ("<t:owner xmlns:t='urn:t'><t:is_compliance_enabled>true</t:is_compliance_enabled>" ++
    "<labels><id/></labels><t:id>ns1</t:id></t:owner>").toList

theorem isDocument_json : Json.IsDocument plainJson (.object plainMembers) ∧
    Json.IsDocument variedJson (.object variedMembers) := by
  rw [Json.IsDocument, Json.IsDocument, plainJson, variedJson, Utf8.units_encode,
    Utf8.units_encode]
  constructor <;> rfl

theorem variesJson_members :
    EqvGen (Model.shape Tenant).VariesJson (.object plainMembers) (.object variedMembers) := by
  have hadded : (Model.shape Tenant).VariesJson
      (.object ([(some "is_compliance_enabled", .boolean true)] ++
        [(some "id", .string (some "ns1"))]))
      (.object variedMembers) := .added rfl _
  exact .trans _ _ _ (.rel _ _ (.moved (.members (.swap _ _ [])))) (.rel _ _ hadded)

/-- The element that holds a text alone. -/
theorem spells_text (name text : List Char) :
    Xml.Spells [.startTag name [] false, .text text, .endTag name]
      (.element name [] (Xml.runNodes [.text text])) :=
  .opened name [] (.text [.text text])

theorem isDocument_plainXml : Xml.IsDocument plainXml
    (.element "tenant".toList " xmlns:t='urn:t'".toList (plainChildren.map Element.node)) := by
  refine ⟨_, [], _, [], Utf8.decode?_encode _, by simp, .opened _ _ (.element [.text ['\n']]
    (spells_text "id".toList "ns1".toList) (.element [] (spells_text
      "is_compliance_enabled".toList "true".toList) (.text []))), ?_⟩
  decide +kernel

theorem isDocument_variedXml : Xml.IsDocument variedXml
    (.element "t:owner".toList " xmlns:t='urn:t'".toList (variedChildren.map Element.node)) := by
  refine ⟨_, [], _, [], Utf8.decode?_encode _, by simp, .opened _ _ (.element []
    (spells_text "t:is_compliance_enabled".toList "true".toList) (.element []
      (.opened "labels".toList [] (.element [] (.closed "id".toList []) (.text [])))
      (.element [] (spells_text "t:id".toList "ns1".toList) (.text [])))), ?_⟩
  decide +kernel

theorem variesRoot_children (attributes : List Char) :
    EqvGen (VariesRoot (Model.fields Tenant))
      (.element "tenant".toList attributes (plainChildren.map Element.node))
      (.element "t:owner".toList attributes (variedChildren.map Element.node)) := by
  have hmoved : Varies (some (Model.fields Tenant)) plainChildren
      [textElement "is_compliance_enabled" "true", textElement "id" "ns1"] := by
    have hperm : [[textElement "id" "ns1"], [textElement "is_compliance_enabled" "true"]].Perm
        [[textElement "is_compliance_enabled" "true"], [textElement "id" "ns1"]] := .swap _ _ []
    have hkeys :
        (textElement "id" "ns1").key ≠ (textElement "is_compliance_enabled" "true").key := by
      decide
    exact .moved hperm (by simpa using hkeys)
  have hadded : Varies (some (Model.fields Tenant))
      ([textElement "is_compliance_enabled" "true"] ++ [textElement "id" "ns1"])
      ([textElement "is_compliance_enabled" "true"] ++ labelsElement :: [textElement "id" "ns1"]) :=
    .added (by decide +kernel) rfl (by decide +kernel)
  have hrenamed : Varies (some (Model.fields Tenant))
      [textElement "is_compliance_enabled" "true", labelsElement, textElement "id" "ns1"]
      variedChildren :=
    .renamed
      (.cons ⟨rfl, rfl, rfl⟩ (.cons ⟨rfl, rfl, rfl⟩ (.cons ⟨rfl, rfl, rfl⟩ .nil)))
      (by decide +kernel)
  exact .trans _ _ _ (.rel _ _ (.varied _ _ hmoved)) (.trans _ _ _ (.rel _ _ (.varied _ _ hadded))
    (.trans _ _ _ (.rel _ _ (.varied _ _ hrenamed)) (.rel _ _ (.renamed _ _ _ _))))

theorem decode_varied_tenant :
    decode Tenant ⟨.json, plainJson⟩ = decode Tenant ⟨.json, variedJson⟩ ∧
      decode Tenant ⟨.xml, plainXml⟩ = decode Tenant ⟨.xml, variedXml⟩ ∧
      decode Tenant ⟨.json, plainJson⟩ = .ok { id := "ns1", complianceEnabled := true } ∧
      decode Tenant ⟨.xml, plainXml⟩ = .ok { id := "ns1", complianceEnabled := true } := by
  refine ⟨?_, ?_, ?_, ?_⟩
  · exact (decode_varied Tenant plainJson variedJson).1 _ _ isDocument_json.1 isDocument_json.2
      variesJson_members
  · exact (decode_varied Tenant plainXml variedXml).2 _ _ isDocument_plainXml isDocument_variedXml
      (variesRoot_children _)
  · decide +kernel
  · decide +kernel

end Bodies

/-! ## Variations that are seen -/

/-- Two items of a list, the first one with a prefix. -/
def listBody (pre : String) : List UInt8 :=
  Utf8.encode ("<c xmlns:n='urn:n'><" ++ pre ++
    "storage_class_counts/><storage_class_counts/></c>").toList

/-- A tenant behind a declaration of an entity. -/
def declaringBody (child : String) : List UInt8 :=
  Utf8.encode ("<!DOCTYPE tenant [<!ENTITY e 'x'>]><tenant><id>ns1</id>" ++ child ++
    "</tenant>").toList

/-- An object with the members of a tenant and more of them. -/
def objectBody (members : String) : List UInt8 :=
  Utf8.encode ("\x7b\"id\":\"ns1\"" ++ members ++ "\x7d").toList

/-- Two elements behind a document type with an angle bracket in a comment. -/
def unbalancedBody (children : String) : List UInt8 :=
  Utf8.encode ("<!DOCTYPE a [<!-- < -->]><a k='>'>" ++ children ++ "</a>").toList

/-- A tenant in Latin letters of one byte each. -/
def latinBody (child : List UInt8) : List UInt8 :=
  Utf8.encode "<?xml version='1.0' encoding='ISO-8859-1'?><tenant><id>ns1</id>".toList ++ child ++
    Utf8.encode "</tenant>".toList

/-- A prefix divides a list if not all of its items have it.  An unknown child is seen if it starts
with an entity that the document declares, and an unknown member if its name is no text.  Where a
document type has angle brackets without a counterpart or a body is not in UTF-8, another root is
read or none. -/
theorem not_decode_varied_divided :
    (decode StorageClassCounts ⟨.xml, listBody ""⟩).isOk = true ∧
      (decode StorageClassCounts ⟨.xml, listBody "n:"⟩).isOk = false ∧
    (decode Tenant ⟨.xml, declaringBody ""⟩).isOk = true ∧
      (decode Tenant ⟨.xml, declaringBody "<u>&e;</u>"⟩).isOk = false ∧
    (decode Tenant ⟨.json, objectBody ""⟩).isOk = true ∧
      (decode Tenant ⟨.json, objectBody ",\"\\ud800\":1"⟩).isOk = false ∧
    decode Tenant ⟨.xml, unbalancedBody "<u/><t><id>ns1</id></t>"⟩ = .ok {} ∧
      decode Tenant ⟨.xml, unbalancedBody "<t><id>ns1</id></t><u/>"⟩ = .ok { id := "ns1" } ∧
    (decode Tenant ⟨.xml, latinBody []⟩).isOk = true ∧
      (decode Tenant ⟨.xml, latinBody [0x3C, 0x75, 0x3E, 0xE9, 0x3C, 0x2F, 0x75, 0x3E]⟩).isOk =
        false := by
  refine ⟨?_, ?_, ?_, ?_, ?_, ?_, ?_, ?_, ?_, ?_⟩ <;> decide +kernel

end Payload
end StoreAdmin
