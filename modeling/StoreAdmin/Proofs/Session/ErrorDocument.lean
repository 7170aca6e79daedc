import StoreAdmin.Client.Answer
import Mathlib.Order.Basic

/-!
# The element that a document is read from

Two readers look at the body of a failed answer.  One of them skips to the first tag of the bytes
and takes its name, and the other one reads the text that the bytes encode from its root.  Whenever
the second one finds a root, the first one finds the name of it: text in front of a root is blank,
and neither a document type nor what gives no token has a tag.
-/

namespace StoreAdmin

namespace Utf8

/-- Replacing what encodes no character leaves a text as it is. -/
theorem map_getD_of_sequence? {text : List Char} {units : List (Option Char)}
    (hsequence : sequence? units = some text) (other : Char) :
    units.map (·.getD other) = text := by
  induction units generalizing text with
  | nil => exact Option.some.inj hsequence
  | cons unit rest ih =>
      cases unit with
      | none => cases hsequence
      | some c =>
          obtain ⟨text', htext, rfl⟩ := Option.map_eq_some_iff.mp hsequence
          rw [List.map_cons, ih htext, Option.getD_some]

theorem decodeLossy_of_decode? {body : List UInt8} {text : List Char}
    (htext : decode? body = some text) : decodeLossy body = text :=
  map_getD_of_sequence? htext _

end Utf8

namespace Xml

variable {name attributes : List Char} {root : Node}

/-- Name and attributes of the outermost open element. -/
def outermost? : List Open → Option (List Char × List Char)
  | [] => none
  | [e] => some (e.name, e.attributes)
  | _ :: e :: stack => outermost? (e :: stack)

@[simp]
theorem outermost?_content (e : Open) (content : List Node) (stack : List Open) :
    outermost? (⟨e.name, e.attributes, content⟩ :: stack) = outermost? (e :: stack) := by
  cases stack <;> rfl

/-- While elements are open, the outermost one becomes the root. -/
theorem exists_content_of_rootOf {stack : List Open} {run : List Piece} {tokens : List Token}
    (hroot : rootOf stack run tokens = some root)
    (houtermost : outermost? stack = some (name, attributes)) :
    ∃ content, root = .element name attributes content := by
  fun_induction rootOf stack run tokens <;> simp_all [outermost?]
  exact ⟨_, hroot.symm⟩

/-- The body encodes a document whose root is `root`, an element with the local name `name`. -/
inductive IsRooted (body : List UInt8) : List Char → Node → Prop
  | element {text name attributes : List Char} {content : List Node}
    (htext : Utf8.decode? body = some text)
    (hroot : root? text = some (.element name attributes content)) :
    IsRooted body (localName name) (.element name attributes content)

/-- In front of a root there is no other tag. -/
theorem exists_element_of_rootOf {run : List Piece} {tokens : List Token}
    (hroot : rootOf [] run tokens = some root) :
    ∃ name attributes content, root = .element name attributes content ∧
      rootNameOf tokens = .found (localName name) := by
  induction tokens generalizing run with
  | nil => cases hroot
  | cons token rest ih =>
      cases token with
      | text raw => exact ih hroot
      | cdata content => exact ih hroot
      | startTag name attributes closed =>
          rw [rootOf] at hroot
          split at hroot
          · cases closed with
            | true => exact ⟨name, attributes, [], (Option.some.inj hroot).symm, rfl⟩
            | false =>
                obtain ⟨content, rfl⟩ := exists_content_of_rootOf hroot rfl
                exact ⟨name, attributes, content, rfl, rfl⟩
          · cases hroot
      | endTag name => cases hroot
      | doctype =>
          rw [rootOf] at hroot
          split at hroot
          · exact ih hroot
          · cases hroot
      | malformed => cases hroot

/-- The name that is found in the bytes is that of the root. -/
theorem IsRooted.rootName_eq {body : List UInt8} (hrooted : IsRooted body name root) :
    rootName body = .found name := by
  cases hrooted with
  | element htext hroot =>
      obtain ⟨_, _, _, heq, hname⟩ := exists_element_of_rootOf hroot
      cases heq
      rw [rootName, Utf8.decodeLossy_of_decode? htext]
      exact hname

/-- A body whose text has a root is rooted. -/
theorem exists_isRooted {body : List UInt8} {text : List Char}
    (htext : Utf8.decode? body = some text) (hroot : root? text = some root) :
    ∃ name, IsRooted body name root := by
  obtain ⟨name, attributes, content, rfl, -⟩ := exists_element_of_rootOf hroot
  exact ⟨localName name, .element htext hroot⟩

end Xml

namespace Model

variable {α : Type} [Model α] {body : List UInt8} {a : α}

/-- The record that a root describes. -/
def ofRoot? (root : Xml.Node) : Option α :=
  ((shape α).ofSource? (.nodes [root])).map ofVal

/-- A record is read from the root of a body. -/
theorem ofBytes_xml_eq_ok_iff : ofBytes .xml body = .ok a ↔
    ∃ name root, Xml.IsRooted body name root ∧ ofRoot? root = some a := by
  have hbytes : ofBytes .xml body = .ok a ↔ (ofBytes? .xml body : Option α) = some a := by
    unfold ofBytes
    cases (ofBytes? .xml body : Option α) <;> simp
  rw [hbytes]
  constructor
  · intro hread
    obtain ⟨text, htext, hread⟩ := Option.bind_eq_some_iff.mp hread
    unfold ofXml? at hread
    split at hread
    · next root hroot =>
        obtain ⟨name, hrooted⟩ := Xml.exists_isRooted htext hroot
        exact ⟨name, root, hrooted, hread⟩
    · cases hread
  · rintro ⟨_, _, ⟨htext, hroot⟩, hread⟩
    rw [ofBytes?, htext, Option.bind_some, ofXml?, hroot]
    exact hread

end Model

namespace Answer

variable {body : List UInt8} {e : ApiError}

theorem errorDocument_xml_eq_ok_iff : errorDocument .xml body = .ok e ↔
    Xml.rootName body = .found "error".toList ∧ Model.ofBytes .xml body = .ok e := by
  unfold errorDocument
  cases Xml.rootName body with
  | malformed => simp
  | absent => simp
  | found name =>
      by_cases hname : name = "error".toList
      · rw [hname]
        exact ⟨fun hread => ⟨rfl, hread⟩, And.right⟩
      · exact iff_of_false (fun hread => nomatch (if_neg hname).symm.trans hread)
          fun hread => hname (Xml.RootName.found.inj hread.1)

/-- What a body describes stands in its root, and the name of the root is the one that is found in
the bytes.  An error document is exactly what describes an error and has a root named `error`. -/
theorem errorDocument_rooted (body : List UInt8) (e : ApiError) :
    (Model.ofBytes .xml body = .ok e → ∃ name root, Xml.IsRooted body name root ∧
      Model.ofRoot? root = some e ∧ Xml.rootName body = .found name) ∧
    (errorDocument .xml body = .ok e ↔
      Model.ofBytes .xml body = .ok e ∧ ∃ root, Xml.IsRooted body "error".toList root) := by
  constructor
  · intro hread
    obtain ⟨name, root, hrooted, hdescribes⟩ := Model.ofBytes_xml_eq_ok_iff.mp hread
    exact ⟨name, root, hrooted, hdescribes, hrooted.rootName_eq⟩
  rw [errorDocument_xml_eq_ok_iff]
  constructor
  · rintro ⟨hfound, hread⟩
    obtain ⟨name, root, hrooted, -⟩ := Model.ofBytes_xml_eq_ok_iff.mp hread
    cases hrooted.rootName_eq.symm.trans hfound
    exact ⟨hread, root, hrooted⟩
  · rintro ⟨hread, root, hrooted⟩
    exact ⟨hrooted.rootName_eq, hread⟩

/-- An error behind a prolog that speaks of other elements, with prefixes and a text in front of its
code. -/
def prefixedBody : List UInt8 :=
  Utf8.encode ("<?xml version='1.0'?>\n<!DOCTYPE fault [<!ELEMENT fault ANY>]><!-- <fault/> -->" ++
    "<e:error xmlns:e='urn:e'>seen<e:code>1004</e:code></e:error> <fault>").toList

/-- An error under a root with another name. -/
def foreignBody : List UInt8 :=
  Utf8.encode "<!-- <error> --><fault><code>1004</code></fault>".toList

/-- The error in both documents. -/
def wordless : ApiError :=
  { code := ApiError.notFoundCode }

theorem errorDocument_rooted_prefixed :
    Model.ofBytes .xml prefixedBody = .ok wordless ∧
      Xml.rootName prefixedBody = .found "error".toList ∧
      errorDocument .xml prefixedBody = .ok wordless ∧
      Model.ofBytes .xml foreignBody = .ok wordless ∧
      errorDocument .xml foreignBody ≠ .ok wordless := by
  have hread : Model.ofBytes .xml prefixedBody = .ok wordless := by decide +kernel
  have hforeign : Model.ofBytes .xml foreignBody = .ok wordless := by decide +kernel
  obtain ⟨hdecoded, hiff⟩ := errorDocument_rooted prefixedBody _
  obtain ⟨name, root, hrooted, -, hfound⟩ := hdecoded hread
  have hname : name = "error".toList := by
    have hscan : Xml.rootName prefixedBody = .found "error".toList := by decide +kernel
    exact Xml.RootName.found.inj (hfound.symm.trans hscan)
  subst hname
  refine ⟨hread, hfound, hiff.2 ⟨hread, root, hrooted⟩, hforeign, fun hdocument => ?_⟩
  obtain ⟨-, root, hrooted⟩ := (errorDocument_rooted foreignBody _).2.1 hdocument
  have hscan : Xml.rootName foreignBody = .found "fault".toList := by decide +kernel
  cases hscan.symm.trans hrooted.rootName_eq

end Answer
end StoreAdmin
