import StoreAdmin.Proofs.Record.Shape
import StoreAdmin.Proofs.Xml.Element
import Mathlib.Data.List.Pairwise

/-!
# Records that can be told from their elements

The names of fields are identifiers, no name that a field is written under is read into another
field, and a field that must be given is never left out.  All of this is decided on the shape.
-/

namespace StoreAdmin

open Xml

/-! ## Names -/

/-- Whether a byte is an ASCII letter, a digit or an underscore. -/
def isIdentifierByte (b : UInt8) : Bool :=
  (0x61 ≤ b.toNat && b.toNat ≤ 0x7A) || (0x41 ≤ b.toNat && b.toNat ≤ 0x5A) ||
    (0x30 ≤ b.toNat && b.toNat ≤ 0x39) || b.toNat = 0x5F

/-- Whether a name consists of such bytes, as the names of fields do. -/
def isIdentifier (name : String) : Bool :=
  name ≠ "" && name.toByteArray.data.toList.all isIdentifierByte

section Identifier

variable {name : String} (hname : isIdentifier name = true)

include hname

theorem isIdentifierByte_of_mem {c : Char} (hc : c ∈ name.toList) (hascii : c.toNat < 0x80) :
    isIdentifierByte (UInt8.ofNat c.toNat) = true := by
  simp only [isIdentifier, Bool.and_eq_true, List.all_eq_true] at hname
  apply hname.2
  have hcode : String.utf8EncodeChar c = [UInt8.ofNat c.toNat] := if_pos (Nat.le_of_lt_succ hascii)
  rw [← String.utf8Encode_toList, List.utf8Encode, List.toList_data_toByteArray]
  exact List.mem_flatMap.mpr ⟨c, hc, hcode ▸ List.mem_singleton_self _⟩

/-- An identifier has no other ASCII character. -/
theorem not_mem_of_isIdentifier (c : Char) (hascii : c.toNat < 0x80)
    (hsign : isIdentifierByte (UInt8.ofNat c.toNat) = false) : c ∉ name.toList :=
  fun hc => Bool.eq_false_iff.mp hsign (isIdentifierByte_of_mem hname hc hascii)

theorem isTagName_of_isIdentifier : isTagName name.toList = true := by
  have hsigns : tagSigns.all
      (fun c => c.toNat < 0x80 && !isIdentifierByte (UInt8.ofNat c.toNat)) = true := by
    decide
  have hne : name ≠ "" := by
    simp only [isIdentifier, Bool.and_eq_true, decide_eq_true_eq] at hname
    exact hname.1
  refine isTagName_iff.mpr
    ⟨fun hempty => hne (String.toList_inj.mp hempty), fun c hc hsign => ?_⟩
  have hforeign := List.all_eq_true.mp hsigns c hsign
  simp only [Bool.and_eq_true, decide_eq_true_eq, Bool.not_eq_true'] at hforeign
  exact not_mem_of_isIdentifier hname c hforeign.1 hforeign.2 hc

/-- An identifier has no prefix, so it is looked up by all of it. -/
theorem keyOf_of_isIdentifier : keyOf name.toList = name := by
  have hcolon : ∀ c ∈ name.toList, decide (c ≠ ':') = true := by
    intro c hc
    rw [decide_eq_true_eq]
    rintro rfl
    exact not_mem_of_isIdentifier hname ':' (by decide) (by decide) hc
  rw [keyOf, localName, List.dropWhile_eq_nil_iff.mpr hcolon]
  exact String.ofList_toList

end Identifier

/-! ## What makes a shape legible -/

/-- Whether a field leaves an element in every document, as a field without a default has to. -/
def Entry.isGiven (e : Entry) : Bool :=
  e.1.omission = .never && !e.2.isList

/-- Whether what is written for values of a shape is read back: the items of a list are elements,
and the fields of a record have identifiers for names and are told apart by them. -/
def Shape.isLegible : Shape → Bool
  | .ratio => false
  | .list item => !item.isList
  | .record heading fields =>
    fields.toList.all (fun e => !e.1.Travels || isIdentifier e.1.wire) &&
      decide (fields.toList.Pairwise fun a b => a.1.Apart b.1) &&
      (heading.lenient || fields.toList.all Entry.isGiven)
  | _ => true

/-- Whether what is written for values of a shape are elements: the fields of a record have
identifiers for names. -/
def Shape.isNamed : Shape → Bool
  | .record _ fields => fields.toList.all fun e => !e.1.Travels || isIdentifier e.1.wire
  | _ => true

theorem Shape.isNamed_of_isLegible (s : Shape) (hs : s.isLegible = true) : s.isNamed = true := by
  cases s with
  | record heading fields =>
    rw [isLegible, Bool.and_eq_true, Bool.and_eq_true] at hs
    exact hs.1.1
  | _ => rfl

theorem Fields.named_of_isNamed {heading : Heading} {fs : Fields}
    (hs : (Shape.record heading fs).isNamed = true) :
    ∀ e ∈ fs.toList, e.1.Travels → isIdentifier e.1.wire = true := by
  intro e he htravels
  simp only [Shape.isNamed, List.all_eq_true, Bool.or_eq_true, Bool.not_eq_true',
    decide_eq_false_iff_not] at hs
  exact (hs e he).resolve_left (not_not_intro htravels)

/-- The fields of a record that is read back. -/
structure Fields.Legible (fs : Fields) : Prop where
  named : ∀ e ∈ fs.toList, e.1.Travels → isIdentifier e.1.wire = true
  apart : fs.toList.Pairwise fun a b => a.1.Apart b.1
  every : fs.every Shape.isLegible = true

namespace Fields.Legible

section Cons

variable {field : Field} {shape : Shape} {rest : Fields}
  (hfields : (Fields.cons field shape rest).Legible)

include hfields

theorem head : shape.every Shape.isLegible = true :=
  (Bool.and_eq_true_iff.mp hfields.every).1

theorem tail : rest.Legible where
  named e he := hfields.named e (List.mem_cons_of_mem _ he)
  apart := (List.pairwise_cons.mp hfields.apart).2
  every := (Bool.and_eq_true_iff.mp hfields.every).2

theorem apart_of_mem {e : Entry} (he : e ∈ rest.toList) : field.Apart e.1 :=
  (List.pairwise_cons.mp hfields.apart).1 e he

variable {β : Type} {taken mine later : List (String × β)}
  (hmine : ∀ part ∈ mine, field.Travels ∧ part.1 = field.wire)

include hmine

/-- Among the parts that a record is written as, only its own answer to the name of a field. -/
theorem filter_answersTo (htaken : ∀ part ∈ taken, field.answersTo part.1 = false)
    (hlater : ∀ part ∈ later, ∃ e ∈ rest.toList, e.1.Travels ∧ part.1 = e.1.wire) :
    (taken ++ (mine ++ later)).filter (fun part => field.answersTo part.1) = mine := by
  have hearlier : taken.filter (fun part => field.answersTo part.1) = [] :=
    List.filter_eq_nil_iff.mpr fun part hpart => Bool.eq_false_iff.mp (htaken part hpart)
  have hown : mine.filter (fun part => field.answersTo part.1) = mine := by
    apply List.filter_eq_self.mpr
    intro part hpart
    obtain ⟨htravels, hname⟩ := hmine part hpart
    rw [hname]
    exact Field.answersTo_wire htravels
  have hrest : later.filter (fun part => field.answersTo part.1) = [] := by
    apply List.filter_eq_nil_iff.mpr
    intro part hpart
    obtain ⟨e, he, htravels, hname⟩ := hlater part hpart
    rw [hname]
    exact Bool.eq_false_iff.mp ((hfields.apart_of_mem he).1 htravels)
  rw [List.filter_append, List.filter_append, hearlier, hown, hrest, List.nil_append,
    List.append_nil]

/-- No later field answers to the name of a part that an earlier one is written as. -/
theorem answersTo_eq_false
    (htaken : ∀ part ∈ taken, ∀ e ∈ (Fields.cons field shape rest).toList,
      e.1.answersTo part.1 = false) :
    ∀ part ∈ taken ++ mine, ∀ e ∈ rest.toList, e.1.answersTo part.1 = false := by
  intro part hpart e he
  obtain hearlier | hown := List.mem_append.mp hpart
  · exact htaken part hearlier e (List.mem_cons_of_mem _ he)
  · obtain ⟨htravels, hname⟩ := hmine part hown
    rw [hname]
    exact (hfields.apart_of_mem he).2 htravels

end Cons

end Fields.Legible

/-- A field that is not written may be missing. -/
theorem Field.missing_of_unwritten {lenient : Bool} {field : Field} {shape : Shape} {rest : Fields}
    {v : shape.Val}
    (hgiven : lenient = true ∨ ∀ e ∈ (Fields.cons field shape rest).toList, e.isGiven = true)
    (hunwritten : field.isWritten shape v = false) :
    (lenient || field.omission = .always) = true := by
  obtain hlenient | hall := hgiven
  · rw [hlenient, Bool.true_or]
  · have hmine := hall _ List.mem_cons_self
    simp only [Entry.isGiven, Bool.and_eq_true, decide_eq_true_eq] at hmine
    rw [Field.isWritten, hmine.1] at hunwritten
    cases hunwritten

theorem Fields.legible_of_every {heading : Heading} {fs : Fields}
    (hs : (Shape.record heading fs).every Shape.isLegible = true) :
    fs.Legible ∧ (heading.lenient = true ∨ ∀ e ∈ fs.toList, e.isGiven = true) := by
  simp only [Shape.every, Shape.isLegible, Bool.and_eq_true, Bool.or_eq_true, List.all_eq_true,
    decide_eq_true_eq, Bool.not_eq_true', decide_eq_false_iff_not] at hs
  obtain ⟨⟨⟨hnamed, hapart⟩, hgiven⟩, hevery⟩ := hs
  exact ⟨⟨fun e he htravels => (hnamed e he).resolve_left (not_not_intro htravels),
      hapart, hevery⟩,
    hgiven⟩

/-! ## Names of fields -/

theorem Fields.isName_eq_any (fs : Fields) (name : String) :
    fs.isName name = fs.toList.any (·.1.answersTo name) := by
  match fs with
  | .nil => rfl
  | .cons field shape rest =>
    rw [Fields.isName, rest.isName_eq_any name]
    rfl

theorem Fields.isListName_eq_any (fs : Fields) (name : String) :
    fs.isListName name = fs.toList.any fun e => e.2.isList && e.1.answersTo name := by
  match fs with
  | .nil => rfl
  | .cons field shape rest =>
    have hrest := rest.isListName_eq_any name
    cases shape <;> simp [Fields.isListName, Fields.toList, Shape.isList, hrest]

namespace Fields.Legible

variable {fs : Fields} {e other : Entry} (hfields : fs.Legible)

include hfields

/-- A name that a field is written under is read into that field only. -/
theorem eq_of_answersTo (he : e ∈ fs.toList) (hother : other ∈ fs.toList)
    (htravels : e.1.Travels)
    (hanswers : other.1.answersTo e.1.wire = true) : other = e := by
  by_contra hne
  have hsymm : Std.Symm fun a b : Entry => a.1.Apart b.1 := ⟨fun _ _ hab => hab.symm⟩
  have hapart : other.1.Apart e.1 := hfields.apart.forall hother he hne
  rw [hapart.1 htravels] at hanswers
  cases hanswers

omit hfields in
theorem isName_wire (he : e ∈ fs.toList) (htravels : e.1.Travels) :
    fs.isName e.1.wire = true := by
  rw [isName_eq_any]
  exact List.any_eq_true.mpr ⟨e, he, Field.answersTo_wire htravels⟩

theorem isListName_wire (he : e ∈ fs.toList) (htravels : e.1.Travels) :
    fs.isListName e.1.wire = e.2.isList := by
  rw [isListName_eq_any, Bool.eq_iff_iff, List.any_eq_true]
  constructor
  · rintro ⟨other, hother, hmatches⟩
    rw [Bool.and_eq_true] at hmatches
    rw [← hfields.eq_of_answersTo he hother htravels hmatches.2]
    exact hmatches.1
  · intro hlist
    exact ⟨e, he, by rw [hlist, Field.answersTo_wire htravels, Bool.true_and]⟩

end Fields.Legible

end StoreAdmin
