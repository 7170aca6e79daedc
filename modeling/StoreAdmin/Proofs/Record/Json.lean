import StoreAdmin.Proofs.Json.Document
import StoreAdmin.Proofs.Record.Legible
import StoreAdmin.Record.Json

/-!
# Reading records back from JSON

A record is written as an object with a member for each field that is not left
out.  Each field is read from its own member, or has its default if there is
none, and the value that is written for a record is exact, so its text is read
as the same value.
-/

namespace StoreAdmin

/-! ## Members -/

/-- What a field is written as. -/
def Field.members (f : Field) (s : Shape) (v : s.Val) : List (String × Json.Value) :=
  if f.isWritten s v then [(f.wire, s.toJson v)] else []

/-- What the fields of a record are written as. -/
def Fields.members : (fs : Fields) → fs.Val → List (String × Json.Value)
  | .nil, _ => []
  | .cons field shape rest, (v, vs) => field.members shape v ++ rest.members vs

/-- A member whose name is a text. -/
def Json.member (m : String × Json.Value) : Option String × Json.Value :=
  (some m.1, m.2)

theorem Fields.toMembers_eq (fs : Fields) (v : fs.Val) :
    fs.toMembers v = (fs.members v).map Json.member := by
  match fs, v with
  | .nil, _ => rfl
  | .cons field shape rest, (v, vs) =>
    have hrest := rest.toMembers_eq vs
    by_cases hwritten : field.isWritten shape v = true
    · simp only [Fields.toMembers, Fields.members, Field.members, if_pos hwritten, hrest]
      rfl
    · simp only [Fields.toMembers, Fields.members, Field.members, if_neg hwritten, hrest]
      rfl

theorem Field.mem_members {f : Field} {s : Shape} {v : s.Val} {m : String × Json.Value}
    (hm : m ∈ f.members s v) : f.Travels ∧ m.1 = f.wire := by
  by_cases hwritten : f.isWritten s v = true
  · rw [members, if_pos hwritten] at hm
    rw [List.mem_singleton.mp hm]
    exact ⟨travels_of_isWritten hwritten, rfl⟩
  · rw [members, if_neg hwritten] at hm
    cases hm

theorem Fields.mem_members {fs : Fields} {v : fs.Val} {m : String × Json.Value}
    (hm : m ∈ fs.members v) : ∃ e ∈ fs.toList, e.1.Travels ∧ m.1 = e.1.wire := by
  match fs, v, hm with
  | .nil, _, hm => cases hm
  | .cons field shape rest, (v, vs), hm =>
    obtain hmine | hrest := List.mem_append.mp hm
    · obtain ⟨htravels, hname⟩ := Field.mem_members hmine
      exact ⟨_, List.mem_cons_self, htravels, hname⟩
    · obtain ⟨e, he, htravels, hname⟩ := Fields.mem_members hrest
      exact ⟨e, List.mem_cons_of_mem _ he, htravels, hname⟩

namespace Json

theorem named?_map (members : List (String × Value)) :
    named? (members.map member) = some members := by
  induction members with
  | nil => rfl
  | cons m rest ih =>
    rw [List.map_cons, member, named?, ih]
    rfl

theorem Number.int?_ofInt (i : Int) : (Number.ofInt i).int? = some i := by
  have hvalue : Decimal.value (Decimal.digits i.natAbs) = i.natAbs := Decimal.value_digits _
  by_cases hnegative : i < 0
  · obtain ⟨m, hm⟩ := Nat.exists_eq_succ_of_ne_zero (n := i.natAbs) (by omega)
    have hi : -((m.succ : Nat) : Int) = i := by omega
    rw [Number.int?, if_neg (by simp [Number.ofInt])]
    simp only [Number.ofInt, hnegative, decide_true, hvalue]
    rw [hm]
    exact congrArg some hi
  · have hi : (i.natAbs : Int) = i := by omega
    rw [Number.int?, if_neg (by simp [Number.ofInt])]
    simp only [Number.ofInt, hnegative, decide_false, hvalue]
    exact congrArg some hi

theorem Value.int64?_ofInt (v : Int64) :
    (Value.number (Number.ofInt v.toInt)).int64? = some v := by
  rw [Value.int64?, Number.int?_ofInt, Option.bind_some, Decimal.int64?_toInt]

end Json

/-! ## What is written is exact -/

mutual

theorem Shape.isExact_toJson (s : Shape) (hs : s.every Shape.isLegible = true) (v : s.Val) :
    (s.toJson v).IsExact := by
  match s, hs, v with
  | .text, _, (v : String) => exact .string v
  | .integer, _, (v : Int64) => exact .integer v.toInt
  | .flag, _, (v : Bool) => exact .boolean v
  | .ratio, hs, _ => cases hs
  | .list item, hs, (vs : List item.Val) =>
    apply Json.Value.IsExact.array
    intro w hw
    obtain ⟨v, _, rfl⟩ := List.mem_map.mp hw
    exact item.isExact_toJson (Bool.and_eq_true_iff.mp hs).2 v
  | .record _ fields, hs, v =>
    have hmembers := fields.isExact_members (Fields.legible_of_every hs).1 v
    rw [Shape.toJson, fields.toMembers_eq v]
    apply Json.Value.IsExact.object
    · intro m hm
      obtain ⟨member, _, rfl⟩ := List.mem_map.mp hm
      rfl
    · intro m hm
      obtain ⟨member, hmember, rfl⟩ := List.mem_map.mp hm
      exact hmembers member hmember

theorem Fields.isExact_members (fs : Fields) (hfields : fs.Legible) (v : fs.Val) :
    ∀ m ∈ fs.members v, m.2.IsExact := by
  match fs, hfields, v with
  | .nil, _, _ => exact fun _ hm => absurd hm List.not_mem_nil
  | .cons field shape rest, hfields, (v, vs) =>
    intro m hm
    obtain hmine | hrest := List.mem_append.mp hm
    · by_cases hwritten : field.isWritten shape v = true
      · rw [Field.members, if_pos hwritten] at hmine
        rw [List.mem_singleton.mp hmine]
        exact shape.isExact_toJson hfields.head v
      · rw [Field.members, if_neg hwritten] at hmine
        cases hmine
    · exact rest.isExact_members hfields.tail vs m hrest

end

/-! ## Reading -/

theorem Shape.ofJson?_object (heading : Heading) (fields : Fields)
    (members : List (Option String × Json.Value)) :
    (Shape.record heading fields).ofJson? (.object members) =
      (Json.named? members).bind (fields.ofMembers? heading.lenient) := rfl

/-- A field is read from the members that answer to it, independently of the other ones. -/
theorem Fields.ofMembers?_cons {lenient : Bool} {field : Field} {shape : Shape} {rest : Fields}
    {members : List (String × Json.Value)} {v : shape.Val} {vs : rest.Val}
    (hfield : Field.pick (if lenient || field.omission = .always then some shape.default else none)
      (fun m => shape.ofJson? m.2) (members.filter fun m => field.answersTo m.1) = some v)
    (hrest : rest.ofMembers? lenient members = some vs) :
    (Fields.cons field shape rest).ofMembers? lenient members = some (v, vs) := by
  rw [ofMembers?, hfield, hrest]
  rfl

/-- A field that is not written may be missing, and its default is what comes back of it. -/
theorem Field.pick_members {lenient : Bool} {field : Field} {shape : Shape} {rest : Fields}
    {v : shape.Val}
    (hgiven : lenient = true ∨ ∀ e ∈ (Fields.cons field shape rest).toList, e.isGiven = true)
    (hread : shape.ofJson? (shape.toJson v) = some (shape.shared v)) :
    Field.pick (if lenient || field.omission = .always then some shape.default else none)
        (fun m => shape.ofJson? m.2) (field.members shape v) =
      some (if field.omission = .always then shape.default else shape.shared v) := by
  by_cases hwritten : field.isWritten shape v = true
  · have hne : field.omission ≠ .always := Field.travels_of_isWritten hwritten
    rw [Field.members, if_pos hwritten, if_neg hne, ← hread]
    rfl
  · have hunwritten : field.isWritten shape v = false := Bool.eq_false_iff.mpr hwritten
    rw [Field.members, if_neg hwritten, Field.shared_of_unwritten hunwritten,
      if_pos (Field.missing_of_unwritten hgiven hunwritten)]
    rfl

theorem Shape.mapM_toJson {item : Shape}
    (hread : ∀ v, item.ofJson? (item.toJson v) = some (item.shared v)) (vs : List item.Val) :
    (vs.map item.toJson).mapM item.ofJson? = some (vs.map item.shared) := by
  induction vs with
  | nil => rfl
  | cons v rest ih =>
    rw [List.map_cons, List.mapM_cons, hread, ih]
    rfl

mutual

/-- A value is read back from JSON as what travels of it. -/
theorem Shape.ofJson?_toJson (s : Shape) (hs : s.every Shape.isLegible = true) (v : s.Val) :
    s.ofJson? (s.toJson v) = some (s.shared v) := by
  match s, hs, v with
  | .text, _, (v : String) =>
    have hread : (Json.Value.string (some v)).text? = some v := rfl
    exact hread
  | .integer, _, (v : Int64) =>
    have hread := Json.Value.int64?_ofInt v
    exact hread
  | .flag, _, (v : Bool) =>
    have hread : (Json.Value.boolean v).boolean? = some v := rfl
    exact hread
  | .ratio, hs, _ => cases hs
  | .list item, hs, (vs : List item.Val) =>
    exact Shape.mapM_toJson (item.ofJson?_toJson (Bool.and_eq_true_iff.mp hs).2) vs
  | .record heading fields, hs, v =>
    obtain ⟨hfields, hgiven⟩ := Fields.legible_of_every hs
    rw [Shape.toJson, fields.toMembers_eq v, Shape.ofJson?_object, Json.named?_map,
      Option.bind_some]
    exact fields.ofMembers?_members hfields hgiven v [] (by simp)

/-- The fields of a record are read from the members that no earlier field has taken. -/
theorem Fields.ofMembers?_members {lenient : Bool} (fs : Fields) (hfields : fs.Legible)
    (hgiven : lenient = true ∨ ∀ e ∈ fs.toList, e.isGiven = true) (v : fs.Val)
    (taken : List (String × Json.Value))
    (htaken : ∀ m ∈ taken, ∀ e ∈ fs.toList, e.1.answersTo m.1 = false) :
    fs.ofMembers? lenient (taken ++ fs.members v) = some (fs.shared v) := by
  match fs, hfields, hgiven, v, htaken with
  | .nil, _, _, _, _ => rfl
  | .cons field shape rest, hfields, hgiven, (v, vs), htaken =>
    have hrest : rest.ofMembers? lenient (taken ++ (field.members shape v ++ rest.members vs)) =
        some (rest.shared vs) := by
      rw [← List.append_assoc]
      apply rest.ofMembers?_members hfields.tail
      · exact hgiven.imp_right fun h e he => h e (List.mem_cons_of_mem _ he)
      · exact hfields.answersTo_eq_false (fun _ => Field.mem_members) htaken
    have hown := hfields.filter_answersTo (fun _ => Field.mem_members (v := v))
      (fun m hm => htaken m hm _ List.mem_cons_self) fun _ => Fields.mem_members (v := vs)
    have hpick := Field.pick_members hgiven (shape.ofJson?_toJson hfields.head v)
    rw [← hown] at hpick
    exact Fields.ofMembers?_cons hpick hrest

end

/-! ## Documents -/

namespace Model

variable {α : Type} [Model α]

/-- A record is written as an object. -/
theorem jsonText_eq (a : α) :
    jsonText a = '{' :: Json.membersText ((fields α).toMembers (toVal a)) ++ ['}'] := by
  have hobject : (shape α).toJson (toVal a) = .object ((fields α).toMembers (toVal a)) := rfl
  rw [jsonText, hobject, Json.Value.text]

/-- What travels of a record. -/
def shared (a : α) : α :=
  ofVal ((fields α).shared (toVal a))

/-- All of a record travels that has no local field. -/
theorem shared_eq (hshared : (shape α).every Shape.isShared = true) (a : α) : shared a = a :=
  calc ofVal ((fields α).shared (toVal a))
    _ = ofVal (toVal a) := congrArg ofVal ((shape α).shared_eq hshared (toVal a))
    _ = a := ofVal_toVal a

/-- The bytes of the text of a record are read as what travels of it. -/
theorem ofJson?_jsonText (hlegible : (shape α).every Shape.isLegible = true) (a : α) :
    (Json.ofBytes? (Utf8.encode (jsonText a))).bind ofJson? = some (shared a) := by
  have hread := (shape α).ofJson?_toJson hlegible (toVal a)
  rw [jsonText, Json.ofBytes?_text ((shape α).isExact_toJson hlegible (toVal a)), Option.bind_some,
    ofJson?]
  exact congrArg (Option.map ofVal) hread

end Model
end StoreAdmin
