import StoreAdmin.Proofs.Record.Nodes

/-!
# Reading records back from XML

Each field is read from the source that it left behind, or has its default if it left none, and a
document is read as the record that it was written for, without its local fields and without the
blanks at the ends of its texts.
-/

namespace StoreAdmin

open Xml

/-! ## Reading -/

/-- A text without the blanks at its ends. -/
def Text.stripped (text : String) : String :=
  String.ofList (Text.trim Text.isBlank text.toList)

/-- What comes back of a value. -/
def Shape.received (s : Shape) (v : s.Val) : s.Val :=
  s.shared (s.mapText Text.stripped v)

def Fields.received (fs : Fields) (v : fs.Val) : fs.Val :=
  fs.shared (fs.mapText Text.stripped v)

theorem Shape.received_list (item : Shape) (vs : List item.Val) :
    (Shape.list item).received vs = vs.map item.received :=
  List.map_map

theorem Xml.flag?_text (v : Bool) :
    Xml.flag? (if v then "true".toList else "false".toList) = some v := by
  cases v <;> decide

/-- The items of a list are read one by one. -/
theorem Shape.mapM_elements {item : Shape} (hitem : item.isList = false) {name : String}
    (hread : ∀ v : item.Val,
      item.ofSource? (.nodes (elements name (item.xmlNodes v))) = some (item.received v))
    (vs : List item.Val) :
    (elements name (vs.map item.xmlNodes).flatten).mapM
      (fun node => item.ofSource? (.nodes [node])) = some (vs.map item.received) := by
  induction vs with
  | nil => rfl
  | cons v rest ih =>
    obtain ⟨content, hcontent⟩ := Shape.exists_xmlNodes hitem v
    have hfirst := hread v
    rw [hcontent] at hfirst
    change item.ofSource? (.nodes [.element name.toList [] content]) = _ at hfirst
    rw [List.map_cons, List.flatten_cons, hcontent]
    have hmore : elements name ([content] ++ (rest.map item.xmlNodes).flatten) =
        .element name.toList [] content :: elements name (rest.map item.xmlNodes).flatten := rfl
    rw [hmore, List.mapM_cons, hfirst, ih]
    rfl

/-- A field that left nothing behind may be missing, and its default is what comes back of it. -/
theorem Field.pick_sources {lenient : Bool} {field : Field} {shape : Shape} {rest : Fields}
    {v : shape.Val}
    (hgiven : lenient = true ∨ ∀ e ∈ (Fields.cons field shape rest).toList, e.isGiven = true)
    (hread : shape.ofSource? (.nodes (elements field.wire (shape.xmlNodes v))) =
      some (shape.received v)) :
    Field.pick (if lenient || field.omission = .always then some shape.default else none)
        (fun s => shape.ofSource? s.2) (field.sources shape v) =
      some (if field.omission = .always then shape.default else shape.received v) := by
  by_cases hwritten : field.isWritten shape v = true
  · have hne : field.omission ≠ .always := Field.travels_of_isWritten hwritten
    rw [Field.sources, if_pos hwritten, if_neg hne]
    cases hcontents : shape.xmlNodes v with
    | cons content contents => rw [← hread, hcontents]; rfl
    | nil =>
      -- Only a list is written as no element at all.
      cases shape with
      | list item =>
        have hlenient : lenient = true := by
          refine hgiven.resolve_right fun h => ?_
          simpa [Entry.isGiven, Shape.isList] using h _ List.mem_cons_self
        rw [hlenient, ← hread, hcontents]
        rfl
      | _ => cases hcontents
  · have hunwritten : field.isWritten shape v = false := Bool.eq_false_iff.mpr hwritten
    have hdefault : (if field.omission = .always then shape.default else shape.received v) =
        shape.default :=
      Field.shared_of_unwritten (Field.isWritten_mapText (by decide) hunwritten)
    rw [Field.sources, if_neg hwritten, hdefault,
      if_pos (Field.missing_of_unwritten hgiven hunwritten)]
    rfl

mutual

/-- A value is read back from its elements. -/
theorem Shape.ofSource?_elements (s : Shape) (hs : s.every Shape.isLegible = true) (name : String)
    (v : s.Val) : s.ofSource? (.nodes (elements name (s.xmlNodes v))) = some (s.received v) := by
  match s, hs, v with
  | .text, _, (v : String) =>
    have hread : (contentText? (textNodes (escape v.toList))).map String.ofList =
        some (Text.stripped v) := by
      rw [contentText?_escape]
      rfl
    exact hread
  | .integer, _, (v : Int64) =>
    have hread : ((contentText? (textNodes (Decimal.intText v.toInt))).bind Decimal.int?).bind
        Decimal.int64? = some v := by
      rw [(isWord_intText v.toInt).contentText?, Option.bind_some, Decimal.int?_intText,
        Option.bind_some, Decimal.int64?_toInt]
    exact hread
  | .flag, _, (v : Bool) =>
    have hread : (contentText? (textNodes (if v then "true".toList else "false".toList))).bind
        Xml.flag? = some v := by
      rw [(isWord_flag v).contentText?, Option.bind_some, Xml.flag?_text]
    exact hread
  | .ratio, hs, _ => cases hs
  | .list item, hs, (vs : List item.Val) =>
    simp only [Shape.every, Shape.isLegible, Bool.and_eq_true, Bool.not_eq_true'] at hs
    rw [Shape.received_list]
    exact Shape.mapM_elements hs.1 (item.ofSource?_elements hs.2 name) vs
  | .record heading fields, hs, v =>
    obtain ⟨hfields, hgiven⟩ := Fields.legible_of_every hs
    have hchildren := fields.childSources_xmlNodes hfields (fun _ => hfields.isListName_wire) v none
      (by simp)
    have hsources : sources? fields.isListName [] (fields.xmlNodes v) =
        some (fields.sources v) := by
      rw [sources?, hchildren]
      rfl
    have hknown : (fields.sources v).all
        (fun s => fields.isName s.1 || s.2.isSkippable) = true := by
      rw [List.all_eq_true]
      intro s hs
      obtain ⟨e, he, htravels, hname⟩ := Fields.mem_sources hs
      rw [hname, Fields.Legible.isName_wire he htravels, Bool.true_or]
    simp only [Shape.xmlNodes, elements, List.map_cons, List.map_nil, Shape.ofSource?, hsources,
      hknown]
    exact fields.ofSources?_sources hfields hgiven v [] (by simp)

/-- The fields of a record are read from the sources that no earlier field has taken. -/
theorem Fields.ofSources?_sources {lenient : Bool} (fs : Fields) (hfields : fs.Legible)
    (hgiven : lenient = true ∨ ∀ e ∈ fs.toList, e.isGiven = true) (v : fs.Val)
    (taken : List (String × Source))
    (htaken : ∀ s ∈ taken, ∀ e ∈ fs.toList, e.1.answersTo s.1 = false) :
    fs.ofSources? lenient (taken ++ fs.sources v) = some (fs.received v) := by
  match fs, hfields, hgiven, v, htaken with
  | .nil, _, _, _, _ => rfl
  | .cons field shape rest, hfields, hgiven, (v, vs), htaken =>
    have hrest : rest.ofSources? lenient (taken ++ (field.sources shape v ++ rest.sources vs)) =
        some (rest.received vs) := by
      rw [← List.append_assoc]
      apply rest.ofSources?_sources hfields.tail
      · exact hgiven.imp_right fun h e he => h e (List.mem_cons_of_mem _ he)
      · exact hfields.answersTo_eq_false (fun _ => Field.mem_sources) htaken
    have hown := hfields.filter_answersTo (fun _ => Field.mem_sources (v := v))
      (fun s hs => htaken s hs _ List.mem_cons_self) fun _ => Fields.mem_sources (v := vs)
    have hpick := Field.pick_sources hgiven (shape.ofSource?_elements hfields.head field.wire v)
    simp only [Fields.ofSources?, Fields.sources, hown, hpick, hrest]
    rfl

end

/-! ## Documents -/

namespace Model

variable {α : Type} [Model α]

/-- A record without the blanks at the ends of its texts. -/
def stripped (a : α) : α :=
  ofVal ((fields α).mapText Text.stripped (toVal a))

/-- What comes back of a record. -/
def received (a : α) : α :=
  ofVal ((fields α).received (toVal a))

/-- All of a record comes back that has no local field. -/
theorem received_eq_stripped (hshared : (shape α).every Shape.isShared = true) (a : α) :
    received a = stripped a :=
  congrArg ofVal ((shape α).shared_eq hshared ((shape α).mapText Text.stripped (toVal a)))

/-- A document is read back, whatever its root is called. -/
theorem ofXml?_elementText (hlegible : (shape α).every Shape.isLegible = true) {root : String}
    (hroot : isTagName root.toList = true) (a : α) :
    ofXml? (elementText root.toList ((fields α).xmlContent (toVal a))) = some (received a) := by
  have hcontent := isContent ((shape α).every_of_imp Shape.isNamed_of_isLegible hlegible) a
  have hread := (shape α).ofSource?_elements hlegible root (toVal a)
  rw [ofXml?, root?_elementText hroot hcontent]
  calc ((shape α).ofSource? (.nodes (elements root [(fields α).xmlNodes (toVal a)]))).map ofVal
    _ = (some ((shape α).received (toVal a))).map ofVal := congrArg (Option.map ofVal) hread
    _ = some (received a) := rfl

end Model
end StoreAdmin
