import StoreAdmin.Proofs.Number.Decimal
import StoreAdmin.Proofs.Record.Legible
import Mathlib.Data.List.Forall2

/-!
# The nodes of a record

What is written of a value makes up nodes that follow its shape, and the nodes of a record are taken
apart into one source for each field that left something behind.
-/

namespace StoreAdmin

open Xml

/-! ## Nodes -/

namespace Xml

/-- Equally named elements without attributes. -/
def elements (name : String) (contents : List (List Node)) : List Node :=
  contents.map (.element name.toList [])

end Xml

mutual

/-- The contents of the elements that a value is written as. -/
def Shape.xmlNodes : (s : Shape) → s.Val → List (List Node)
  | .text, (v : String) => [textNodes (escape v.toList)]
  | .integer, (v : Int64) => [textNodes (Decimal.intText v.toInt)]
  | .flag, (v : Bool) => [textNodes (if v then "true".toList else "false".toList)]
  | .ratio, (v : Binary64) => [textNodes (v.text .plain)]
  | .list item, vs => (List.map item.xmlNodes vs).flatten
  | .record _ fields, v => [fields.xmlNodes v]

/-- The child elements of a record. -/
def Fields.xmlNodes : (fs : Fields) → fs.Val → List Node
  | .nil, _ => []
  | .cons field shape rest, (v, vs) =>
    (if field.isWritten shape v then elements field.wire (shape.xmlNodes v) else []) ++
      rest.xmlNodes vs

end

/-! ## From text to nodes -/

theorem Xml.isWord_intText (i : Int) : IsWord (Decimal.intText i) := by
  have hdigits : ∀ d : Decimal.Digit,
      isEscaped d.toChar = false ∧ Text.isBlank d.toChar = false := by
    decide
  intro c hc
  obtain rfl | ⟨d, rfl⟩ := Decimal.mem_intText hc
  · exact ⟨rfl, rfl⟩
  · exact hdigits d

theorem Xml.isWord_flag (v : Bool) : IsWord (if v then "true".toList else "false".toList) := by
  have hplain : ∀ v : Bool, (if v then "true".toList else "false".toList).all
      (fun c => !isEscaped c && !Text.isBlank c) = true := by
    decide
  intro c hc
  simpa using List.all_eq_true.mp (hplain v) c hc

/-- A run of equally named elements stands in front of other content. -/
theorem Xml.isContent_elements {name : String} (hname : isTagName name.toList = true)
    {contents : List (List Char)} {nodes : List (List Node)}
    (hcontents : List.Forall₂ IsContent contents nodes) {behind : List Char} {more : List Node}
    (hbehind : IsContent behind more) :
    IsContent (contents.flatMap (elementText name.toList) ++ behind)
      (elements name nodes ++ more) := by
  induction hcontents with
  | nil => exact hbehind
  | cons hcontent hrest ih =>
    rw [List.flatMap_cons, List.append_assoc]
    exact .element hname hcontent ih

theorem Xml.not_mem_digits (ds : List Decimal.Digit) : '<' ∉ ds.map Decimal.Digit.toChar := by
  have hdigits : ∀ d : Decimal.Digit, d.toChar ≠ '<' := by decide
  intro hmem
  obtain ⟨d, _, hd⟩ := List.mem_map.mp hmem
  exact hdigits d hd

theorem Xml.not_mem_spelling (s : Binary64.Spelling) : '<' ∉ s.text := by
  have hexponent : ∀ e : Int, '<' ∉ 'e' :: Decimal.intText e := by
    intro e hmem
    obtain h | h := List.mem_cons.mp hmem
    · cases h
    · exact (isWord_intText e).not_mem h
  have hfraction : '<' ∉ if s.fraction = [] then [] else
      '.' :: s.fraction.map Decimal.Digit.toChar := by
    split
    · exact List.not_mem_nil
    · intro hmem
      obtain h | h := List.mem_cons.mp hmem
      · cases h
      · exact not_mem_digits _ h
  rw [Binary64.Spelling.text, List.mem_append, List.mem_append, not_or, not_or]
  refine ⟨⟨not_mem_digits _, hfraction⟩, ?_⟩
  cases s.exponent with
  | none => exact List.not_mem_nil
  | some e => exact hexponent e

/-- The text of a ratio holds no markup. -/
theorem Xml.not_mem_ratio (style : Binary64.Style) (x : Binary64) : '<' ∉ x.text style := by
  have hbody : '<' ∉ if x.isFinite then (Binary64.spelling style x).text else "inf".toList := by
    split
    · exact not_mem_spelling _
    · decide
  by_cases hnan : x.isNaN = true
  · rw [Binary64.text, if_pos hnan]
    decide
  · rw [Binary64.text, if_neg hnan]
    dsimp only
    by_cases hsign : x.isNegative = true
    · rw [if_pos hsign, List.mem_cons, not_or]
      exact ⟨by decide, hbody⟩
    · rwa [if_neg hsign]

mutual

theorem Shape.isContent_xmlNodes (s : Shape) (hs : s.every Shape.isNamed = true) (v : s.Val) :
    List.Forall₂ IsContent (s.xmlContents v) (s.xmlNodes v) := by
  match s, hs, v with
  | .text, _, (v : String) => exact .cons (.text (not_mem_escape v.toList)) .nil
  | .integer, _, (v : Int64) => exact .cons (.text (isWord_intText v.toInt).not_mem) .nil
  | .flag, _, (v : Bool) => exact .cons (.text (isWord_flag v).not_mem) .nil
  | .ratio, _, (v : Binary64) => exact .cons (.text (not_mem_ratio .plain v)) .nil
  | .list item, hs, (vs : List item.Val) =>
    have hitem := (Bool.and_eq_true_iff.mp hs).2
    apply List.rel_flatten
    rw [List.forall₂_map_left_iff, List.forall₂_map_right_iff, List.forall₂_same]
    exact fun v _ => item.isContent_xmlNodes hitem v
  | .record _ fields, hs, v =>
    have hfields := Bool.and_eq_true_iff.mp hs
    exact .cons (fields.isContent_xmlNodes (Fields.named_of_isNamed hfields.1) hfields.2 v) .nil

theorem Fields.isContent_xmlNodes (fs : Fields)
    (hnamed : ∀ e ∈ fs.toList, e.1.Travels → isIdentifier e.1.wire = true)
    (hs : fs.every Shape.isNamed = true) (v : fs.Val) :
    IsContent (fs.xmlContent v) (fs.xmlNodes v) := by
  match fs, hnamed, hs, v with
  | .nil, _, _, _ => exact .nil
  | .cons field shape rest, hnamed, hs, (v, vs) =>
    obtain ⟨hmine, hmore⟩ := Bool.and_eq_true_iff.mp hs
    have hrest :=
      rest.isContent_xmlNodes (fun e he => hnamed e (List.mem_cons_of_mem _ he)) hmore vs
    by_cases hwritten : field.isWritten shape v = true
    · have hname := hnamed _ List.mem_cons_self (Field.travels_of_isWritten hwritten)
      have hshape := shape.isContent_xmlNodes hmine v
      simp only [Fields.xmlContent, Fields.xmlNodes, if_pos hwritten]
      exact isContent_elements (isTagName_of_isIdentifier hname) hshape hrest
    · simp only [Fields.xmlContent, Fields.xmlNodes, if_neg hwritten]
      exact hrest

end

/-- The children of a record make up its nodes. -/
theorem Model.isContent {α : Type} [Model α]
    (hnamed : (Model.shape α).every Shape.isNamed = true)
    (a : α) : IsContent ((Model.fields α).xmlContent (Model.toVal a))
      ((Model.fields α).xmlNodes (Model.toVal a)) := by
  have hfields := Bool.and_eq_true_iff.mp hnamed
  exact (Model.fields α).isContent_xmlNodes (Fields.named_of_isNamed hfields.1) hfields.2 _

/-! ## Taking a record apart -/

/-- The source of a field: all of its elements, if there are any. -/
def Xml.sourceOf (name : String) : List (List Node) → List (String × Source)
  | [] => []
  | contents => [(name, .nodes (elements name contents))]

theorem Xml.mem_sourceOf {name : String} {contents : List (List Node)} {s : String × Source}
    (hs : s ∈ sourceOf name contents) : s.1 = name := by
  cases contents with
  | nil => cases hs
  | cons content rest =>
    rw [List.mem_singleton.mp hs]

/-- What a field leaves behind. -/
def Field.sources (f : Field) (s : Shape) (v : s.Val) : List (String × Source) :=
  if f.isWritten s v then sourceOf f.wire (s.xmlNodes v) else []

theorem Field.mem_sources {f : Field} {s : Shape} {v : s.Val} {source : String × Source}
    (hsource : source ∈ f.sources s v) : f.Travels ∧ source.1 = f.wire := by
  unfold sources at hsource
  split at hsource
  · next hwritten => exact ⟨travels_of_isWritten hwritten, mem_sourceOf hsource⟩
  · cases hsource

/-- What the fields of a record leave behind. -/
def Fields.sources : (fs : Fields) → fs.Val → List (String × Source)
  | .nil, _ => []
  | .cons field shape rest, (v, vs) => field.sources shape v ++ rest.sources vs

theorem Fields.mem_sources {fs : Fields} {v : fs.Val} {source : String × Source}
    (hsource : source ∈ fs.sources v) :
    ∃ e ∈ fs.toList, e.1.Travels ∧ source.1 = e.1.wire := by
  match fs, v, hsource with
  | .nil, _, hsource => cases hsource
  | .cons field shape rest, (v, vs), hsource =>
    obtain hmine | hrest := List.mem_append.mp hsource
    · obtain ⟨htravels, hname⟩ := Field.mem_sources hmine
      exact ⟨_, List.mem_cons_self, htravels, hname⟩
    · obtain ⟨e, he, htravels, hname⟩ := Fields.mem_sources hrest
      exact ⟨e, List.mem_cons_of_mem _ he, htravels, hname⟩

/-- What is not a list is one element. -/
theorem Shape.exists_xmlNodes {s : Shape} (hs : s.isList = false) (v : s.Val) :
    ∃ nodes, s.xmlNodes v = [nodes] := by
  cases s with
  | list => cases hs
  | _ => exact ⟨_, rfl⟩

namespace Xml

variable {isList : String → Bool} {name : String} {more : List Node}

/-- The run of list items that is open: its key, the name of its elements and its nodes so far. -/
abbrev OpenRun := Option (String × List Char × List Node)

/-- The sources that an open run is closed with. -/
def closeRun : OpenRun → List (String × Source)
  | none => []
  | some (key, _, nodes) => [(key, .nodes nodes.reverse)]

/-- The elements of a list join the open run of their name. -/
theorem childSources_elements_of_open (contents : List (List Node)) (nodes : List Node) :
    childSources isList (some (name, name.toList, nodes)) (elements name contents ++ more) =
      childSources isList (some (name, name.toList, (elements name contents).reverse ++ nodes))
        more := by
  induction contents generalizing nodes with
  | nil => rfl
  | cons content rest ih =>
    rw [elements, List.map_cons, List.cons_append, childSources, if_pos rfl, ← elements, ih,
      List.reverse_cons, List.append_assoc]
    rfl

/-- The elements of a list close the run of another name and make up a run of their own. -/
theorem childSources_list (hkey : keyOf name.toList = name) (hlist : isList name = true)
    (run : OpenRun) (hrun : ∀ r ∈ run, r.2.1 ≠ name.toList) (content : List Node)
    (contents : List (List Node)) :
    childSources isList run (elements name (content :: contents) ++ more) =
      (childSources isList (some (name, name.toList, (elements name (content :: contents)).reverse))
        more).map (closeRun run ++ ·) := by
  have hfirst : elements name (content :: contents) =
      .element name.toList [] content :: elements name contents := rfl
  rw [hfirst, List.cons_append, List.reverse_cons]
  match run with
  | none =>
    rw [childSources, hkey, if_pos hlist, childSources_elements_of_open]
    exact Option.map_id'.symm
  | some (key, current, nodes) =>
    have hother : current ≠ name.toList := hrun _ rfl
    rw [childSources, if_neg hother, hkey, if_pos hlist, childSources_elements_of_open]
    rfl

/-- An element that is no list item closes the open run and is a source of its own. -/
theorem childSources_single (hkey : keyOf name.toList = name) (hlist : isList name = false)
    (run : OpenRun) (hrun : ∀ r ∈ run, r.2.1 ≠ name.toList) (content : List Node) :
    childSources isList run (elements name [content] ++ more) =
      (childSources isList none more).map
        (closeRun run ++ sourceOf name [content] ++ ·) := by
  have hopen : ¬isList name = true := Bool.eq_false_iff.mp hlist
  match run with
  | none =>
    change childSources isList none (.element name.toList [] content :: more) = _
    rw [childSources, hkey, if_neg hopen]
    rfl
  | some (key, current, nodes) =>
    have hother : current ≠ name.toList := hrun _ rfl
    change childSources isList _ (.element name.toList [] content :: more) = _
    rw [childSources, if_neg hother, hkey, if_neg hopen]
    rfl

end Xml

/-- The children of a record are taken apart into the sources of its fields. -/
theorem Fields.childSources_xmlNodes {isList : String → Bool} (fs : Fields) (hfields : fs.Legible)
    (hlist : ∀ e ∈ fs.toList, e.1.Travels → isList e.1.wire = e.2.isList) (v : fs.Val)
    (run : OpenRun)
    (hrun : ∀ r ∈ run, ∀ e ∈ fs.toList, e.1.Travels → r.2.1 ≠ e.1.wire.toList) :
    childSources isList run (fs.xmlNodes v) = some (closeRun run ++ fs.sources v) := by
  match fs, hfields, hlist, v, hrun with
  | .nil, _, _, _, _ => cases run <;> rfl
  | .cons field shape rest, hfields, hlist, (v, vs), hrun =>
    have hrestList : ∀ e ∈ rest.toList, e.1.Travels → isList e.1.wire = e.2.isList :=
      fun e he => hlist e (List.mem_cons_of_mem _ he)
    have hrestRun :
        ∀ r ∈ run, ∀ e ∈ rest.toList, e.1.Travels → r.2.1 ≠ e.1.wire.toList :=
      fun r hr e he => hrun r hr e (List.mem_cons_of_mem _ he)
    by_cases hwritten : field.isWritten shape v = true
    · have htravels := Field.travels_of_isWritten hwritten
      have hkey := keyOf_of_isIdentifier (hfields.named _ List.mem_cons_self htravels)
      have hmine := hlist _ List.mem_cons_self htravels
      have hother : ∀ r ∈ run, r.2.1 ≠ field.wire.toList := fun r hr =>
        hrun r hr _ List.mem_cons_self htravels
      simp only [Fields.xmlNodes, Fields.sources, Field.sources, if_pos hwritten]
      cases hshape : shape.isList with
      | true =>
        cases hcontents : shape.xmlNodes v with
        | nil => exact rest.childSources_xmlNodes hfields.tail hrestList vs run hrestRun
        | cons content contents =>
          -- The run of this field is still open, and no later field continues it.
          have hclosed : ∀ r ∈ (some (field.wire, field.wire.toList,
              (elements field.wire (content :: contents)).reverse) : OpenRun),
              ∀ e ∈ rest.toList, e.1.Travels → r.2.1 ≠ e.1.wire.toList := by
            intro r hr e he hlater
            cases Option.mem_some.mp hr
            have hne := (hfields.apart_of_mem he).wire_ne htravels hlater
            exact fun heq => hne (String.toList_inj.mp heq)
          rw [childSources_list hkey (hmine.trans hshape) run hother,
            rest.childSources_xmlNodes hfields.tail hrestList vs _ hclosed]
          simp [closeRun, sourceOf]
      | false =>
        obtain ⟨content, hcontent⟩ := Shape.exists_xmlNodes hshape v
        rw [hcontent, childSources_single hkey (hmine.trans hshape) run hother,
          rest.childSources_xmlNodes hfields.tail hrestList vs none (by simp)]
        simp only [closeRun, Option.map_some, List.nil_append, List.append_assoc]
    · simp only [Fields.xmlNodes, Fields.sources, Field.sources, if_neg hwritten, List.nil_append]
      exact rest.childSources_xmlNodes hfields.tail hrestList vs run hrestRun

end StoreAdmin
