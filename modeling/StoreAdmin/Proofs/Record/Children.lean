import StoreAdmin.Proofs.Record.Reading
import StoreAdmin.Proofs.Xml.Runs

/-!
# The order of children

A record is read from an element as the same one whatever the order of its children is, whatever
prefixes their names have and whatever other elements stand between them, as long as the items of
each list stay together.
-/

namespace StoreAdmin

/-- The fields of the record that a value stands for, or the items of a list. -/
def Shape.role : Shape → Option Fields
  | .list item => item.role
  | .record _ fields => some fields
  | _ => none

namespace Xml

open Element (node)

/-- Whether elements with this name are items of a list. -/
def isListIn : Option Fields → String → Bool
  | some fields => fields.isListName
  | none => fun _ => false

/-- The contents are one to each shape with this role, whatever the name of their element is. -/
def ReadAlike (role : Option Fields) (content content' : List Node) : Prop :=
  ∀ s : Shape, s.role = role → ∀ name name' attributes,
    s.ofSource? (.nodes [.element name attributes content]) =
      s.ofSource? (.nodes [.element name' attributes content'])

/-- Two elements are one to each shape with this role. -/
def Element.ReadAlike (role : Option Fields) (x y : Element) : Prop :=
  ∀ s : Shape, s.role = role → s.ofSource? (.nodes [x.node]) = s.ofSource? (.nodes [y.node])

/-- Two elements are one as children of a record. -/
structure Element.Alike (fields : Fields) (x y : Element) : Prop where
  key_eq : x.key = y.key
  skippable_eq : isSkippable x.content = isSkippable y.content
  readAlike : ∀ e ∈ fields.toList, e.1.answersTo x.key = true → x.ReadAlike e.2.role y

/-! ## Elements in a content -/

theorem contentText?_elements (elements : List Element) :
    contentText? (elements.map node) = if elements = [] then some [] else none := by
  match elements with
  | [] | [_] | _ :: _ :: _ => rfl

theorem isSkippable_elements (elements : List Element) :
    isSkippable (elements.map node) = true := by
  cases elements <;> rfl

/-- Whether a field of an element is known or can be passed over. -/
def isAdmitted (fields : Fields) (s : String × Source) : Bool :=
  fields.isName s.1 || s.2.isSkippable

end Xml

namespace Shape

open Xml

variable {heading : Heading} {fields : Fields} {elements elements' : List Xml.Element}

theorem ofSource?_list (item : Shape) (nodes : List Node) :
    (list item).ofSource? (.nodes nodes) =
      nodes.mapM fun node => item.ofSource? (.nodes [node]) := rfl

theorem ofSource?_record (name attributes : List Char) (content : List Node) :
    (record heading fields).ofSource? (.nodes [.element name attributes content]) =
      match sources? fields.isListName attributes content with
      | some sources =>
        if sources.all (isAdmitted fields) then fields.ofSources? heading.lenient sources else none
      | none => none := rfl

/-- A record is read from elements in which its fields find the same, if the others can be passed
over in both. -/
theorem ofSource?_record_congr
    (hadmitted : (runSources fields.isListName elements).all (isAdmitted fields) =
      (runSources fields.isListName elements').all (isAdmitted fields))
    (hfound : ∀ e ∈ fields.toList,
      (e.found Shape.ofSource? (runSources fields.isListName elements)).Perm
        (e.found Shape.ofSource? (runSources fields.isListName elements')))
    (name name' attributes : List Char) :
    (record heading fields).ofSource?
        (.nodes [.element name attributes (elements.map Element.node)]) =
      (record heading fields).ofSource?
        (.nodes [.element name' attributes (elements'.map Element.node)]) := by
  rw [ofSource?_record, ofSource?_record, sources?, sources?, (childSources_eq _ elements).1,
    (childSources_eq _ elements').1]
  cases attributes? attributes with
  | none => rfl
  | some found =>
    have hread : ∀ front, fields.readFrom Shape.ofSource? heading.lenient
        (front ++ runSources fields.isListName elements) =
          fields.readFrom Shape.ofSource? heading.lenient
            (front ++ runSources fields.isListName elements') := by
      intro front
      refine fields.readFrom_congr heading.lenient fun e he => ?_
      rw [Entry.found_append, Entry.found_append]
      exact (hfound e he).append_left _
    simp only [List.all_append, hadmitted, Fields.ofSources?_eq, hread]

/-- Contents of elements are one to a shape unless it is that of a record or of a list of records,
or a single one of them is empty. -/
theorem readAlike_elements {role : Option Fields}
    (hempty : role = none → (elements = [] ↔ elements' = []))
    (hrecord : ∀ heading fields, role = some fields → ∀ name name' attributes,
      (record heading fields).ofSource?
          (.nodes [.element name attributes (elements.map Element.node)]) =
        (record heading fields).ofSource?
          (.nodes [.element name' attributes (elements'.map Element.node)])) :
    ReadAlike role (elements.map Element.node) (elements'.map Element.node) := by
  intro s hs name name' attributes
  match s with
  | .text | .integer | .flag | .ratio =>
    have hcontent : contentText? (elements.map Element.node) =
        contentText? (elements'.map Element.node) := by
      rw [contentText?_elements, contentText?_elements]
      simp only [hempty hs.symm]
    simp only [ofSource?, Source.text?, hcontent]
  | .list item =>
    have hitem := readAlike_elements hempty hrecord item hs name name' attributes
    simp only [ofSource?_list, List.mapM_cons, hitem]
    rfl
  | .record heading fields => exact hrecord heading fields hs.symm name name' attributes

/-- The name of an element makes no difference. -/
theorem ofSource?_name (s : Shape) (name name' attributes : List Char) (content : List Node) :
    s.ofSource? (.nodes [.element name attributes content]) =
      s.ofSource? (.nodes [.element name' attributes content]) := by
  match s with
  | .text | .integer | .flag | .ratio | .record _ _ => rfl
  | .list item =>
    simp only [ofSource?_list, List.mapM_cons, ofSource?_name item name name']
    rfl

/-- A shape is read from a run of elements one by one, or from a single one. -/
theorem ofSource?_run (s : Shape) {run run' : List Xml.Element}
    (hrun : List.Forall₂ (Xml.Element.ReadAlike s.role) run run') :
    s.ofSource? (.nodes (run.map Element.node)) = s.ofSource? (.nodes (run'.map Element.node)) := by
  match s, hrun with
  | .list item, hrun =>
    rw [ofSource?_list, ofSource?_list]
    induction hrun with
    | nil => rfl
    | cons hfirst _ ih =>
      rw [List.map_cons, List.map_cons, List.mapM_cons, List.mapM_cons, hfirst item rfl, ih]
  | .text, .nil | .integer, .nil | .flag, .nil | .ratio, .nil | .record _ _, .nil => rfl
  | .text, .cons hfirst .nil | .integer, .cons hfirst .nil | .flag, .cons hfirst .nil
  | .ratio, .cons hfirst .nil | .record _ _, .cons hfirst .nil => exact hfirst _ rfl
  | .text, .cons _ (.cons _ _) | .integer, .cons _ (.cons _ _) | .flag, .cons _ (.cons _ _)
  | .ratio, .cons _ (.cons _ _) | .record _ _, .cons _ (.cons _ _) => rfl

end Shape

namespace Xml

open Element (node)

variable {heading : Heading} {fields : Fields} {elements elements' : List Element}

/-! ## Children one by one -/

section Runs

variable {x y : Element} {run run' : List Element}

theorem agrees_runSource (hrun : List.Forall₂ (Element.Alike fields) (x :: run) (y :: run'))
    (hkeys : ∀ z ∈ run, z.key = x.key) :
    ∀ e ∈ fields.toList,
      e.Agrees Shape.ofSource? (runSource (x :: run)) (runSource (y :: run')) := by
  intro e he
  have hfirst : x.key = y.key := by
    cases hrun with
    | cons hfirst _ => exact hfirst.key_eq
  refine ⟨hfirst, fun hmine => e.2.ofSource?_run ?_⟩
  have hmember : ∀ z ∈ x :: run, z.key = x.key := by
    intro z hz
    obtain rfl | hz := List.mem_cons.mp hz
    · rfl
    · exact hkeys z hz
  refine ((List.forall₂_and_left _ _).mpr ⟨hmember, hrun⟩).imp ?_
  rintro z w ⟨hkey, halike⟩
  exact halike.readAlike e he (hkey.symm ▸ hmine)

theorem isAdmitted_runSource (hrun : List.Forall₂ (Element.Alike fields) (x :: run) (y :: run')) :
    isAdmitted fields (runSource (x :: run)) = isAdmitted fields (runSource (y :: run')) := by
  cases hrun with
  | cons hfirst hrest =>
    have hskip : (runSource (x :: run)).2.isSkippable = (runSource (y :: run')).2.isSkippable := by
      cases hrest with
      | nil => exact hfirst.skippable_eq
      | cons => rfl
    rw [isAdmitted, isAdmitted, hskip]
    exact congrArg (fun key => fields.isName key || _) hfirst.key_eq

end Runs

/-- Children that are one by one the same and make up runs of the same lengths are read as the same
record. -/
theorem ofSource?_forall₂
    (hlengths : runLengths fields.isListName elements = runLengths fields.isListName elements')
    (halike : List.Forall₂ (Element.Alike fields) elements elements')
    (name name' attributes : List Char) :
    (Shape.record heading fields).ofSource?
        (.nodes [.element name attributes (elements.map node)]) =
      (Shape.record heading fields).ofSource?
        (.nodes [.element name' attributes (elements'.map node)]) := by
  apply Shape.ofSource?_record_congr
  · have hadmitted := runSources_forall₂
      (S := fun a b => isAdmitted fields a = isAdmitted fields b)
      hlengths halike fun _ _ _ _ _ hfirst hrest => isAdmitted_runSource (.cons hfirst hrest)
    generalize runSources fields.isListName elements = sources at hadmitted ⊢
    generalize runSources fields.isListName elements' = sources' at hadmitted ⊢
    induction hadmitted with
    | nil => rfl
    | cons hfirst _ ih => rw [List.all_cons, List.all_cons, hfirst, ih]
  · intro e he
    refine .of_eq (e.found_congr (runSources_forall₂ hlengths halike ?_))
    exact fun _ _ _ _ hkeys hfirst hrest => agrees_runSource (.cons hfirst hrest) hkeys e he

/-! ## Variations -/

/-- The roles that a child with this name has in an element with a role. -/
inductive HasRole : Option Fields → String → Option Fields → Prop
  | known {fields : Fields} {key : String} {e : Entry} (he : e ∈ fields.toList)
    (hname : e.1.answersTo key = true) : HasRole (some fields) key e.2.role
  | unknown {fields : Fields} {key : String} (hname : fields.isName key = false) :
    HasRole (some fields) key none
  | unread (key : String) : HasRole none key none

/-- Two elements differ at most in the prefixes of their names. -/
def Element.SameButPrefix (x y : Element) : Prop :=
  localName x.name = localName y.name ∧ x.attributes = y.attributes ∧ x.content = y.content

/-- What may change in the children of an element that has a role, without a change of what is
read. -/
inductive Varies : Option Fields → List Element → List Element → Prop
  /-- Children with the same name stay together in their order. -/
  | moved {role : Option Fields} {blocks blocks' : List (List Element)}
    (hperm : blocks.Perm blocks')
    (hapart : blocks.Pairwise fun b c => ∀ x ∈ b, ∀ y ∈ c, x.key ≠ y.key) :
    Varies role blocks.flatten blocks'.flatten
  /-- A record has one more child, which it does not know, and not inside of a list. -/
  | added {fields : Fields} {front back : List Element} {x : Element}
    (hname : fields.isName x.key = false) (hskip : isSkippable x.content = true)
    (hapart : ∀ y ∈ front.getLast?, ∀ z ∈ back.head?, y.joins fields.isListName z = false) :
    Varies (some fields) (front ++ back) (front ++ x :: back)
  /-- Names have other prefixes, but the items of a list still have one name. -/
  | renamed {role : Option Fields} {elements elements' : List Element}
    (hsame : List.Forall₂ Element.SameButPrefix elements elements')
    (hlengths : runLengths (isListIn role) elements = runLengths (isListIn role) elements') :
    Varies role elements elements'
  /-- The children of a child vary as its role lets them. -/
  | within {role : Option Fields} {front back inner inner' : List Element}
    {name attributes : List Char}
    (hinner : ∀ r, HasRole role (keyOf name) r → Varies r inner inner') :
    Varies role (front ++ ⟨name, attributes, inner.map node⟩ :: back)
      (front ++ ⟨name, attributes, inner'.map node⟩ :: back)

section Cases

variable {role : Option Fields}

/-- Whole runs may be moved. -/
theorem readAlike_moved {blocks blocks' : List (List Element)} (hperm : blocks.Perm blocks')
    (hapart : blocks.Pairwise fun b c => ∀ x ∈ b, ∀ y ∈ c, x.key ≠ y.key) :
    ReadAlike role (blocks.flatten.map node) (blocks'.flatten.map node) := by
  have hapart' : blocks'.Pairwise fun b c => ∀ x ∈ b, ∀ y ∈ c, x.key ≠ y.key :=
    hperm.pairwise hapart fun h x hx y hy => (h y hy x hx).symm
  refine Shape.readAlike_elements (fun _ => ?_) fun heading fields _ => ?_
  · exact ⟨fun h => (h ▸ hperm.flatten).nil_eq.symm, fun h => (h ▸ hperm.flatten).eq_nil⟩
  have hsources : (runSources fields.isListName blocks.flatten).Perm
      (runSources fields.isListName blocks'.flatten) := by
    rw [runSources_flatten hapart, runSources_flatten hapart']
    exact (hperm.map _).flatten
  exact fun _ _ _ => Shape.ofSource?_record_congr hsources.all_eq
    (fun e _ => e.found_perm hsources) _ _ _

/-- An element that a record does not know may be added. -/
theorem readAlike_added {front back : List Element} {x : Element}
    (hname : fields.isName x.key = false) (hskip : isSkippable x.content = true)
    (hapart : ∀ y ∈ front.getLast?, ∀ z ∈ back.head?, y.joins fields.isListName z = false) :
    ReadAlike (some fields) ((front ++ back).map node) ((front ++ x :: back).map node) := by
  have hlist : fields.isListName x.key = false := Fields.isListName_eq_false hname
  have hfront : ∀ y ∈ front.getLast?, ∀ z ∈ (x :: back).head?,
      y.joins fields.isListName z = false := by
    intro y _ z hz
    cases hz
    by_cases heq : y.name = x.name
    · have hkey : y.key = x.key := congrArg keyOf heq
      rw [Element.joins, hkey, hlist, Bool.false_and]
    · rw [Element.joins, decide_eq_false heq, Bool.and_false]
  have hplain : runSources fields.isListName (front ++ back) =
      runSources fields.isListName front ++ runSources fields.isListName back :=
    runSources_append hapart
  have hmore : runSources fields.isListName (front ++ x :: back) =
      runSources fields.isListName front ++ runSource [x] :: runSources fields.isListName back := by
    rw [runSources_append hfront, runSources_cons hlist]
  refine Shape.readAlike_elements (absurd · (Option.some_ne_none _))
    fun heading fields' hrole => ?_
  cases hrole
  apply Shape.ofSource?_record_congr
  · have hadmitted : isAdmitted fields (runSource [x]) = true := by
      rw [isAdmitted]
      exact Bool.or_eq_true_iff.mpr (.inr hskip)
    rw [hplain, hmore, List.all_append, List.all_append, List.all_cons, hadmitted, Bool.true_and]
  · intro e he
    have hnothing : e.found Shape.ofSource? [runSource [x]] = [] :=
      Fields.found_of_unknown hname _ e he
    rw [hplain, hmore, List.append_cons, Entry.found_append, Entry.found_append,
      Entry.found_append, hnothing, List.append_nil]

theorem readAlike_forall₂ {role : Option Fields}
    (hlengths : runLengths (isListIn role) elements = runLengths (isListIn role) elements')
    (halike : ∀ fields, role = some fields →
      List.Forall₂ (Element.Alike fields) elements elements')
    (hempty : elements = [] ↔ elements' = []) :
    ReadAlike role (elements.map node) (elements'.map node) := by
  refine Shape.readAlike_elements (fun _ => hempty) fun heading fields hrole => ?_
  cases hrole
  exact ofSource?_forall₂ hlengths (halike fields rfl)

end Cases

/-- Elements that differ in their names alone are one to each shape. -/
theorem Element.SameButPrefix.alike {x y : Element} (hsame : x.SameButPrefix y) :
    x.Alike fields y := by
  obtain ⟨name, attributes, content⟩ := x
  obtain ⟨name', _, _⟩ := y
  obtain ⟨hname, rfl, rfl⟩ := hsame
  exact ⟨congrArg String.ofList hname, rfl, fun _ _ _ s _ => s.ofSource?_name ..⟩

theorem Element.Alike.refl (fields : Fields) (x : Element) : x.Alike fields x :=
  ⟨rfl, rfl, fun _ _ _ _ _ => rfl⟩

theorem Varies.readAlike {role : Option Fields} (hvaries : Varies role elements elements') :
    ReadAlike role (elements.map node) (elements'.map node) := by
  induction hvaries with
  | moved hperm hapart => exact readAlike_moved hperm hapart
  | added hname hskip hapart => exact readAlike_added hname hskip hapart
  | renamed hsame hlengths =>
    refine readAlike_forall₂ hlengths (fun _ _ => hsame.imp fun _ _ h => h.alike) ?_
    rw [← List.length_eq_zero_iff, ← List.length_eq_zero_iff, hsame.length_eq]
  | @within role front back inner inner' name attributes hinner ih =>
    refine readAlike_forall₂ (runLengths_congr (by simp)) (fun fields hrole => ?_) (by simp)
    subst hrole
    have hrefl : ∀ elements, List.Forall₂ (Element.Alike fields) elements elements :=
      fun _ => List.forall₂_same.mpr fun x _ => .refl fields x
    have hchild : Element.Alike fields ⟨name, attributes, inner.map node⟩
        ⟨name, attributes, inner'.map node⟩ := {
      key_eq := rfl
      skippable_eq := (isSkippable_elements inner).trans (isSkippable_elements inner').symm
      readAlike := fun e he hname s hs => ih e.2.role (.known he hname) s hs name name attributes }
    exact List.rel_append (hrefl front) (.cons hchild (hrefl back))

end Xml

end StoreAdmin
