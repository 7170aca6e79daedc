import StoreAdmin.Proofs.Json.Spelling
import StoreAdmin.Proofs.Record.Json
import StoreAdmin.Proofs.Record.Reading

/-!
# The order of members

A record is read from an object as the same one whatever the order of its members is and whatever
else the object holds.
-/

namespace StoreAdmin

namespace Json

/-- The members whose names are texts. -/
def textMembers (members : List (Option String × Value)) : List (String × Value) :=
  members.filterMap fun m => m.1.map fun name => (name, m.2)

theorem textMembers_append (front back : List (Option String × Value)) :
    textMembers (front ++ back) = textMembers front ++ textMembers back :=
  List.filterMap_append

theorem named?_eq (members : List (Option String × Value)) :
    named? members = if members.all (·.1.isSome) then some (textMembers members) else none := by
  induction members with
  | nil => rfl
  | cons m rest ih =>
    obtain ⟨name, v⟩ := m
    cases name with
    | none => rfl
    | some name =>
      rw [named?, ih, List.all_cons, Option.isSome_some, Bool.true_and]
      split <;> rfl

/-- The members of an object, at whatever depth, stand in another order. -/
inductive Value.Moved : Value → Value → Prop
  | members {members members' : List (Option String × Value)} (hperm : members.Perm members') :
    Moved (.object members) (.object members')
  | inMember {front back : List (Option String × Value)} {name : Option String} {v w : Value}
    (hmoved : Moved v w) :
    Moved (.object (front ++ (name, v) :: back)) (.object (front ++ (name, w) :: back))
  | inItem {front back : List Value} {v w : Value} (hmoved : Moved v w) :
    Moved (.array (front ++ v :: back)) (.array (front ++ w :: back))

end Json

open Json (Value textMembers)

variable {heading : Heading} {fields : Fields} {v w : Value}

/-! ## Objects -/

theorem Shape.ofJson?_record_congr {members members' : List (Option String × Value)}
    (hnames : members.all (·.1.isSome) = members'.all (·.1.isSome))
    (hfound : ∀ e ∈ fields.toList, (e.found Shape.ofJson? (textMembers members)).Perm
      (e.found Shape.ofJson? (textMembers members'))) :
    (Shape.record heading fields).ofJson? (.object members) =
      (Shape.record heading fields).ofJson? (.object members') := by
  have hread := Fields.readFrom_congr heading.lenient fields hfound
  rw [ofJson?_object, ofJson?_object, Json.named?_eq, Json.named?_eq, hnames]
  split
  · rw [Option.bind_some, Option.bind_some, Fields.ofMembers?_eq, Fields.ofMembers?_eq]
    exact hread
  · rfl

/-- No shape but that of a record is read from an object. -/
theorem Shape.ofJson?_object_congr {members members' : List (Option String × Value)}
    (hrecord : ∀ heading fields, (Shape.record heading fields).ofJson? (.object members) =
      (Shape.record heading fields).ofJson? (.object members')) (s : Shape) :
    s.ofJson? (.object members) = s.ofJson? (.object members') := by
  match s with
  | .text | .integer | .flag | .ratio | .list _ => rfl
  | .record heading fields => exact hrecord heading fields

theorem Shape.ofJson?_perm {members members' : List (Option String × Value)}
    (hperm : members.Perm members') (s : Shape) :
    s.ofJson? (.object members) = s.ofJson? (.object members') :=
  s.ofJson?_object_congr fun _ _ =>
    ofJson?_record_congr hperm.all_eq fun e _ => e.found_perm (hperm.filterMap _)

/-- The value of a member may change if each field with its name is read from both. -/
theorem Shape.ofJson?_member {front back : List (Option String × Value)} {name : Option String}
    (hread : ∀ e ∈ fields.toList, name.any e.1.answersTo = true →
      e.2.ofJson? v = e.2.ofJson? w) :
    (Shape.record heading fields).ofJson? (.object (front ++ (name, v) :: back)) =
      (Shape.record heading fields).ofJson? (.object (front ++ (name, w) :: back)) := by
  refine ofJson?_record_congr (by simp) fun e he => .of_eq ?_
  have hagree : List.Forall₂ (e.Agrees Shape.ofJson?) (textMembers [(name, v)])
      (textMembers [(name, w)]) := by
    cases name with
    | none => exact .nil
    | some name => exact .cons ⟨rfl, hread e he⟩ .nil
  rw [List.append_cons, List.append_cons front (name, w)]
  simp only [Json.textMembers_append, Entry.found_append, e.found_congr hagree]

/-- A member that no field knows may be added. -/
theorem Shape.ofJson?_added {front back : List (Option String × Value)} {name : String}
    (hname : fields.isName name = false) (v : Value) :
    (Shape.record heading fields).ofJson? (.object (front ++ (some name, v) :: back)) =
      (Shape.record heading fields).ofJson? (.object (front ++ back)) := by
  refine ofJson?_record_congr (by simp) fun e he => .of_eq ?_
  have hnothing : e.found Shape.ofJson? (textMembers [(some name, v)]) = [] :=
    Fields.found_of_unknown hname v e he
  rw [List.append_cons]
  simp only [Json.textMembers_append, Entry.found_append, hnothing, List.append_nil]

/-! ## Arrays -/

theorem Shape.mapM_ofJson?_item {item : Shape} (hread : item.ofJson? v = item.ofJson? w)
    (front back : List Value) :
    (front ++ v :: back).mapM item.ofJson? = (front ++ w :: back).mapM item.ofJson? := by
  simp only [List.mapM_append, List.mapM_cons, hread]

/-- The fields that are read from the items of an array, in their order. -/
def Fields.travelling (fs : Fields) : List Entry :=
  fs.toList.filter fun e => e.1.Travels

/-- An item may change if the field in its place is read from both. -/
theorem Fields.ofItems?_item (lenient : Bool) (fs : Fields) (front back : List Value)
    (hread : ∀ e ∈ fs.travelling[front.length]?, e.2.ofJson? v = e.2.ofJson? w) :
    fs.ofItems? lenient (front ++ v :: back) = fs.ofItems? lenient (front ++ w :: back) := by
  match fs with
  | .nil => cases front <;> rfl
  | .cons field shape rest =>
    by_cases hlocal : field.omission = .always
    · have hrest := ofItems?_item lenient rest front back
        (by simpa [travelling, toList, Field.Travels, hlocal] using hread)
      simp only [ofItems?, if_pos hlocal, hrest]
    · have htravels : Fields.travelling (.cons field shape rest) =
          (field, shape) :: rest.travelling := by
        simp [travelling, toList, Field.Travels, hlocal]
      rw [htravels] at hread
      cases front with
      | nil =>
        have hfirst := hread (field, shape) rfl
        simp only [List.nil_append, ofItems?, if_neg hlocal, hfirst]
      | cons item front =>
        have hrest := ofItems?_item lenient rest front back hread
        simp only [List.cons_append, ofItems?, if_neg hlocal, hrest]

/-! ## Variations -/

theorem Json.Value.Moved.ofJson?_eq (hmoved : v.Moved w) (s : Shape) :
    s.ofJson? v = s.ofJson? w := by
  induction hmoved generalizing s with
  | members hperm => exact s.ofJson?_perm hperm
  | inMember _ ih =>
    exact s.ofJson?_object_congr fun _ _ => Shape.ofJson?_member fun e _ _ => ih e.2
  | @inItem front back v w _ ih =>
    match s with
    | .text | .integer | .flag | .ratio => rfl
    | .list item => exact Shape.mapM_ofJson?_item (ih item) front back
    | .record heading fields =>
      exact fields.ofItems?_item heading.lenient front back fun e _ => ih e.2

/-- What may change in a value that is read as a shape, without a change of what is read. -/
inductive Shape.VariesJson : Shape → Value → Value → Prop
  | moved {s : Shape} {v w : Value} (hmoved : v.Moved w) : VariesJson s v w
  /-- A record has one more member, which it does not know. -/
  | added {heading : Heading} {fields : Fields} {front back : List (Option String × Value)}
    {name : String} (hname : fields.isName name = false) (v : Value) :
    VariesJson (.record heading fields) (.object (front ++ back))
      (.object (front ++ (some name, v) :: back))
  /-- A member of a record varies as what it is read as. -/
  | member {heading : Heading} {fields : Fields} {front back : List (Option String × Value)}
    {name : String} {v w : Value}
    (hvaries : ∀ e ∈ fields.toList, e.1.answersTo name = true → e.2.VariesJson v w) :
    VariesJson (.record heading fields) (.object (front ++ (some name, v) :: back))
      (.object (front ++ (some name, w) :: back))
  /-- An item of an array that is read as a record varies as the field in its place. -/
  | place {heading : Heading} {fields : Fields} {front back : List Value} {v w : Value}
    (hvaries : ∀ e ∈ fields.travelling[front.length]?, e.2.VariesJson v w) :
    VariesJson (.record heading fields) (.array (front ++ v :: back)) (.array (front ++ w :: back))
  | item {item : Shape} {front back : List Value} {v w : Value} (hvaries : item.VariesJson v w) :
    VariesJson (.list item) (.array (front ++ v :: back)) (.array (front ++ w :: back))

theorem Shape.VariesJson.ofJson?_eq {s : Shape} (hvaries : s.VariesJson v w) :
    s.ofJson? v = s.ofJson? w := by
  induction hvaries with
  | moved hmoved => exact hmoved.ofJson?_eq _
  | added hname v => exact (Shape.ofJson?_added hname v).symm
  | member _ ih => exact Shape.ofJson?_member ih
  | @place heading fields front back _ _ _ ih =>
    exact fields.ofItems?_item heading.lenient front back ih
  | item _ ih => exact Shape.mapM_ofJson?_item ih _ _

end StoreAdmin
