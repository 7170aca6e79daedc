import StoreAdmin.Record.Shape

/-!
# Shapes that are read back

What travels of a record are its fields without the local ones.  Each of them is found again if no
name that a field is written under is read into another field, and if a field that must be given is
never left out.  Both are checked on the shape of a record and of everything in it.
-/

namespace StoreAdmin

/-- The fields of a record as a list. -/
def Fields.toList : Fields → List Entry
  | .nil => []
  | .cons field shape rest => (field, shape) :: rest.toList

def Shape.isList : Shape → Bool
  | .list _ => true
  | _ => false

mutual

/-- Whether a shape and everything in it satisfies a property. -/
def Shape.every (p : Shape → Bool) : Shape → Bool
  | .list item => p (.list item) && item.every p
  | .record heading fields => p (.record heading fields) && fields.every p
  | s => p s

def Fields.every (p : Shape → Bool) : Fields → Bool
  | .nil => true
  | .cons _ shape rest => shape.every p && rest.every p

end

mutual

theorem Shape.every_of_imp {p q : Shape → Bool} (himp : ∀ s : Shape, p s = true → q s = true)
    (s : Shape) (hs : s.every p = true) : s.every q = true := by
  match s, hs with
  | .text, hs | .integer, hs | .flag, hs | .ratio, hs => exact himp _ hs
  | .list item, hs =>
    rw [Shape.every, Bool.and_eq_true] at hs ⊢
    exact ⟨himp _ hs.1, item.every_of_imp himp hs.2⟩
  | .record heading fields, hs =>
    rw [Shape.every, Bool.and_eq_true] at hs ⊢
    exact ⟨himp _ hs.1, fields.every_of_imp himp hs.2⟩

theorem Fields.every_of_imp {p q : Shape → Bool} (himp : ∀ s : Shape, p s = true → q s = true)
    (fs : Fields) (hs : fs.every p = true) : fs.every q = true := by
  match fs, hs with
  | .nil, _ => rfl
  | .cons field shape rest, hs =>
    rw [Fields.every, Bool.and_eq_true] at hs ⊢
    exact ⟨shape.every_of_imp himp hs.1, rest.every_of_imp himp hs.2⟩

end

/-! ## What is read back -/

mutual

/-- A value with its texts rewritten. -/
def Shape.mapText (f : String → String) : (s : Shape) → s.Val → s.Val
  | .text, (v : String) => f v
  | .integer, v => v
  | .flag, v => v
  | .ratio, v => v
  | .list item, vs => List.map (item.mapText f) vs
  | .record _ fields, v => fields.mapText f v

def Fields.mapText (f : String → String) : (fs : Fields) → fs.Val → fs.Val
  | .nil, v => v
  | .cons _ shape rest, (v, vs) => (shape.mapText f v, rest.mapText f vs)

end

mutual

/-- What travels of a value: a local field is empty. -/
def Shape.shared : (s : Shape) → s.Val → s.Val
  | .text, v => v
  | .integer, v => v
  | .flag, v => v
  | .ratio, v => v
  | .list item, vs => List.map item.shared vs
  | .record _ fields, v => fields.shared v

def Fields.shared : (fs : Fields) → fs.Val → fs.Val
  | .nil, v => v
  | .cons field shape rest, (v, vs) =>
    (if field.omission = .always then shape.default else shape.shared v, rest.shared vs)

end

/-- Whether a record has no local field. -/
def Shape.isShared : Shape → Bool
  | .record _ fields => fields.toList.all (·.1.omission ≠ .always)
  | _ => true

mutual

/-- All of a value travels in which no record has a local field. -/
theorem Shape.shared_eq (s : Shape) (hs : s.every Shape.isShared = true) (v : s.Val) :
    s.shared v = v := by
  match s, hs, v with
  | .text, _, _ | .integer, _, _ | .flag, _, _ | .ratio, _, _ => rfl
  | .list item, hs, (vs : List item.Val) =>
    simp only [Shape.every, Bool.and_eq_true] at hs
    have hitem : item.shared = id := funext (item.shared_eq hs.2)
    have hitems : vs.map item.shared = vs := by rw [hitem, List.map_id]
    exact hitems
  | .record _ fields, hs, v =>
    simp only [Shape.every, Shape.isShared, Bool.and_eq_true, List.all_eq_true,
      decide_eq_true_eq] at hs
    exact fields.shared_eq hs.1 hs.2 v

theorem Fields.shared_eq (fs : Fields) (hfields : ∀ e ∈ fs.toList, e.1.omission ≠ .always)
    (hs : fs.every Shape.isShared = true) (v : fs.Val) : fs.shared v = v := by
  match fs, hfields, hs, v with
  | .nil, _, _, _ => rfl
  | .cons field shape rest, hfields, hs, (v, vs) =>
    simp only [Fields.every, Bool.and_eq_true] at hs
    have hmine := hfields (field, shape) List.mem_cons_self
    have hrest : ∀ e ∈ rest.toList, e.1.omission ≠ .always := fun e he =>
      hfields e (List.mem_cons_of_mem _ he)
    calc (if field.omission = .always then shape.default else shape.shared v, rest.shared vs)
      _ = (v, vs) := by rw [if_neg hmine, shape.shared_eq hs.1 v, rest.shared_eq hrest hs.2 vs]

end

/-- A value that is left out because it is empty is read as the default. -/
theorem Shape.shared_of_isEmpty (s : Shape) (v : s.Val) (hempty : s.isEmpty v = true) :
    s.shared v = s.default := by
  match s, v, hempty with
  | .text, (v : String), hempty =>
    have hv : v = "" := by simpa [Shape.isEmpty] using hempty
    exact hv
  | .integer, (v : Int64), hempty =>
    have hv : v = 0 := by simpa [Shape.isEmpty] using hempty
    exact hv
  | .flag, _, hempty | .ratio, _, hempty | .list _, _, hempty | .record _ _, _, hempty =>
    cases hempty

theorem Shape.isEmpty_mapText {f : String → String} (hf : f "" = "") (s : Shape) (v : s.Val)
    (hempty : s.isEmpty v = true) : s.isEmpty (s.mapText f v) = true := by
  match s, v, hempty with
  | .text, (v : String), hempty =>
    have hv : v = "" := by simpa [Shape.isEmpty] using hempty
    subst hv
    exact decide_eq_true (p := f "" = "") hf
  | .integer, _, hempty => exact hempty
  | .flag, _, hempty | .ratio, _, hempty | .list _, _, hempty | .record _ _, _, hempty =>
    cases hempty

/-- A field that is not written is read as its default. -/
theorem Field.shared_of_unwritten {f : Field} {s : Shape} {v : s.Val}
    (hunwritten : f.isWritten s v = false) :
    (if f.omission = .always then s.default else s.shared v) = s.default := by
  cases homission : f.omission with
  | never =>
    rw [isWritten, homission] at hunwritten
    cases hunwritten
  | always => rw [if_pos rfl]
  | whenEmpty =>
    have hempty : s.isEmpty v = true := by simpa [isWritten, homission] using hunwritten
    rw [if_neg (by decide), s.shared_of_isEmpty v hempty]

theorem Field.isWritten_mapText {g : String → String} (hg : g "" = "") {f : Field} {s : Shape}
    {v : s.Val} (hunwritten : f.isWritten s v = false) :
    f.isWritten s (s.mapText g v) = false := by
  cases homission : f.omission with
  | never =>
    rw [isWritten, homission] at hunwritten
    cases hunwritten
  | always => rw [isWritten, homission]
  | whenEmpty =>
    have hempty : s.isEmpty v = true := by simpa [isWritten, homission] using hunwritten
    rw [isWritten, homission, s.isEmpty_mapText hg v hempty]
    rfl

/-! ## Names -/

namespace Field

/-- A field is written, now or with another value. -/
def Travels (f : Field) : Prop :=
  f.omission ≠ .always

instance (f : Field) : Decidable f.Travels :=
  inferInstanceAs (Decidable (f.omission ≠ .always))

theorem travels_of_isWritten {f : Field} {s : Shape} {v : s.Val} (hf : f.isWritten s v = true) :
    f.Travels := by
  intro halways
  rw [isWritten, halways] at hf
  cases hf

/-- Neither field is read from what the other one is written under. -/
def Apart (a b : Field) : Prop :=
  (b.Travels → a.answersTo b.wire = false) ∧ (a.Travels → b.answersTo a.wire = false)

instance (a b : Field) : Decidable (a.Apart b) :=
  inferInstanceAs (Decidable (_ ∧ _))

theorem answersTo_wire {f : Field} (hf : f.Travels) : f.answersTo f.wire = true := by
  have hne : f.omission ≠ .always := hf
  simp [answersTo, hne]

theorem Apart.symm {a b : Field} (hapart : a.Apart b) : b.Apart a :=
  ⟨hapart.2, hapart.1⟩

theorem Apart.wire_ne {a b : Field} (hapart : a.Apart b) (ha : a.Travels) (hb : b.Travels) :
    a.wire ≠ b.wire := by
  intro heq
  have hown := answersTo_wire ha
  rw [heq, hapart.1 hb] at hown
  cases hown

end Field

end StoreAdmin
