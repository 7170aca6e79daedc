import StoreAdmin.Proofs.Record.Legible
import StoreAdmin.Record.Json
import StoreAdmin.Record.Xml
import Mathlib.Data.List.Forall2

/-!
# Reading a record from named sources

The fields of a record are read from a list of names with something behind each of them, members of
an object or children of an element.  A field sees nothing of that list but what is read under its
own names, so lists are read as the same record if each field finds the same in them, in any order.
-/

namespace StoreAdmin

variable {σ : Type} {read : (s : Shape) → σ → Option s.Val}

/-- What a field finds in a list of named sources. -/
def Entry.found (read : (s : Shape) → σ → Option s.Val) (e : Entry)
    (sources : List (String × σ)) :
    List (Option e.2.Val) :=
  (sources.filter fun s => e.1.answersTo s.1).map fun s => read e.2 s.2

theorem Entry.found_append (e : Entry) (front back : List (String × σ)) :
    e.found read (front ++ back) = e.found read front ++ e.found read back := by
  rw [found, List.filter_append, List.map_append, found, found]

theorem Entry.found_perm (e : Entry) {sources sources' : List (String × σ)}
    (hperm : sources.Perm sources') : (e.found read sources).Perm (e.found read sources') :=
  (hperm.filter _).map _

/-- Two named sources are one to a field: they have the same name, and if that is a name of the
field, they are read as the same. -/
def Entry.Agrees (read : (s : Shape) → σ → Option s.Val) (e : Entry)
    (a b : String × σ) : Prop :=
  a.1 = b.1 ∧ (e.1.answersTo a.1 = true → read e.2 a.2 = read e.2 b.2)

theorem Entry.found_congr (e : Entry) {sources sources' : List (String × σ)}
    (hagree : List.Forall₂ (e.Agrees read) sources sources') :
    e.found read sources = e.found read sources' := by
  induction hagree with
  | nil => rfl
  | @cons a b sources sources' hfirst _ ih =>
    obtain ⟨hname, hread⟩ := hfirst
    have hrest : e.found read [a] = e.found read [b] := by
      by_cases hmine : e.1.answersTo a.1 = true
      · simp [found, ← hname, hmine, hread hmine]
      · simp [found, ← hname, hmine]
    rw [← List.singleton_append, found_append, ih, hrest, ← found_append, List.singleton_append]

namespace Fields

theorem answersTo_eq_false {fs : Fields} {name : String} (hname : fs.isName name = false) :
    ∀ e ∈ fs.toList, e.1.answersTo name = false := by
  simpa [isName_eq_any] using hname

/-- The name of a list is the name of a field. -/
theorem isListName_eq_false {fs : Fields} {name : String} (hname : fs.isName name = false) :
    fs.isListName name = false := by
  rw [isListName_eq_any, List.any_eq_false]
  intro e he
  simp [answersTo_eq_false hname e he]

/-- No field finds anything under a name that none of them has. -/
theorem found_of_unknown {fs : Fields} {name : String} (hname : fs.isName name = false)
    (source : σ) : ∀ e ∈ fs.toList, e.found read [(name, source)] = [] := by
  intro e he
  simp [Entry.found, answersTo_eq_false hname e he]

/-- The fields read from a list of named sources. -/
def readFrom (read : (s : Shape) → σ → Option s.Val) (lenient : Bool) :
    (fs : Fields) → List (String × σ) → Option fs.Val
  | .nil, _ => some ()
  | .cons field shape rest, sources =>
    let missing := if lenient || field.omission = .always then some shape.default else none
    match Field.pick missing id (Entry.found read (field, shape) sources),
      rest.readFrom read lenient sources with
    | some v, some vs => some (v, vs)
    | _, _ => none

end Fields

theorem Field.pick_map {α β : Type} (missing : Option β) (f : α → Option β)
    (found : List α) :
    pick missing id (found.map f) = pick missing f found := by
  match found with
  | [] | [_] | _ :: _ :: _ => rfl

/-- In which order things are found makes no difference. -/
theorem Field.pick_perm {β : Type} (missing : Option β) {found found' : List (Option β)}
    (hperm : found.Perm found') : pick missing id found = pick missing id found' := by
  match found, hperm with
  | [], hperm => rw [hperm.nil_eq]
  | [v], hperm => rw [hperm.singleton_eq]
  | a :: b :: more, hperm =>
    match found', hperm.length_eq with
    | _ :: _ :: _, _ => rfl

namespace Fields

theorem ofMembers?_eq (lenient : Bool) (fs : Fields) (members : List (String × Json.Value)) :
    fs.ofMembers? lenient members = fs.readFrom Shape.ofJson? lenient members := by
  match fs with
  | .nil => rfl
  | .cons field shape rest =>
    simp only [readFrom, Entry.found, Field.pick_map, ← ofMembers?_eq lenient rest]
    rfl

theorem ofSources?_eq (lenient : Bool) (fs : Fields) (sources : List (String × Xml.Source)) :
    fs.ofSources? lenient sources = fs.readFrom Shape.ofSource? lenient sources := by
  match fs with
  | .nil => rfl
  | .cons field shape rest =>
    simp only [readFrom, Entry.found, Field.pick_map, ← ofSources?_eq lenient rest]
    rfl

/-- Lists in which each field finds the same are read as the same record. -/
theorem readFrom_congr (lenient : Bool) {sources sources' : List (String × σ)} (fs : Fields)
    (hfound : ∀ e ∈ fs.toList, (e.found read sources).Perm (e.found read sources')) :
    fs.readFrom read lenient sources = fs.readFrom read lenient sources' := by
  match fs, hfound with
  | .nil, _ => rfl
  | .cons field shape rest, hfound =>
    have hfirst := fun missing =>
      Field.pick_perm missing (hfound (field, shape) List.mem_cons_self)
    have hrest := readFrom_congr lenient rest fun e he => hfound e (List.mem_cons_of_mem _ he)
    simp only [readFrom, hfirst, hrest]

end Fields
end StoreAdmin
