import StoreAdmin.Config.FileSystem

/-!
# What effects leave behind

Making the directories on a path keeps everything that is there.  It works if no file is in the
way, and in a tree none is in the way to something that exists.
-/

namespace StoreAdmin

namespace FileSystem

variable {fs next : FileSystem} {path : FilePath}

@[simp]
theorem node?_root (fs : FileSystem) : fs.node? [] = some .directory := rfl

theorem ne_root (hpath : fs.node? path ≠ some .directory) : path ≠ [] := by
  intro hroot
  rw [hroot, node?_root] at hpath
  exact hpath rfl

theorem node?_set (fs : FileSystem) (hpath : path ≠ []) (node : FileNode) (other : FilePath) :
    (fs.set path node).node? other = if other = path then some node else fs.node? other := by
  unfold node?
  by_cases hroot : other = []
  · rw [if_pos hroot, if_pos hroot, if_neg fun hsame => hpath (hsame.symm.trans hroot)]
  · rw [if_neg hroot, if_neg hroot, set]

theorem node?_set_self (hpath : fs.node? path ≠ some .directory) (node : FileNode) :
    (fs.set path node).node? path = some node := by
  rw [node?_set fs (ne_root hpath), if_pos rfl]

theorem set_set (fs : FileSystem) (path : FilePath) (first second : FileNode) :
    (fs.set path first).set path second = fs.set path second := by
  refine congrArg FileSystem.mk (funext fun other => ?_)
  by_cases hsame : other = path
  · rw [if_pos hsame, if_pos hsame]
  · rw [if_neg hsame, if_neg hsame]
    exact if_neg hsame

/-- The file system that effects lead to, also when one of them fails. -/
def after (fs : FileSystem) (effects : List Effect) : FileSystem :=
  (fs.states effects).1.getLast?.getD fs

theorem after_cons {e : Effect} (happly : fs.apply e = .ok next) (rest : List Effect) :
    fs.after (e :: rest) = next.after rest := by
  rw [after, states, happly, List.getLast?_cons, Option.getD_some, after]

theorem outcome_cons {e : Effect} (happly : fs.apply e = .ok next) (rest : List Effect) :
    (fs.states (e :: rest)).2 = (next.states rest).2 := by
  rw [states, happly]

/-! ## Directories -/

/-- Everything is kept, and what is new is a directory on the way to a path. -/
def Extends (fs next : FileSystem) (path : FilePath) : Prop :=
  ∀ other, next.node? other = fs.node? other ∨
    (other <+: path ∧ fs.node? other = none ∧ next.node? other = some .directory)

theorem Extends.refl (fs : FileSystem) (path : FilePath) : fs.Extends fs path :=
  fun _ => .inl rfl

theorem Extends.trans {last : FileSystem} (hfirst : fs.Extends next path)
    (hsecond : next.Extends last path) : fs.Extends last path := by
  intro other
  rcases hsecond other with hkept | ⟨hway, hnone, hmade⟩
  · rw [hkept]
    exact hfirst other
  · rcases hfirst other with hkept | ⟨_, _, hthere⟩
    · exact .inr ⟨hway, hkept ▸ hnone, hmade⟩
    · rw [hnone] at hthere
      cases hthere

/-- A directory is made only where nothing was. -/
theorem eq_of_makeDirectory {directory : FilePath} {last : Bool}
    (happly : fs.apply (.makeDirectory directory last) = .ok next) :
    (fs.node? directory = none ∧ next = fs.set directory .directory) ∨ next = fs := by
  rw [apply] at happly
  cases hthere : fs.node? directory with
  | none =>
      rw [hthere] at happly
      exact .inl ⟨rfl, (Except.ok.inj happly).symm⟩
  | some node =>
      rw [hthere] at happly
      cases node with
      | file content mode => cases happly
      | directory => exact .inr (Except.ok.inj happly).symm

theorem extends_makeDirectory {directory : FilePath} {last : Bool} (hway : directory <+: path)
    (happly : fs.apply (.makeDirectory directory last) = .ok next) : fs.Extends next path := by
  rcases eq_of_makeDirectory happly with ⟨hnone, hnext⟩ | hnext
  · have hdirectory : fs.node? directory ≠ some .directory := by
      rw [hnone]
      exact nofun
    intro other
    rw [hnext, node?_set fs (ne_root hdirectory)]
    by_cases hsame : other = directory
    · rw [if_pos hsame, hsame]
      exact .inr ⟨hway, hnone, rfl⟩
    · rw [if_neg hsame]
      exact .inl rfl
  · rw [hnext]
    exact .refl fs path

/-- Making the directories on a path keeps everything, also when it fails on the way. -/
theorem extends_makeDirectories (fs : FileSystem) (above rest : FilePath) :
    fs.Extends (fs.after (makeDirectories above rest)) (above ++ rest) := by
  induction rest generalizing fs above with
  | nil => exact .refl fs _
  | cons name rest ih =>
      rw [makeDirectories]
      cases happly : fs.apply (.makeDirectory (above ++ [name]) (rest = [])) with
      | error fault =>
          rw [after, states, happly]
          exact .refl fs _
      | ok next =>
          rw [after_cons happly]
          rw [List.append_cons above name rest]
          exact (extends_makeDirectory (List.prefix_append _ rest) happly).trans
            (ih next (above ++ [name]))

/-- What is new above a path leaves the path itself alone. -/
theorem Extends.node?_eq (hextends : fs.Extends next path.dropLast) :
    next.node? path = fs.node? path := by
  rcases hextends path with hkept | ⟨hway, hnone, -⟩
  · exact hkept
  · have hroot : path ≠ [] := by
      rintro rfl
      cases hnone
    have hlength := hway.length_le
    have hpositive := List.length_pos_iff.mpr hroot
    rw [List.length_dropLast] at hlength
    omega

/-- Nothing on the way to a path is a file. -/
def IsClear (fs : FileSystem) (path : FilePath) : Prop :=
  ∀ other, other <+: path → ∀ content mode, fs.node? other ≠ some (.file content mode)

theorem IsClear.extends (hclear : fs.IsClear path) (hextends : fs.Extends next path) :
    next.IsClear path := by
  intro other hother content mode hfile
  rcases hextends other with hkept | ⟨-, -, hmade⟩
  · exact hclear other hother content mode (hkept.symm.trans hfile)
  · rw [hmade] at hfile
    cases hfile

theorem IsClear.exists_makeDirectory (hclear : fs.IsClear path) {directory : FilePath}
    (hway : directory <+: path) (last : Bool) :
    ∃ next, fs.apply (.makeDirectory directory last) = .ok next := by
  rw [apply]
  cases hthere : fs.node? directory with
  | none => exact ⟨_, rfl⟩
  | some node =>
      cases node with
      | file content mode => exact absurd hthere (hclear directory hway content mode)
      | directory => exact ⟨fs, rfl⟩

/-- The directories on a path can be made if no file is in the way. -/
theorem IsClear.makeDirectories {above rest : FilePath} (hclear : fs.IsClear (above ++ rest)) :
    (fs.states (makeDirectories above rest)).2 = .ok () := by
  induction rest generalizing fs above with
  | nil => rfl
  | cons name rest ih =>
      rw [List.append_cons above name rest] at hclear
      have hway : above ++ [name] <+: above ++ [name] ++ rest := List.prefix_append _ rest
      obtain ⟨next, happly⟩ := hclear.exists_makeDirectory hway (rest = [])
      rw [FileSystem.makeDirectories, outcome_cons happly]
      exact ih (hclear.extends (extends_makeDirectory hway happly))

/-! ## Trees -/

/-- Whatever there is stands in a directory. -/
def IsTree (fs : FileSystem) : Prop :=
  ∀ (path : FilePath) (name : String),
    fs.node? (path ++ [name]) ≠ none → fs.node? path = some .directory

theorem isTree_set_empty (name : String) (node : FileNode) : (empty.set [name] node).IsTree := by
  intro path other hthere
  by_cases hroot : path = []
  · rw [hroot, node?_root]
  · have hother : path ++ [other] ≠ [name] := fun hsame =>
      hroot (List.append_eq_singleton_iff.mp hsame |>.elim And.left fun h => nomatch h.2)
    rw [node?_set empty (List.cons_ne_nil name []) node, if_neg hother] at hthere
    exact absurd (if_neg (List.append_ne_nil_of_right_ne_nil path (List.cons_ne_nil other [])))
      hthere

theorem IsTree.directory_of_append (htree : fs.IsTree) {rest : FilePath} (hrest : rest ≠ [])
    (hthere : fs.node? (path ++ rest) ≠ none) : fs.node? path = some .directory := by
  induction rest generalizing path with
  | nil => exact absurd rfl hrest
  | cons name rest ih =>
      refine htree path name ?_
      rw [List.append_cons path name rest] at hthere
      by_cases hlast : rest = []
      · rw [hlast, List.append_nil] at hthere
        exact hthere
      · rw [ih hlast hthere]
        exact Option.some_ne_none _

theorem IsTree.isClear_dropLast (htree : fs.IsTree) (hpath : path ≠ [])
    (hthere : fs.node? path ≠ none) : fs.IsClear path.dropLast := by
  rintro other ⟨between, hbetween⟩ content mode hfile
  rw [← List.dropLast_concat_getLast hpath, ← hbetween, List.append_assoc] at hthere
  have hdirectory := htree.directory_of_append
    (List.append_ne_nil_of_right_ne_nil between (List.cons_ne_nil _ [])) hthere
  rw [hfile] at hdirectory
  cases hdirectory

/-! ## Files -/

theorem readText_eq_ok_iff {text : List Char} : fs.readText path = .ok text ↔
    ∃ content mode, fs.node? path = some (.file content mode) ∧
      Utf8.decode? content = some text := by
  constructor
  · intro hread
    rw [readText] at hread
    cases hthere : fs.node? path with
    | none =>
        rw [hthere] at hread
        cases hread
    | some node =>
        rw [hthere] at hread
        cases node with
        | directory => cases hread
        | file content mode =>
            cases hdecoded : Utf8.decode? content with
            | none => simp only [hdecoded, reduceCtorEq] at hread
            | some decoded =>
                simp only [hdecoded, Except.ok.injEq] at hread
                exact ⟨content, mode, rfl, hdecoded.trans (congrArg some hread)⟩
  · rintro ⟨content, mode, hthere, hdecoded⟩
    simp only [readText, hthere, hdecoded]

theorem apply_restrict {content : List UInt8} {mode : Nat}
    (hpath : fs.node? path = some (.file content mode)) :
    fs.apply (.restrict path) = .ok (fs.set path (.file content ownerOnly)) := by
  rw [apply, hpath]

theorem apply_write {previous : List UInt8} {mode : Nat}
    (hpath : fs.node? path = some (.file previous mode)) (content : List UInt8) :
    fs.apply (.write path content) = .ok (fs.set path (.file content mode)) := by
  rw [apply, hpath]

theorem exists_of_openEmpty (hpath : fs.node? path ≠ some .directory) :
    ∃ mode, fs.apply (.openEmpty path) = .ok (fs.set path (.file [] mode)) := by
  rw [apply]
  cases hthere : fs.node? path with
  | none => exact ⟨ownerOnly, rfl⟩
  | some node =>
      cases node with
      | file content mode => exact ⟨mode, rfl⟩
      | directory => exact absurd hthere hpath

end FileSystem
end StoreAdmin
