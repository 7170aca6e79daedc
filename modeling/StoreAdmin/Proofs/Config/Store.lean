import StoreAdmin.Config.Store
import StoreAdmin.Proofs.Config.Document
import StoreAdmin.Proofs.Config.FileSystem
import StoreAdmin.Proofs.Text.Utf8

/-!
# Loading what was saved

A configuration that was saved is loaded as it was, from a file that only its owner may read.  What
is loaded can be saved and loaded again.
-/

namespace StoreAdmin

namespace ConfigStore

open FileSystem

variable {fs saved : FileSystem} {path : FilePath} {shown : String} {config : ClientConfig}

/-! ## Loading -/

/-- What is loaded is what the text of a file describes, and it is valid. -/
theorem load_eq_ok_iff : load fs path shown = .ok config ↔
    ∃ document, fs.readText path = .ok document ∧
      ClientConfig.ofToml? document = some config ∧ config.validate = .ok () := by
  constructor
  · intro hload
    cases hnode : fs.node? path with
    | none =>
        rw [load, hnode] at hload
        cases hload
    | some node =>
        simp only [load, hnode] at hload
        cases hread : fs.readText path with
        | error fault =>
            rw [hread] at hload
            cases hload
        | ok document =>
            rw [hread] at hload
            cases hconfig : ClientConfig.ofToml? document with
            | none =>
                simp only [hconfig] at hload
                cases hload
            | some found =>
                simp only [hconfig] at hload
                cases hvalid : found.validate with
                | error e =>
                    rw [hvalid] at hload
                    cases hload
                | ok _ =>
                    rw [hvalid] at hload
                    cases hload
                    exact ⟨document, rfl, hconfig, hvalid⟩
  · rintro ⟨document, hread, hconfig, hvalid⟩
    obtain ⟨content, mode, hnode, _⟩ := readText_eq_ok_iff.mp hread
    simp only [load, hnode, hread, hconfig, hvalid]
    rfl

/-! ## Saving -/

/-- The three steps that replace the content of a file.  Only the file changes. -/
theorem exists_apply_replaceContent (hpath : fs.node? path ≠ some .directory) : ∃ mode,
    fs.apply (.openEmpty path) = .ok (fs.set path (.file [] mode)) ∧
      (fs.set path (.file [] mode)).apply (.restrict path) =
        .ok (fs.set path (.file [] ownerOnly)) ∧
      ∀ content, (fs.set path (.file [] ownerOnly)).apply (.write path content) =
        .ok (fs.set path (.file content ownerOnly)) := by
  obtain ⟨mode, hopened⟩ := exists_of_openEmpty hpath
  refine ⟨mode, hopened, ?_, fun content => ?_⟩
  · rw [apply_restrict (node?_set_self hpath _), set_set]
  · rw [apply_write (node?_set_self hpath _), set_set]

theorem states_replaceContent (hpath : fs.node? path ≠ some .directory) (content : List UInt8) :
    ∃ mode, fs.states (replaceContent path content) =
      ([fs.set path (.file [] mode), fs.set path (.file [] ownerOnly),
        fs.set path (.file content ownerOnly)], .ok ()) := by
  obtain ⟨mode, hopened, hrestricted, hwritten⟩ := exists_apply_replaceContent hpath
  exact ⟨mode, by simp only [replaceContent, states, hopened, hrestricted, hwritten]⟩

theorem states_replaceContent_of_directory (hpath : fs.node? path = some .directory)
    (content : List UInt8) :
    fs.states (replaceContent path content) = ([], .error .isDirectory) := by
  simp only [replaceContent, states, apply, hpath]

/-- The file system in which the directories above a file are made. -/
def parented (fs : FileSystem) (path : FilePath) : FileSystem :=
  fs.after (makeDirectories [] path.dropLast)

/-- Saving as a single change. -/
theorem save_eq (fs : FileSystem) (path : FilePath) (config : ClientConfig) :
    save fs path config =
      match config.validate, (fs.states (makeDirectories [] path.dropLast)).2 with
      | .error e, _ => (fs, .error e)
      | .ok (), .error fault => (parented fs path, .error (.io fault))
      | .ok (), .ok () =>
        if (parented fs path).node? path = some .directory then
          (parented fs path, .error (.io .isDirectory))
        else
          ((parented fs path).set path (.file (Utf8.encode config.tomlText) ownerOnly),
            .ok ()) := by
  have hparented : (fs.states (makeDirectories [] path.dropLast)).1.getLast?.getD fs =
      parented fs path := rfl
  simp only [save, saveStates]
  cases config.validate with
  | error e => rfl
  | ok _ =>
      cases hmade : (fs.states (makeDirectories [] path.dropLast)).2 with
      | error fault => simp only [hparented]
      | ok _ =>
          simp only [hparented]
          by_cases hdirectory : (parented fs path).node? path = some .directory
          · rw [if_pos hdirectory, states_replaceContent_of_directory hdirectory,
              List.append_nil, hparented]
            rfl
          · obtain ⟨mode, hstates⟩ :=
              states_replaceContent hdirectory (Utf8.encode config.tomlText)
            rw [if_neg hdirectory, hstates, List.getLast?_append]
            rfl

/-- What saving takes, and what it does to the file system. -/
theorem save_eq_ok_iff : save fs path config = (saved, .ok ()) ↔
    config.validate = .ok () ∧ (fs.states (makeDirectories [] path.dropLast)).2 = .ok () ∧
      (parented fs path).node? path ≠ some .directory ∧
      saved = (parented fs path).set path (.file (Utf8.encode config.tomlText) ownerOnly) := by
  rw [save_eq]
  cases config.validate with
  | error e => simp
  | ok _ =>
      cases (fs.states (makeDirectories [] path.dropLast)).2 with
      | error fault => simp
      | ok _ =>
          by_cases hdirectory : (parented fs path).node? path = some .directory
          · simp [hdirectory]
          · simp [hdirectory, eq_comm]

/-! ## Loading and saving -/

/-- What saving a configuration leaves behind: the configuration is loaded again, its file is
closed to others, and no other file is new or changed. Directories above the file may be new. -/
structure Saved (fs saved : FileSystem) (path : FilePath) (config : ClientConfig) : Prop where
  loaded : ∀ shown, load saved path shown = .ok config
  closed : ∃ content, saved.node? path = some (.file content ownerOnly)
  kept : ∀ other, other ≠ path → saved.node? other = fs.node? other ∨
    (other <+: path.dropLast ∧ fs.node? other = none ∧ saved.node? other = some .directory)

theorem saved_of_save (hsave : save fs path config = (saved, .ok ())) :
    Saved fs saved path config := by
  obtain ⟨hvalid, -, hfile, hsaved⟩ := save_eq_ok_iff.mp hsave
  have hwritten : saved.node? path =
      some (.file (Utf8.encode config.tomlText) ownerOnly) := by
    rw [hsaved, node?_set_self hfile]
  refine ⟨fun shown => ?_, ⟨_, hwritten⟩, fun other hother => ?_⟩
  · exact load_eq_ok_iff.mpr
      ⟨_, readText_eq_ok_iff.mpr ⟨_, _, hwritten, Utf8.decode?_encode _⟩,
        config.ofToml?_tomlText, hvalid⟩
  · rw [hsaved, node?_set _ (ne_root hfile), if_neg hother]
    exact extends_makeDirectories fs [] path.dropLast other

theorem node?_parented (fs : FileSystem) (path : FilePath) :
    (parented fs path).node? path = fs.node? path :=
  (extends_makeDirectories fs [] path.dropLast).node?_eq

/-- Where neither a file nor a directory is in the way, every valid configuration is saved. -/
theorem exists_save (hclear : fs.IsClear path.dropLast) (hfile : fs.node? path ≠ some .directory)
    (hvalid : config.validate = .ok ()) : ∃ saved, save fs path config = (saved, .ok ()) := by
  have hmade : (fs.states (makeDirectories [] path.dropLast)).2 = .ok () :=
    IsClear.makeDirectories hclear
  refine ⟨_, save_eq_ok_iff.mpr ⟨hvalid, hmade, ?_, rfl⟩⟩
  rw [node?_parented]
  exact hfile

/-- In a tree, nothing is in the way to a file. -/
theorem clear_of_readText {document : List Char} (htree : fs.IsTree)
    (hread : fs.readText path = .ok document) :
    fs.IsClear path.dropLast ∧ fs.node? path ≠ some .directory := by
  obtain ⟨content, mode, hthere, -⟩ := readText_eq_ok_iff.mp hread
  have hfile : fs.node? path ≠ some .directory := by
    rw [hthere]
    exact nofun
  exact ⟨htree.isClear_dropLast (ne_root hfile) (hthere ▸ Option.some_ne_none _), hfile⟩

/-- A configuration that was saved is loaded as it was.  A configuration that was loaded is valid,
and it can be saved and loaded again. -/
theorem saved_and_loaded (fs saved : FileSystem) (path : FilePath) (shown : String)
    (config : ClientConfig) :
    (save fs path config = (saved, .ok ()) → Saved fs saved path config) ∧
    (fs.IsTree → load fs path shown = .ok config →
      config.validate = .ok () ∧
      ∃ again, save fs path config = (again, .ok ()) ∧ Saved fs again path config) := by
  refine ⟨saved_of_save, fun htree hload => ?_⟩
  obtain ⟨document, hread, -, hvalid⟩ := load_eq_ok_iff.mp hload
  obtain ⟨hclear, hfile⟩ := clear_of_readText htree hread
  obtain ⟨again, hsave⟩ := exists_save hclear hfile hvalid
  exact ⟨hvalid, again, hsave, saved_of_save hsave⟩

/-- A file that everybody may read, with a text. -/
def openlyKept (text : String) : FileSystem :=
  empty.set ["config.toml"] (.file (Utf8.encode text.toList) 0o644)

theorem readText_openlyKept (text : String) :
    (openlyKept text).readText ["config.toml"] = .ok text.toList :=
  readText_eq_ok_iff.mpr ⟨_, 0o644, rfl, Utf8.decode?_encode text.toList⟩

/-- A configuration whose timeout takes all of its 64 bits. -/
def patient : ClientConfig :=
  { endpoint := "a", timeout := 18446744073709551615 }

theorem validate_patient : patient.validate = .ok () := by
  decide

/-- The longest timeout is loaded, saved and loaded again. -/
theorem saved_and_loaded_patient :
    let fs := openlyKept "endpoint = 'a'\ntimeout_secs = 18446744073709551615"
    ∃ saved, save fs ["config.toml"] patient = (saved, .ok ()) ∧
      Saved fs saved ["config.toml"] patient ∧
      fs.IsTree ∧ load fs ["config.toml"] "config.toml" = .ok patient ∧
      ∃ again, save fs ["config.toml"] patient = (again, .ok ()) ∧
        Saved fs again ["config.toml"] patient := by
  intro fs
  have htree : fs.IsTree := isTree_set_empty _ _
  have hload : load fs ["config.toml"] "config.toml" = .ok patient :=
    load_eq_ok_iff.mpr ⟨_, readText_openlyKept _, by decide +kernel, validate_patient⟩
  obtain ⟨hclear, hfile⟩ := clear_of_readText htree (readText_openlyKept _)
  obtain ⟨saved, hsave⟩ := exists_save hclear hfile validate_patient
  obtain ⟨hsaved, hloaded⟩ :=
    saved_and_loaded fs saved ["config.toml"] "config.toml" patient
  exact ⟨saved, hsave, hsaved hsave, htree, hload, (hloaded htree hload).2⟩

end ConfigStore
end StoreAdmin
