import StoreAdmin.Proofs.Config.Store

/-!
# What is seen while a configuration is saved

The file can be looked at while a configuration is saved to it.  At first it is as it was, then it
is empty, and as soon as it holds anything of the configuration nobody but the owner may read it.
Saving that fails leaves the file as it was.
-/

namespace StoreAdmin

namespace FileSystem

variable {fs next mid : FileSystem} {path : FilePath} {effects first second : List Effect}

/-- The file systems that are seen before, between and during some effects, up to the first effect
that fails.  A content is written from its start on. -/
inductive Moment : FileSystem → List Effect → FileSystem → Prop
  | now (fs : FileSystem) (effects : List Effect) : Moment fs effects fs
  | writing {fs mid : FileSystem} {path : FilePath} {part content : List UInt8}
    {rest : List Effect} (hpart : part <+: content)
    (happly : fs.apply (.write path part) = .ok mid) :
    Moment fs (.write path content :: rest) mid
  | later {fs next mid : FileSystem} {e : Effect} {rest : List Effect}
    (happly : fs.apply e = .ok next) (hmid : Moment next rest mid) : Moment fs (e :: rest) mid

theorem moment_of_mem_states (hmid : mid ∈ (fs.states effects).1) : Moment fs effects mid := by
  induction effects generalizing fs with
  | nil => cases hmid
  | cons e rest ih =>
      rw [states] at hmid
      cases happly : fs.apply e with
      | error fault =>
          rw [happly] at hmid
          cases hmid
      | ok next =>
          rw [happly] at hmid
          rcases List.mem_cons.mp hmid with rfl | hlater
          · exact .later happly (.now _ rest)
          · exact .later happly (ih hlater)

/-- What is seen of two lists of effects is seen of the first, or of the second behind it. -/
theorem Moment.of_append (hmid : Moment fs (first ++ second) mid) :
    Moment fs first mid ∨
      ((fs.states first).2 = .ok () ∧ Moment (fs.after first) second mid) := by
  induction first generalizing fs with
  | nil => exact .inr ⟨rfl, hmid⟩
  | cons e first ih =>
      cases hmid with
      | now => exact .inl (.now _ _)
      | writing hpart happly => exact .inl (.writing hpart happly)
      | later happly hmid =>
          rw [outcome_cons happly, after_cons happly]
          exact (ih hmid).imp_left (.later happly)

/-- What is seen of a list of effects is also seen of it behind another list that succeeds. -/
theorem Moment.behind (hdone : (fs.states first).2 = .ok ())
    (hmid : Moment (fs.after first) second mid) : Moment fs (first ++ second) mid := by
  induction first generalizing fs with
  | nil => exact hmid
  | cons e first ih =>
      cases happly : fs.apply e with
      | error fault =>
          rw [states, happly] at hdone
          cases hdone
      | ok next =>
          rw [outcome_cons happly] at hdone
          rw [after_cons happly] at hmid
          exact .later happly (ih hdone hmid)

theorem states_append (fs : FileSystem) (first second : List Effect) :
    fs.states (first ++ second) =
      match (fs.states first).2 with
      | .ok () => ((fs.states first).1 ++ ((fs.after first).states second).1,
          ((fs.after first).states second).2)
      | .error fault => ((fs.states first).1, .error fault) := by
  induction first generalizing fs with
  | nil => rfl
  | cons e first ih =>
      cases happly : fs.apply e with
      | error fault => simp only [List.cons_append, states, happly]
      | ok next =>
          rw [outcome_cons happly, after_cons happly, List.cons_append]
          simp only [states, happly, ih next]
          cases (next.states first).2 <;> rfl

/-- While directories are made, everything is kept. -/
theorem extends_of_moment {above rest : FilePath}
    (hmid : Moment fs (makeDirectories above rest) mid) : fs.Extends mid (above ++ rest) := by
  induction rest generalizing fs above with
  | nil =>
      cases hmid
      exact .refl _ _
  | cons name rest ih =>
      cases hmid with
      | now => exact .refl _ _
      | later happly hmid =>
          rw [List.append_cons above name rest]
          exact (extends_makeDirectory (List.prefix_append _ rest) happly).trans (ih hmid)

end FileSystem

namespace ConfigStore

open FileSystem

variable {fs mid : FileSystem} {path : FilePath} {config : ClientConfig}

/-- The effects of saving a configuration, in order. -/
def saveEffects (path : FilePath) (config : ClientConfig) : List Effect :=
  match config.validate with
  | .error _ => []
  | .ok () =>
    makeDirectories [] path.dropLast ++ replaceContent path (Utf8.encode config.tomlText)

/-- Saving takes the effects one after the other, up to the first one that fails. -/
theorem saveStates_eq (fs : FileSystem) (path : FilePath) (config : ClientConfig) :
    (saveStates fs path config).1 = (fs.states (saveEffects path config)).1 := by
  simp only [saveStates, saveEffects]
  cases config.validate with
  | error e => rfl
  | ok _ =>
      simp only [states_append]
      cases (fs.states (makeDirectories [] path.dropLast)).2 <;> rfl

/-- How the file is found while a configuration is saved to it. -/
inductive Glimpse (config : ClientConfig) (before : Option FileNode) : Option FileNode → Prop
  | untouched : Glimpse config before before
  | emptied (mode : Nat) : Glimpse config before (some (.file [] mode))
  /-- A part of the configuration, which only the owner may read. -/
  | closed {part : List UInt8} (hpart : part <+: Utf8.encode config.tomlText) :
    Glimpse config before (some (.file part ownerOnly))

theorem glimpse_of_replaceContent
    (hmid : Moment fs (replaceContent path (Utf8.encode config.tomlText)) mid) :
    Glimpse config (fs.node? path) (mid.node? path) := by
  cases hmid with
  | now => exact .untouched
  | later hopened hmid =>
      have hpath : fs.node? path ≠ some .directory := by
        intro hdirectory
        rw [apply, hdirectory] at hopened
        cases hopened
      obtain ⟨mode, hempty, hrestrict, hwrite⟩ := exists_apply_replaceContent hpath
      cases hopened.symm.trans hempty
      cases hmid with
      | now =>
          rw [node?_set_self hpath]
          exact .emptied mode
      | later hrestricted hmid =>
          cases hrestricted.symm.trans hrestrict
          cases hmid with
          | now =>
              rw [node?_set_self hpath]
              exact .emptied ownerOnly
          | writing hpart hwritten =>
              cases hwritten.symm.trans (hwrite _)
              rw [node?_set_self hpath]
              exact .closed hpart
          | later hwritten hmid =>
              cases hwritten.symm.trans (hwrite _)
              cases hmid
              rw [node?_set_self hpath]
              exact .closed (List.prefix_refl _)

/-- Whenever the file is looked at, it is untouched or empty or closed to others. -/
theorem glimpse_of_moment (hmid : Moment fs (saveEffects path config) mid) :
    Glimpse config (fs.node? path) (mid.node? path) := by
  unfold saveEffects at hmid
  split at hmid
  · cases hmid
    exact .untouched
  rcases hmid.of_append with hmaking | ⟨-, hmid⟩
  · rw [(extends_of_moment hmaking).node?_eq]
    exact .untouched
  rw [← node?_parented fs path]
  exact glimpse_of_replaceContent hmid

/-- Every part of a content is seen on its way into a file. -/
theorem moment_replaceContent {part content : List UInt8} (hpart : part <+: content)
    (hpath : fs.node? path ≠ some .directory) :
    Moment fs (replaceContent path content) (fs.set path (.file part ownerOnly)) := by
  obtain ⟨mode, hopened, hrestricted, hwritten⟩ := exists_apply_replaceContent hpath
  exact .later hopened (.later hrestricted (.writing hpart (hwritten part)))

/-- Every part of a valid configuration is seen while it is saved where nothing is in the way. -/
theorem moment_saveEffects {part : List UInt8} (hpart : part <+: Utf8.encode config.tomlText)
    (hvalid : config.validate = .ok ()) (hclear : fs.IsClear path.dropLast)
    (hfile : fs.node? path ≠ some .directory) :
    Moment fs (saveEffects path config)
      ((parented fs path).set path (.file part ownerOnly)) := by
  have hparented : (parented fs path).node? path ≠ some .directory := by
    rw [node?_parented]
    exact hfile
  rw [saveEffects, hvalid]
  exact Moment.behind hclear.makeDirectories (moment_replaceContent hpart hparented)

/-- Saving that fails leaves the file alone. -/
theorem node?_of_save_error {e : Error} (hfailed : (save fs path config).2 = .error e) :
    (save fs path config).1.node? path = fs.node? path := by
  rw [save_eq] at hfailed ⊢
  split
  · rfl
  · exact node?_parented fs path
  · split
    · exact node?_parented fs path
    · next hvalid hmade hfile =>
        simp only [hvalid, hmade, if_neg hfile] at hfailed
        cases hfailed

/-- If saving fails, the file has the content and the permissions that it had.  Whenever the file is
looked at while a configuration is saved, it is as it was, or empty, or holds a part of the
configuration that only the owner may read. -/
theorem save_guarded (fs : FileSystem) (path : FilePath) (config : ClientConfig) :
    (∀ e, (save fs path config).2 = .error e →
      (save fs path config).1.node? path = fs.node? path) ∧
    (∀ mid ∈ (saveStates fs path config).1, Moment fs (saveEffects path config) mid) ∧
    ∀ mid, Moment fs (saveEffects path config) mid →
      Glimpse config (fs.node? path) (mid.node? path) := by
  refine ⟨fun _ => node?_of_save_error, fun mid hmid => ?_, fun _ => glimpse_of_moment⟩
  rw [saveStates_eq] at hmid
  exact moment_of_mem_states hmid

/-- A configuration that allows no attempt is refused and leaves a file that everybody may read as
it is, and one that is to be kept below that file is refused as well.  Of a configuration that is
saved, the first byte is seen only behind closed permissions. -/
theorem save_guarded_openlyKept :
    let fs := openlyKept "endpoint = 'a'"
    let hopeless : ClientConfig := { endpoint := "a", attempts := 0 }
    let mid := fs.set ["config.toml"] (.file [0x65] ownerOnly)
    ((save fs ["config.toml"] hopeless).2 = .error (.config .noAttempts) ∧
      (save fs ["config.toml"] hopeless).1.node? ["config.toml"] = fs.node? ["config.toml"]) ∧
    ((save fs ["config.toml", "below"] patient).2 = .error (.io .alreadyThere) ∧
      (save fs ["config.toml", "below"] patient).1.node? ["config.toml", "below"] =
        fs.node? ["config.toml", "below"]) ∧
    Moment fs (saveEffects ["config.toml"] patient) mid ∧
    Glimpse patient (fs.node? ["config.toml"]) (mid.node? ["config.toml"]) := by
  intro fs hopeless mid
  have hrefused : (save fs ["config.toml"] hopeless).2 = .error (.config .noAttempts) := by
    have hinvalid : hopeless.validate = .error (.config .noAttempts) := by decide
    rw [save_eq, hinvalid]
  have hblocked : (save fs ["config.toml", "below"] patient).2 = .error (.io .alreadyThere) := by
    have hmade : (fs.states (makeDirectories [] ["config.toml"])).2 = .error .alreadyThere := rfl
    rw [save_eq, validate_patient, List.dropLast_cons_cons, List.dropLast_singleton, hmade]
  have hmid : Moment fs (saveEffects ["config.toml"] patient) mid := by
    have hpart : [0x65] <+: Utf8.encode patient.tomlText := by
      obtain ⟨text, htext⟩ : ∃ text, patient.tomlText = 'e' :: text := ⟨_, rfl⟩
      rw [htext]
      exact ⟨Utf8.encode text, rfl⟩
    obtain ⟨hclear, hfile⟩ := clear_of_readText (isTree_set_empty _ _) (readText_openlyKept _)
    exact moment_saveEffects hpart validate_patient hclear hfile
  obtain ⟨hkept, -, -⟩ := save_guarded fs ["config.toml"] hopeless
  obtain ⟨hkeptBelow, -, -⟩ := save_guarded fs ["config.toml", "below"] patient
  obtain ⟨-, -, hglimpse⟩ := save_guarded fs ["config.toml"] patient
  exact ⟨⟨hrefused, hkept _ hrefused⟩, ⟨hblocked, hkeptBelow _ hblocked⟩, hmid,
    hglimpse mid hmid⟩

end ConfigStore
end StoreAdmin
