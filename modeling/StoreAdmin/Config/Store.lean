import StoreAdmin.Config.Document
import StoreAdmin.Config.FileSystem

/-!
# Keeping a configuration

A configuration is loaded from a file and saved to it. It is saved only if it is valid, and its file
is closed to others before anything is written, because it holds secrets.
-/

namespace StoreAdmin.ConfigStore

/-- Loads the configuration in a file. `shown` is the path in words. -/
def load (fs : FileSystem) (path : FilePath) (shown : String) : Except Error ClientConfig :=
  match fs.node? path with
  | none => .error (.config (.notFound shown))
  | some _ =>
    match fs.readText path with
    | .error fault => .error (.io fault)
    | .ok document =>
      match ClientConfig.ofToml? document with
      | none => .error (.config .unreadable)
      | some config => config.validate.map fun _ => config

/-- The effects that put a content into a file that only the owner may read. -/
def replaceContent (path : FilePath) (content : List UInt8) : List FileSystem.Effect :=
  [.openEmpty path, .restrict path, .write path content]

/-- The states that saving a configuration leads through, and how it ended. -/
def saveStates (fs : FileSystem) (path : FilePath) (config : ClientConfig) :
    List FileSystem × Except Error Unit :=
  match config.validate with
  | .error e => ([], .error e)
  | .ok () =>
    let made := fs.states (FileSystem.makeDirectories [] path.dropLast)
    let here := made.1.getLast?.getD fs
    match made.2 with
    | .error fault => (made.1, .error (.io fault))
    | .ok () =>
      let written := here.states (replaceContent path (Utf8.encode config.tomlText))
      (made.1 ++ written.1, written.2.mapError .io)

/-- Saves a configuration. -/
def save (fs : FileSystem) (path : FilePath) (config : ClientConfig) :
    FileSystem × Except Error Unit :=
  let (states, outcome) := saveStates fs path config
  (states.getLast?.getD fs, outcome)

/-! ## The usual place -/

/-- What the surroundings say about the place of the configuration. -/
structure Surroundings where
  /-- A directory for this client only. -/
  ownDirectory : Option String := none
  /-- The directory for all configurations. -/
  configHome : Option String := none
  /-- The directory of the user. -/
  home : Option String := none
  /-- The directory of the user as the system knows it. -/
  accountHome : Option String := none

/-- A path with one more name. -/
def join (path name : String) : String :=
  if path = "" then name
  else if path.endsWith "/" then path ++ name
  else path ++ "/" ++ name

/-- The text, unless it is empty. -/
def nonempty? (text : Option String) : Option String :=
  text.filter (· ≠ "")

/-- The directory for all configurations: a relative one does not count. -/
def configHome? (s : Surroundings) : Option String :=
  match s.configHome.filter (·.startsWith "/") with
  | some path => some path
  | none => (nonempty? s.home <|> s.accountHome).map (join · ".config")

/-- The path of the configuration file. -/
def locate (s : Surroundings) : Except Error String :=
  let directory :=
    match nonempty? s.ownDirectory with
    | some path => some path
    | none => (configHome? s).map (join · "osc")
  match directory with
  | some path => .ok (join path "config.toml")
  | none => .error (.config .noDirectory)

end StoreAdmin.ConfigStore
