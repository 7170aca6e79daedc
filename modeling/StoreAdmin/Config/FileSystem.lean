import StoreAdmin.Error
import StoreAdmin.Text.Utf8

/-!
# File systems

As much of a file system as keeping a configuration needs: directories, and files with contents and
permissions. The root is always a directory.
-/

namespace StoreAdmin

/-- The names that lead from the root to a file. -/
abbrev FilePath := List String

/-- What a path leads to. -/
inductive FileNode where
  | file (content : List UInt8) (mode : Nat)
  | directory
  deriving DecidableEq

/-- A file system. -/
structure FileSystem where
  /-- What is below the root. -/
  entry : FilePath → Option FileNode

namespace FileSystem

/-- A file system without files. -/
def empty : FileSystem :=
  { entry := fun _ => none }

/-- What a path leads to. -/
def node? (fs : FileSystem) (path : FilePath) : Option FileNode :=
  if path = [] then some .directory else fs.entry path

/-- The file system with another node at a path. -/
def set (fs : FileSystem) (path : FilePath) (node : FileNode) : FileSystem :=
  { entry := fun p => if p = path then some node else fs.entry p }

/-- The text of a file. -/
def readText (fs : FileSystem) (path : FilePath) : Except FileFault (List Char) :=
  match fs.node? path with
  | none => .error .missing
  | some .directory => .error .isDirectory
  | some (.file content _) =>
    match Utf8.decode? content with
    | some text => .ok text
    | none => .error .notText

/-- The permissions that let nobody but the owner read and write. -/
def ownerOnly : Nat :=
  0o600

/-- An effect on a file system. -/
inductive Effect where
  /-- Makes a directory unless there is one. `last` tells that it is the one that is asked for. -/
  | makeDirectory (path : FilePath) (last : Bool)
  /-- Opens a file without content, which only the owner may read if it is new. -/
  | openEmpty (path : FilePath)
  /-- Lets only the owner read and write. -/
  | restrict (path : FilePath)
  /-- Writes the content of a file that was opened. -/
  | write (path : FilePath) (content : List UInt8)

/-- The file system after an effect. -/
def apply (fs : FileSystem) : Effect → Except FileFault FileSystem
  | .makeDirectory path last =>
    match fs.node? path with
    | none => .ok (fs.set path .directory)
    | some .directory => .ok fs
    | some (.file _ _) => .error (if last then .alreadyThere else .notDirectory)
  | .openEmpty path =>
    match fs.node? path with
    | none => .ok (fs.set path (.file [] ownerOnly))
    | some .directory => .error .isDirectory
    | some (.file _ mode) => .ok (fs.set path (.file [] mode))
  | .restrict path =>
    match fs.node? path with
    | some (.file content _) => .ok (fs.set path (.file content ownerOnly))
    | some .directory => .ok fs
    | none => .error .missing
  | .write path content =>
    match fs.node? path with
    | some (.file _ mode) => .ok (fs.set path (.file content mode))
    | some .directory => .error .isDirectory
    | none => .error .missing

/-- The states that effects lead through, up to the first one that fails, and how it ended. The
start is not among them. -/
def states (fs : FileSystem) : List Effect → List FileSystem × Except FileFault Unit
  | [] => ([], .ok ())
  | e :: rest =>
    match fs.apply e with
    | .ok next => (next :: (states next rest).1, (states next rest).2)
    | .error fault => ([], .error fault)

/-- The effects that make a directory with all directories above it. -/
def makeDirectories (above : FilePath) : FilePath → List Effect
  | [] => []
  | name :: rest =>
    .makeDirectory (above ++ [name]) (rest = []) :: makeDirectories (above ++ [name]) rest

end FileSystem
end StoreAdmin
