import DataAccess.Error
import DataAccess.Text.Pieces

/-!
Files that can be read by path, and such files held in memory: a tree with the directories that
the paths of its files go through, and others that are empty.
-/
set_option autoImplicit false

namespace DataAccess

/-- The files within reach. -/
structure Files where
  read : String → Except FileError String
  /-- The path of the user's own settings. -/
  userSettings : Option String := none

/-- Whether there is a file under a path, readable or not. -/
def Files.isFile (files : Files) (path : String) : Bool :=
  match files.read path with
  | .ok _ | .error (.other _) => true
  | .error _ => false

/-- The parts of a path between slashes. -/
def pathParts (path : String) : List String :=
  (Text.pieces (· == '/') path.toList).map String.ofList

/-- Files and directories under the parts of their paths from the root, none of which is empty or
made of dots. -/
structure FileTree where
  files : List (List String × String)
  directories : List (List String) := []
  /-- The directory that relative paths start from. -/
  current : List String := []

/-- What a path leads to. -/
inductive Place where
  | directory (path : List String)
  | file (content : String)

/-- What the bytes of a path are fewer than. -/
def pathBound : Nat := 4096

/-- What the bytes of one part of a path are fewer than. -/
def partBound : Nat := 256

namespace FileTree

/-- Whether a path leads to a directory. -/
def hasDirectory (tree : FileTree) (path : List String) : Bool :=
  (tree.current :: tree.directories ++ tree.files.map (·.1.dropLast)).any fun directory =>
    path.isPrefixOf directory

/-- Goes on by one part of a path. A file can be gone through in no way, and above the root there
is the root again. -/
def enter (tree : FileTree) : Place → String → Except FileError Place
  | .file _, _ => .error .notDirectory
  | .directory path, part =>
    if part = "" || part = "." then .ok (.directory path)
    else if part = ".." then .ok (.directory path.dropLast)
    else if partBound ≤ part.utf8ByteSize then .error .nameTooLong
    else
      let path := path ++ [part]
      match tree.files.lookup path with
      | some content => .ok (.file content)
      | none => if tree.hasDirectory path then .ok (.directory path) else .error .missing

/-- The directory that a path starts from. -/
def start (tree : FileTree) (path : String) : List String :=
  if path.toList.head? = some '/' then [] else tree.current

/-- The content of the file under a path. -/
def read (tree : FileTree) (path : String) : Except FileError String := do
  if path.toList.contains '\x00' then throw .zeroInName
  if path.isEmpty then throw .missing
  if pathBound ≤ path.utf8ByteSize then throw .nameTooLong
  match ← (pathParts path).foldlM tree.enter (.directory (tree.start path)) with
  | .file content => return content
  | .directory _ => throw .isDirectory

end FileTree

end DataAccess
