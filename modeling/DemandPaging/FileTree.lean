/-!
# File trees

A file tree holds directories, regular files and devices. A path is followed from
the root, or from the current directory, name by name; a name can only be looked up in
a directory that is there. Each way to miss a file is a cause of its own.
-/

namespace DemandPaging

/-- The names on the way from the root. -/
abbrev Place := List String

inductive FileNode where
  | directory
  | regular (contents : String)
  /-- A device that is empty to a reader and swallows what is written. -/
  | sink
  /-- A device without room for a single byte. -/
  | full
  deriving DecidableEq, Repr

/-- Why a file is not read or written. -/
inductive FileFault where
  | missing
  /-- A directory is needed where something else is. -/
  | notDirectory
  /-- Something other than a directory is needed where a directory is. -/
  | isDirectory
  | noRoom
  | nameTooLong
  deriving DecidableEq, Repr

/-- The cause in the words of the system, with its number. -/
def FileFault.reason : FileFault → String
  | .missing => "No such file or directory (os error 2)"
  | .notDirectory => "Not a directory (os error 20)"
  | .isDirectory => "Is a directory (os error 21)"
  | .noRoom => "No space left on device (os error 28)"
  | .nameTooLong => "File name too long (os error 36)"

/-- Nodes by their places. A directory is itself a node, apart from what lies in it. -/
structure FileTree where
  nodes : List (Place × FileNode)
  /-- Where relative paths start. -/
  current : Place
  deriving DecidableEq, Repr

namespace FileTree

/-- The greatest number of bytes in one name. -/
def nameLimit : Nat := 255

/-- The greatest number of bytes in a path. -/
def pathLimit : Nat := 4095

/-- What lies at a place. -/
def find (tree : FileTree) (place : Place) : Except FileFault FileNode :=
  match tree.nodes.lookup place with
  | some node => .ok node
  | none =>
    if place.getLast?.any (nameLimit < ·.utf8ByteSize) then .error .nameTooLong
    else .error .missing

/-- Puts a node at a place, over what lies there. -/
def put (tree : FileTree) (place : Place) (node : FileNode) : FileTree :=
  { tree with nodes := (place, node) :: tree.nodes }

/-- The place that a name denotes in the directory at `place`. One dot is the directory
itself and two dots the one above it. -/
def enter (tree : FileTree) (place : Place) (name : String) : Except FileFault Place := do
  match ← tree.find place with
  | .directory =>
    return if name = "." then place else if name = ".." then place.dropLast else place ++ [name]
  | _ => throw .notDirectory

/-- The place that a path denotes, whether or not anything lies there. -/
def locate (tree : FileTree) (path : String) : Except FileFault Place :=
  if path.isEmpty then .error .missing
  else if pathLimit < path.utf8ByteSize then .error .nameTooLong
  else
    let names := (path.splitOn "/").filter (!·.isEmpty)
    names.foldlM tree.enter (if path.startsWith "/" then [] else tree.current)

/-- The contents of the file at a path. Only a directory may be named with a slash at
the end. -/
def read (tree : FileTree) (path : String) : Except FileFault String := do
  match ← tree.find (← tree.locate path) with
  | .directory => throw .isDirectory
  | .regular contents => if path.endsWith "/" then throw .notDirectory else return contents
  | .sink | .full => if path.endsWith "/" then throw .notDirectory else return ""

/-- Gives the file at a path new contents. A file that is missing is created in its
directory; a slash at the end asks for a directory, which is not created. -/
def write (tree : FileTree) (path contents : String) : Except FileFault FileTree := do
  let place ← tree.locate path
  if path.endsWith "/" then throw .isDirectory
  match tree.find place with
  | .ok .directory => throw .isDirectory
  | .ok (.regular _) | .error .missing => return tree.put place (.regular contents)
  | .ok .sink => return tree
  | .ok .full => if contents.isEmpty then return tree else throw .noRoom
  | .error fault => throw fault

end FileTree

end DemandPaging
