import DemandPaging.FileTree

/-!
# Access to files

What the program needs of files, and a file tree that provides it without a system.
-/

namespace DemandPaging.CommandLine

/-- Access to files. A refusal carries the reason in words. -/
structure Files (m : Type → Type) where
  read (path : String) : m (Except String ByteArray)
  write (path contents : String) : m (Except String Unit)

/-- Access to the files of a tree, which each write replaces by the tree after it. -/
def treeFiles : Files (StateM FileTree) where
  read path := do
    let tree ← get
    return (tree.read path).map String.toUTF8 |>.mapError FileFault.reason
  write path contents := do
    match (← get).write path contents with
    | .ok tree =>
      set tree
      return .ok ()
    | .error fault => return .error fault.reason

end DemandPaging.CommandLine
