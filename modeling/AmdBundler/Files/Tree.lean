import AmdBundler.Files.Path

namespace AmdBundler

/-- Directories and files. A place in a tree is the list of names that leads to it. -/
inductive FileTree where
  | file (bytes : List UInt8)
  | directory (entries : List (FileName × FileTree))

namespace FileTree

def find? : FileTree → List FileName → Option FileTree
  | tree, [] => some tree
  | .file _, _ :: _ => none
  | .directory entries, name :: place =>
    match entries.lookup name with
    | some child => child.find? place
    | none => none

/-- The tree with `new` at a place. Directories on the way are made; a file on the way stays. -/
def put : FileTree → List FileName → FileTree → FileTree
  | _, [], new => new
  | .file bytes, _ :: _, _ => .file bytes
  | .directory entries, name :: place, new =>
    match entries.lookup name with
    | some child =>
      let child := child.put place new
      .directory (entries.map fun e => if e.1 = name then (name, child) else e)
    | none => .directory (entries ++ [(name, (directory []).put place new)])

def erase : FileTree → List FileName → FileTree
  | .directory entries, [name] => .directory (entries.filter fun e => e.1 ≠ name)
  | .directory entries, name :: place =>
    .directory (entries.map fun e => if e.1 = name then (name, e.2.erase place) else e)
  | tree, _ => tree

mutual

/-- Everything in a tree with its place, the tree itself first. A name that `keep` rejects is passed
over, and what is below it. -/
def nodes (keep : FileName → Bool) : FileTree → List (List FileName × FileTree)
  | .file bytes => [([], .file bytes)]
  | .directory entries => ([], .directory entries) :: entriesNodes keep entries

def entriesNodes (keep : FileName → Bool) :
    List (FileName × FileTree) → List (List FileName × FileTree)
  | [] => []
  | entry :: entries => entryNodes keep entry ++ entriesNodes keep entries

def entryNodes (keep : FileName → Bool) : FileName × FileTree → List (List FileName × FileTree)
  | (name, tree) =>
    if keep name then (nodes keep tree).map fun node => (name :: node.1, node.2) else []

end

def bytes? : FileTree → Option (List UInt8)
  | .file bytes => some bytes
  | .directory _ => none

def isDirectory : FileTree → Bool
  | .file _ => false
  | .directory _ => true

end FileTree

end AmdBundler
