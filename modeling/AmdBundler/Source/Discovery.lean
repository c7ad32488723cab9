import AmdBundler.Files.System

namespace AmdBundler

/-- Whether the system lets the program list the directory at a path. It may refuse for want of
permission or because the disk is broken. -/
abbrev Openness := Path → Bool

namespace Sources

/-- Names that start with a dot are hidden. Names that are no text are not looked at. -/
def isVisible (name : FileName) : Bool :=
  match Utf8.decode? name with
  | some ('.' :: _) => false
  | _ => true

/-- The path of a place below `root`. -/
def pathOf (root : Path) (place : List FileName) : Path :=
  place.foldl (fun path name => path.join ⟨name⟩) root

/-- The directory at a path can be listed: the path is not too long, and the system lets it be. -/
def canList (opens : Openness) (path : Path) : Bool :=
  path.bytes.length < FileSystem.pathLimit && opens path

/-- All directories on the way from `root` to a place can be listed. -/
def isListed (opens : Openness) (root : Path) (place : List FileName) : Bool :=
  (List.range place.length).all fun depth => canList opens (pathOf root (place.take depth))

/-- The files of a tree that have the extension, in no particular order. -/
def collect (opens : Openness) (root : Path) (extension : String) (tree : FileTree) : List Path :=
  (tree.nodes isVisible).filterMap fun (place, node) =>
    let path := pathOf root place
    if node.isDirectory || !isListed opens root place then none
    else if path.extension? = some (.ofText extension) then some path
    else none

/-- The files at `root` or below it that have the extension and are not hidden, ordered part by
part. What is not there has none, and neither has a directory that cannot be listed. -/
def find (fs : FileSystem) (opens : Openness) (root : Path) (extension : String) : List Path :=
  match fs.find root with
  | .error _ => []
  | .ok tree => (collect opens root extension tree).mergeSort fun a b => !b.precedes a

/-- The last part without its extension. -/
def stemLast (parts : List Path.Part) : List Path.Part :=
  match parts.getLast? with
  | some (.named name) => parts.dropLast ++ [.named (Path.stemOf name)]
  | _ => parts

/-- A source is named by the parts of its path below `root`, without the extension. -/
def moduleName? (root path : Path) : Option String :=
  match Path.below? root path with
  | none | some [] => none
  | some parts => some ("/".intercalate ((stemLast parts).map fun part => FileName.text part.bytes))

end Sources

end AmdBundler
