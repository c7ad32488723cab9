import AmdBundler.CommandLine.Run

namespace AmdBundler.Program

/-- The entries of a directory of the host. One that cannot be listed has none. -/
def listDirectory (path : String) : IO (Array IO.FS.DirEntry) := do
  try (← IO.FS.realPath path).readDir catch _ => return #[]

/-- Everything in a directory of the host that is a file or a directory. -/
partial def readTree (path : String) : IO FileTree := do
  let mut entries : List (FileName × FileTree) := []
  for entry in ← listDirectory path do
    match (← entry.path.symlinkMetadata).type with
    | .dir => entries := (.ofText entry.fileName, ← readTree entry.path.toString) :: entries
    | .file =>
      let bytes ← IO.FS.readBinFile entry.path
      entries := (.ofText entry.fileName, .file bytes.toList) :: entries
    | _ => pure ()
  return .directory entries

def placeOf (path : String) : List FileName :=
  (Path.ofText path).parts.filterMap fun part =>
    match part with
    | .named name => some name
    | _ => none

/-- The directories that a run with these arguments looks into. -/
def directories (arguments : List String) : List String :=
  match CommandLine.parse arguments with
  | .ok i => "." :: (i.directory.map Path.text).toList
  | .error _ => []

/-- The directories of a run, and where relative paths start. -/
def readFiles (arguments : List String) : IO FileSystem := do
  let here := placeOf (← IO.currentDir).toString
  let mut tree := (FileTree.directory []).put here (.directory [])
  for path in directories arguments do
    try
      let place := placeOf (← IO.FS.realPath path).toString
      tree := tree.put place (← readTree path)
    catch _ => pure ()
  return ⟨tree, here⟩

/-- Makes the directories and files of `new` that `old` does not have. A file is replaced as a
whole. -/
def carryOut (old new : FileSystem) (process : Nat) : IO Unit := do
  for (place, node) in new.tree.nodes fun _ => true do
    let path : Path := ⟨Path.slash :: [Path.slash].intercalate place⟩
    match node with
    | .directory _ =>
      if (old.tree.find? place).isNone then IO.FS.createDirAll path.text
    | .file bytes =>
      if ((old.tree.find? place).bind FileTree.bytes?) != some bytes then
        let temporary := (Replacement.temporary path process).text
        IO.FS.writeBinFile temporary ⟨bytes.toArray⟩
        IO.FS.rename temporary path.text

end AmdBundler.Program

open AmdBundler in
def main (arguments : List String) : IO UInt32 := do
  let started ← IO.monoMsNow
  let files ← Program.readFiles arguments
  let process ← IO.rand 1 999999
  let elapsed := (← IO.monoMsNow) - started
  let outcome := CommandLine.run arguments
    ⟨files, fun _ => true, .silent, none, none, Runner.bare files, process, elapsed⟩
  Program.carryOut files outcome.files process
  IO.print outcome.stdout
  IO.eprint outcome.stderr
  return outcome.code.toUInt32
