import AmdBundler.Files.System

namespace AmdBundler

/-- The states that a file system passes through after its first one, the last one first, and what
went wrong. The states on the way are kept, for they are what others may see. -/
structure Replacement where
  passed : List FileSystem
  fault? : Option FileError

namespace Replacement

/-- A name as it stands in that of a temporary file. It has to be a text. -/
def label (name? : Option FileName) : String :=
  match name?.bind Utf8.decode? with
  | some text => String.ofList text
  | none => "bundle"

def temporaryName (name? : Option FileName) (process : Nat) : FileName :=
  .ofText ("." ++ label name? ++ ".tmp." ++ toString process)

/-- The file beside the target that holds the bytes until they are complete. -/
def temporary (target : Path) (process : Nat) : Path :=
  (target.parent?.getD (.ofText ".")).join ⟨temporaryName target.fileName? process⟩

/-- Writes the temporary file and renames it. If it cannot take the target's place, it is removed.
A file that could be made can be filled here, since disks are neither full nor broken, and what is
written is on the disk at once. -/
def run (fs : FileSystem) (target : Path) (bytes : List UInt8) (process : Nat) : Replacement :=
  let temp := temporary target process
  match fs.write temp [] with
  | .error e => ⟨[], some e⟩
  | .ok created =>
    match created.write temp bytes with
    | .error e => ⟨[created], some e⟩
    | .ok written =>
      match written.rename temp target with
      | .ok renamed => ⟨[renamed, written, created], none⟩
      | .error e =>
        match written.remove temp with
        | .ok cleaned => ⟨[cleaned, written, created], some e⟩
        | .error _ => ⟨[written, created], some e⟩

end Replacement

def FileSystem.replaceFile (fs : FileSystem) (target : Path) (bytes : List UInt8)
    (process : Nat) : FileSystem × Option FileError :=
  let r := Replacement.run fs target bytes process
  (r.passed.head?.getD fs, r.fault?)

end AmdBundler
