import AmdBundler.Files.Path
import AmdBundler.Files.Tree
import AmdBundler.Text.Utf8

namespace AmdBundler

inductive FileError where
  | notFound
  | notDirectory
  | isDirectory
  | alreadyExists
  | busy
  | nameTooLong
  | permissionDenied
  | containsNul
  | notUtf8
deriving DecidableEq

def FileError.message : FileError → String
  | .notFound => "No such file or directory (os error 2)"
  | .notDirectory => "Not a directory (os error 20)"
  | .isDirectory => "Is a directory (os error 21)"
  | .alreadyExists => "File exists (os error 17)"
  | .busy => "Device or resource busy (os error 16)"
  | .nameTooLong => "File name too long (os error 36)"
  | .permissionDenied => "Permission denied (os error 13)"
  | .containsNul => "file name contained an unexpected NUL byte"
  | .notUtf8 => "stream did not contain valid UTF-8"

/-- A tree, and the place in it where relative paths start. There are no links, and an operation
fails only for the names in its path, the place it leads to or the kind of what is there: no
permissions are missing, and disks are neither full nor broken. -/
structure FileSystem where
  tree : FileTree
  /-- The current directory. -/
  workPlace : List FileName

namespace FileSystem

def workPath (fs : FileSystem) : Path :=
  ⟨Path.slash :: [Path.slash].intercalate fs.workPlace⟩

/-- A name is at most so many bytes long. -/
def nameLimit : Nat := 255

/-- A path is shorter than so many bytes. -/
def pathLimit : Nat := 4096

/-- What is wrong with a path whatever the tree is. -/
def pathFault? (path : Path) : Option FileError :=
  if path.bytes.contains 0 then some .containsNul
  else if path.bytes.isEmpty then some .notFound
  else if pathLimit ≤ path.bytes.length then some .nameTooLong
  else none

/-- The place that segments lead to from the place `here`. Segments are looked up in directories
only, also those that lead nowhere. -/
def walk (tree : FileTree) (here : List FileName) : List (List UInt8) →
    Except FileError (List FileName)
  | [] => .ok here
  | segment :: rest =>
    match tree.find? here with
    | none => .error .notFound
    | some (.file _) => .error .notDirectory
    | some (.directory entries) =>
      match Path.Part.ofSegment? segment with
      | some (.named name) =>
        if nameLimit < name.length then .error .nameTooLong
        else if (entries.lookup name).isSome then walk tree (here ++ [name]) rest
        else .error .notFound
      | some .parent => walk tree here.dropLast rest
      | _ => walk tree here rest

def start (fs : FileSystem) (path : Path) : List FileName :=
  if path.isAbsolute then [] else fs.workPlace

def place (fs : FileSystem) (path : Path) : Except FileError (List FileName) :=
  match pathFault? path with
  | some e => .error e
  | none => walk fs.tree (fs.start path) path.segments

def find (fs : FileSystem) (path : Path) : Except FileError FileTree :=
  match fs.place path with
  | .error e => .error e
  | .ok place =>
    match fs.tree.find? place with
    | some tree => .ok tree
    | none => .error .notFound

def isDirectory (fs : FileSystem) (path : Path) : Bool :=
  match fs.find path with
  | .ok tree => tree.isDirectory
  | .error _ => false

def read (fs : FileSystem) (path : Path) : Except FileError (List UInt8) :=
  match fs.find path with
  | .error e => .error e
  | .ok (.file bytes) => .ok bytes
  | .ok (.directory _) => .error .isDirectory

def readText (fs : FileSystem) (path : Path) : Except FileError String :=
  match fs.read path with
  | .error e => .error e
  | .ok bytes =>
    match Utf8.decode? bytes with
    | some text => .ok (String.ofList text)
    | none => .error .notUtf8

/-- An entry of a directory, which may be there or not. -/
structure Entry where
  folder : List FileName
  /-- What the path ends in: a name, or a part that is none. -/
  part : Path.Part
  /-- A slash follows the last part. -/
  closed : Bool

/-- The entry that a path stands for. Its directory has to be there. -/
def entry (fs : FileSystem) (path : Path) : Except FileError Entry :=
  match pathFault? path with
  | some e => .error e
  | none =>
    match path.segments.reverse.dropWhile List.isEmpty with
    | [] => .ok ⟨[], .root, true⟩
    | last :: before =>
      match walk fs.tree (fs.start path) before.reverse with
      | .error e => .error e
      | .ok folder =>
        match fs.tree.find? folder with
        | some (.directory _) =>
          .ok ⟨folder, (Path.Part.ofSegment? last).getD .current,
            path.segments.getLast? == some []⟩
        | some (.file _) => .error .notDirectory
        | none => .error .notFound

def Entry.place (e : Entry) (name : FileName) : List FileName :=
  e.folder ++ [name]

/-- Makes a file, or empties it if it is there, and fills it. -/
def write (fs : FileSystem) (path : Path) (bytes : List UInt8) : Except FileError FileSystem :=
  match fs.entry path with
  | .error e => .error e
  | .ok entry =>
    match entry.part with
    | .named name =>
      if nameLimit < name.length then .error .nameTooLong
      else if entry.closed then .error .isDirectory
      else
        match fs.tree.find? (entry.place name) with
        | some (.directory _) => .error .isDirectory
        | _ => .ok { fs with tree := fs.tree.put (entry.place name) (.file bytes) }
    | _ => .error .isDirectory

def makeDirectory (fs : FileSystem) (path : Path) : Except FileError FileSystem :=
  match fs.entry path with
  | .error e => .error e
  | .ok entry =>
    match entry.part with
    | .named name =>
      if nameLimit < name.length then .error .nameTooLong
      else if (fs.tree.find? (entry.place name)).isSome then .error .alreadyExists
      else .ok { fs with tree := fs.tree.put (entry.place name) (.directory []) }
    | _ => .error .alreadyExists

def remove (fs : FileSystem) (path : Path) : Except FileError FileSystem :=
  match fs.entry path with
  | .error e => .error e
  | .ok entry =>
    match entry.part with
    | .named name =>
      if nameLimit < name.length then .error .nameTooLong
      else
        match fs.tree.find? (entry.place name) with
        | none => .error .notFound
        | some (.directory _) => .error .isDirectory
        | some (.file _) =>
          if entry.closed then .error .notDirectory
          else .ok { fs with tree := fs.tree.erase (entry.place name) }
    | _ => .error .isDirectory

/-- Moves a file over another one, or to where nothing is. -/
def rename (fs : FileSystem) (source target : Path) : Except FileError FileSystem :=
  match fs.entry source, fs.entry target with
  | .error e, _ => .error e
  | .ok _, .error e => .error e
  | .ok sourceEntry, .ok targetEntry =>
    match sourceEntry.part, targetEntry.part with
    | .named sourceName, .named targetName =>
      match fs.tree.find? (sourceEntry.place sourceName) with
      | none => .error .notFound
      | some (.directory _) => .error .isDirectory
      | some (.file bytes) =>
        if nameLimit < targetName.length then .error .nameTooLong
        else if sourceEntry.closed || targetEntry.closed then .error .notDirectory
        else
          match fs.tree.find? (targetEntry.place targetName) with
          | some (.directory _) => .error .isDirectory
          | _ =>
            if sourceEntry.place sourceName = targetEntry.place targetName then .ok fs
            else
              let tree := fs.tree.erase (sourceEntry.place sourceName)
              .ok { fs with tree := tree.put (targetEntry.place targetName) (.file bytes) }
    | _, _ => .error .busy

/-- Makes a directory, unless there is one. -/
def ensureDirectory (fs : FileSystem) (path : Path) : FileSystem × Option FileError :=
  match fs.makeDirectory path with
  | .ok fs => (fs, none)
  | .error e => (fs, if fs.isDirectory path then none else some e)

/-- Makes a directory and those that it lies in, at most `steps` of them. -/
def makeDirectoriesFrom (fs : FileSystem) : (steps : Nat) → Path → FileSystem × Option FileError
  | 0, _ => (fs, some .notFound)
  | steps + 1, path =>
    if path.parts = [] then (fs, none)
    else
      match fs.makeDirectory path, path.parent? with
      | .error .notFound, none => (fs, some .notFound)
      | .error .notFound, some parent =>
        match makeDirectoriesFrom fs steps parent with
        | (fs, none) => fs.ensureDirectory path
        | (fs, some e) => (fs, some e)
      | _, _ => fs.ensureDirectory path

/-- Makes a directory and those that it lies in, as far as they are not there. Those that were made
before a fault stay. -/
def makeDirectories (fs : FileSystem) (path : Path) : FileSystem × Option FileError :=
  fs.makeDirectoriesFrom (path.parts.length + 1) path

end FileSystem

end AmdBundler
