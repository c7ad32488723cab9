import AmdBundler.Files.System
import AmdBundler.Host
import AmdBundler.Json.Record
import AmdBundler.Loader.PathTable

namespace AmdBundler

inductive CompilerKind where
  /-- The compiler in a child process. -/
  | node
  /-- Sources that need no compiler. -/
  | identity
deriving DecidableEq

namespace CompilerKind

def name : CompilerKind → String
  | .node => "node"
  | .identity => "identity"

def table : List (String × CompilerKind) :=
  [.node, .identity].map fun kind => (kind.name, kind)

def codec : Json.Codec CompilerKind := .choice table name

end CompilerKind

structure ProjectConfig where
  /-- What comes before every path that a name stands for. -/
  baseUrl : String
  /-- Targets of names and of their leading segments. -/
  paths : NameMap String
  /-- Compiled modules are kept for a bundle. -/
  isBuild : Bool
  sourceExt : String
  targetExt : String
  host : HostKind
  compiler : CompilerKind
  /-- The program that runs the compiler. -/
  nodeBinary : Option String
deriving DecidableEq

namespace ProjectConfig

def standard : ProjectConfig :=
  ⟨"./", .empty, false, "coffee", "js", .auto, .node, none⟩

open Json in
def record : Record ProjectConfig where
  title := "ProjectConfig"
  blank := standard
  fields := [
    .of "baseUrl" .defaulted .string (·.baseUrl) (fun x p => { p with baseUrl := x })
      fun _ => false,
    .of "paths" .defaulted (.nameMap .string) (·.paths) (fun x p => { p with paths := x })
      fun _ => false,
    .of "isBuild" .defaulted .boolean (·.isBuild) (fun x p => { p with isBuild := x })
      fun _ => false,
    .of "sourceExt" .defaulted .string (·.sourceExt) (fun x p => { p with sourceExt := x })
      fun _ => false,
    .of "targetExt" .defaulted .string (·.targetExt) (fun x p => { p with targetExt := x })
      fun _ => false,
    .of "host" .defaulted HostKind.codec (·.host) (fun x p => { p with host := x })
      fun _ => false,
    .of "compiler" .defaulted CompilerKind.codec (·.compiler)
      (fun x p => { p with compiler := x }) fun _ => false,
    .of "nodeBinary" .defaulted (.nullable .string) (·.nodeBinary)
      (fun x p => { p with nodeBinary := x }) Option.isNone]

def codec : Json.Codec ProjectConfig := record.codec

def withBuild (p : ProjectConfig) (isBuild : Bool) : ProjectConfig :=
  { p with isBuild }

/-- How names of modules become paths. -/
def pathTable (p : ProjectConfig) : PathTable :=
  (PathTable.ofBase p.baseUrl).withTargets p.paths

end ProjectConfig

inductive ConfigError where
  | unreadable (path : Path) (cause : FileError)
  | malformed (path : Path) (cause : String)
deriving DecidableEq

def ConfigError.message : ConfigError → String
  | .unreadable path cause => "Failed to read config at " ++ path.text ++ ": " ++ cause.message
  | .malformed path cause => "Failed to parse config at " ++ path.text ++ ": " ++ cause

namespace ProjectConfig

def fileName : String := "mozaic.json"

/-- The configuration in a text. -/
def ofText (path : Path) (text : String) : Except ConfigError ProjectConfig :=
  (codec.parseText (Utf8.encode text.toList)).mapError (.malformed path)

def ofFile (files : FileSystem) (path : Path) : Except ConfigError ProjectConfig :=
  match files.readText path with
  | .error cause => .error (.unreadable path cause)
  | .ok text => ofText path text

def isFile (files : FileSystem) (path : Path) : Bool :=
  match files.find path with
  | .ok tree => !tree.isDirectory
  | .error _ => false

/-- The configuration of the project in a directory. A project without a file has the standard
one. -/
def load (files : FileSystem) (directory : Path) : Except ConfigError ProjectConfig :=
  let path := directory.join (.ofText fileName)
  if isFile files path then ofFile files path else .ok standard

end ProjectConfig

end AmdBundler
