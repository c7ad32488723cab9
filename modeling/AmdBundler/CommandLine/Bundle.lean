import AmdBundler.CommandLine.Compile
import AmdBundler.Files.Replacement
import AmdBundler.Source.Discovery

namespace AmdBundler.CommandLine

def addNames (names found : List String) : List String :=
  found.foldl (fun names name => if names.contains name then names else names ++ [name]) names

def hasScheme (url : String) : Bool :=
  Text.holds "://".toList url.toList

def discover (world : World) (directory : Path) (p : ProjectConfig) : List String :=
  let root := directory.join (.ofText p.baseUrl)
  (Sources.find world.files world.opens root p.sourceExt).filterMap (Sources.moduleName? root)

def moduleNames (world : World) (directory : Path) (p : ProjectConfig) (names : List String)
    (all : Bool) : Except String (List String) :=
  if all && hasScheme p.baseUrl then
    .error ("--all needs a local baseUrl, got `" ++ p.baseUrl ++ "`")
  else
    let names := if all then addNames names (discover world directory p) else names
    if names.isEmpty then .error "no modules to bundle (name some, or pass --all)" else .ok names

/-- What a row of loads leaves: the cache and the registry, and the modules that could not be
loaded. -/
structure Loads where
  state : BuildCache × Registry
  failures : List LoadFailure

namespace Loads

def load (p : Pipeline) (l : Loads) (name : String) : Loads :=
  match p.transformer.load p.services p.project.isBuild name l.state with
  | (.ok _, state) => ⟨state, l.failures⟩
  | (.error cause, state) => ⟨state, l.failures ++ [⟨name, cause⟩]⟩

def ofNames (p : Pipeline) (names : List String) : Loads :=
  names.foldl (load p) ⟨(.empty, p.registry), []⟩

def bundle (l : Loads) : Bundle :=
  l.state.1.writeAll pluginName .empty

end Loads

def isThere (files : FileSystem) (path : Path) : Bool :=
  match files.find path with
  | .ok _ => true
  | .error _ => false

/-- Makes the directories that a file lies in, if they are missing. -/
def makeParent (files : FileSystem) (target : Path) : FileSystem × Option FileError :=
  match target.parent? with
  | none => (files, none)
  | some parent =>
    if isThere files parent then (files, none) else files.makeDirectories parent

/-- Writes a file as a whole, in directories that are made if they are missing. -/
def writeFile (world : World) (target : Path) (text : String) :
    FileSystem × Option FileError :=
  match makeParent world.files target with
  | (files, some e) => (files, some e)
  | (files, none) => files.replaceFile target (Utf8.encode text.toList) world.process

/-- Tenths of `n` parts of 1024, the half of a tenth going to the even neighbour. -/
def tenths (n : Nat) : Nat :=
  let whole := 10 * n / 1024
  let rest := 10 * n % 1024
  if rest < 512 ∨ rest = 512 ∧ whole % 2 = 0 then whole else whole + 1

def kilobytes (n : Nat) : String :=
  toString (tenths n / 10) ++ "." ++ toString (tenths n % 10) ++ "KB"

def bundleReport (outfile : Option Path) (l : Loads) (size elapsed : Nat) : List Char :=
  object <|
    .boolean "ok" l.failures.isEmpty :: Member.text? "outfile" (outfile.map Path.text) ++ [
      .list "modules" (l.bundle.ids.map Json.writeText),
      .number "size_bytes" (if l.failures.isEmpty then size else 0),
      .number "duration_ms" elapsed,
      .list "errors" (l.failures.map LoadFailure.report)]

def bundleText (outfile : Option Path) (l : Loads) (size elapsed : Nat) : String :=
  match outfile with
  | some path =>
    "  " ++ toString l.bundle.size ++ " modules -> " ++ path.text ++ " (" ++ kilobytes size ++
      ", " ++ toString elapsed ++ "ms)\n"
  | none => l.bundle.text

/-- Bundles modules, and says how it went. The bundle is written only if every module could be
loaded. -/
def bundle (world : World) (directory : Path) (names : List String) (all : Bool)
    (outfile : Option Path) (overrides : Overrides) (json : Bool) : Outcome :=
  match Pipeline.load world directory overrides true with
  | .error e => .failure world e.message
  | .ok p =>
    match moduleNames world directory p.project names all, world.schedulerFault? with
    | .error message, _ => .failure world message
    | .ok _, some reason => .failure world reason
    | .ok names, none =>
      let loads := Loads.ofNames p names
      let size := loads.bundle.text.utf8ByteSize
      if loads.failures.isEmpty then
        let written := match outfile with
          | some path => writeFile world (directory.join path) loads.bundle.text
          | none => (world.files, none)
        match written with
        | (files, some e) => { Outcome.failure world e.message with files := files }
        | (files, none) =>
          let text :=
            if json then printed (bundleReport outfile loads size world.elapsed)
            else bundleText outfile loads size world.elapsed
          { Outcome.success world text with files := files }
      else if json then
        { Outcome.complaints world [] with
          stdout := printed (bundleReport outfile loads size world.elapsed) }
      else .complaints world (loads.failures.map fun f => f.cause.message)

end AmdBundler.CommandLine
