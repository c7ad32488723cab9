import AmdBundler.CommandLine.Arguments
import AmdBundler.CommandLine.World
import AmdBundler.Compiler.Identity
import AmdBundler.Module.Load

namespace AmdBundler.CommandLine

/-- What is given on the command line counts more than what the project says. -/
def Overrides.apply (o : Overrides) (p : ProjectConfig) : ProjectConfig :=
  { p with
    host := o.host.getD p.host
    compiler := o.compiler.getD p.compiler
    baseUrl := o.baseUrl.getD p.baseUrl }

def Invocation.projectPath (i : Invocation) (world : World) : Path :=
  match i.directory with
  | some path => path
  | none => world.files.workPath

structure Pipeline where
  project : ProjectConfig
  transformer : Transformer
  services : Services Registry
  registry : Registry

namespace Pipeline

def servicesOf (world : World) (directory : Path) (p : ProjectConfig) (t : Transformer) :
    Services Registry :=
  let compile := match p.compiler with
    | .identity => fun source options => .ok (Identity.compile source options)
    | .node => Child.compile world.runner directory (p.nodeBinary.getD Child.standardProgram)
  .ofRegistry (t.fetcher.fetch world.files world.network) p.compiler.name compile

/-- The pipeline of a project in `directory` whose transformer is set up. -/
def ofTransformer (world : World) (directory : Path) (p : ProjectConfig) (t : Transformer) :
    Pipeline :=
  let transformer := t.withRoot directory
  ⟨p, transformer, servicesOf world directory p transformer, .ofPaths p.pathTable⟩

def ofProject (world : World) (directory : Path) (p : ProjectConfig) : Except FetchError Pipeline :=
  (Transformer.ofHost world.clientFault? (.ofHost p.host) p).map (ofTransformer world directory p)

end Pipeline

/-- Why a command cannot be set up. -/
inductive SetUpError where
  | config (cause : ConfigError)
  | fetch (cause : FetchError)
deriving DecidableEq

def SetUpError.message : SetUpError → String
  | .config cause => cause.message
  | .fetch cause => cause.message

namespace Pipeline

/-- Reads the configuration in `directory` and sets up its pipeline. -/
def load (world : World) (directory : Path) (overrides : Overrides) (isBuild : Bool) :
    Except SetUpError Pipeline :=
  match ProjectConfig.load world.files directory with
  | .error cause => .error (.config cause)
  | .ok p => (ofProject world directory ((overrides.apply p).withBuild isBuild)).mapError .fetch

end Pipeline

end AmdBundler.CommandLine
