import AmdBundler.Digest.Blake3
import AmdBundler.Loader.Registry
import AmdBundler.Project.Config
import AmdBundler.Module.Artifact
import AmdBundler.Module.Error

namespace AmdBundler

/-- The text of a module with the paths that belong to it. -/
structure SourceRecord where
  moduleName : String
  /-- Where the text comes from. -/
  fetchPath : String
  /-- The path in source maps and messages. -/
  sourcePath : String
  /-- The path that the compiled text goes by. -/
  outputPath : String
  text : String
  /-- A short hash of the text. -/
  hash : String
deriving DecidableEq

/-- All that the stages call on, over a state that any call may change. -/
structure Services (σ : Type) where
  loader : Loader σ
  fetch : String → σ → Except FetchError String × σ
  compiler : Compiler σ

/-- Services around a registry, which is the only state. -/
def Services.ofRegistry (fetch : String → Except FetchError String) (compilerName : String)
    (compile : String → CompileOptions → Except CompilerError CompileOutput) :
    Services Registry where
  loader := Registry.loader
  fetch path r := (fetch path, r)
  compiler := ⟨compilerName, fun source options r => (compile source options, r)⟩

structure Transformer where
  fetcher : Fetcher
  /-- The host can encode source maps. -/
  base64 : Bool
  sourceExt : String
  targetExt : String
deriving DecidableEq

namespace Transformer

/-- An extension without the dots before it. -/
def bareExt (ext : String) : String :=
  String.ofList (ext.toList.dropWhile (· = '.'))

def withExtensions (t : Transformer) (sourceExt targetExt : String) : Transformer :=
  { t with sourceExt := bareExt sourceExt, targetExt := bareExt targetExt }

def withBase64 (t : Transformer) (base64 : Bool) : Transformer :=
  { t with base64 }

def withRoot (t : Transformer) (root : Path) : Transformer :=
  { t with fetcher := t.fetcher.withRoot root }

/-- The transformer of a project that reads with a fetcher. -/
def ofFetcher (f : Fetcher) (base64 : Bool) (p : ProjectConfig) : Transformer :=
  ⟨f, base64, bareExt p.sourceExt, bareExt p.targetExt⟩

/-- The transformer of a project on a host, if the host's fetcher can be set up. -/
def ofHost (clientFault? : Option String) (c : Capabilities) (p : ProjectConfig) :
    Except FetchError Transformer :=
  (Fetcher.select clientFault? c).map fun f => ofFetcher f c.base64 p

/-- A path is recorded without the dot of `./`. -/
def displayPath (path : String) : String :=
  match path.toList with
  | '.' :: '/' :: rest => String.ofList ('/' :: rest)
  | _ => path

/-- The path with the target extension in place of the source extension, or after it if it does not
end in the source extension. -/
def outputPath (t : Transformer) (path : String) : String :=
  let stem := (Text.dropEnd? ('.' :: t.sourceExt.toList) path.toList).getD path.toList
  String.ofList (stem ++ '.' :: t.targetExt.toList)

def compileOptions (t : Transformer) (path : String) : CompileOptions :=
  .inlineMap path (t.outputPath path)

def record (t : Transformer) (name fetchPath text : String) : SourceRecord :=
  let sourcePath := displayPath fetchPath
  ⟨name, fetchPath, sourcePath, t.outputPath sourcePath, text,
    Blake3.shortHash (Utf8.encode text.toList)⟩

def annotate (t : Transformer) (r : SourceRecord) (output : CompileOutput) : Artifact :=
  let (text, embedding) := Directive.append output.js r.outputPath output.sourceMap t.base64
  ⟨r.moduleName, r.sourcePath, r.outputPath, text, output.sourceMap, embedding⟩

variable {σ : Type}

/-- The result of a service, its error under a stage's name. -/
def stage {ε α : Type} (wrap : ε → TransformError) (answer : Except ε α × σ) :
    Except TransformError α × σ :=
  (answer.1.mapError wrap, answer.2)

/-- Goes on with a result, or ends with an error. -/
def andThen {ε α β : Type} (answer : Except ε α × σ) (next : α → σ → Except ε β × σ) :
    Except ε β × σ :=
  match answer with
  | (.ok v, state) => next v state
  | (.error e, state) => (.error e, state)

/-- Asks the loader where the source of a module is. -/
def resolve (t : Transformer) (s : Services σ) (name : String) (state : σ) :
    Except TransformError String × σ :=
  stage .resolve (s.loader.toUrl (name ++ "." ++ t.sourceExt) state)

def fetchText (s : Services σ) (path : String) (state : σ) : Except TransformError String × σ :=
  stage .fetch (s.fetch path state)

def compile (t : Transformer) (s : Services σ) (text path : String) (state : σ) :
    Except TransformError CompileOutput × σ :=
  stage (.compile path) (s.compiler.compile text (t.compileOptions path) state)

def fetchSource (t : Transformer) (s : Services σ) (name : String) (state : σ) :
    Except TransformError SourceRecord × σ :=
  andThen (t.resolve s name state) fun path state =>
  andThen (fetchText s path state) fun text state =>
  (.ok (t.record name path text), state)

def buildArtifact (t : Transformer) (s : Services σ) (r : SourceRecord) (state : σ) :
    Except TransformError Artifact × σ :=
  andThen (t.compile s r.text r.sourcePath state) fun output state =>
  (.ok (t.annotate r output), state)

def make (t : Transformer) (s : Services σ) (name : String) (state : σ) :
    Except TransformError Artifact × σ :=
  andThen (t.fetchSource s name state) (t.buildArtifact s)

/-- The transformer in words for people, with its compiler and the number of cached modules. -/
def describe (t : Transformer) (compiler : String) (cached : Nat) : String :=
  "ModuleTransformer \x7b fetcher: " ++ Text.quoted t.fetcher.strategy.name ++
    ", compiler: " ++ Text.quoted compiler ++
    ", cached: " ++ toString cached ++
    ", base64: " ++ (if t.base64 then "true" else "false") ++
    ", source_ext: " ++ Text.quoted t.sourceExt ++
    ", target_ext: " ++ Text.quoted t.targetExt ++ " \x7d"

end Transformer

end AmdBundler
