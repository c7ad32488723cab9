import AmdBundler.Compiler.Basic
import AmdBundler.Source.Fetcher
import AmdBundler.Loader.Error

namespace AmdBundler

inductive TransformError where
  /-- The loader has no path for the name. -/
  | resolve (cause : LoaderError)
  | fetch (cause : FetchError)
  /-- The compiler rejects the source at `path`. -/
  | compile (path : String) (cause : CompilerError)
  /-- The loader does not take the text, or does not give out the module. -/
  | register (name : String) (cause : LoaderError)
deriving DecidableEq

namespace TransformError

def code : TransformError → String
  | .resolve _ => "TRANSFORM_RESOLVE_ERROR"
  | .fetch cause => cause.code
  | .compile _ cause => cause.code
  | .register .. => "TRANSFORM_REGISTER_ERROR"

def message : TransformError → String
  | .resolve cause => cause.message
  | .fetch cause => cause.message
  | .compile path cause => "In " ++ path ++ ", " ++ cause.message
  | .register name cause => "failed to register module `" ++ name ++ "`: " ++ cause.message

end TransformError

end AmdBundler
