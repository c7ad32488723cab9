import AmdBundler.Bundle.Basic
import AmdBundler.Module.Make

namespace AmdBundler

/-- What a load gives. -/
structure LoadOutcome where
  /-- The module as the loader gives it out. -/
  loaded : LoadedModule
  artifact : Artifact
  /-- The artifact was in the cache. -/
  reused : Bool
deriving DecidableEq

namespace Transformer

variable {σ : Type}

def register (s : Services σ) (name : String) (artifact : Artifact) (reused : Bool) (state : σ) :
    Except TransformError LoadOutcome × σ :=
  andThen (stage (.register name) (s.loader.define name artifact.text state)) fun _ state =>
  andThen (stage (.register name) (s.loader.request name state)) fun loaded state =>
  (.ok ⟨loaded, artifact, reused⟩, state)

/-- The artifact of a module, and whether it was kept. A fresh one is kept in a build. -/
def obtain (t : Transformer) (s : Services σ) (isBuild : Bool) (name : String)
    (state : BuildCache × σ) : Except TransformError (Artifact × Bool) × BuildCache × σ :=
  match if isBuild then state.1.find? name else none with
  | some artifact => (.ok (artifact, true), state)
  | none =>
    match t.make s name state.2 with
    | (.error e, rest) => (.error e, state.1, rest)
    | (.ok artifact, rest) =>
      if isBuild then
        let (kept, cache) := state.1.keep name artifact
        (.ok (kept, false), cache, rest)
      else (.ok (artifact, false), state.1, rest)

def load (t : Transformer) (s : Services σ) (isBuild : Bool) (name : String)
    (state : BuildCache × σ) : Except TransformError LoadOutcome × BuildCache × σ :=
  andThen (t.obtain s isBuild name state) fun (artifact, reused) (cache, rest) =>
  let (outcome, rest) := register s name artifact reused rest
  (outcome, cache, rest)

end Transformer

namespace BuildCache

def bundleId (plugin name : String) : String :=
  plugin ++ "!" ++ name

/-- Writes a module into a bundle if it is kept, and says whether it is. -/
def write (cache : BuildCache) (plugin name : String) (bundle : Bundle) : Bool × Bundle :=
  match cache.find? name with
  | some artifact => (true, bundle.write (bundleId plugin name) artifact.text)
  | none => (false, bundle)

/-- Writes all modules into a bundle, in the order of their names. -/
def writeAll (cache : BuildCache) (plugin : String) (bundle : Bundle) : Bundle :=
  cache.entries.foldl (fun b e => b.write (bundleId plugin e.1) e.2.text) bundle

end BuildCache

end AmdBundler
