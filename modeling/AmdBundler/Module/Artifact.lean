import AmdBundler.Directive
import AmdBundler.NameMap

namespace AmdBundler

/-- A compiled module with its directives. -/
structure Artifact where
  moduleName : String
  sourcePath : String
  outputPath : String
  text : String
  /-- The source map as the compiler gave it. -/
  sourceMap : Option String
  embedding : Embedding
deriving DecidableEq

/-- Artifacts by the names of their modules. The first artifact of a name stays. -/
abbrev BuildCache := NameMap Artifact

/-- Keeps an artifact unless there is one, and gives out the one that is kept. -/
def BuildCache.keep (cache : BuildCache) (name : String) (artifact : Artifact) :
    Artifact × BuildCache :=
  match cache.find? name with
  | some kept => (kept, cache)
  | none => (artifact, cache.insert name artifact)

/-- What is given out is what is kept. -/
theorem BuildCache.find?_keep_self (cache : BuildCache) (name : String) (artifact : Artifact) :
    (cache.keep name artifact).2.find? name = some (cache.keep name artifact).1 := by
  rw [keep]
  cases h : cache.find? name with
  | some kept => exact h
  | none => exact NameMap.find?_insert_self cache name artifact

theorem BuildCache.find?_keep_of_ne (cache : BuildCache) {name other : String}
    (artifact : Artifact) (h : other ≠ name) :
    (cache.keep name artifact).2.find? other = cache.find? other := by
  rw [keep]
  cases cache.find? name with
  | some kept => rfl
  | none => exact NameMap.find?_insert_of_ne cache artifact h

end AmdBundler
