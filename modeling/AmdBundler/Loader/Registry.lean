import AmdBundler.Loader.PathTable

namespace AmdBundler

structure LoadedModule where
  name : String
  text : String
deriving DecidableEq

/-- A module loader whose calls may depend on a state, and change it. -/
structure Loader (σ : Type) where
  /-- The URL of a name with its extension. -/
  toUrl : String → σ → Except LoaderError String × σ
  /-- Takes in the text of a module. -/
  define : String → String → σ → Except LoaderError Unit × σ
  /-- Gives out a module. -/
  request : String → σ → Except LoaderError LoadedModule × σ

structure Registry where
  paths : PathTable
  modules : NameMap String

namespace Registry

def ofPaths (paths : PathTable) : Registry := ⟨paths, .empty⟩

def toUrl (r : Registry) (nameWithExt : String) : Except LoaderError String :=
  r.paths.toUrl nameWithExt

/-- The last text that a module is given stays. -/
def define (r : Registry) (name text : String) : Registry :=
  { r with modules := r.modules.insert name text }

def request (r : Registry) (name : String) : Except LoaderError LoadedModule :=
  match r.modules.find? name with
  | some text => .ok ⟨name, text⟩
  | none => .error (.notDefined name)

def isDefined (r : Registry) (name : String) : Bool :=
  r.modules.contains name

def definedNames (r : Registry) : List String :=
  r.modules.names

/-- The text of a name is the one that it was defined with last. -/
theorem request_define (r : Registry) (name text other : String) :
    (r.define name text).request other =
      if other = name then .ok ⟨other, text⟩ else r.request other := by
  rw [request, define, NameMap.find?_insert]
  by_cases h : other = name
  · rw [if_pos h, if_pos h]
  · rw [if_neg h, if_neg h]
    rfl

theorem isDefined_define (r : Registry) (name text other : String) :
    (r.define name text).isDefined other = (other == name || r.isDefined other) := by
  rw [isDefined, define, NameMap.contains, NameMap.find?_insert]
  by_cases h : other = name <;> simp [h, isDefined, NameMap.contains]

/-- The registry as a loader whose state it is. -/
def loader : Loader Registry where
  toUrl name r := (r.toUrl name, r)
  define name text r := (.ok (), r.define name text)
  request name r := (r.request name, r)

end Registry

end AmdBundler
