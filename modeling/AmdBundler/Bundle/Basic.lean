import AmdBundler.Bundle.DefineCall

namespace AmdBundler

/-- Ids with their named texts, in the order of writing. -/
structure Bundle where
  modules : List (String × String)
deriving DecidableEq

namespace Bundle

def empty : Bundle := ⟨[]⟩

def ids (b : Bundle) : List String :=
  b.modules.map Prod.fst

def size (b : Bundle) : Nat :=
  b.modules.length

def write (b : Bundle) (id text : String) : Bundle :=
  ⟨b.modules ++ [(id, nameAnonymousDefine id text)]⟩

/-- A module text in a bundle ends its last line and is followed by an empty one. -/
def closeModule (text : List Char) : List Char :=
  if text.getLast? = some '\n' then text ++ ['\n'] else text ++ ['\n', '\n']

def text (b : Bundle) : String :=
  String.ofList (b.modules.flatMap fun entry => closeModule entry.2.toList)

@[simp] theorem ids_write (b : Bundle) (id text : String) :
    (b.write id text).ids = b.ids ++ [id] := by
  simp [write, ids]

@[simp] theorem size_write (b : Bundle) (id text : String) :
    (b.write id text).size = b.size + 1 := by
  simp [write, size]

theorem text_write (b : Bundle) (id text : String) :
    (b.write id text).text =
      b.text ++ String.ofList (closeModule (nameAnonymousDefine id text).toList) := by
  simp [write, Bundle.text, String.ofList_append]

end Bundle

end AmdBundler
