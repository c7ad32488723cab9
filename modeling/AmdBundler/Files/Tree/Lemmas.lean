import AmdBundler.Files.Tree
import AmdBundler.Lookup

namespace AmdBundler.FileTree
open Lookup

@[simp] theorem find?_nil (t : FileTree) : t.find? [] = some t := by
  cases t <;> rfl

theorem find?_cons (entries : List (FileName × FileTree)) (name : FileName)
    (place : List FileName) :
    (directory entries).find? (name :: place) =
      (entries.lookup name).bind fun child => child.find? place := by
  rw [find?]
  cases entries.lookup name <;> rfl

@[simp] theorem find?_file_cons (bytes : List UInt8) (name : FileName) (place : List FileName) :
    (file bytes).find? (name :: place) = none := rfl

theorem put_cons (entries : List (FileName × FileTree)) (name : FileName) (place : List FileName)
    (new : FileTree) : (directory entries).put (name :: place) new =
      match entries.lookup name with
      | some child =>
        .directory (entries.map fun e => if e.1 = name then (name, child.put place new) else e)
      | none => .directory (entries ++ [(name, (directory []).put place new)]) := rfl

@[simp] theorem put_nil (t new : FileTree) : t.put [] new = new := by
  cases t <;> rfl

theorem find?_put_cons (entries : List (FileName × FileTree)) (name key : FileName)
    (place rest : List FileName) (new : FileTree) :
    ((directory entries).put (name :: place) new).find? (key :: rest) =
      if key = name then (((entries.lookup name).getD (directory [])).put place new).find? rest
      else (directory entries).find? (key :: rest) := by
  rw [put_cons]
  cases h : entries.lookup name with
  | some child =>
    simp only
    rw [find?_cons, find?_cons, lookup_update name key fun _ => child.put place new, h]
    split <;> rfl
  | none =>
    simp only
    rw [find?_cons, find?_cons, List.lookup_append, lookup_cons_eq]
    split
    · rename_i same
      rw [same, h]
      rfl
    · cases entries.lookup key <;> rfl

theorem find?_put_self {t new : FileTree} {folder : List FileName} {name : FileName}
    {entries : List (FileName × FileTree)} (h : t.find? folder = some (directory entries)) :
    (t.put (folder ++ [name]) new).find? (folder ++ [name]) = some new := by
  induction folder generalizing t with
  | nil =>
    rw [find?_nil] at h
    cases h
    rw [List.nil_append, find?_put_cons, if_pos rfl, put_nil, find?_nil]
  | cons first folder ih =>
    cases t with
    | file bytes => cases h
    | directory top =>
      rw [find?_cons] at h
      obtain ⟨child, found, h⟩ := Option.bind_eq_some_iff.mp h
      rw [List.cons_append, find?_put_cons, if_pos rfl, found]
      exact ih h

/-- What lies neither on the way to a place nor below it stays as it is. -/
theorem find?_put_of_apart {t new : FileTree} {place other : List FileName}
    (notBelow : ¬place <+: other) (notAbove : ¬other <+: place) :
    (t.put place new).find? other = t.find? other := by
  induction place generalizing t other with
  | nil => exact absurd (List.nil_prefix) notBelow
  | cons name place ih =>
    cases other with
    | nil => exact absurd (List.nil_prefix) notAbove
    | cons key rest =>
      cases t with
      | file bytes => rfl
      | directory entries =>
        rw [find?_put_cons]
        split
        · rename_i same
          subst same
          rw [List.prefix_cons_inj] at notBelow notAbove
          rw [ih notBelow notAbove, find?_cons]
          cases entries.lookup key with
          | some child => rfl
          | none =>
            cases rest with
            | nil => exact absurd (List.nil_prefix) notAbove
            | cons next rest => rfl
        · rfl

/-- The way to a place stays a way of directories. -/
theorem isDirectory_find?_put {t new : FileTree} {place other : List FileName}
    (above : other <+: place) (proper : other ≠ place)
    (h : (t.find? other).any isDirectory = true) :
    ((t.put place new).find? other).any isDirectory = true := by
  induction other generalizing t place with
  | nil =>
    cases place with
    | nil => exact absurd rfl proper
    | cons name place =>
      cases t with
      | file bytes => exact absurd h (by simp [isDirectory])
      | directory entries =>
        rw [put_cons]
        cases entries.lookup name <;> simp [isDirectory]
  | cons key rest ih =>
    cases place with
    | nil => exact absurd above (by simp)
    | cons name place =>
      obtain ⟨same, within⟩ := List.cons_prefix_cons.mp above
      subst same
      cases t with
      | file bytes => exact absurd h (by simp)
      | directory entries =>
        rw [find?_cons] at h
        rw [find?_put_cons, if_pos rfl]
        cases found : entries.lookup key with
        | none => simp [found] at h
        | some child =>
          rw [found] at h
          exact ih within (fun e => proper (e ▸ rfl)) h

theorem erase_one (entries : List (FileName × FileTree)) (name : FileName) :
    (directory entries).erase [name] = .directory (entries.filter fun e => e.1 ≠ name) := rfl

theorem erase_cons (entries : List (FileName × FileTree)) (name next : FileName)
    (place : List FileName) : (directory entries).erase (name :: next :: place) =
      .directory (entries.map fun e =>
        if e.1 = name then (name, e.2.erase (next :: place)) else e) := rfl

@[simp] theorem erase_file (bytes : List UInt8) (place : List FileName) :
    (file bytes).erase place = .file bytes := by
  rw [erase]
  · simp
  · simp

theorem find?_erase_cons (entries : List (FileName × FileTree)) (name next key : FileName)
    (place rest : List FileName) :
    ((directory entries).erase (name :: next :: place)).find? (key :: rest) =
      if key = name then
        (entries.lookup name).bind fun child => (child.erase (next :: place)).find? rest
      else (directory entries).find? (key :: rest) := by
  rw [erase_cons, find?_cons, find?_cons,
    lookup_update name key fun child : FileTree => child.erase (next :: place)]
  split
  · cases entries.lookup name <;> rfl
  · rfl

theorem find?_erase_self (t : FileTree) {place : List FileName} (h : place ≠ []) :
    (t.erase place).find? place = none := by
  induction place generalizing t with
  | nil => exact absurd rfl h
  | cons name place ih =>
    cases t with
    | file bytes => rw [erase_file, find?_file_cons]
    | directory entries =>
      cases place with
      | nil =>
        rw [erase_one, find?_cons, lookup_filter_ne, if_pos rfl]
        rfl
      | cons next place =>
        rw [find?_erase_cons, if_pos rfl]
        cases entries.lookup name with
        | none => rfl
        | some child => exact ih child (by simp)

/-- What lies neither on the way to an erased place nor below it stays as it is. -/
theorem find?_erase_of_apart {t : FileTree} {place other : List FileName}
    (notBelow : ¬place <+: other) (notAbove : ¬other <+: place) :
    (t.erase place).find? other = t.find? other := by
  induction place generalizing t other with
  | nil => exact absurd (List.nil_prefix) notBelow
  | cons name place ih =>
    cases other with
    | nil => exact absurd (List.nil_prefix) notAbove
    | cons key rest =>
      cases t with
      | file bytes => rw [erase_file]
      | directory entries =>
        cases place with
        | nil =>
          have apart : key ≠ name := fun same => notBelow (by simp [same])
          rw [erase_one, find?_cons, find?_cons, lookup_filter_ne, if_neg apart]
        | cons next place =>
          rw [find?_erase_cons]
          split
          · rename_i same
            subst same
            rw [List.prefix_cons_inj] at notBelow notAbove
            rw [find?_cons]
            cases entries.lookup key with
            | none => rfl
            | some child => exact ih notBelow notAbove
          · rfl

end AmdBundler.FileTree
