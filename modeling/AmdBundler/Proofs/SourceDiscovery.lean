import AmdBundler.Proofs.PathJoin
import AmdBundler.Source.Discovery

namespace AmdBundler

namespace FileTree
open Lookup

/-- A tree as a disk holds it: the entries of a directory have names, and no two of them the same
one. -/
inductive WellFormed : FileTree → Prop
  | file (bytes : List UInt8) : WellFormed (.file bytes)
  | directory {entries : List (FileName × FileTree)}
    (apart : (entries.map Prod.fst).Nodup)
    (names : ∀ entry ∈ entries, Path.IsName entry.1)
    (children : ∀ entry ∈ entries, WellFormed entry.2) : WellFormed (.directory entries)

section Places

variable {tree child : FileTree} {place : List FileName}

/-- What is found in a well-formed tree is well-formed, and the names of its place are names. -/
theorem WellFormed.find? (whole : tree.WellFormed) (found : tree.find? place = some child) :
    child.WellFormed ∧ ∀ name ∈ place, Path.IsName name := by
  induction place generalizing tree with
  | nil =>
    rw [find?_nil] at found
    cases found
    exact ⟨whole, by simp⟩
  | cons name place ih =>
    cases whole with
    | file bytes => cases found
    | directory apart names children =>
      rw [find?_cons] at found
      obtain ⟨entry, here, below⟩ := Option.bind_eq_some_iff.mp found
      have member := mem_of_lookup here
      obtain ⟨sound, proper⟩ := ih (children _ member) below
      refine ⟨sound, ?_⟩
      intro other inside
      rcases List.mem_cons.mp inside with rfl | deeper
      · exact names _ member
      · exact proper other deeper

end Places

section Nodes

variable {keep : FileName → Bool} {entries : List (FileName × FileTree)} {tree node : FileTree}
  {name : FileName} {place : List FileName}

theorem mem_entryNodes {entry : FileName × FileTree} {found : List FileName × FileTree} :
    found ∈ entryNodes keep entry ↔
      keep entry.1 = true ∧
        ∃ below ∈ nodes keep entry.2, found = (entry.1 :: below.1, below.2) := by
  obtain ⟨name, tree⟩ := entry
  rw [entryNodes]
  split
  · rename_i kept
    simp [kept, eq_comm]
  · rename_i dropped
    simp [dropped]

theorem mem_entriesNodes {found : List FileName × FileTree} :
    found ∈ entriesNodes keep entries ↔ ∃ entry ∈ entries, found ∈ entryNodes keep entry := by
  induction entries with
  | nil => simp [entriesNodes]
  | cons entry entries ih => simp [entriesNodes, ih]

theorem mem_nodes_here : ([], node) ∈ nodes keep tree ↔ node = tree := by
  cases tree with
  | file bytes => simp [nodes]
  | directory entries => simp [nodes, mem_entriesNodes, mem_entryNodes]

theorem mem_nodes_below :
    (name :: place, node) ∈ nodes keep (.directory entries) ↔
      keep name = true ∧ ∃ child, (name, child) ∈ entries ∧ (place, node) ∈ nodes keep child := by
  rw [nodes, List.mem_cons, mem_entriesNodes]
  constructor
  · rintro (top | ⟨⟨key, child⟩, member, found⟩)
    · cases top
    · obtain ⟨kept, ⟨rest, there⟩, below, same⟩ := mem_entryNodes.mp found
      cases same
      exact ⟨kept, child, member, below⟩
  · rintro ⟨kept, child, member, below⟩
    exact .inr ⟨_, member, mem_entryNodes.mpr ⟨kept, _, below, rfl⟩⟩

/-- The nodes of a tree are what is found in it at the places whose names are kept. -/
theorem mem_nodes_iff (whole : tree.WellFormed) :
    (place, node) ∈ nodes keep tree ↔
      tree.find? place = some node ∧ ∀ name ∈ place, keep name = true := by
  induction place generalizing tree with
  | nil =>
    rw [mem_nodes_here, find?_nil, Option.some_inj, eq_comm]
    simp
  | cons name place ih =>
    cases whole with
    | file bytes => simp [nodes]
    | directory apart names children =>
      rw [mem_nodes_below, find?_cons, Option.bind_eq_some_iff, List.forall_mem_cons]
      constructor
      · rintro ⟨kept, child, member, below⟩
        obtain ⟨found, all⟩ := (ih (children _ member)).mp below
        exact ⟨⟨child, lookup_of_mem apart member, found⟩, kept, all⟩
      · rintro ⟨⟨child, here, found⟩, kept, all⟩
        have member := mem_of_lookup here
        exact ⟨kept, child, member, (ih (children _ member)).mpr ⟨found, all⟩⟩

end Nodes

end FileTree

namespace FileSystem
open FileTree

variable {fs : FileSystem} {path : Path} {node : FileTree}

theorem find_ok_iff : fs.find path = .ok node ↔
    ∃ place, fs.place path = .ok place ∧ fs.tree.find? place = some node := by
  rw [find]
  cases fs.place path with
  | error e => simp
  | ok place => cases found : fs.tree.find? place <;> simp [found]

/-- There is nothing wrong with a path that can be followed. -/
theorem pathFault?_of_find (found : fs.find path = .ok node) : pathFault? path = none := by
  obtain ⟨place, leads, -⟩ := find_ok_iff.mp found
  rw [FileSystem.place] at leads
  split at leads
  · cases leads
  · assumption

theorem pathFault?_eq_none_iff : pathFault? path = none ↔
    0 ∉ path.bytes ∧ path.bytes ≠ [] ∧ path.bytes.length < pathLimit := by
  rw [pathFault?]
  split
  · rename_i nul
    simpa using fun absent => absurd (by simpa using nul) absent
  · rename_i nul
    split
    · rename_i empty
      simp [List.isEmpty_iff.mp empty]
    · rename_i full
      split
      · rename_i long
        simp [Nat.not_lt.mpr long]
      · rename_i short
        rw [List.isEmpty_iff] at full
        simpa [full] using ⟨by simpa using nul, Nat.lt_of_not_le short⟩

theorem full_of_find (found : fs.find path = .ok node) : path.bytes ≠ [] :=
  (pathFault?_eq_none_iff.mp (pathFault?_of_find found)).2.1

theorem short_of_find (found : fs.find path = .ok node) :
    path.bytes.length < pathLimit :=
  (pathFault?_eq_none_iff.mp (pathFault?_of_find found)).2.2

theorem pathFault?_join_name {name : FileName} (isName : Path.IsName name)
    (sound : pathFault? (path.join ⟨name⟩) = none) (full : path.bytes ≠ []) :
    pathFault? path = none := by
  rw [pathFault?_eq_none_iff, Path.join_relative isName.relative] at sound
  obtain ⟨clear, -, short⟩ := sound
  have goesOn : ∃ rest, Path.opened path.bytes ++ name = path.bytes ++ rest := by
    by_cases closed : path.bytes.getLast? = some Path.slash
    · exact ⟨name, by rw [Path.opened_closed closed]⟩
    · exact ⟨Path.slash :: name, by rw [Path.opened_open full closed]; simp⟩
  obtain ⟨rest, goesOn⟩ := goesOn
  rw [goesOn, List.mem_append, not_or] at clear
  rw [goesOn, List.length_append] at short
  exact pathFault?_eq_none_iff.mpr ⟨clear.1, full, by omega⟩

theorem find_join_name {name : FileName} (full : path.bytes ≠ []) (isName : Path.IsName name)
    (found : fs.find (path.join ⟨name⟩) = .ok node) :
    ∃ tree, fs.find path = .ok tree ∧ tree.find? [name] = some node := by
  have sound := pathFault?_of_find found
  obtain ⟨goal, leads, there⟩ := find_ok_iff.mp found
  obtain ⟨front, -, own, whole⟩ := Path.segments_join_name full isName
  have start : fs.start (path.join ⟨name⟩) = fs.start path := by
    rw [FileSystem.start, FileSystem.start, Path.isAbsolute_join_name full isName]
  rw [FileSystem.place, sound, whole, start] at leads
  rw [walk_append] at leads
  cases walked : walk fs.tree (fs.start path) front with
  | error e =>
    rw [walked] at leads
    cases leads
  | ok here =>
    rw [walked] at leads
    simp only [walk, isName.stands] at leads
    split at leads
    · cases leads
    · cases leads
    · rename_i entries seen
      split at leads
      · cases leads
      · split at leads
        · cases leads
          rw [find?_append, seen, Option.bind_some] at there
          refine ⟨_, find_ok_iff.mpr ⟨here, ?_, seen⟩, there⟩
          rw [FileSystem.place, pathFault?_join_name isName sound full]
          rcases own with same | more
          · rw [same, walked]
          · rw [more, walk_append, walked]
            exact walk_blanks (look_eq_directory.mpr ⟨entries, seen⟩) (by simp)
        · cases leads

end FileSystem

namespace Path

theorem marks_dot : Utf8.Marks dot '.' :=
  ⟨by decide, by decide, by decide⟩

/-- The extension is what stands behind the last dot of the name, and something stands before that
dot. -/
def HasExtension (name ext : FileName) : Prop :=
  ∃ stem : FileName, stem ≠ [] ∧ name = stem ++ dot :: ext ∧ dot ∉ ext

theorem splitLast?_append (stem : FileName) {ext : FileName} (plain : dot ∉ ext) :
    Text.splitLast? dot (stem ++ dot :: ext) = some (stem, ext) :=
  Text.splitLast?_eq_some_iff.mpr ⟨rfl, plain⟩

theorem extensionOf?_eq_some_iff {name ext : FileName} (proper : name ≠ [dot, dot]) :
    extensionOf? name = some ext ↔ HasExtension name ext := by
  rw [extensionOf?, if_neg proper]
  constructor
  · intro found
    split at found
    · rename_i b stem extension cut
      cases found
      obtain ⟨bytes, plain⟩ := Text.splitLast?_eq_some_iff.mp cut
      exact ⟨b :: stem, List.cons_ne_nil b stem, bytes, plain⟩
    · cases found
  · rintro ⟨stem, full, rfl, plain⟩
    obtain ⟨b, rest, rfl⟩ := List.exists_cons_of_ne_nil full
    rw [splitLast?_append _ plain]

theorem stemOf_append {stem ext : FileName} (full : stem ≠ []) (proper : stem ≠ [dot])
    (plain : dot ∉ ext) : stemOf (stem ++ dot :: ext) = stem := by
  have apart : stem ++ dot :: ext ≠ [dot, dot] := by
    intro dots
    have lengths := congrArg List.length dots
    obtain ⟨b, rest, rfl⟩ := List.exists_cons_of_ne_nil full
    simp only [List.length_append, List.length_cons, List.length_nil] at lengths
    have alone : rest = [] := List.length_eq_zero_iff.mp (by omega)
    subst alone
    exact proper (by rw [(List.cons.inj dots).1])
  rw [stemOf, if_neg apart, splitLast?_append stem plain]
  obtain ⟨b, rest, rfl⟩ := List.exists_cons_of_ne_nil full
  exact if_neg proper

/-- The name at the end of a path is not the one that leads up. -/
theorem fileName?_ne_dots {p : Path} {name : FileName} (named : p.fileName? = some name) :
    name ≠ [dot, dot] := by
  rintro rfl
  cases (segment_of_fileName? named).2

theorem extension?_eq_some_iff {p : Path} {ext : FileName} :
    p.extension? = some ext ↔ ∃ name, p.fileName? = some name ∧ HasExtension name ext := by
  rw [extension?, Option.bind_eq_some_iff]
  constructor
  · rintro ⟨name, named, found⟩
    exact ⟨name, named, (extensionOf?_eq_some_iff (fileName?_ne_dots named)).mp found⟩
  · rintro ⟨name, named, ends⟩
    exact ⟨name, named, (extensionOf?_eq_some_iff (fileName?_ne_dots named)).mpr ends⟩

end Path

namespace Sources
open AmdBundler.Path

/-- The names that are hidden are texts that start with a dot. -/
theorem isVisible_iff {name : FileName} : isVisible name = true ↔
    ∀ text : String, name = .ofText text → text.toList.head? ≠ some '.' := by
  rw [isVisible]
  constructor
  · rintro shown text rfl head
    obtain ⟨rest, dotted⟩ := List.head?_eq_some_iff.mp head
    rw [FileName.ofText, dotted, Utf8.decode?_encode] at shown
    cases shown
  · intro visible
    split
    · rename_i rest decoded
      refine absurd ?_ (visible (String.ofList ('.' :: rest)) ?_)
      · simp
      · rw [FileName.ofText, String.toList_ofList]
        exact Utf8.decode?_eq_some_iff.mp decoded
    · rfl

/-- A text behind a dot does not make a name hidden. -/
theorem isVisible_append {stem : FileName} (full : stem ≠ []) (ext : String) :
    isVisible (stem ++ dot :: FileName.ofText ext) = isVisible stem := by
  rw [isVisible, isVisible, FileName.ofText, Utf8.decode?_mark marks_dot]
  cases decoded : Utf8.decode? stem with
  | none => rfl
  | some text =>
    cases text with
    | nil => exact absurd (Utf8.decode?_eq_some_iff.mp decoded) full
    | cons c rest => by_cases hidden : c = '.' <;> simp [hidden]

theorem isName_of_visible {name : FileName} (plain : slash ∉ name) (full : name ≠ [])
    (visible : isVisible name = true) : IsName name := by
  refine isName_iff.mpr ⟨plain, full, ?_, ?_⟩
  · rintro rfl
    exact absurd visible (by decide)
  · rintro rfl
    exact absurd visible (by decide)

section Places

variable {root : Path} {place folder : List FileName} {name : FileName}

theorem pathOf_cons (root : Path) (name : FileName) (place : List FileName) :
    pathOf root (name :: place) = pathOf (root.join ⟨name⟩) place := rfl

theorem pathOf_full (full : root.bytes ≠ []) (names : ∀ name ∈ place, IsName name) :
    (pathOf root place).bytes ≠ [] := by
  induction place generalizing root with
  | nil => exact full
  | cons name place ih =>
    rw [List.forall_mem_cons] at names
    exact ih (names.1.join_full root) names.2

theorem parts_pathOf (full : root.bytes ≠ []) (names : ∀ name ∈ place, IsName name) :
    (pathOf root place).parts = root.parts ++ place.map .named := by
  induction place generalizing root with
  | nil => simp [pathOf]
  | cons name place ih =>
    rw [List.forall_mem_cons] at names
    rw [pathOf_cons, ih (names.1.join_full root) names.2, parts_join full names.1]
    simp

theorem pathOf_inj {other : List FileName} (full : root.bytes ≠ [])
    (names : ∀ name ∈ place, IsName name) (others : ∀ name ∈ other, IsName name)
    (same : (pathOf root place).parts = (pathOf root other).parts) : place = other := by
  rw [parts_pathOf full names, parts_pathOf full others, List.append_cancel_left_eq] at same
  exact List.map_injective_iff.mpr (fun _ _ same => Part.named.inj same) same

theorem isAbsolute_intercalate (plain : ∀ name ∈ place, slash ∉ name)
    (full : ∀ name ∈ place, name ≠ []) :
    (Path.mk ([slash].intercalate place)).isAbsolute = false := by
  cases place with
  | nil => rfl
  | cons name place =>
    have relative := not_isAbsolute_of_plain (plain name List.mem_cons_self)
    cases place with
    | nil => simpa using relative
    | cons next place =>
      rw [List.intercalate_cons_cons, List.append_assoc,
        isAbsolute_append (full name List.mem_cons_self)]
      exact relative

/-- Names that are put behind a path one by one are put behind it all together. -/
theorem pathOf_eq_join (names : ∀ name ∈ place, IsName name) (some : place ≠ []) :
    pathOf root place = root.join ⟨[slash].intercalate place⟩ := by
  induction place generalizing root with
  | nil => exact absurd rfl some
  | cons name place ih =>
    rw [List.forall_mem_cons] at names
    rw [pathOf_cons]
    cases place with
    | nil =>
      rw [List.intercalate_singleton]
      rfl
    | cons next place =>
      have open_ : name.getLast? ≠ Option.some slash := fun last =>
        names.1.plain (List.mem_of_getLast? last)
      have relative := isAbsolute_intercalate (fun n member => (names.2 n member).plain)
        fun n member => (names.2 n member).full
      rw [ih names.2 (List.cons_ne_nil _ _), join_join root name relative,
        opened_open names.1.full open_, List.intercalate_cons_cons]

theorem fileName?_pathOf (full : root.bytes ≠ []) (names : ∀ n ∈ folder ++ [name], IsName n) :
    (pathOf root (folder ++ [name])).fileName? = some name := by
  rw [fileName?, parts_pathOf full names, List.map_append, ← List.append_assoc, List.map_singleton,
    List.getLast?_concat]

theorem below?_pathOf (full : root.bytes ≠ []) (names : ∀ n ∈ place, IsName n) :
    below? root (pathOf root place) = some (place.map .named) := by
  rw [below?, parts_pathOf full names]
  exact Text.dropStart?_eq_some_iff.mpr rfl

theorem moduleName?_self (root : Path) : moduleName? root root = none := by
  have nothing : below? root root = some [] := Text.dropStart?_eq_some_iff.mpr (by simp)
  rw [moduleName?, nothing]

/-- The name of a source is its place without the extension. -/
theorem moduleName?_pathOf (full : root.bytes ≠ []) (names : ∀ n ∈ folder ++ [name], IsName n) :
    moduleName? root (pathOf root (folder ++ [name])) = some ("/".intercalate
      ((folder ++ [stemOf name]).map FileName.text)) := by
  rw [moduleName?, below?_pathOf full names]
  split
  · rename_i none_
    cases none_
  · rename_i empty
    simp at empty
  · rename_i parts some_
    cases some_
    rw [stemLast, List.map_append, List.map_singleton, List.getLast?_concat, List.dropLast_concat]
    simp [Part.bytes, Function.comp_def]

end Places

variable {fs : FileSystem} {opens : Openness} {root f : Path} {ext : String}

theorem isListed_iff {place : List FileName} : isListed opens root place = true ↔
    ∀ depth < place.length, (pathOf root (place.take depth)).bytes.length < FileSystem.pathLimit ∧
      opens (pathOf root (place.take depth)) = true := by
  simp [isListed, canList]

/-- The sources that are found are the files of the extension at places whose names are visible, in
directories that can be listed. -/
theorem mem_find_iff (whole : fs.tree.WellFormed) :
    f ∈ find fs opens root ext ↔ ∃ tree place bytes, fs.find root = .ok tree ∧
      tree.find? place = some (.file bytes) ∧ (∀ name ∈ place, isVisible name = true) ∧
      isListed opens root place = true ∧ f = pathOf root place ∧
      f.extension? = some (.ofText ext) := by
  rw [find]
  cases there : fs.find root with
  | error e => simp
  | ok tree =>
    obtain ⟨top, -, found⟩ := FileSystem.find_ok_iff.mp there
    have sound := (whole.find? found).1
    simp only [List.mem_mergeSort, collect, List.mem_filterMap]
    constructor
    · rintro ⟨⟨place, node⟩, member, kept⟩
      obtain ⟨seen, visible⟩ := (FileTree.mem_nodes_iff sound).mp member
      simp only at kept
      split at kept
      · cases kept
      · rename_i listed
        split at kept
        · rename_i ends
          cases kept
          rw [Bool.not_eq_true, Bool.or_eq_false_iff] at listed
          cases node with
          | directory entries => cases listed.1
          | file bytes =>
            exact ⟨tree, place, bytes, rfl, seen, visible, by simpa using listed.2, rfl, ends⟩
        · cases kept
    · rintro ⟨_, place, bytes, ⟨⟩, seen, visible, listed, rfl, ends⟩
      refine ⟨(place, .file bytes), (FileTree.mem_nodes_iff sound).mpr ⟨seen, visible⟩, ?_⟩
      simp [FileTree.isDirectory, listed, ends]

end Sources

end AmdBundler
