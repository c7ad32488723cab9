import AmdBundler.Proofs.SourceDiscovery

namespace AmdBundler

namespace Path

namespace Part

theorem lt_iff {a b : Part} :
    a < b ↔ a.rank < b.rank ∨ a.rank = b.rank ∧ a.bytes < b.bytes :=
  Iff.rfl

instance : Std.Asymm (fun a b : Part => a < b) where
  asymm a b less more := by
    rw [lt_iff] at less more
    rcases less with less | ⟨same, less⟩ <;> rcases more with more | ⟨_, more⟩
    · omega
    · omega
    · omega
    · exact List.lt_asymm less more

instance : Trans (fun a b : Part => a < b) (fun a b : Part => a < b) (fun a b : Part => a < b) where
  trans {a b c} less more := by
    rw [lt_iff] at less more ⊢
    rcases less with less | ⟨same, less⟩ <;> rcases more with more | ⟨even, more⟩
    · exact .inl (by omega)
    · exact .inl (by omega)
    · exact .inl (by omega)
    · exact .inr ⟨same.trans even, List.lt_trans less more⟩

/-- Of two parts one comes before the other, for a part is known by its rank and its bytes. -/
instance : Std.Trichotomous (fun a b : Part => a < b) where
  trichotomous a b notLess notMore := by
    simp only [lt_iff, not_or, not_and, Nat.not_lt] at notLess notMore
    have rank : a.rank = b.rank := Nat.le_antisymm notMore.1 notLess.1
    have bytes : a.bytes = b.bytes :=
      List.le_antisymm (List.not_lt.mp (notMore.2 rank.symm)) (List.not_lt.mp (notLess.2 rank))
    cases a <;> cases b <;> simp_all [Part.rank, Part.bytes]

end Part

section Order

variable {a b c : Path}

theorem precedes_iff : a.precedes b = true ↔ a.parts < b.parts :=
  decide_eq_true_iff

theorem precedes_asymm (less : a.precedes b = true) : ¬b.precedes a = true := fun more =>
  List.lt_asymm (precedes_iff.mp less) (precedes_iff.mp more)

theorem precedes_or (apart : a.parts ≠ b.parts) (not : ¬b.precedes a = true) :
    a.precedes b = true := by
  rw [precedes_iff] at not ⊢
  by_contra other
  exact apart (List.le_antisymm (List.not_lt.mp not) (List.not_lt.mp other))

theorem not_precedes_trans (first : ¬b.precedes a = true) (second : ¬c.precedes b = true) :
    ¬c.precedes a = true := by
  simp only [precedes_iff] at *
  intro less
  by_cases same : a.parts = b.parts
  · exact second (same ▸ less)
  · exact second (List.lt_trans less (precedes_iff.mp (precedes_or same (by rwa [precedes_iff]))))

theorem pairwise_sorted (paths : List Path) :
    (paths.mergeSort fun a b => !b.precedes a).Pairwise fun a b => ¬b.precedes a = true := by
  have sorted : (paths.mergeSort fun a b => !b.precedes a).Pairwise
      fun a b => (!b.precedes a) = true := by
    apply List.pairwise_mergeSort
    · intro a b c first second
      simp only [Bool.not_eq_true', ← Bool.not_eq_true] at first second ⊢
      exact not_precedes_trans first second
    · intro a b
      cases less : b.precedes a with
      | false => rfl
      | true => simpa using precedes_asymm less
  simpa using sorted

end Order

end Path

namespace FileTree

theorem entriesNodes_eq_flatMap (keep : FileName → Bool)
    (entries : List (FileName × FileTree)) :
    entriesNodes keep entries = entries.flatMap (entryNodes keep) := by
  induction entries with
  | nil => rfl
  | cons entry entries ih => simp [entriesNodes, ih]

/-- No two nodes of a tree have the same place. -/
theorem WellFormed.pairwise_nodes {tree : FileTree} (whole : tree.WellFormed)
    (keep : FileName → Bool) : (nodes keep tree).Pairwise fun a b => a.1 ≠ b.1 := by
  induction whole with
  | file bytes => simp [nodes]
  | @directory entries apart _ _ ih =>
    rw [nodes, List.pairwise_cons, entriesNodes_eq_flatMap, List.pairwise_flatMap]
    refine ⟨?_, ?_, ?_⟩
    · intro node member same
      obtain ⟨entry, -, found⟩ := List.mem_flatMap.mp member
      obtain ⟨-, below, -, rfl⟩ := mem_entryNodes.mp found
      cases same
    · intro entry member
      rw [entryNodes]
      split
      · rw [List.pairwise_map]
        exact (ih entry member).imp fun other same => other (List.cons.inj same).2
      · exact .nil
    · refine (List.pairwise_map.mp apart).imp fun other a first b second same => other ?_
      obtain ⟨-, below, -, rfl⟩ := mem_entryNodes.mp first
      obtain ⟨-, beside, -, rfl⟩ := mem_entryNodes.mp second
      exact (List.cons.inj same).1

end FileTree

namespace FileSystem
open FileTree

theorem place_congr {fs other : FileSystem} (work : other.workPlace = fs.workPlace)
    (same : ∀ place, other.tree.look place = fs.tree.look place) (path : Path) :
    other.place path = fs.place path := by
  have start : other.start path = fs.start path := by rw [FileSystem.start, FileSystem.start, work]
  rw [FileSystem.place, FileSystem.place, start]
  cases pathFault? path with
  | some e => rfl
  | none =>
    exact (walk_congr (fun place there => (same place).trans there) (same _)
      fun place _ => same place).1

end FileSystem

namespace Sources
open AmdBundler.Path FileTree

variable {fs other : FileSystem} {opens : Openness} {root f : Path} {ext : String}
  {place : List FileName}

/-- The file at a place at or below the root is a source: no name that leads there from the root is
a text that starts with a dot, and its own name has the extension. -/
structure SourceAt (fs : FileSystem) (root : Path) (ext : String) (place : List FileName)
    (f : Path) : Prop where
  file : ∃ top bytes, fs.place root = .ok top ∧ fs.tree.look (top ++ place) = some (some bytes)
  path : f = pathOf root place
  visible : ∀ text : String, .ofText text ∈ place → text.toList.head? ≠ some '.'
  ends : ∃ name, f.fileName? = some name ∧ HasExtension name (.ofText ext)

theorem visible_iff : (∀ name ∈ place, isVisible name = true) ↔
    ∀ text : String, .ofText text ∈ place → text.toList.head? ≠ some '.' := by
  simp only [isVisible_iff]
  constructor
  · exact fun visible text member => visible _ member text rfl
  · rintro visible name member text rfl
    exact visible text member

/-- What is found are the sources in directories that can be listed. -/
theorem mem_find_iff_sourceAt (whole : fs.tree.WellFormed) : f ∈ find fs opens root ext ↔
    ∃ place, SourceAt fs root ext place f ∧ isListed opens root place = true := by
  simp only [mem_find_iff whole, FileSystem.find_ok_iff, extension?_eq_some_iff, visible_iff]
  constructor
  · rintro ⟨tree, place, bytes, ⟨top, leads, there⟩, found, visible, listed, rfl, ends⟩
    refine ⟨place, ⟨⟨top, bytes, leads, ?_⟩, rfl, visible, ends⟩, listed⟩
    rw [look_eq_file, find?_append, there]
    exact found
  · rintro ⟨place, ⟨⟨top, bytes, leads, seen⟩, path, visible, ends⟩, listed⟩
    rw [look_eq_file, find?_append] at seen
    obtain ⟨tree, there, found⟩ := Option.bind_eq_some_iff.mp seen
    exact ⟨tree, place, bytes, ⟨top, leads, there⟩, found, visible, listed, path, ends⟩

/-- The sources come in strictly ascending order. -/
theorem pairwise_find (whole : fs.tree.WellFormed) (opens : Openness) (root : Path)
    (ext : String) : (find fs opens root ext).Pairwise fun a b => a.precedes b = true := by
  rw [find]
  cases there : fs.find root with
  | error e => exact .nil
  | ok tree =>
    obtain ⟨top, -, found⟩ := FileSystem.find_ok_iff.mp there
    have sound := (whole.find? found).1
    have full := FileSystem.full_of_find there
    have apart : (collect opens root ext tree).Pairwise fun a b => a.parts ≠ b.parts := by
      rw [collect, List.pairwise_filterMap]
      refine (sound.pairwise_nodes isVisible).imp_of_mem ?_
      rintro ⟨place, node⟩ ⟨other, beside⟩ inside among differ a first b second same
      have names := (sound.find? ((mem_nodes_iff sound).mp inside).1).2
      have others := (sound.find? ((mem_nodes_iff sound).mp among).1).2
      simp only [Option.ite_none_left_eq_some, Option.ite_none_right_eq_some,
        Option.some_inj] at first second
      obtain ⟨-, -, rfl⟩ := first
      obtain ⟨-, -, rfl⟩ := second
      exact differ (pathOf_inj full names others same)
    have still : ((collect opens root ext tree).mergeSort fun a b => !b.precedes a).Pairwise
        fun a b => a.parts ≠ b.parts :=
      ((List.mergeSort_perm _ _).pairwise_iff fun differ => differ.symm).mpr apart
    exact (still.and (pairwise_sorted _)).imp fun both => precedes_or both.1 both.2

/-- The order in which directories list their entries does not matter. -/
theorem find_congr (whole : fs.tree.WellFormed) (too : other.tree.WellFormed)
    (work : other.workPlace = fs.workPlace)
    (same : ∀ place, other.tree.look place = fs.tree.look place) (opens : Openness)
    (root : Path) (ext : String) : find other opens root ext = find fs opens root ext := by
  have single {fs : FileSystem} (whole : fs.tree.WellFormed) : (find fs opens root ext).Nodup := by
    refine (pairwise_find whole opens root ext).imp fun less => ?_
    rintro rfl
    exact precedes_asymm less less
  apply List.Perm.eq_of_pairwise (fun a b _ _ less more => absurd more (precedes_asymm less))
    (pairwise_find too opens root ext) (pairwise_find whole opens root ext)
  rw [List.perm_ext_iff_of_nodup (single too) (single whole)]
  intro f
  have alike (place : List FileName) :
      SourceAt other root ext place f ↔ SourceAt fs root ext place f := by
    constructor <;> rintro ⟨file, path, visible, ends⟩
    · exact ⟨by simpa [FileSystem.place_congr work same, same] using file, path, visible, ends⟩
    · exact ⟨by simpa [FileSystem.place_congr work same, same] using file, path, visible, ends⟩
  simp only [mem_find_iff_sourceAt whole, mem_find_iff_sourceAt too, alike]

/-- The sources are listed: those that lie in directories which can be listed, as all directories on
the way from the root have to be, each once, in the order of their paths. Neither the order in which
directories list their entries matters nor what else there is. What is not there has no sources. -/
theorem lists_sources_once_in_order {fs : FileSystem} (whole : fs.tree.WellFormed)
    (opens : Openness) (root : Path) (ext : String) :
    (∀ f, f ∈ find fs opens root ext ↔ ∃ place, SourceAt fs root ext place f ∧
      ∀ depth < place.length,
        (pathOf root (place.take depth)).bytes.length < FileSystem.pathLimit ∧
          opens (pathOf root (place.take depth)) = true) ∧
    (find fs opens root ext).Pairwise (fun a b => a.precedes b = true) ∧
    (∀ other : FileSystem, other.tree.WellFormed → other.workPlace = fs.workPlace →
      (∀ place, other.tree.look place = fs.tree.look place) →
        find other opens root ext = find fs opens root ext) ∧
    ((∀ tree, fs.find root ≠ .ok tree) → find fs opens root ext = []) := by
  refine ⟨?_, pairwise_find whole opens root ext, ?_, ?_⟩
  · intro f
    simp only [mem_find_iff_sourceAt whole, isListed_iff]
  · intro other too work same
    exact find_congr whole too work same opens root ext
  · intro missing
    rw [find]
    cases there : fs.find root with
    | error e => rfl
    | ok tree => exact absurd there (missing tree)

def nested : FileSystem :=
  ⟨.directory [(.ofText "notes.txt", .file []),
    (.ofText "core", .directory [(.ofText "list.coffee", .file [])])], []⟩

theorem wellFormed_one {name : FileName} (isName : IsName name) {child : FileTree}
    (whole : child.WellFormed) : (FileTree.directory [(name, child)]).WellFormed := by
  refine .directory (by simp) (by simpa using isName) ?_
  intro entry member
  rw [List.mem_singleton.mp member]
  exact whole

theorem wellFormed_nested : nested.tree.WellFormed := by
  refine .directory (by decide) (by decide) ?_
  intro entry member
  rcases List.mem_cons.mp member with rfl | member
  · exact .file []
  · rw [List.mem_singleton.mp member]
    exact wellFormed_one (by decide) (.file [])

/-- The source is listed where every directory may be. -/
theorem lists_nested_source : nested.tree.WellFormed ∧
    .ofText "./core/list.coffee" ∈ find nested (fun _ => true) (.ofText ".") "coffee" := by
  refine ⟨wellFormed_nested, ?_⟩
  obtain ⟨listed, -⟩ :=
    lists_sources_once_in_order wellFormed_nested (fun _ => true) (.ofText ".") "coffee"
  refine (listed _).mpr ⟨[.ofText "core", .ofText "list.coffee"], ⟨⟨[], [], rfl, rfl⟩, rfl, ?_, ?_⟩,
    by decide⟩
  · exact visible_iff.mp (by decide)
  · exact ⟨.ofText "list.coffee", rfl, .ofText "list", by decide, rfl, by decide⟩

section Exceptions

/-- The current directory, with slashes behind it that lead nowhere. -/
def slashes (n : Nat) : Path :=
  ⟨dot :: List.replicate n slash⟩

theorem length_slashes (n : Nat) : (slashes n).bytes.length = n + 1 := by
  simp [slashes]

theorem segments_slashes (n : Nat) : (slashes n).segments = [dot] :: List.replicate n [] := by
  have behind : (List.replicate n slash).splitOn slash = [] :: List.replicate n [] := by
    induction n with
    | zero => rfl
    | succ n ih => rw [List.replicate_succ, Text.splitOn_mark, ih, List.replicate_succ]
  rw [segments, slashes, Text.splitOn_plain (by decide), behind]
  rfl

theorem place_slashes {n : Nat} (short : n + 1 < FileSystem.pathLimit)
    (there : fs.tree.look fs.workPlace = some none) :
    fs.place (slashes n) = .ok fs.workPlace := by
  have sound : FileSystem.pathFault? (slashes n) = none := by
    rw [FileSystem.pathFault?_eq_none_iff]
    refine ⟨?_, List.cons_ne_nil _ _, ?_⟩
    · simp [slashes, dot, slash]
    · rwa [length_slashes]
  have start : fs.start (slashes n) = fs.workPlace := by
    simp [FileSystem.start, isAbsolute, slashes, dot, slash]
  rw [FileSystem.place, sound, start, segments_slashes]
  apply FileSystem.walk_stays there
  intro s member
  rcases List.mem_cons.mp member with rfl | blank
  · rfl
  · rw [List.eq_of_mem_replicate blank]
    rfl

theorem le_length_join {p : Path} (relative : p.isAbsolute = false) (base : Path) :
    base.bytes.length + p.bytes.length ≤ (base.join p).bytes.length := by
  rw [join_relative relative, List.length_append, opened]
  split
  · exact Nat.le_refl _
  · simp

/-- The names of the place of a source are names. -/
theorem SourceAt.names (source : SourceAt fs root ext place f) (whole : fs.tree.WellFormed) :
    ∀ name ∈ place, IsName name := by
  obtain ⟨top, bytes, -, seen⟩ := source.file
  have names := (whole.find? (look_eq_file.mp seen)).2
  exact fun name member => names name (List.mem_append_right _ member)

/-- A source in a directory with a name of a hundred letters. -/
def deepName : FileName := List.replicate 100 0x64

def deep : FileSystem :=
  ⟨.directory [(deepName, .directory [(.ofText "m.coffee", .file [])])], []⟩

theorem isName_deepName : IsName deepName :=
  isName_iff.mpr ⟨by simp [deepName, slash], by decide, by decide, by decide⟩

theorem wellFormed_deep : deep.tree.WellFormed :=
  wellFormed_one isName_deepName (wellFormed_one (by decide) (.file []))

theorem names_deep : ∀ name ∈ [deepName, .ofText "m.coffee"], IsName name := by
  simpa using ⟨isName_deepName, by decide⟩

theorem sourceAt_deep {n : Nat} (short : n + 1 < FileSystem.pathLimit) :
    SourceAt deep (slashes n) "coffee" [deepName, .ofText "m.coffee"]
      (pathOf (slashes n) [deepName, .ofText "m.coffee"]) := by
  have named : (pathOf (slashes n) ([deepName] ++ [.ofText "m.coffee"])).fileName? =
      some (.ofText "m.coffee") := fileName?_pathOf (List.cons_ne_nil _ _) names_deep
  refine ⟨⟨[], [], place_slashes short rfl, by decide⟩, rfl, visible_iff.mp (by decide +kernel), ?_⟩
  exact ⟨.ofText "m.coffee", named, .ofText "m", by decide, rfl, by decide⟩

/-- The source is not listed if its directory cannot be. -/
theorem not_mem_find_deep {n : Nat}
    (closed : canList opens ((slashes n).join ⟨deepName⟩) = false) :
    pathOf (slashes n) [deepName, .ofText "m.coffee"] ∉ find deep opens (slashes n) "coffee" := by
  rw [mem_find_iff_sourceAt wellFormed_deep]
  rintro ⟨place, source, listed⟩
  have same := pathOf_inj (List.cons_ne_nil _ _) (source.names wellFormed_deep) names_deep
    (congrArg Path.parts source.path.symm)
  subst same
  have inner := List.all_eq_true.mp listed 1 (by decide)
  exact absurd (inner.symm.trans closed) (by decide)

/-- A file whose name starts with a dot and is no text. -/
def oddName : FileName := dot :: 0xFF :: FileName.ofText ".coffee"

def odd : FileSystem :=
  ⟨.directory [(oddName, .file [])], []⟩

theorem wellFormed_odd : odd.tree.WellFormed :=
  wellFormed_one (by decide) (.file [])

theorem mem_find_odd :
    pathOf (.ofText ".") [oddName] ∈ find odd (fun _ => true) (.ofText ".") "coffee" := by
  rw [mem_find_iff_sourceAt wellFormed_odd]
  refine ⟨[oddName], ⟨⟨[], [], rfl, rfl⟩, rfl, visible_iff.mp (by decide), ?_⟩, by decide⟩
  exact ⟨oddName, by decide, [dot, 0xFF], by decide, rfl, by decide⟩

/-- A path that is too long hides a source, and so does a directory that may not be listed. A dot
before a name that is no text does not. -/
theorem listing_differs_from_sources :
    (∃ f, SourceAt deep (slashes 4000) "coffee" [deepName, .ofText "m.coffee"] f ∧
      f ∉ find deep (fun _ => true) (slashes 4000) "coffee") ∧
    (∃ f, SourceAt deep (slashes 0) "coffee" [deepName, .ofText "m.coffee"] f ∧
      f ∉ find deep (fun path => path = slashes 0) (slashes 0) "coffee") ∧
    oddName.head? = some dot ∧
      pathOf (.ofText ".") [oddName] ∈ find odd (fun _ => true) (.ofText ".") "coffee" := by
  refine ⟨⟨_, sourceAt_deep (by decide), not_mem_find_deep ?_⟩,
    ⟨_, sourceAt_deep (by decide), not_mem_find_deep ?_⟩, rfl, mem_find_odd⟩
  · have size := le_length_join (p := ⟨deepName⟩) isName_deepName.relative (slashes 4000)
    have letters : deepName.length = 100 := List.length_replicate
    rw [length_slashes, letters] at size
    rw [canList, Bool.and_true, decide_eq_false_iff_not]
    exact Nat.not_lt.mpr (Nat.le_trans (by decide) size)
  · simp [canList, join, slashes, deepName, isAbsolute, slash, dot]

end Exceptions

end Sources

end AmdBundler
