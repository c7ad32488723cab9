import AmdBundler.CommandLine.Bundle
import AmdBundler.Proofs.PathSubstitution
import AmdBundler.Proofs.SourceListing

namespace AmdBundler

namespace Sources
open AmdBundler.Path

theorem forall_mem_concat {α : Type} {p : α → Prop} {front : List α} {last : α} :
    (∀ x ∈ front ++ [last], p x) ↔ (∀ x ∈ front, p x) ∧ p last := by
  rw [List.forall_mem_append, List.forall_mem_singleton]

/-- What follows the root in a path are names that are texts. -/
def TextBelow (root path : Path) : Prop :=
  ∃ texts : List String, below? root path = some (texts.map fun text => .named (.ofText text))

section Names

variable {opens : Openness} {root f : Path} {folder place : List FileName} {stem : FileName}
  {ext n : String}

theorem textBelow_pathOf (full : root.bytes ≠ []) (names : ∀ name ∈ place, IsName name) :
    TextBelow root (pathOf root place) ↔ ∃ texts : List String, place = texts.map .ofText := by
  have named (texts : List String) :
      some (place.map .named) = some (texts.map fun text => Part.named (.ofText text)) ↔
        place = texts.map .ofText := by
    rw [Option.some_inj, ← Function.comp_def, ← List.map_map]
    exact (List.map_injective_iff.mpr fun _ _ same => Part.named.inj same).eq_iff
  rw [TextBelow, below?_pathOf full names]
  exact exists_congr named

/-- Names stay as they are when they are shown exactly if they are texts. -/
theorem eq_shown_iff : place = (place.map FileName.text).map .ofText ↔
    ∃ texts : List String, place = texts.map .ofText := by
  constructor
  · exact fun same => ⟨_, same⟩
  · rintro ⟨texts, rfl⟩
    simp [text_ofText, Function.comp_def]

theorem slash_not_mem_text {name : FileName} (plain : slash ∉ name) :
    '/' ∉ (FileName.text name).toList := by
  rw [FileName.text, String.toList_ofList]
  exact Utf8.mark_not_mem marks_slash plain

theorem text_append (stem : FileName) (ext : String) :
    FileName.text (stem ++ dot :: FileName.ofText ext) = FileName.text stem ++ "." ++ ext := by
  rw [FileName.text, Utf8.decodeLossy_mark marks_dot, FileName.ofText, Utf8.decodeLossy_encode,
    ← String.toList_inj]
  simp [FileName.text]

/-- What is put behind the last of several texts is put behind all of them. -/
theorem intercalate_concat_append (folder : List String) (front back : String) :
    "/".intercalate (folder ++ [front ++ back]) = "/".intercalate (folder ++ [front]) ++ back := by
  by_cases none_ : folder = []
  · rw [none_, List.nil_append, List.nil_append, String.intercalate_singleton,
      String.intercalate_singleton]
  · rw [String.intercalate_append_of_ne_nil none_ (by simp),
      String.intercalate_append_of_ne_nil none_ (by simp), String.intercalate_singleton,
      String.intercalate_singleton]
    simp only [String.append_assoc]

theorem splitOn_intercalate {texts : List String} (some_ : texts ≠ [])
    (plain : ∀ text ∈ texts, '/' ∉ text.toList) :
    ("/".intercalate texts).toList.splitOn '/' = texts.map String.toList := by
  rw [String.toList_intercalate]
  refine List.splitOn_intercalate '/' ?_ (by simpa using some_)
  intro segment member
  obtain ⟨text, inside, rfl⟩ := List.mem_map.mp member
  exact plain text inside

/-- A source with the name `n`. The name and the extension, put behind the directory, give the path
back exactly if the path is a text there. -/
structure Named (root : Path) (ext n : String) (f : Path) : Prop where
  name : moduleName? root f = some n
  path : root.join (.ofText (n ++ "." ++ ext)) = f ↔ TextBelow root f
  ends : (n.toList.splitOn '/').getLast? ≠ some []

/-- Names that are shown lead to the same path exactly if they are shown as they are. -/
theorem join_shown_iff (names : ∀ name ∈ place, IsName name) (some_ : place ≠ []) :
    root.join ⟨[slash].intercalate ((place.map FileName.text).map FileName.ofText)⟩ =
        root.join ⟨[slash].intercalate place⟩ ↔
      place = (place.map FileName.text).map .ofText := by
  have plain : ∀ name ∈ (place.map FileName.text).map FileName.ofText, slash ∉ name := by
    simp only [List.forall_mem_map]
    intro name member
    rw [FileName.ofText, Utf8.mem_encode_iff marks_slash]
    exact slash_not_mem_text (names name member).plain
  have full : ∀ name ∈ (place.map FileName.text).map FileName.ofText, name ≠ [] := by
    simp only [List.forall_mem_map, ne_eq, ofText_eq_nil_iff, text_eq_empty_iff]
    exact fun name member => (names name member).full
  rw [join_inj (isAbsolute_intercalate plain full)
    (isAbsolute_intercalate (fun name member => (names name member).plain)
      fun name member => (names name member).full), Path.mk.injEq]
  constructor
  · intro same
    have cut := congrArg (List.splitOn slash) same
    rw [List.splitOn_intercalate slash plain (by simpa using some_),
      List.splitOn_intercalate slash (fun name member => (names name member).plain) some_] at cut
    exact cut.symm
  · intro same
    rw [← same]

theorem named_pathOf (full : root.bytes ≠ [])
    (names : ∀ name ∈ folder ++ [stem ++ dot :: FileName.ofText ext], IsName name)
    (some_ : stem ≠ []) (proper : stem ≠ [dot]) (plain : '.' ∉ ext.toList) :
    Named root ext ("/".intercalate ((folder ++ [stem]).map FileName.text))
      (pathOf root (folder ++ [stem ++ dot :: FileName.ofText ext])) := by
  have bare : dot ∉ FileName.ofText ext := mt (Utf8.mem_encode_iff marks_dot).mp plain
  have shown : "/".intercalate ((folder ++ [stem]).map FileName.text) ++ "." ++ ext =
      "/".intercalate ((folder ++ [stem ++ dot :: FileName.ofText ext]).map FileName.text) := by
    rw [List.map_append, List.map_append, List.map_singleton, List.map_singleton, text_append,
      intercalate_concat_append, intercalate_concat_append]
  refine ⟨?_, ?_, ?_⟩
  · rw [moduleName?_pathOf full names, stemOf_append some_ proper bare]
  · rw [shown, textBelow_pathOf full names, ← eq_shown_iff, pathOf_eq_join names (by simp),
      Path.ofText, ofText_intercalate]
    exact join_shown_iff names (by simp)
  · rw [splitOn_intercalate (by simp)]
    · simpa [FileName.text, Utf8.decodeLossy_eq_nil_iff] using some_
    · intro text member
      obtain ⟨name, inside, rfl⟩ := List.mem_map.mp member
      apply slash_not_mem_text
      rcases List.mem_append.mp inside with within | last
      · exact (names name (List.mem_append_left _ within)).plain
      · have file := (forall_mem_concat.mp names).2.plain
        rw [List.mem_singleton.mp last]
        exact fun member => file (List.mem_append_left _ member)

/-- Every source that is found has a name, except a file that is itself the root of the search. Its
extension has no dots and no slashes. -/
theorem exists_name {fs : FileSystem} (whole : fs.tree.WellFormed)
    (found : f ∈ find fs opens root ext) (apart : f ≠ root) :
    '.' ∉ ext.toList ∧ '/' ∉ ext.toList ∧ ∃ n, Named root ext n f := by
  obtain ⟨tree, place, bytes, top, seen, shown, -, rfl, ends⟩ := (mem_find_iff whole).mp found
  have full := FileSystem.full_of_find top
  obtain ⟨start, -, under⟩ := FileSystem.find_ok_iff.mp top
  have names := ((whole.find? under).1.find? seen).2
  rcases List.eq_nil_or_concat' place with rfl | ⟨folder, name, rfl⟩
  · exact absurd rfl apart
  · obtain ⟨name, named, stem, some_, rfl, bare⟩ := extension?_eq_some_iff.mp ends
    cases (fileName?_pathOf full names).symm.trans named
    obtain ⟨inner, file⟩ := forall_mem_concat.mp names
    have visible := (forall_mem_concat.mp shown).2
    rw [isVisible_append some_] at visible
    have proper : stem ≠ [dot] := by
      rintro rfl
      exact absurd visible (by decide)
    have plain : '.' ∉ ext.toList := mt (Utf8.mem_encode_iff marks_dot).mpr bare
    have slash : '/' ∉ ext.toList := fun member => file.plain
      (by simp [FileName.ofText, (Utf8.mem_encode_iff marks_slash).mpr member])
    exact ⟨plain, slash, _, named_pathOf full names some_ proper plain⟩

theorem exists_place (visible : ∀ s ∈ n.toList.splitOn '/', s ≠ [] ∧ s.head? ≠ some '.') :
    ∃ (folder : List String) (stem : String), n = "/".intercalate (folder ++ [stem]) ∧
      ∀ text ∈ folder ++ [stem], '/' ∉ text.toList ∧ text ≠ "" ∧ text.toList.head? ≠ some '.' := by
  obtain ⟨folder, stem, cut⟩ := List.eq_nil_or_concat' ((n.toList.splitOn '/').map String.ofList)
    |>.resolve_left (by simp)
  refine ⟨folder, stem, ?_, ?_⟩
  · rw [← cut, ← String.toList_inj, String.toList_intercalate, List.map_map]
    have same : String.toList ∘ String.ofList = id := by
      funext text
      exact String.toList_ofList
    rw [same, List.map_id]
    exact (List.intercalate_splitOn '/').symm
  · intro text member
    rw [← cut] at member
    obtain ⟨segment, inside, rfl⟩ := List.mem_map.mp member
    obtain ⟨some_, head⟩ := visible segment inside
    have plain := Text.not_mem_of_mem_splitOn inside
    simpa using ⟨plain, some_, head⟩

theorem pathOf_append (root : Path) (front back : List FileName) :
    pathOf root (front ++ back) = pathOf (pathOf root front) back :=
  List.foldl_append

/-- What leads to a place behind a path leads there from what the path leads to. -/
theorem find_pathOf {fs : FileSystem} {node : FileTree} (full : root.bytes ≠ [])
    (names : ∀ name ∈ place, IsName name) (found : fs.find (pathOf root place) = .ok node) :
    ∃ tree, fs.find root = .ok tree ∧ tree.find? place = some node := by
  induction place generalizing root with
  | nil => exact ⟨node, found, FileTree.find?_nil node⟩
  | cons name place ih =>
    rw [List.forall_mem_cons] at names
    obtain ⟨child, here, below⟩ := ih (names.1.join_full root) names.2 found
    obtain ⟨tree, top, entry⟩ := FileSystem.find_join_name full names.1 here
    refine ⟨tree, top, ?_⟩
    rw [← List.singleton_append, FileTree.find?_append, entry]
    exact below

theorem short_of_find_pathOf {fs : FileSystem} {node : FileTree} (full : root.bytes ≠ [])
    (names : ∀ name ∈ place, IsName name) (found : fs.find (pathOf root place) = .ok node)
    (depth : Nat) : (pathOf root (place.take depth)).bytes.length < FileSystem.pathLimit := by
  rw [← List.take_append_drop depth place, pathOf_append] at found
  have above : (pathOf root (place.take depth)).bytes ≠ [] :=
    pathOf_full full fun name member => names name (List.mem_of_mem_take member)
  obtain ⟨tree, passed, -⟩ := find_pathOf above
    (fun name member => names name (List.mem_of_mem_drop member)) found
  exact FileSystem.short_of_find passed

theorem isVisible_ofText {text : String} :
    isVisible (.ofText text) = true ↔ text.toList.head? ≠ some '.' := by
  rw [isVisible_iff]
  constructor
  · exact fun visible => visible text rfl
  · intro visible other same
    rwa [← text_ofText other, ← same, text_ofText]

theorem isName_ofText {text : String} (plain : '/' ∉ text.toList) (full : text ≠ "")
    (visible : text.toList.head? ≠ some '.') : IsName (.ofText text) :=
  isName_of_visible (mt (Utf8.mem_encode_iff marks_slash).mp plain) (mt ofText_eq_nil_iff.mp full)
    (isVisible_ofText.mpr visible)

/-- The place that a name stands for: its segments, the last one with the extension. -/
theorem exists_named_place (full : root.bytes ≠ [])
    (visible : ∀ s ∈ n.toList.splitOn '/', s ≠ [] ∧ s.head? ≠ some '.')
    (plain : '.' ∉ ext.toList) (slash : '/' ∉ ext.toList) :
    ∃ place, Named root ext n (pathOf root place) ∧ TextBelow root (pathOf root place) ∧
      (∀ name ∈ place, IsName name ∧ isVisible name = true) ∧
      (pathOf root place).extension? = some (.ofText ext) ∧
      ∀ depth < place.length, depth < (n.toList.splitOn '/').length ∧
        place.take depth = ((n.toList.splitOn '/').take depth).map Utf8.encode := by
  obtain ⟨folder, stem, rfl, parts⟩ := exists_place visible
  obtain ⟨inner, stemPlain, some_, shown⟩ := forall_mem_concat.mp parts
  have file : FileName.ofText (stem ++ "." ++ ext) =
      FileName.ofText stem ++ dot :: FileName.ofText ext := by
    rw [ofText_append, ofText_append, List.append_assoc]
    rfl
  have stemFull := mt ofText_eq_nil_iff.mp some_
  have stemShown := isVisible_ofText.mpr shown
  have fileShown := (isVisible_append stemFull ext).trans stemShown
  have isFile : IsName (FileName.ofText stem ++ dot :: FileName.ofText ext) := by
    refine isName_of_visible ?_ (by simp) fileShown
    rw [← file, FileName.ofText, Utf8.mem_encode_iff marks_slash]
    simp [stemPlain, slash]
  have both : ∀ name ∈ folder.map FileName.ofText ++
      [FileName.ofText stem ++ dot :: FileName.ofText ext],
      IsName name ∧ isVisible name = true := by
    refine forall_mem_concat.mpr ⟨List.forall_mem_map.mpr fun text member => ?_, isFile, fileShown⟩
    obtain ⟨textPlain, textFull, textShown⟩ := inner text member
    exact ⟨isName_ofText textPlain textFull textShown, isVisible_ofText.mpr textShown⟩
  have names := fun name member => (both name member).1
  have proper : FileName.ofText stem ≠ [dot] := by
    intro same
    rw [same] at stemShown
    exact absurd stemShown (by decide)
  have shownAs : (folder.map FileName.ofText ++ [FileName.ofText stem]).map FileName.text =
      folder ++ [stem] := by
    simp [text_ofText, Function.comp_def]
  have named := named_pathOf full names stemFull proper plain
  rw [shownAs] at named
  refine ⟨_, named, ?_, both, ?_, ?_⟩
  · exact (textBelow_pathOf full names).mpr ⟨folder ++ [stem ++ "." ++ ext], by simp [file]⟩
  · exact extension?_eq_some_iff.mpr ⟨_, fileName?_pathOf full names, _, stemFull, rfl,
      mt (Utf8.mem_encode_iff marks_dot).mp plain⟩
  · intro depth above
    simp only [List.length_append, List.length_map, List.length_singleton] at above
    rw [splitOn_intercalate (by simp) fun text member => (parts text member).1]
    refine ⟨by simpa using above, ?_⟩
    rw [List.take_append_of_le_length (by simpa using Nat.le_of_lt_succ above), ← List.map_take,
      ← List.map_take, List.map_map, List.take_append_of_le_length (by omega)]
    rfl

/-- A file is found by its name, if no part of it is hidden and the directories on the way can be
listed. -/
theorem exists_source {fs : FileSystem} (whole : fs.tree.WellFormed) (full : root.bytes ≠ [])
    (visible : ∀ s ∈ n.toList.splitOn '/', s ≠ [] ∧ s.head? ≠ some '.')
    (plain : '.' ∉ ext.toList) (slash : '/' ∉ ext.toList)
    (open_ : ∀ depth < (n.toList.splitOn '/').length,
      opens (pathOf root (((n.toList.splitOn '/').take depth).map Utf8.encode)) = true)
    {bytes : List UInt8}
    (there : fs.find (root.join (.ofText (n ++ "." ++ ext))) = .ok (.file bytes)) :
    ∃ f ∈ find fs opens root ext, moduleName? root f = some n := by
  obtain ⟨place, named, text, both, ends, above⟩ := exists_named_place full visible plain slash
  have names := fun name member => (both name member).1
  rw [named.path.mpr text] at there
  obtain ⟨tree, top, seen⟩ := find_pathOf full names there
  have listed : isListed opens root place = true := by
    refine isListed_iff.mpr fun depth within => ⟨short_of_find_pathOf full names there depth, ?_⟩
    obtain ⟨short, same⟩ := above depth within
    rw [same]
    exact open_ depth short
  exact ⟨_, (mem_find_iff whole).mpr ⟨tree, place, bytes, top, seen,
    fun name member => (both name member).2, listed, rfl, ends⟩, named.name⟩

end Names

end Sources

namespace CommandLine

variable {world : World} {directory : Path} {p : ProjectConfig} {n : String}

/-- What the pipeline of a project resolves a name to. -/
def Pipeline.resolved (p : Pipeline) (name : String) : Except TransformError String :=
  (p.transformer.resolve p.services name p.registry).1

open Transformer in
theorem resolved_ofTransformer (world : World) (directory : Path) (p : ProjectConfig)
    (fetcher : Fetcher) (base64 : Bool) (name : String) :
    (Pipeline.ofTransformer world directory p (.ofFetcher fetcher base64 p)).resolved name =
      .ok (String.ofList (p.pathTable.urlOf (name ++ "." ++ bareExt p.sourceExt).toList)) := by
  have text : (name ++ "." ++ bareExt p.sourceExt).toList =
      name.toList ++ '.' :: (bareExt p.sourceExt).toList := by
    simp
  rw [Pipeline.resolved, Pipeline.ofTransformer, Pipeline.servicesOf, resolve_registry, text]
  rfl

/-- A URL below the base URL is looked for below the directory that the base URL stands for. -/
theorem join_based {url : String} (relative : PathTable.isAbsolute url.toList = false) :
    directory.join (.ofText (String.ofList (p.pathTable.based url.toList))) =
      (directory.join (.ofText p.baseUrl)).join (.ofText url) := by
  have rootless : (Path.ofText url).isAbsolute = false := by
    have first := (Bool.or_eq_false_iff.mp relative).1
    rw [beq_eq_false_iff_ne] at first
    exact beq_eq_false_iff_ne.mpr (mt (Utf8.head?_encode Path.marks_slash _).mp first)
  have text : FileName.ofText (String.ofList (p.pathTable.based url.toList)) =
      Path.opened (FileName.ofText p.baseUrl) ++ FileName.ofText url := by
    rw [PathTable.based, if_neg (by simp [relative]), ← Path.baseUrl_ofBase, ← Path.ofText_append]
    simp [ProjectConfig.pathTable, PathTable.withTargets]
  rw [Path.ofText, text]
  exact (Path.join_join directory _ rootless).symm

theorem bareExt_of_plain {ext : String} (dot : '.' ∉ ext.toList) :
    Transformer.bareExt ext = ext := by
  rw [Transformer.bareExt]
  cases text : ext.toList with
  | nil =>
    rw [← String.toList_inj, text]
    rfl
  | cons c rest =>
    rw [text, List.mem_cons, not_or] at dot
    rw [List.dropWhile_cons_of_neg (by simpa using Ne.symm dot.1), ← text, String.ofList_toList]

def worldOf (entries : List (FileName × FileTree)) : World where
  files := ⟨.directory entries, []⟩
  opens := fun _ => true
  network := .silent
  clientFault? := none
  schedulerFault? := none
  runner := Runner.bare ⟨.directory [], []⟩
  process := 7
  elapsed := 0

def projectOf (baseUrl sourceExt : String) : ProjectConfig :=
  { ProjectConfig.standard with
    baseUrl
    sourceExt
    host := .filesystem
    compiler := .identity }

/-- A source with dots in its name, and one in a directory with a dot. -/
def dotted : World :=
  worldOf [(.ofText "src", .directory [(.ofText "a.b.coffee", .file []),
    (.ofText "lib.d", .directory [(.ofText "m.coffee", .file [])])])]

def single : World :=
  worldOf [(.ofText "m.coffee", .file [])]

theorem wellFormed_single : single.files.tree.WellFormed := by
  refine .directory (by decide) (by decide) ?_
  intro entry member
  rw [List.mem_singleton.mp member]
  exact .file []

theorem mem_addNames {names found : List String} :
    n ∈ addNames names found ↔ n ∈ names ∨ n ∈ found := by
  induction found generalizing names with
  | nil => simp [addNames]
  | cons name found ih =>
    rw [addNames, List.foldl_cons]
    change n ∈ addNames _ found ↔ _
    rw [ih]
    split
    · rename_i known
      rw [List.mem_cons]
      constructor
      · exact fun either => either.imp_right .inr
      · rintro (old | rfl | new)
        · exact .inl old
        · exact .inl (List.contains_iff_mem.mp known)
        · exact .inr new
    · simp [or_assoc]

/-- All modules that are asked for are the given ones and those that are discovered. -/
theorem mem_moduleNames (local_ : hasScheme p.baseUrl = false) {names : List String} :
    (∃ list, moduleNames world directory p names true = .ok list ∧ n ∈ list) ↔
      n ∈ names ∨ n ∈ discover world directory p := by
  have unfolded : moduleNames world directory p names true =
      if (addNames names (discover world directory p)).isEmpty then
        .error "no modules to bundle (name some, or pass --all)"
      else .ok (addNames names (discover world directory p)) := by
    rw [moduleNames, if_neg (by simp [local_])]
    rfl
  rw [unfolded, ← mem_addNames]
  constructor
  · rintro ⟨list, accepted, member⟩
    split at accepted
    · cases accepted
    · cases accepted
      exact member
  · intro member
    have some_ : (addNames names (discover world directory p)).isEmpty = false := by
      rw [List.isEmpty_eq_false_iff]
      exact List.ne_nil_of_mem member
    exact ⟨_, if_neg (by simp [some_]), member⟩

/-- Nothing is discovered for an extension with dots or slashes. -/
theorem plain_of_mem_discover (whole : world.files.tree.WellFormed)
    (member : n ∈ discover world directory p) :
    '.' ∉ p.sourceExt.toList ∧ '/' ∉ p.sourceExt.toList := by
  obtain ⟨f, found, named⟩ := List.mem_filterMap.mp member
  have apart : f ≠ directory.join (.ofText p.baseUrl) := by
    rintro rfl
    rw [Sources.moduleName?_self] at named
    cases named
  obtain ⟨dot, slash, -⟩ := Sources.exists_name whole found apart
  exact ⟨dot, slash⟩

open Transformer in
/-- A file at a name and the extension below the base directory, no part of the name being hidden,
is what the loader reads for that name if no target stands in its way. If the directories on the way
may be listed, it is listed with all others if and only if the extension, as the project gives it,
has no dots and no slashes, or the module is asked for by its name. There are no links here, and a
file that is there may be read. -/
theorem lists_source_iff (whole : world.files.tree.WellFormed) (set : directory.bytes ≠ [])
    (local_ : hasScheme p.baseUrl = false)
    (visible : ∀ s ∈ n.toList.splitOn '/', s ≠ [] ∧ s.head? ≠ some '.') {bytes : List UInt8}
    (there : world.files.find ((directory.join (.ofText p.baseUrl)).join
      (.ofText (n ++ "." ++ bareExt p.sourceExt))) = .ok (.file bytes)) (names : List String) :
    (p.paths = .empty →
      PathTable.isAbsolute (n ++ "." ++ bareExt p.sourceExt).toList = false →
      ∀ fetcher base64, ∃ url,
        (Pipeline.ofTransformer world directory p (.ofFetcher fetcher base64 p)).resolved n = .ok url ∧
        ∀ strategy, world.files.read ((Fetcher.mk strategy (some directory)).locate url) =
          .ok bytes) ∧
    ((∀ depth < (n.toList.splitOn '/').length, world.opens (Sources.pathOf
        (directory.join (.ofText p.baseUrl))
        (((n.toList.splitOn '/').take depth).map Utf8.encode)) = true) →
      ((∃ list, moduleNames world directory p names true = .ok list ∧ n ∈ list) ↔
        n ∈ names ∨ '.' ∉ p.sourceExt.toList ∧ '/' ∉ p.sourceExt.toList)) := by
  constructor
  · intro targets relative fetcher base64
    refine ⟨_, resolved_ofTransformer world directory p fetcher base64 n, ?_⟩
    intro strategy
    rw [PathTable.urlOf_of_no_targets targets]
    change world.files.read (directory.join _) = _
    rw [join_based relative, FileSystem.read, there]
  · intro open_
    rw [mem_moduleNames local_]
    constructor
    · exact fun either => either.imp_right (plain_of_mem_discover whole)
    · rintro (given | ⟨plain, slash⟩)
      · exact .inl given
      · rw [bareExt_of_plain plain] at there
        obtain ⟨f, found, named⟩ := Sources.exists_source whole (Path.join_full set _) visible plain
          slash open_ there
        exact .inr (List.mem_filterMap.mpr ⟨f, found, named⟩)

/-- One source beside nothing else is listed for its extension. -/
theorem lists_only_source :
    (∀ fetcher base64, ∃ url, (Pipeline.ofTransformer single (.ofText "/")
        (projectOf "./" "coffee") (.ofFetcher fetcher base64 (projectOf "./" "coffee"))).resolved "m" =
          .ok url ∧
      ∀ strategy, single.files.read ((Fetcher.mk strategy (some (.ofText "/"))).locate url) =
        .ok []) ∧
    ∃ list, moduleNames single (.ofText "/") (projectOf "./" "coffee") [] true = .ok list ∧
      "m" ∈ list := by
  have local_ : hasScheme (projectOf "./" "coffee").baseUrl = false := by decide +kernel
  have visible : ∀ s ∈ "m".toList.splitOn '/', s ≠ [] ∧ s.head? ≠ some '.' := by decide
  have there : single.files.find (((Path.ofText "/").join
      (.ofText (projectOf "./" "coffee").baseUrl)).join
      (.ofText ("m" ++ "." ++ Transformer.bareExt (projectOf "./" "coffee").sourceExt))) =
      .ok (.file []) := rfl
  obtain ⟨loads, listed⟩ :=
    lists_source_iff wellFormed_single (by decide) local_ visible there []
  exact ⟨loads rfl (by decide), (listed fun _ _ => rfl).mpr (.inr ⟨by decide, by decide⟩)⟩

/-- The loader takes the dot before an extension away, and the search does not: the one source of
the project can be fetched, and is not listed. -/
theorem dot_before_extension_hides_source :
    ¬∀ (world : World) (directory : Path) (p : ProjectConfig) (line : Pipeline) (n : String),
      world.files.tree.WellFormed → (∀ path, world.opens path = true) → directory.bytes ≠ [] →
      p.paths = .empty → hasScheme p.baseUrl = false →
      (∀ s ∈ n.toList.splitOn '/', s ≠ [] ∧ s.head? ≠ some '.') → ':' ∉ n.toList →
      (∃ bytes, world.files.find ((directory.join (.ofText p.baseUrl)).join
        (.ofText (n ++ "." ++ Transformer.bareExt p.sourceExt))) = .ok (.file bytes)) →
      Pipeline.ofProject world directory p = .ok line →
      (∃ record, (line.transformer.fetchSource line.services n line.registry).1 = .ok record) →
      ∃ list, moduleNames world directory p [] true = .ok list ∧ n ∈ list := by
  intro claim
  have listed := claim single (.ofText "/") (projectOf "./" ".coffee") _ "m" wellFormed_single
    (fun _ => rfl) (by decide) rfl (by decide +kernel) (by decide) (by decide) ⟨_, rfl⟩ rfl ⟨_, rfl⟩
  rw [mem_moduleNames (by decide +kernel)] at listed
  rcases listed with given | discovered
  · cases given
  · exact (plain_of_mem_discover wellFormed_single discovered).1 (by decide)

end CommandLine

end AmdBundler
