import AmdBundler.Files.Replacement
import AmdBundler.Files.Tree.Lemmas
import Mathlib

namespace AmdBundler

namespace FileTree

/-- What is seen at a place: a file's bytes, a directory without any, or nothing. -/
def look (tree : FileTree) (place : List FileName) : Option (Option (List UInt8)) :=
  (tree.find? place).map bytes?

theorem look_eq_directory {tree : FileTree} {place : List FileName} :
    tree.look place = some none ↔ ∃ entries, tree.find? place = some (.directory entries) := by
  rw [look, Option.map_eq_some_iff]
  constructor
  · rintro ⟨found, at_, seen⟩
    cases found with
    | file bytes => cases seen
    | directory entries => exact ⟨entries, at_⟩
  · rintro ⟨entries, found⟩
    exact ⟨_, found, rfl⟩

theorem look_eq_none {tree : FileTree} {place : List FileName} :
    tree.look place = none ↔ tree.find? place = none := by
  rw [look, Option.map_eq_none_iff]

theorem look_eq_file {tree : FileTree} {place : List FileName} {bytes : List UInt8} :
    tree.look place = some (some bytes) ↔ tree.find? place = some (.file bytes) := by
  rw [look, Option.map_eq_some_iff]
  constructor
  · rintro ⟨found, at_, seen⟩
    cases found with
    | file content =>
      cases seen
      exact at_
    | directory entries => cases seen
  · intro found
    exact ⟨_, found, rfl⟩

theorem find?_append (tree : FileTree) (front back : List FileName) :
    tree.find? (front ++ back) = (tree.find? front).bind (·.find? back) := by
  induction front generalizing tree with
  | nil => simp
  | cons name front ih =>
    cases tree with
    | file bytes => rfl
    | directory entries =>
      rw [List.cons_append, find?_cons, find?_cons]
      cases entries.lookup name with
      | none => rfl
      | some child => exact ih child

theorem find?_below_file (bytes : List UInt8) : ∀ rest ≠ [], (file bytes).find? rest = none := by
  intro rest deeper
  cases rest with
  | nil => exact absurd rfl deeper
  | cons name rest => rfl

theorem find?_below_empty : ∀ rest ≠ [], (directory []).find? rest = none := by
  intro rest deeper
  cases rest with
  | nil => exact absurd rfl deeper
  | cons name rest => rfl

theorem look_below {tree : FileTree} {place rest : List FileName}
    (bare : tree.look place ≠ some none) (below : rest ≠ []) :
    tree.look (place ++ rest) = none := by
  rw [look_eq_none, find?_append]
  cases found : tree.find? place with
  | none => rfl
  | some there =>
    cases there with
    | directory entries => exact absurd (look_eq_directory.mpr ⟨entries, found⟩) bare
    | file bytes => exact find?_below_file bytes rest below

theorem look_above {tree : FileTree} {place rest : List FileName}
    (seen : tree.look (place ++ rest) ≠ none) (below : rest ≠ []) :
    tree.look place = some none := by
  by_contra bare
  exact seen (look_below bare below)

theorem isDirectory_iff_look {tree : FileTree} {place : List FileName} :
    (tree.find? place).any isDirectory = true ↔ tree.look place = some none := by
  rw [look_eq_directory]
  cases tree.find? place with
  | none => simp
  | some found => cases found <;> simp [isDirectory]

section Changes

variable {tree : FileTree} {folder : List FileName} {name : FileName}

/-- A change at a place in a directory, with nothing below it before and after, is seen there
only. -/
theorem look_elsewhere {changed : FileTree} (opened : tree.look folder = some none)
    (bare : tree.look (folder ++ [name]) ≠ some none)
    (hollow : ∀ rest ≠ [], changed.look (folder ++ [name] ++ rest) = none)
    (above : ∀ place, place <+: folder ++ [name] → place ≠ folder ++ [name] →
      tree.look place = some none → changed.look place = some none)
    (apart : ∀ place, ¬folder ++ [name] <+: place → ¬place <+: folder ++ [name] →
      changed.find? place = tree.find? place)
    {place : List FileName} (elsewhere : place ≠ folder ++ [name]) :
    changed.look place = tree.look place := by
  by_cases below : folder ++ [name] <+: place
  · obtain ⟨rest, rfl⟩ := below
    have deeper : rest ≠ [] := by
      rintro rfl
      exact elsewhere (List.append_nil _)
    rw [look_below bare deeper, hollow rest deeper]
  · by_cases onWay : place <+: folder ++ [name]
    · have within : place <+: folder := by
        rcases List.prefix_concat_iff.mp onWay with same | within
        · exact absurd same elsewhere
        · exact within
      obtain ⟨rest, rfl⟩ := within
      have before : tree.look place = some none := by
        by_cases last : rest = []
        · rw [last, List.append_nil] at opened
          exact opened
        · exact look_above (by simp [opened]) last
      rw [before, above place onWay elsewhere before]
    · rw [look, look, apart place below onWay]

/-- Putting an empty directory or a file where none is in the way changes one place. -/
theorem look_put (opened : tree.look folder = some none)
    (bare : tree.look (folder ++ [name]) ≠ some none) {new : FileTree}
    (hollow : ∀ rest ≠ [], new.find? rest = none) (place : List FileName) :
    (tree.put (folder ++ [name]) new).look place =
      if place = folder ++ [name] then some new.bytes? else tree.look place := by
  obtain ⟨entries, found⟩ := look_eq_directory.mp opened
  have self : (tree.put (folder ++ [name]) new).find? (folder ++ [name]) = some new :=
    find?_put_self found
  by_cases here : place = folder ++ [name]
  · rw [if_pos here, here, look, self]
    rfl
  · rw [if_neg here]
    refine look_elsewhere opened bare ?_ ?_ (fun _ => find?_put_of_apart) here
    · intro rest deeper
      rw [look_eq_none, find?_append, self]
      exact hollow rest deeper
    · intro other onWay proper before
      rw [← isDirectory_iff_look] at before ⊢
      exact isDirectory_find?_put onWay proper before

theorem isDirectory_find?_erase {place other : List FileName} (above : other <+: place)
    (proper : other ≠ place) (there : (tree.find? other).any isDirectory = true) :
    ((tree.erase place).find? other).any isDirectory = true := by
  induction other generalizing tree place with
  | nil =>
    cases place with
    | nil => exact absurd rfl proper
    | cons name place =>
      cases tree with
      | file bytes => exact absurd there (by simp [isDirectory])
      | directory entries => cases place <;> simp [erase_one, erase_cons, isDirectory]
  | cons key rest ih =>
    cases place with
    | nil => exact absurd above (by simp)
    | cons name place =>
      obtain ⟨same, within⟩ := List.cons_prefix_cons.mp above
      subst same
      cases tree with
      | file bytes => exact absurd there (by simp)
      | directory entries =>
        cases place with
        | nil => exact absurd (by simpa using within) fun last : rest = [] => proper (by rw [last])
        | cons next place =>
          rw [find?_cons] at there
          rw [find?_erase_cons, if_pos rfl]
          cases found : entries.lookup key with
          | none => simp [found] at there
          | some child =>
            rw [found] at there
            exact ih within (fun same => proper (same ▸ rfl)) there

/-- Erasing a file changes one place. -/
theorem look_erase {bytes : List UInt8} (opened : tree.look folder = some none)
    (file : tree.look (folder ++ [name]) = some (some bytes)) (place : List FileName) :
    (tree.erase (folder ++ [name])).look place =
      if place = folder ++ [name] then none else tree.look place := by
  have gone : (tree.erase (folder ++ [name])).find? (folder ++ [name]) = none :=
    find?_erase_self tree (List.append_ne_nil_of_right_ne_nil _ (List.cons_ne_nil _ _))
  by_cases here : place = folder ++ [name]
  · rw [if_pos here, here, look_eq_none, gone]
  · rw [if_neg here]
    refine look_elsewhere opened (by simp [file]) ?_ ?_ (fun _ => find?_erase_of_apart) here
    · intro rest _
      rw [look_eq_none, find?_append, gone]
      rfl
    · intro other onWay proper before
      rw [← isDirectory_iff_look] at before ⊢
      exact isDirectory_find?_erase onWay proper before

end Changes

end FileTree

namespace FileSystem
open FileTree

/-- No directory of `before` is gone in `after`, and relative paths start where they did. -/
structure Keeps (before after : FileSystem) : Prop where
  workPlace : after.workPlace = before.workPlace
  directories : ∀ place, before.tree.look place = some none → after.tree.look place = some none

theorem Keeps.trans {a b c : FileSystem} (first : a.Keeps b) (second : b.Keeps c) : a.Keeps c :=
  ⟨second.workPlace.trans first.workPlace,
    fun place there => second.directories place (first.directories place there)⟩

section Walk

variable {tree changed : FileTree} {here place : List FileName} {segments : List (List UInt8)}

theorem walk_append (tree : FileTree) (here : List FileName) (front back : List (List UInt8)) :
    walk tree here (front ++ back) =
      match walk tree here front with
      | .ok place => walk tree place back
      | .error e => .error e := by
  induction front generalizing here with
  | nil => rfl
  | cons segment front ih =>
    rw [List.cons_append, walk, walk]
    repeat' split
    all_goals simp_all

theorem look_of_walk (walked : walk tree here segments = .ok place)
    (there : tree.look place = some none) : tree.look here = some none := by
  cases segments with
  | nil =>
    cases walked
    exact there
  | cons segment rest =>
    rw [walk] at walked
    split at walked
    · cases walked
    · cases walked
    · rename_i entries found
      exact look_eq_directory.mpr ⟨entries, found⟩

theorem lookup_of_look {entries : List (FileName × FileTree)} {name : FileName}
    (found : tree.find? here = some (.directory entries)) :
    (entries.lookup name).isSome = (tree.look (here ++ [name])).isSome := by
  rw [look, find?_append, found, Option.bind_some, find?_cons]
  cases entries.lookup name <;> simp

theorem walk_of_directories
    (stay : ∀ place, tree.look place = some none → changed.look place = some none)
    (walked : walk tree here segments = .ok place) (there : tree.look place = some none) :
    walk changed here segments = .ok place := by
  induction segments generalizing here with
  | nil => exact walked
  | cons segment rest ih =>
    obtain ⟨entries, found⟩ := look_eq_directory.mp (look_of_walk walked there)
    obtain ⟨others, still⟩ := look_eq_directory.mp (stay here (look_of_walk walked there))
    rw [walk, found] at walked
    rw [walk, still]
    simp only at walked ⊢
    split at walked
    · rename_i name _
      split at walked
      · cases walked
      · rename_i short
        split at walked
        · have next := stay _ (look_of_walk walked there)
          rw [if_neg short, if_pos (by rw [lookup_of_look still, next]; rfl)]
          exact ih walked
        · cases walked
    · exact ih walked
    · exact ih walked

theorem walk_skips {skips : List (List UInt8)}
    (skip : ∀ s ∈ skips, Path.Part.ofSegment? s = none)
    (walked : walk tree here skips = .ok place) : place = here := by
  induction skips with
  | nil =>
    cases walked
    rfl
  | cons s skips ih =>
    rw [walk] at walked
    split at walked
    · cases walked
    · cases walked
    · simp only [skip s List.mem_cons_self] at walked
      exact ih (fun s member => skip s (List.mem_cons_of_mem _ member)) walked

theorem walk_cons {entries : List (FileName × FileTree)}
    (found : tree.find? here = some (.directory entries)) (segment : List UInt8)
    (rest : List (List UInt8)) :
    walk tree here (segment :: rest) =
      match Path.Part.ofSegment? segment with
      | some (.named name) =>
        if nameLimit < name.length then .error .nameTooLong
        else if (entries.lookup name).isSome then walk tree (here ++ [name]) rest
        else .error .notFound
      | some .parent => walk tree here.dropLast rest
      | _ => walk tree here rest := by
  cases stands : Path.Part.ofSegment? segment with
  | none => simp only [walk, found, stands]
  | some part => cases part <;> simp only [walk, found, stands]

theorem walk_stays (there : tree.look here = some none)
    (skip : ∀ s ∈ segments, Path.Part.ofSegment? s = none) :
    walk tree here segments = .ok here := by
  obtain ⟨entries, found⟩ := look_eq_directory.mp there
  induction segments with
  | nil => rfl
  | cons s segments ih =>
    rw [walk, found, skip s List.mem_cons_self]
    exact ih fun s member => skip s (List.mem_cons_of_mem _ member)

theorem walk_blanks (there : tree.look here = some none) (empty : ∀ s ∈ segments, s = []) :
    walk tree here segments = .ok here :=
  walk_stays there fun s member => by rw [empty s member]; rfl

/-- A walk asks a directory for an entry with the name of a segment. -/
def Asks (tree : FileTree) (here : List FileName) (segments : List (List UInt8))
    (place : List FileName) : Prop :=
  ∃ front segment rest folder name, segments = front ++ segment :: rest ∧
    walk tree here front = .ok folder ∧ Path.Part.ofSegment? segment = some (.named name) ∧
    place = folder ++ [name]

theorem Asks.cons {segment : List UInt8} {next : List FileName} {rest : List (List UInt8)}
    (stepped : ∀ segments, walk tree here (segment :: segments) = walk tree next segments)
    (asks : Asks tree next rest place) : Asks tree here (segment :: rest) place := by
  obtain ⟨front, other, more, folder, name, rfl, walked, stands, same⟩ := asks
  exact ⟨segment :: front, other, more, folder, name, rfl, (stepped front).trans walked, stands,
    same⟩

/-- Above a directory there is a directory, and the root is above itself. -/
theorem look_dropLast (there : tree.look here = some none) :
    tree.look here.dropLast = some none := by
  rcases List.eq_nil_or_concat here with rfl | ⟨above, name, rfl⟩
  · exact there
  · rw [List.concat_eq_append] at there ⊢
    rw [List.dropLast_concat]
    exact look_above (by simp [there]) (List.cons_ne_nil name [])

/-- A walk goes the same way in another tree, and ends at the same thing, if that tree has the
directories and what the walk asks for. -/
theorem walk_congr
    (stay : ∀ place, tree.look place = some none → changed.look place = some none)
    (start : changed.look here = tree.look here)
    (asked : ∀ place, Asks tree here segments place → changed.look place = tree.look place) :
    walk changed here segments = walk tree here segments ∧
      ∀ place, walk tree here segments = .ok place → changed.look place = tree.look place := by
  induction segments generalizing here with
  | nil =>
    refine ⟨rfl, ?_⟩
    rintro place ⟨⟩
    exact start
  | cons segment rest ih =>
    cases seen : tree.look here with
    | none =>
      have gone := look_eq_none.mp (start.trans seen)
      simp [walk, look_eq_none.mp seen, gone]
    | some content =>
      cases content with
      | some bytes =>
        have still := look_eq_file.mp (start.trans seen)
        simp [walk, look_eq_file.mp seen, still]
      | none =>
        obtain ⟨entries, found⟩ := look_eq_directory.mp seen
        obtain ⟨others, still⟩ := look_eq_directory.mp (start.trans seen)
        have step := walk_cons found segment
        rw [walk_cons still, step]
        cases stands : Path.Part.ofSegment? segment with
        | none =>
          exact ih start fun place asks => asked place (asks.cons fun more => by rw [step, stands])
        | some part =>
          cases part with
          | root | current =>
            exact ih start fun place asks =>
              asked place (asks.cons fun more => by rw [step, stands])
          | parent =>
            have above := look_dropLast seen
            refine ih ((stay _ above).trans above.symm) fun place asks => ?_
            exact asked place (asks.cons fun more => by rw [step, stands])
          | named name =>
            have entry := asked _ ⟨[], segment, rest, here, name, rfl, rfl, stands, rfl⟩
            have listed : (others.lookup name).isSome = (entries.lookup name).isSome := by
              rw [lookup_of_look still, lookup_of_look found, entry]
            simp only [listed]
            by_cases long : nameLimit < name.length
            · simp [long]
            · cases there : (entries.lookup name).isSome with
              | false => simp [long]
              | true =>
                simp only [if_neg long, if_true]
                refine ih entry fun place asks => asked place (asks.cons fun more => ?_)
                simp [step, stands, long, there]

end Walk

section Entries

variable {before after fs : FileSystem} {path : Path} {e : Entry} {name : FileName}

/-- How a path stands for an entry with a name: a walk to its directory, the name, and nothing more
than slashes. -/
structure Names (fs : FileSystem) (path : Path) (folder : List FileName) (name : FileName)
    (closed : Bool) : Prop where
  sound : pathFault? path = none
  opened : fs.tree.look folder = some none
  segments : ∃ front last blanks, path.segments = front ++ last :: blanks ∧
    walk fs.tree (fs.start path) front = .ok folder ∧
    Path.Part.ofSegment? last = some (.named name) ∧ (∀ s ∈ blanks, s = []) ∧
    (closed = false → blanks = [])

theorem segments_of_cut {segments front : List (List UInt8)} {last : List UInt8}
    (cut : segments.reverse.dropWhile List.isEmpty = last :: front) :
    segments = front.reverse ++ last :: (segments.reverse.takeWhile List.isEmpty).reverse ∧
      ∀ s ∈ segments.reverse.takeWhile List.isEmpty, s = [] := by
  constructor
  · have both := List.takeWhile_append_dropWhile (p := List.isEmpty) (l := segments.reverse)
    rw [cut] at both
    simpa using (congrArg List.reverse both).symm
  · intro s member
    simpa using List.mem_takeWhile_imp member

theorem names_of_entry (entered : fs.entry path = .ok e) (named : e.part = .named name) :
    fs.Names path e.folder name e.closed := by
  rw [entry] at entered
  split at entered
  · cases entered
  · rename_i sound
    split at entered
    · cases entered
      cases named
    · rename_i last front cut
      split at entered
      · cases entered
      · rename_i folder walked
        split at entered
        · rename_i entries found
          cases entered
          obtain ⟨whole, empty⟩ := segments_of_cut cut
          refine ⟨sound, look_eq_directory.mpr ⟨entries, found⟩, front.reverse, last, _, whole,
            walked, ?_, ?_, ?_⟩
          · cases stands : Path.Part.ofSegment? last with
            | none =>
              rw [stands] at named
              cases named
            | some part =>
              rw [stands] at named
              exact congrArg some named
          · intro s member
            exact empty s (List.mem_reverse.mp member)
          · intro opened
            cases blanks : path.segments.reverse.takeWhile List.isEmpty with
            | nil => rfl
            | cons s rest =>
              rw [blanks] at whole empty
              have last : path.segments.getLast? = some [] := by
                rw [whole, List.reverse_cons, ← List.cons_append, ← List.append_assoc,
                  List.getLast?_concat, empty s List.mem_cons_self]
              rw [last] at opened
              cases opened
        · cases entered
        · cases entered

theorem start_eq (kept : before.Keeps after) (path : Path) :
    after.start path = before.start path := by
  rw [start, start, kept.workPlace]

/-- Without its directories a path still stands for the same entry. -/
theorem entry_of_keeps (kept : before.Keeps after) (entered : before.entry path = .ok e) :
    after.entry path = .ok e := by
  rw [entry] at entered ⊢
  split at entered
  · cases entered
  · rename_i sound
    split at entered
    · cases entered
      rfl
    · rename_i last front cut
      split at entered
      · cases entered
      · rename_i folder walked
        split at entered
        · rename_i entries found
          have there := look_eq_directory.mpr ⟨entries, found⟩
          obtain ⟨others, still⟩ := look_eq_directory.mp (kept.directories _ there)
          simp only [start_eq kept, walk_of_directories kept.directories walked there, still]
          exact entered
        · cases entered
        · cases entered

theorem read_eq_look (fs : FileSystem) (path : Path) : fs.read path =
    match fs.place path with
    | .error e => .error e
    | .ok place =>
      match fs.tree.look place with
      | none => .error .notFound
      | some none => .error .isDirectory
      | some (some bytes) => .ok bytes := by
  rw [read, find]
  cases fs.place path with
  | error e => rfl
  | ok place =>
    simp only [look]
    cases fs.tree.find? place with
    | none => rfl
    | some tree => cases tree <;> rfl

/-- A path still leads to a directory where it did. -/
theorem place_of_keeps {place : List FileName} (kept : before.Keeps after)
    (leads : before.place path = .ok place) (there : before.tree.look place = some none) :
    after.place path = .ok place := by
  rw [FileSystem.place] at leads ⊢
  split at leads
  · cases leads
  · rw [start_eq kept]
    exact walk_of_directories kept.directories leads there

theorem Names.place {folder : List FileName} {closed : Bool}
    (names : fs.Names path folder name closed)
    (short : name.length ≤ nameLimit) (there : fs.tree.look (folder ++ [name]) ≠ none)
    (fits : closed = true → fs.tree.look (folder ++ [name]) = some none) :
    fs.place path = .ok (folder ++ [name]) := by
  obtain ⟨sound, opened, front, last, blanks, segments, walked, stands, empty, open_⟩ := names
  obtain ⟨entries, found⟩ := look_eq_directory.mp opened
  have entered : (entries.lookup name).isSome = true := by
    rw [lookup_of_look found]
    exact Option.isSome_iff_ne_none.mpr there
  have reached : walk fs.tree folder [last] = .ok (folder ++ [name]) := by
    simp [walk, found, stands, Nat.not_lt.mpr short, entered]
  have onward : walk fs.tree (folder ++ [name]) blanks = .ok (folder ++ [name]) := by
    cases closed with
    | false =>
      rw [open_ rfl]
      rfl
    | true => exact walk_blanks (fits rfl) empty
  rw [FileSystem.place, sound, segments, walk_append, walked]
  change walk fs.tree folder ([last] ++ blanks) = _
  rw [walk_append, reached]
  exact onward

theorem Names.find_absent {folder : List FileName} {closed : Bool}
    (names : fs.Names path folder name closed) (short : name.length ≤ nameLimit)
    (absent : fs.tree.look (folder ++ [name]) = none) : fs.find path = .error .notFound := by
  obtain ⟨sound, opened, front, last, blanks, segments, walked, stands, -, -⟩ := names
  obtain ⟨entries, found⟩ := look_eq_directory.mp opened
  have unlisted : (entries.lookup name).isSome = false := by
    rw [lookup_of_look found, absent]
    rfl
  have stuck : walk fs.tree folder (last :: blanks) = .error .notFound := by
    simp [walk_cons found, stands, Nat.not_lt.mpr short, unlisted]
  rw [find, FileSystem.place, sound, segments, walk_append, walked]
  simp only [stuck]

end Entries

section Operations

variable {before after fs : FileSystem} {path source target : Path} {place : List FileName}
  {seen : Option (Option (List UInt8))} {bytes : List UInt8}

/-- What is seen changes at one place. -/
structure Sets (before after : FileSystem) (place : List FileName)
    (seen : Option (Option (List UInt8))) : Prop where
  workPlace : after.workPlace = before.workPlace
  look : ∀ other, after.tree.look other = if other = place then seen else before.tree.look other

theorem Sets.here (sets : before.Sets after place seen) : after.tree.look place = seen := by
  rw [sets.look, if_pos rfl]

theorem Sets.keeps (sets : before.Sets after place seen)
    (bare : before.tree.look place ≠ some none) : before.Keeps after where
  workPlace := sets.workPlace
  directories other there := by
    rw [sets.look, if_neg]
    · exact there
    · rintro rfl
      exact bare there

/-- No directory comes with a file, or with nothing. -/
theorem Sets.keeps_back (sets : before.Sets after place seen) (bare : seen ≠ some none) :
    after.Keeps before where
  workPlace := sets.workPlace.symm
  directories other there := by
    rw [sets.look] at there
    split at there
    · exact absurd there bare
    · exact there

theorem Sets.again {middle : FileSystem} {first : Option (Option (List UInt8))}
    (sets : before.Sets middle place first) (more : middle.Sets after place seen) :
    before.Sets after place seen where
  workPlace := more.workPlace.trans sets.workPlace
  look other := by
    rw [more.look, sets.look]
    split <;> rfl

/-- A file that was written is at its entry, where no directory was. -/
theorem write_ok (written : fs.write path bytes = .ok after) :
    ∃ folder name, fs.entry path = .ok ⟨folder, .named name, false⟩ ∧
      name.length ≤ nameLimit ∧ fs.tree.look (folder ++ [name]) ≠ some none ∧
      fs.Sets after (folder ++ [name]) (some (some bytes)) := by
  rw [write] at written
  split at written
  · cases written
  · rename_i e entered
    split at written
    · rename_i name named
      split at written
      · cases written
      · rename_i short
        split at written
        · cases written
        · rename_i opened
          obtain ⟨folder, part, closed⟩ := e
          have names := names_of_entry entered named
          cases named
          rw [Bool.not_eq_true] at opened
          cases opened
          refine ⟨folder, name, entered, Nat.le_of_not_lt short, ?_⟩
          split at written
          · cases written
          · rename_i bare
            cases written
            have bare : fs.tree.look (folder ++ [name]) ≠ some none := fun there =>
              (look_eq_directory.mp there).elim bare
            exact ⟨bare, rfl, look_put names.opened bare (find?_below_file bytes)⟩
    · cases written

/-- A file can be written at its entry, if there is no directory. -/
theorem exists_write {folder : List FileName} {name : FileName}
    (entered : fs.entry path = .ok ⟨folder, .named name, false⟩)
    (short : name.length ≤ nameLimit) (bare : fs.tree.look (folder ++ [name]) ≠ some none)
    (bytes : List UInt8) : ∃ after, fs.write path bytes = .ok after := by
  rw [write, entered]
  simp only [if_neg (Nat.not_lt.mpr short), Entry.place, Bool.false_eq_true, if_false]
  split
  · rename_i entries found
    exact absurd (look_eq_directory.mpr ⟨entries, found⟩) bare
  · exact ⟨_, rfl⟩

/-- A file can be removed from its entry, and is not seen there any more. -/
theorem exists_remove {folder : List FileName} {name : FileName}
    (entered : fs.entry path = .ok ⟨folder, .named name, false⟩)
    (short : name.length ≤ nameLimit)
    (filled : fs.tree.look (folder ++ [name]) = some (some bytes)) :
    ∃ after, fs.remove path = .ok after ∧ fs.Sets after (folder ++ [name]) none := by
  have names : fs.Names path folder name false := names_of_entry entered rfl
  have file : fs.tree.find? (folder ++ [name]) = some (.file bytes) := look_eq_file.mp filled
  refine ⟨{ fs with tree := fs.tree.erase (folder ++ [name]) }, ?_, rfl,
    look_erase names.opened filled⟩
  simp [remove, entered, Nat.not_lt.mpr short, Entry.place, file]

/-- A directory that was made is at its entry, where nothing was. -/
theorem makeDirectory_ok (made : fs.makeDirectory path = .ok after) :
    fs.Keeps after ∧ ∃ place, after.place path = .ok place ∧ fs.tree.look place = none ∧
      fs.Sets after place (some none) := by
  rw [makeDirectory] at made
  split at made
  · cases made
  · rename_i e entered
    split at made
    · rename_i name named
      split at made
      · cases made
      · rename_i short
        split at made
        · cases made
        · rename_i free
          cases made
          obtain ⟨folder, part, closed⟩ := e
          have names := names_of_entry entered named
          cases named
          have nothing : fs.tree.look (folder ++ [name]) = none := by
            rw [look_eq_none]
            simpa [Entry.place] using free
          have bare : fs.tree.look (folder ++ [name]) ≠ some none := by simp [nothing]
          have sets : fs.Sets { fs with tree := fs.tree.put (folder ++ [name]) (.directory []) }
              (folder ++ [name]) (some none) :=
            ⟨rfl, look_put names.opened bare find?_below_empty⟩
          have kept := sets.keeps bare
          have still := names_of_entry (entry_of_keeps kept entered) rfl
          refine ⟨kept, folder ++ [name], ?_, nothing, sets⟩
          exact still.place (Nat.le_of_not_lt short) (by simp [sets.here]) fun _ => sets.here
    · cases made

/-- A file that was moved is at its new entry, where no directory was, and not at the old one. -/
theorem rename_ok (renamed : fs.rename source target = .ok after) {folder : List FileName}
    {name : FileName} {closed : Bool}
    (entered : fs.entry source = .ok ⟨folder, .named name, closed⟩)
    (filled : fs.tree.look (folder ++ [name]) = some (some bytes)) :
    ∃ room key, fs.entry target = .ok ⟨room, .named key, false⟩ ∧
      key.length ≤ nameLimit ∧ fs.tree.look (room ++ [key]) ≠ some none ∧
      (folder ++ [name] = room ++ [key] ∨ ∃ between,
        fs.Sets between (folder ++ [name]) none ∧
        between.Sets after (room ++ [key]) (some (some bytes))) := by
  have names : fs.Names source folder name closed := names_of_entry entered rfl
  rw [rename, entered] at renamed
  cases goal : fs.entry target with
  | error e =>
    rw [goal] at renamed
    cases renamed
  | ok e =>
    obtain ⟨room, part, wide⟩ := e
    rw [goal] at renamed
    cases part with
    | root => cases renamed
    | current => cases renamed
    | parent => cases renamed
    | named key =>
      have file : fs.tree.find? (Entry.place ⟨folder, .named name, closed⟩ name) =
          some (.file bytes) := look_eq_file.mp filled
      simp only [file] at renamed
      split at renamed
      · cases renamed
      · rename_i short
        split at renamed
        · cases renamed
        · rename_i open_
          have narrow : wide = false := by
            cases wide with
            | false => rfl
            | true => simp at open_
          subst narrow
          refine ⟨room, key, rfl, Nat.le_of_not_lt short, ?_⟩
          have across : fs.Names target room key false := names_of_entry goal rfl
          split at renamed
          · cases renamed
          · rename_i clear
            have bare : fs.tree.look (room ++ [key]) ≠ some none := fun there =>
              (look_eq_directory.mp there).elim clear
            refine ⟨bare, ?_⟩
            split at renamed
            · rename_i same
              exact .inl same
            · rename_i apart
              have apart : room ++ [key] ≠ folder ++ [name] := fun same => apart same.symm
              cases renamed
              right
              have erased : fs.Sets { fs with tree := fs.tree.erase (folder ++ [name]) }
                  (folder ++ [name]) none := ⟨rfl, look_erase names.opened filled⟩
              have kept := erased.keeps (by simp [filled])
              refine ⟨_, erased, rfl, look_put (kept.directories _ across.opened) ?_
                (find?_below_file bytes)⟩
              rw [erased.look, if_neg apart]
              exact bare

/-- A file can be moved to another entry, if there is no directory. -/
theorem exists_rename {folder room : List FileName} {name key : FileName}
    (entered : fs.entry source = .ok ⟨folder, .named name, false⟩)
    (filled : fs.tree.look (folder ++ [name]) = some (some bytes))
    (goal : fs.entry target = .ok ⟨room, .named key, false⟩)
    (short : key.length ≤ nameLimit)
    (bare : fs.tree.look (room ++ [key]) ≠ some none) :
    ∃ after, fs.rename source target = .ok after := by
  have file : fs.tree.find? (folder ++ [name]) = some (.file bytes) := look_eq_file.mp filled
  rw [rename, entered, goal]
  simp only [Entry.place, file, if_neg (Nat.not_lt.mpr short), Bool.or_self, Bool.false_eq_true,
    if_false]
  split
  · rename_i entries found
    exact absurd (look_eq_directory.mpr ⟨entries, found⟩) bare
  · by_cases same : folder ++ [name] = room ++ [key]
    · exact ⟨_, if_pos same⟩
    · exact ⟨_, if_neg same⟩

end Operations

end FileSystem

end AmdBundler
