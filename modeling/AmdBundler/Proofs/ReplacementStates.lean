import AmdBundler.Proofs.FileReplacement

namespace AmdBundler

namespace Text

theorem cut_of_append {α : Type} {front back first second : List α} {x : α}
    (same : front ++ x :: back = first ++ second) :
    x ∈ second ∨ ∃ more, first = front ++ x :: more := by
  rcases List.append_eq_append_iff.mp same with ⟨between, whole, rest⟩ | ⟨between, rfl, rest⟩
  · cases between with
    | nil =>
      rw [List.nil_append] at rest
      exact .inl (rest ▸ List.mem_cons_self)
    | cons y more =>
      cases (List.cons.inj rest).1
      exact .inr ⟨more, whole⟩
  · exact .inl (by simp [rest])

end Text

namespace Replacement

/-- The temporary file of a relative path has a relative path. -/
theorem temporary_relative {target : Path} (relative : target.isAbsolute = false) (process : Nat) :
    (temporary target process).isAbsolute = false := by
  rcases Path.skips_or_last target.segments with
    skip | ⟨front, last, part, skips, whole, leads, skip⟩
  · have plain := slash_not_mem_temporary target process
    obtain ⟨first, rest, cut⟩ := List.exists_cons_of_ne_nil
      (show target.segments ≠ [] from List.splitOn_ne_nil _ _)
    rw [cut, List.forall_mem_cons] at skip
    have trimmed : Path.trimSegments rest = [] := by
      simpa [Path.trimSegments, Path.ofSegment?_eq_none_iff] using skip.2
    have above : target.parent? = if first.isEmpty then none else some ⟨[]⟩ := by
      simp [Path.parent?, cut, trimmed]
    rw [temporary, above]
    generalize temporaryName target.fileName? process = key at plain ⊢
    have name := Path.not_isAbsolute_of_plain plain
    cases first.isEmpty with
    | true =>
      have joined : (Path.ofText ".").join ⟨key⟩ = ⟨Path.dot :: Path.slash :: key⟩ := by
        rw [Path.join, if_neg (by simp [name])]
        rfl
      simp only [if_true, Option.getD_none, joined]
      rfl
    | false => simp [Path.join, name]
  · obtain ⟨-, -, -, -, -, same⟩ := temporary_segments whole leads skip process
    rw [same, relative]

end Replacement

namespace FileSystem
open FileTree Replacement

variable {fs state after : FileSystem} {path target : Path} {bytes : List UInt8} {process : Nat}
  {folder place : List FileName} {name : FileName} {closed : Bool}

/-- A path stands for the place of an entry, whether there is one or not. -/
def StandsFor (fs : FileSystem) (path : Path) (place : List FileName) : Prop :=
  ∃ folder name closed, fs.entry path = .ok ⟨folder, .named name, closed⟩ ∧
    place = folder ++ [name]

theorem standsFor_iff (entered : fs.entry path = .ok ⟨folder, .named name, closed⟩) :
    fs.StandsFor path place ↔ place = folder ++ [name] := by
  constructor
  · rintro ⟨_, _, _, again, rfl⟩
    cases entered.symm.trans again
    rfl
  · rintro rfl
    exact ⟨folder, name, closed, entered, rfl⟩

section Beside

variable (names : fs.Names (temporary target process) folder name false)
  (bare : fs.tree.look (folder ++ [name]) ≠ some none)

include names bare

theorem start_ne_temporary : fs.start target ≠ folder ++ [name] := by
  intro same
  cases absolute : target.isAbsolute with
  | true => simp [FileSystem.start, absolute] at same
  | false =>
    obtain ⟨front, last, -, walked, -⟩ := names.segments_of_open
    have start : fs.start (temporary target process) = fs.start target := by
      simp [FileSystem.start, absolute, temporary_relative absolute]
    rw [start, same] at walked
    exact bare (look_of_walk walked names.opened)

theorem not_asks_temporary :
    ¬Asks fs.tree (fs.start target) target.segments (folder ++ [name]) := by
  rintro ⟨front, segment, rest, room, key, cut, walked, stands, same⟩
  obtain ⟨rfl, word⟩ := List.append_inj' same rfl
  cases word
  rcases Path.skips_or_last target.segments with
    skip | ⟨before, last, part, skips, whole, leads, skip⟩
  · have nowhere := skip segment (by simp [cut])
    rw [nowhere] at stands
    cases stands
  · obtain ⟨trunk, between, rfl, blank, beside, level⟩ :=
      temporary_segments whole leads skip process
    obtain ⟨way, last', split, entered, named⟩ := names.segments_of_open
    obtain ⟨rfl, ends⟩ := List.append_inj' (beside.symm.trans split) rfl
    have start : fs.start (temporary target process) = fs.start target := by
      rw [FileSystem.start, FileSystem.start, level]
    rw [cut, List.append_assoc] at whole
    -- The segment is one of those that lead to the directory of both files, or it comes later.
    rcases Text.cut_of_append whole with later | ⟨more, rfl⟩
    · rcases List.mem_append.mp later with inside | inside
      · rw [blank segment inside] at stands
        cases stands
      · rcases List.mem_cons.mp inside with rfl | inside
        · rw [← List.append_assoc, ← cut] at whole
          obtain ⟨word, -⟩ := Path.ofSegment?_named named
          rw [← (List.cons.inj ends).1, Path.fileName?_of_segments whole stands skip] at word
          exact temporaryName_ne name process word
        · rw [skip segment inside] at stands
          cases stands
    · obtain ⟨entries, found⟩ := look_eq_directory.mp names.opened
      rw [start, walk_append, walked] at entered
      simp only [walk_cons found, stands] at entered
      split at entered
      · cases entered
      · split at entered
        · exact bare (look_of_walk entered names.opened)
        · cases entered

/-- Whatever becomes of the temporary file, the target is read as before. -/
theorem read_of_sets {seen : Option (Option (List UInt8))}
    (sets : fs.Sets state (folder ++ [name]) seen) : state.read target = fs.read target := by
  have kept := sets.keeps bare
  have same (place : List FileName) (other : place ≠ folder ++ [name]) :
      state.tree.look place = fs.tree.look place := by
    rw [sets.look, if_neg other]
  obtain ⟨walked, ends⟩ := walk_congr kept.directories (same _ (start_ne_temporary names bare))
    fun place asks => same place (by rintro rfl; exact not_asks_temporary names bare asks)
  rw [read_eq_look, read_eq_look, FileSystem.place, FileSystem.place, start_eq kept]
  cases pathFault? target with
  | some e => rfl
  | none =>
    simp only [walked]
    cases reached : walk fs.tree (fs.start target) target.segments with
    | error e => rfl
    | ok place => simp only [ends place reached]

end Beside

/-- A file can be written at the entry that a path stands for. -/
structure Writable (fs : FileSystem) (path : Path) (folder : List FileName) (name : FileName) :
    Prop where
  entered : fs.entry path = .ok ⟨folder, .named name, false⟩
  short : name.length ≤ nameLimit
  bare : fs.tree.look (folder ++ [name]) ≠ some none

namespace Writable

variable (free : fs.Writable path folder name)

include free

theorem names : fs.Names path folder name false :=
  names_of_entry free.entered rfl

/-- It can be written again once there is a file. -/
theorem of_sets {seen : List UInt8}
    (sets : fs.Sets state (folder ++ [name]) (some (some seen))) :
    state.Writable path folder name :=
  ⟨entry_of_keeps (sets.keeps free.bare) free.entered, free.short, by simp [sets.here]⟩

theorem find_gone (sets : fs.Sets state (folder ++ [name]) none) :
    state.find path = .error .notFound :=
  (names_of_entry (entry_of_keeps (sets.keeps free.bare) free.entered) rfl).find_absent free.short
    sets.here

end Writable

/-- What is written is seen at one entry. -/
theorem writable_of_write (written : fs.write path bytes = .ok state) :
    ∃ folder name, fs.Writable path folder name ∧
      fs.Sets state (folder ++ [name]) (some (some bytes)) := by
  obtain ⟨folder, name, entered, short, bare, sets⟩ := write_ok written
  exact ⟨folder, name, ⟨entered, short, bare⟩, sets⟩

theorem Writable.write (free : fs.Writable path folder name) (bytes : List UInt8) :
    ∃ state, fs.write path bytes = .ok state ∧
      fs.Sets state (folder ++ [name]) (some (some bytes)) := by
  obtain ⟨state, written⟩ := exists_write free.entered free.short free.bare bytes
  obtain ⟨room, key, entered, -, -, sets⟩ := write_ok written
  cases free.entered.symm.trans entered
  exact ⟨state, written, sets⟩

/-- The course of a replacement: it does not start, it goes through, or it is called off. -/
inductive Course (fs : FileSystem) (target : Path) (bytes : List UInt8) (process : Nat) :
    Replacement → Prop
  | refused {e : FileError} (stuck : fs.write (temporary target process) [] = .error e) :
    Course fs target bytes process ⟨[], some e⟩
  | replaced {folder : List FileName} {name : FileName} {created written renamed : FileSystem}
    (free : fs.Writable (temporary target process) folder name)
    (opened : fs.Sets created (folder ++ [name]) (some (some [])))
    (filled : fs.Sets written (folder ++ [name]) (some (some bytes)))
    (moved : written.rename (temporary target process) target = .ok renamed) :
    Course fs target bytes process ⟨[renamed, written, created], none⟩
  | undone {folder : List FileName} {name : FileName} {created written cleaned : FileSystem}
    {e : FileError} (free : fs.Writable (temporary target process) folder name)
    (opened : fs.Sets created (folder ++ [name]) (some (some [])))
    (filled : fs.Sets written (folder ++ [name]) (some (some bytes)))
    (stuck : written.rename (temporary target process) target = .error e)
    (gone : fs.Sets cleaned (folder ++ [name]) none) :
    Course fs target bytes process ⟨[cleaned, written, created], some e⟩

theorem course_run (fs : FileSystem) (target : Path) (bytes : List UInt8) (process : Nat) :
    Course fs target bytes process (Replacement.run fs target bytes process) := by
  unfold Replacement.run
  dsimp only
  cases opened : fs.write (temporary target process) [] with
  | error e => exact .refused opened
  | ok created =>
    obtain ⟨folder, name, free, first⟩ := writable_of_write opened
    obtain ⟨written, filled, second⟩ := (free.of_sets first).write bytes
    have both := first.again second
    have still := free.of_sets both
    obtain ⟨cleaned, removed, gone⟩ := exists_remove still.entered still.short both.here
    simp only [filled]
    cases moved : written.rename (temporary target process) target with
    | ok renamed => exact .replaced free first both moved
    | error e =>
      simp only [removed]
      exact .undone free first both moved (both.again gone)

/-- The target can be replaced: it is an entry of a directory, without a slash behind it, its name
is not too long, and its temporary file can be written there. -/
def Replaceable (fs : FileSystem) (target : Path) (process : Nat) : Prop :=
  ∃ folder name, fs.entry target = .ok ⟨folder, .named name, false⟩ ∧
    name.length ≤ nameLimit ∧ fs.tree.look (folder ++ [name]) ≠ some none ∧
    pathFault? (temporary target process) = none ∧
    (temporaryName (some name) process).length ≤ nameLimit ∧
    fs.tree.look (folder ++ [temporaryName (some name) process]) ≠ some none

theorem ofSegment?_temporaryName (name : FileName) (process : Nat) :
    Path.Part.ofSegment? (temporaryName (some name) process) =
      some (.named (temporaryName (some name) process)) := by
  apply Path.ofSegment?_of_long
  rw [temporaryName_eq]
  apply Nat.lt_of_lt_of_le _ (Utf8.length_le_length_encode _)
  simp
  omega

/-- The temporary file is an entry where the target is one. -/
theorem entry_temporary (entered : fs.entry target = .ok ⟨folder, .named name, false⟩)
    (sound : pathFault? (temporary target process) = none) :
    fs.entry (temporary target process) =
      .ok ⟨folder, .named (temporaryName (some name) process), false⟩ := by
  have names : fs.Names target folder name false := names_of_entry entered rfl
  obtain ⟨front, last, segments, walked, stands⟩ := names.segments_of_open
  obtain ⟨trunk, skips, rfl, skip, beside, level⟩ :=
    temporary_segments segments stands (by simp) process
  rw [Path.fileName?_of_segments segments stands (by simp)] at beside
  have start : fs.start (temporary target process) = fs.start target := by
    rw [FileSystem.start, FileSystem.start, level]
  obtain ⟨entries, found⟩ := look_eq_directory.mp names.opened
  have arrived : walk fs.tree (fs.start target) trunk = .ok folder := by
    rw [walk_append] at walked
    split at walked
    · rename_i place reached
      rw [reached, walk_skips skip walked]
    · cases walked
  have key := ofSegment?_temporaryName name process
  have full : temporaryName (some name) process ≠ [] := by
    intro none
    rw [none] at key
    cases key
  simp only [entry, sound, beside, List.reverse_append, List.reverse_singleton,
    List.singleton_append, List.dropWhile_cons, List.isEmpty_iff, full, if_false,
    List.reverse_reverse, start, arrived, found, key, List.getLast?_concat]
  simp [full]

/-- The entry of the temporary file is not that of the target. -/
theorem place_ne_temporary (folder : List FileName) (name : FileName) (process : Nat) :
    folder ++ [name] ≠ folder ++ [temporaryName (some name) process] := by
  intro same
  have words := (List.append_inj' same rfl).2
  exact temporaryName_ne name process (List.cons.inj words).1.symm

/-- A file is replaced exactly if it can be. -/
theorem fault?_eq_none_iff :
    (fs.replaceFile target bytes process).2 = none ↔ fs.Replaceable target process := by
  constructor
  · intro well
    cases replaced : fs.replaceFile target bytes process with
    | mk after fault =>
    rw [replaced] at well
    cases well
    obtain ⟨folder, name, entered, beside, fits, short, bare, clear, -⟩ :=
      replaceFile_entries replaced
    exact ⟨folder, name, entered, fits, bare, (names_of_entry beside rfl).sound, short, clear⟩
  · rintro ⟨folder, name, entered, fits, bare, sound, short, clear⟩
    have free : fs.Writable (temporary target process) folder (temporaryName (some name) process) :=
      ⟨entry_temporary entered sound, short, clear⟩
    have course := course_run fs target bytes process
    unfold replaceFile
    generalize Replacement.run fs target bytes process = r at course ⊢
    cases course with
    | refused stuck =>
      obtain ⟨state, written, -⟩ := free.write []
      rw [stuck] at written
      cases written
    | replaced => rfl
    | undone again opened filled stuck gone =>
      cases free.entered.symm.trans again.entered
      have apart := place_ne_temporary folder name process
      have still := filled.look (folder ++ [name])
      rw [if_neg apart] at still
      obtain ⟨renamed, moved⟩ := exists_rename (again.of_sets filled).entered filled.here
        (entry_of_keeps (filled.keeps clear) entered) fits (by rw [still]; exact bare)
      rw [stuck] at moved
      cases moved

/-- The target is as before, and so is all else but the temporary file. -/
structure Untouched (before after : FileSystem) (target : Path) (process : Nat) : Prop where
  workPlace : after.workPlace = before.workPlace
  read : after.read target = before.read target
  look : ∀ place, ¬before.StandsFor (temporary target process) place →
    after.tree.look place = before.tree.look place

/-- The target holds the bytes, the temporary file is not there, and all else is as before. -/
structure Complete (before after : FileSystem) (target : Path) (bytes : List UInt8)
    (process : Nat) : Prop where
  workPlace : after.workPlace = before.workPlace
  read : after.read target = .ok bytes
  gone : after.find (temporary target process) = .error .notFound
  look : ∀ place, ¬before.StandsFor target place →
    ¬before.StandsFor (temporary target process) place →
      after.tree.look place = before.tree.look place

theorem Untouched.refl (fs : FileSystem) (target : Path) (process : Nat) :
    fs.Untouched fs target process :=
  ⟨rfl, rfl, fun _ _ => rfl⟩

theorem untouched_of_sets {seen : Option (Option (List UInt8))}
    (free : fs.Writable (temporary target process) folder name)
    (sets : fs.Sets state (folder ++ [name]) seen) : fs.Untouched state target process where
  workPlace := sets.workPlace
  read := read_of_sets free.names free.bare sets
  look place other := by
    rw [standsFor_iff free.entered] at other
    rw [sets.look, if_neg other]

theorem complete_of_replaced (replaced : fs.replaceFile target bytes process = (after, none)) :
    fs.Complete after target bytes process := by
  obtain ⟨folder, name, entered, beside, -, short, -, -, leads, kept, seen⟩ :=
    replaceFile_entries replaced
  have filled : after.tree.look (folder ++ [name]) = some (some bytes) := by
    rw [seen, if_pos rfl]
  have removed : after.tree.look (folder ++ [temporaryName (some name) process]) = none := by
    rw [seen, if_neg (place_ne_temporary folder name process).symm, if_pos rfl]
  refine ⟨kept.workPlace, ?_, ?_, ?_⟩
  · rw [read_eq_look, leads]
    simp only [filled]
  · have names : after.Names (temporary target process) folder
        (temporaryName (some name) process) false :=
      names_of_entry (entry_of_keeps kept beside) rfl
    exact names.find_absent short removed
  · intro place other apart
    rw [standsFor_iff entered] at other
    rw [standsFor_iff beside] at apart
    rw [seen, if_neg other, if_neg apart]

/-- A file is replaced as a whole or not at all. It is replaced exactly if the target is an entry,
without a slash behind it, of a directory where its temporary file can be written. Then the target
holds the bytes, the temporary file is not there and all else is as before. Otherwise all is as
before but the temporary file, which is not there if it could be made. On the way, and whatever part
of the bytes has been written, the target is as before or holds all of them. -/
theorem replaces_all_or_nothing (fs : FileSystem) (target : Path) (bytes : List UInt8)
    (process : Nat) :
    ((fs.replaceFile target bytes process).2 = none ↔ fs.Replaceable target process) ∧
    (∀ after, fs.replaceFile target bytes process = (after, none) →
      fs.Complete after target bytes process) ∧
    (∀ after e, fs.replaceFile target bytes process = (after, some e) →
      fs.Untouched after target process ∧
        ((∀ made, fs.write (temporary target process) [] ≠ .ok made) ∧ after = fs ∨
          after.find (temporary target process) = .error .notFound)) ∧
    (∀ state ∈ (Replacement.run fs target bytes process).passed,
      fs.Untouched state target process ∨ fs.Complete state target bytes process) ∧
    ∀ part state, fs.write (temporary target process) part = .ok state →
      fs.Untouched state target process := by
  have course := course_run fs target bytes process
  have ends : fs.replaceFile target bytes process =
      ((Replacement.run fs target bytes process).passed.head?.getD fs,
        (Replacement.run fs target bytes process).fault?) := by
    unfold replaceFile
    rfl
  refine ⟨fault?_eq_none_iff, fun after => complete_of_replaced, ?_, ?_, ?_⟩
  · intro after e stopped
    rw [ends] at stopped
    generalize Replacement.run fs target bytes process = r at course stopped
    cases course with
    | refused stuck =>
      cases stopped
      exact ⟨.refl fs target process, .inl ⟨by simp [stuck], rfl⟩⟩
    | replaced => cases stopped
    | undone free opened filled stuck gone =>
      cases stopped
      exact ⟨untouched_of_sets free gone, .inr (free.find_gone gone)⟩
  · generalize ran : Replacement.run fs target bytes process = r at course ends
    cases course with
    | refused stuck => simp
    | replaced free opened filled moved =>
      simp only [List.forall_mem_cons]
      exact ⟨.inr (complete_of_replaced ends), .inl (untouched_of_sets free filled),
        .inl (untouched_of_sets free opened), by simp⟩
    | undone free opened filled stuck gone =>
      simp only [List.forall_mem_cons]
      exact ⟨.inl (untouched_of_sets free gone), .inl (untouched_of_sets free filled),
        .inl (untouched_of_sets free opened), by simp⟩
  · intro part state written
    obtain ⟨folder, name, free, sets⟩ := writable_of_write written
    exact untouched_of_sets free sets

end FileSystem

end AmdBundler
