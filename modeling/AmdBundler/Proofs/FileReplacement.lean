import AmdBundler.Proofs.FileChanges
import AmdBundler.Proofs.StrictDecoding

namespace AmdBundler

namespace Path

theorem marks_slash : Utf8.Marks slash '/' :=
  ⟨by decide, by decide, by decide⟩

/-- A path from the root has an empty segment before its first slash. -/
theorem isAbsolute_iff (p : Path) :
    p.isAbsolute = true ↔ ∃ s rest, p.segments = [] :: s :: rest := by
  rw [isAbsolute, segments]
  cases p.bytes with
  | nil => simp
  | cons b bytes =>
    obtain ⟨s, rest, cut⟩ := List.exists_cons_of_ne_nil (List.splitOn_ne_nil slash bytes)
    by_cases first : b = slash
    · simp [first, List.splitOn_cons_eq_if_modifyHead, cut]
    · simp [first, List.splitOn_cons_eq_if_modifyHead, cut]

theorem isAbsolute_of_segments {p : Path} {first : List UInt8} {rest : List (List UInt8)}
    (segments : p.segments = first :: rest) (some : rest ≠ []) :
    p.isAbsolute = first.isEmpty := by
  rw [Bool.eq_iff_iff, isAbsolute_iff, segments, List.isEmpty_iff]
  constructor
  · rintro ⟨s, more, same⟩
    exact (List.cons.inj same).1
  · rintro rfl
    obtain ⟨s, more, rfl⟩ := List.exists_cons_of_ne_nil some
    exact ⟨s, more, rfl⟩

theorem not_isAbsolute_of_segments {p : Path} {only : List UInt8} (segments : p.segments = [only]) :
    p.isAbsolute = false := by
  rw [Bool.eq_false_iff, ne_eq, isAbsolute_iff, segments]
  rintro ⟨s, rest, same⟩
  cases same

theorem ofSegment?_eq_none_iff {s : List UInt8} :
    Part.ofSegment? s = none ↔ (s.isEmpty || s == [dot]) = true := by
  unfold Part.ofSegment?
  split
  · simp_all
  · split
    · simp_all
    · simp_all

theorem ofSegment?_named {s : List UInt8} {name : FileName}
    (stands : Part.ofSegment? s = some (.named name)) :
    s = name ∧ (s.isEmpty || s == [dot]) = false := by
  refine ⟨?_, by rw [← Bool.not_eq_true, ← ofSegment?_eq_none_iff, stands]; simp⟩
  unfold Part.ofSegment? at stands
  split at stands
  · cases stands
  · split at stands
    · cases stands
    · cases stands
      rfl

theorem ofSegment?_of_long {s : List UInt8} (long : 2 < s.length) :
    Part.ofSegment? s = some (.named s) := by
  unfold Part.ofSegment?
  rw [if_neg, if_neg]
  · rintro rfl
    exact absurd long (by decide)
  · rintro (rfl | rfl) <;> exact absurd long (by decide)

theorem trimSegments_append (segments : List (List UInt8)) :
    ∃ skips, segments = trimSegments segments ++ skips ∧
      ∀ s ∈ skips, Part.ofSegment? s = none := by
  have both := List.takeWhile_append_dropWhile
    (p := fun s : List UInt8 => s.isEmpty || s == [dot]) (l := segments.reverse)
  refine ⟨(segments.reverse.takeWhile fun s => s.isEmpty || s == [dot]).reverse, ?_, ?_⟩
  · rw [trimSegments, ← List.reverse_append, both, List.reverse_reverse]
  · intro s member
    exact ofSegment?_eq_none_iff.mpr
      (by simpa using List.mem_takeWhile_imp (List.mem_reverse.mp member))

/-- Trimming ends at the last segment that leads somewhere. -/
theorem trimSegments_skips {last : List UInt8} {skips : List (List UInt8)}
    (leads : (last.isEmpty || last == [dot]) = false)
    (skip : ∀ s ∈ skips, Part.ofSegment? s = none) (front : List (List UInt8)) :
    trimSegments (front ++ last :: skips) = front ++ [last] := by
  have blank : ∀ s ∈ skips.reverse, (s.isEmpty || s == [dot]) = true := fun s member =>
    ofSegment?_eq_none_iff.mp (skip s (List.mem_reverse.mp member))
  rw [trimSegments, List.reverse_append, List.reverse_cons, List.append_assoc,
    List.dropWhile_append_of_pos blank, List.singleton_append,
    List.dropWhile_cons_of_neg (by simp [leads])]
  simp

/-- Segments lead nowhere, or there is a last one that leads somewhere. -/
theorem skips_or_last (segments : List (List UInt8)) :
    (∀ s ∈ segments, Part.ofSegment? s = none) ∨
      ∃ front last part skips, segments = front ++ last :: skips ∧
        Part.ofSegment? last = some part ∧ ∀ s ∈ skips, Part.ofSegment? s = none := by
  induction segments with
  | nil => exact .inl (by simp)
  | cons s rest ih =>
    rcases ih with skip | ⟨front, last, part, skips, rfl, stands, skip⟩
    · cases stands : Part.ofSegment? s with
      | none => exact .inl (by simpa using ⟨stands, skip⟩)
      | some part => exact .inr ⟨[], s, part, rest, rfl, stands, skip⟩
    · exact .inr ⟨s :: front, last, part, skips, rfl, stands, skip⟩

theorem trimSegments_last {segments front : List (List UInt8)} {last : List UInt8}
    (cut : trimSegments segments = front ++ [last]) : last ≠ [] := by
  rintro rfl
  have top := List.head?_dropWhile_not (fun s : List UInt8 => s.isEmpty || s == [dot])
    segments.reverse
  rw [trimSegments, List.reverse_eq_iff] at cut
  rw [cut] at top
  simp at top

section Last

variable {p : Path} {first last : List UInt8} {front mid skips : List (List UInt8)}

theorem parent?_of_one (segments : p.segments = last :: skips)
    (leads : (last.isEmpty || last == [dot]) = false)
    (skip : ∀ s ∈ skips, Part.ofSegment? s = none) : p.parent? = some ⟨[]⟩ := by
  have full : last.isEmpty = false := (Bool.or_eq_false_iff.mp leads).1
  have trimmed : trimSegments skips = [] := by
    simpa [trimSegments, ofSegment?_eq_none_iff] using skip
  simp [parent?, segments, trimmed, full]

/-- The parent of a path has the segments before its last part, but those at their end that lead
nowhere. -/
theorem parent?_of_segments (segments : p.segments = first :: (mid ++ last :: skips))
    (leads : (last.isEmpty || last == [dot]) = false)
    (skip : ∀ s ∈ skips, Part.ofSegment? s = none) :
    p.parent? = if first = [] ∧ trimSegments mid = [] then some ⟨[slash]⟩
      else some ⟨[slash].intercalate (first :: trimSegments mid)⟩ := by
  rw [parent?, segments]
  simp only [trimSegments_skips leads skip]
  split
  · rename_i none
    exact absurd none (List.append_ne_nil_of_right_ne_nil _ (List.cons_ne_nil _ _))
  · simp only [List.dropLast_concat]
    split
    · rename_i bare
      rw [if_pos ⟨rfl, bare⟩]
    · rename_i more
      rw [if_neg fun both => more both.1 both.2]

theorem fileName?_of_segments {name : FileName} (segments : p.segments = front ++ last :: skips)
    (stands : Part.ofSegment? last = some (.named name))
    (skip : ∀ s ∈ skips, Part.ofSegment? s = none) : p.fileName? = some name := by
  have ends : p.parts.getLast? = some (.named name) := by
    rw [parts, segments, List.filterMap_append, List.filterMap_cons, stands, ← List.append_assoc,
      List.filterMap_eq_nil_iff.mpr skip]
    exact List.getLast?_concat
  rw [fileName?, ends]

theorem segment_of_named {name : FileName} (member : .named name ∈ p.parts) :
    name ∈ p.segments ∧ Part.ofSegment? name = some (.named name) := by
  rcases List.mem_append.mp member with start | within
  · rw [opening] at start
    split at start
    · simp at start
    · split at start <;> simp at start
  · obtain ⟨segment, inside, stands⟩ := List.mem_filterMap.mp within
    obtain ⟨rfl, -⟩ := ofSegment?_named stands
    exact ⟨inside, stands⟩

theorem segment_of_fileName? {name : FileName} (named : p.fileName? = some name) :
    name ∈ p.segments ∧ Part.ofSegment? name = some (.named name) := by
  rw [fileName?] at named
  split at named
  · rename_i last ends
    cases named
    exact segment_of_named (List.mem_of_getLast? ends)
  · cases named

end Last

theorem not_isAbsolute_of_plain {name : FileName} (plain : slash ∉ name) :
    Path.isAbsolute ⟨name⟩ = false := by
  rw [isAbsolute, beq_eq_false_iff_ne]
  intro first
  exact plain (List.mem_of_head? first)

theorem segments_join_short {name : FileName} (plain : slash ∉ name) :
    ((Path.mk []).join ⟨name⟩).segments = [name] ∧
      ((Path.mk [slash]).join ⟨name⟩).segments = [[], name] := by
  have relative := not_isAbsolute_of_plain plain
  have cut := List.splitOn_eq_singleton plain
  constructor
  · simp [join, relative, segments, cut]
  · simp [join, relative, segments, Text.splitOn_mark, cut]

/-- A name is put behind the segments of a path that does not end in a slash. -/
theorem segments_join {base : Path} {name : FileName} (plain : slash ∉ name)
    (open_ : base.segments.getLast? ≠ some []) :
    (base.join ⟨name⟩).segments = base.segments ++ [name] := by
  have ends := mt (Text.getLast?_splitOn slash base.bytes).mpr open_
  have full : base.bytes.isEmpty = false := by
    rw [List.isEmpty_eq_false_iff]
    exact fun empty => ends (.inl empty)
  have last : (base.bytes.getLast? == some slash) = false :=
    beq_eq_false_iff_ne.mpr fun slash => ends (.inr slash)
  rw [join, if_neg (by simp [not_isAbsolute_of_plain plain]), if_neg (by simp [full, last]),
    segments, List.splitOn_append_cons_self, List.splitOn_eq_singleton plain]
  rfl

/-- The segments above a file do not end in an empty one, unless they are the root. -/
theorem getLast?_trunk {first : List UInt8} {mid : List (List UInt8)}
    (below : ¬(first = [] ∧ trimSegments mid = [])) :
    (first :: trimSegments mid).getLast? ≠ some [] := by
  intro last
  by_cases none : trimSegments mid = []
  · rw [none] at last
    exact below ⟨by simpa using last, none⟩
  · rw [List.getLast?_cons_of_ne_nil none] at last
    obtain ⟨front, cut⟩ := List.getLast?_eq_some_iff.mp last
    exact trimSegments_last cut rfl

theorem segments_ofList {segments : List (List UInt8)} (some : segments ≠ [])
    (plain : ∀ s ∈ segments, slash ∉ s) :
    (Path.mk ([slash].intercalate segments)).segments = segments :=
  List.splitOn_intercalate slash plain some

end Path

namespace Replacement

theorem temporaryName_eq (name? : Option FileName) (process : Nat) :
    temporaryName name? process = Utf8.encode
      ('.' :: (label name?).toList ++ ".tmp.".toList ++ Nat.toDigits 10 process) := by
  simp [temporaryName, FileName.ofText, toString, Nat.repr]

theorem label_of_decode? {name : FileName} {text : List Char}
    (decoded : Utf8.decode? name = some text) : label (some name) = String.ofList text := by
  simp [label, decoded]

theorem temporaryName_ne (name : FileName) (process : Nat) :
    temporaryName (some name) process ≠ name := by
  intro same
  rw [temporaryName_eq] at same
  -- The name would be that of a text longer than itself.
  have decoded := Utf8.decode?_eq_some_iff.mpr same.symm
  have lengths := congrArg (fun text : String => text.toList.length) (label_of_decode? decoded)
  simp only [String.toList_ofList, List.length_append, List.length_cons] at lengths
  omega

theorem slash_not_mem_label {name? : Option FileName} (plain : ∀ name ∈ name?, Path.slash ∉ name) :
    '/' ∉ (label name?).toList := by
  unfold label
  split
  · rename_i text found
    obtain ⟨name, here, decoded⟩ := Option.bind_eq_some_iff.mp found
    rw [String.toList_ofList, ← Utf8.mem_encode_iff Path.marks_slash,
      ← Utf8.decode?_eq_some_iff.mp decoded]
    exact plain name here
  · decide

theorem slash_not_mem_temporaryName {name? : Option FileName}
    (plain : ∀ name ∈ name?, Path.slash ∉ name) (process : Nat) :
    Path.slash ∉ temporaryName name? process := by
  rw [temporaryName_eq, Utf8.mem_encode_iff Path.marks_slash]
  intro member
  have digits : '/' ∉ Nat.toDigits 10 process := by
    intro inside
    exact absurd (Nat.isDigit_of_mem_toDigits (by decide) (by decide) inside) (by decide)
  simp [slash_not_mem_label plain, digits] at member

theorem slash_not_mem_temporary (target : Path) (process : Nat) :
    Path.slash ∉ temporaryName target.fileName? process :=
  slash_not_mem_temporaryName (fun _ named =>
    Text.not_mem_of_mem_splitOn (Path.segment_of_fileName? named).1) process

/-- The temporary file is looked for where the last part of the target is, up to segments that lead
nowhere. -/
theorem temporary_segments {target : Path} {front skips : List (List UInt8)} {last : List UInt8}
    {part : Path.Part} (segments : target.segments = front ++ last :: skips)
    (stands : Path.Part.ofSegment? last = some part)
    (skip : ∀ s ∈ skips, Path.Part.ofSegment? s = none) (process : Nat) :
    ∃ trunk between, front = trunk ++ between ∧
      (∀ s ∈ between, Path.Part.ofSegment? s = none) ∧
      (temporary target process).segments = trunk ++ [temporaryName target.fileName? process] ∧
      (temporary target process).isAbsolute = target.isAbsolute := by
  have leads : (last.isEmpty || last == [Path.dot]) = false := by
    rw [← Bool.not_eq_true, ← Path.ofSegment?_eq_none_iff, stands]
    simp
  have plain := slash_not_mem_temporary target process
  rw [temporary]
  generalize temporaryName target.fileName? process = key at plain ⊢
  cases front with
  | nil =>
    have alone := (Path.segments_join_short plain).1
    rw [Path.parent?_of_one segments leads skip, Option.getD_some]
    refine ⟨[], [], rfl, by simp, alone, ?_⟩
    rw [Path.not_isAbsolute_of_segments alone]
    rw [List.nil_append] at segments
    by_cases more : skips = []
    · rw [more] at segments
      exact (Path.not_isAbsolute_of_segments segments).symm
    · rw [Path.isAbsolute_of_segments segments more]
      exact (Bool.or_eq_false_iff.mp leads).1.symm
  | cons first mid =>
    obtain ⟨between, whole, blank⟩ := Path.trimSegments_append mid
    rw [Path.isAbsolute_of_segments segments (by simp),
      Path.parent?_of_segments segments leads skip]
    by_cases top : first = [] ∧ Path.trimSegments mid = []
    · rw [if_pos top, Option.getD_some]
      obtain ⟨rfl, none⟩ := top
      rw [none, List.nil_append] at whole
      subst whole
      have rooted := (Path.segments_join_short plain).2
      exact ⟨[[]], mid, rfl, blank, rooted, Path.isAbsolute_of_segments rooted (by simp)⟩
    · rw [if_neg top, Option.getD_some]
      have trunk := Path.segments_ofList (List.cons_ne_nil first (Path.trimSegments mid)) ?_
      · have joined := Path.segments_join plain (trunk ▸ Path.getLast?_trunk top)
        rw [trunk] at joined
        refine ⟨first :: Path.trimSegments mid, between, congrArg (first :: ·) whole, blank,
          joined, Path.isAbsolute_of_segments joined (by simp)⟩
      · intro s member
        have inside : s ∈ target.segments := by
          rw [segments]
          rcases List.mem_cons.mp member with rfl | within
          · simp
          · rw [whole]
            simp [within]
        exact Text.not_mem_of_mem_splitOn inside

end Replacement

namespace FileSystem
open Replacement

variable {before after fs : FileSystem} {path target : Path}

theorem Names.segments_of_open {folder : List FileName} {name : FileName}
    (names : fs.Names path folder name false) :
    ∃ front last, path.segments = front ++ [last] ∧
      walk fs.tree (fs.start path) front = .ok folder ∧
      Path.Part.ofSegment? last = some (.named name) := by
  obtain ⟨front, last, blanks, segments, walked, stands, -, none⟩ := names.segments
  rw [none rfl] at segments
  exact ⟨front, last, segments, walked, stands⟩

/-- The temporary file is in the directory of its target. -/
theorem temporary_beside {folder room : List FileName} {name key : FileName} {process : Nat}
    (across : fs.Names target room key false)
    (names : fs.Names (temporary target process) folder name false) :
    folder = room ∧ name = temporaryName (some key) process := by
  obtain ⟨front, last, segments, walked, stands⟩ := across.segments_of_open
  obtain ⟨trunk, skips, rfl, skip, beside, same⟩ :=
    temporary_segments segments stands (by simp) process
  rw [Path.fileName?_of_segments segments stands (by simp)] at beside
  obtain ⟨way, word, cut, entered, named⟩ := names.segments_of_open
  obtain ⟨rfl, ends⟩ := List.append_inj' (beside.symm.trans cut) rfl
  have start : fs.start (temporary target process) = fs.start target := by
    rw [FileSystem.start, FileSystem.start, same]
  rw [start] at entered
  rw [walk_append, entered] at walked
  refine ⟨(walk_skips skip walked).symm, ?_⟩
  obtain ⟨text, -⟩ := Path.ofSegment?_named named
  cases ends
  exact text.symm

theorem replaceFile_steps {bytes : List UInt8} {process : Nat}
    (replaced : fs.replaceFile target bytes process = (after, none)) :
    ∃ created written, fs.write (temporary target process) [] = .ok created ∧
      created.write (temporary target process) bytes = .ok written ∧
      written.rename (temporary target process) target = .ok after := by
  unfold replaceFile Replacement.run at replaced
  generalize temporary target process = temp at replaced ⊢
  cases opened : fs.write temp [] with
  | error e =>
    simp only [opened] at replaced
    cases replaced
  | ok created =>
    cases filled : created.write temp bytes with
    | error e =>
      simp only [opened, filled] at replaced
      cases replaced
    | ok written =>
      cases moved : written.rename temp target with
      | error e =>
        cases cleaned : written.remove temp <;>
          simp [opened, filled, moved, cleaned] at replaced
      | ok renamed =>
        simp only [opened, filled, moved] at replaced
        cases replaced
        exact ⟨created, written, rfl, filled, moved⟩

/-- How a file was replaced: the target and the temporary file are entries of one directory, where
neither is a directory. Then the target holds the bytes, a file that stood where the temporary file
was is gone, and all else is as before. -/
theorem replaceFile_entries {bytes : List UInt8} {process : Nat}
    (replaced : fs.replaceFile target bytes process = (after, none)) :
    ∃ folder name, fs.entry target = .ok ⟨folder, .named name, false⟩ ∧
      fs.entry (temporary target process) =
        .ok ⟨folder, .named (temporaryName (some name) process), false⟩ ∧
      name.length ≤ nameLimit ∧ (temporaryName (some name) process).length ≤ nameLimit ∧
      fs.tree.look (folder ++ [name]) ≠ some none ∧
      fs.tree.look (folder ++ [temporaryName (some name) process]) ≠ some none ∧
      after.place target = .ok (folder ++ [name]) ∧ fs.Keeps after ∧
      ∀ place, after.tree.look place =
        if place = folder ++ [name] then some (some bytes)
        else if place = folder ++ [temporaryName (some name) process] then none
        else fs.tree.look place := by
  obtain ⟨created, written, opened, filled, moved⟩ := replaceFile_steps replaced
  obtain ⟨folder, name, entered, short, bare, first⟩ := write_ok opened
  have made := first.keeps bare
  obtain ⟨other, word, again, -, clear, second⟩ := write_ok filled
  cases (entry_of_keeps made entered).symm.trans again
  have kept := second.keeps clear
  have still := entry_of_keeps kept again
  obtain ⟨room, key, goal, fits, free, same | ⟨between, erased, put⟩⟩ :=
    rename_ok moved still second.here
  all_goals obtain ⟨rfl, rfl⟩ :=
    temporary_beside (names_of_entry goal rfl) (names_of_entry still rfl)
  · have words := (List.append_inj' same rfl).2
    exact absurd (List.cons.inj words).1 (temporaryName_ne key process)
  · have apart : folder ++ [key] ≠ folder ++ [temporaryName (some key) process] := by
      intro same
      have words := (List.append_inj' same rfl).2
      exact temporaryName_ne key process (List.cons.inj words).1.symm
    have gone := erased.keeps (by simp [second.here])
    have arrived : between.Keeps after := by
      apply put.keeps
      rw [erased.look, if_neg apart]
      exact free
    have names : after.Names target folder key false :=
      names_of_entry (entry_of_keeps (gone.trans arrived) goal) rfl
    have back := (first.again second).keeps_back (by simp)
    have before : fs.tree.look (folder ++ [key]) = written.tree.look (folder ++ [key]) := by
      rw [(first.again second).look, if_neg apart]
    refine ⟨folder, key, entry_of_keeps back goal, entered, fits, short, before ▸ free, bare, ?_,
      (made.trans kept).trans (gone.trans arrived), ?_⟩
    · exact names.place fits (by simp [put.here]) (by simp)
    · intro place
      rw [put.look, erased.look, (first.again second).look]
      split
      · rfl
      · split <;> rfl

/-- A file that was replaced holds the bytes. A file that stood where the temporary file was is
gone, and all else is as before. -/
theorem replaceFile_ok {bytes : List UInt8} {process : Nat}
    (replaced : fs.replaceFile target bytes process = (after, none)) :
    ∃ folder name, after.place target = .ok (folder ++ [name]) ∧ fs.Keeps after ∧
      fs.tree.look (folder ++ [temporaryName (some name) process]) ≠ some none ∧
      ∀ place, after.tree.look place =
        if place = folder ++ [name] then some (some bytes)
        else if place = folder ++ [temporaryName (some name) process] then none
        else fs.tree.look place := by
  obtain ⟨folder, name, -, -, -, -, -, bare, leads, kept, seen⟩ := replaceFile_entries replaced
  exact ⟨folder, name, leads, kept, bare, seen⟩

section Directories

variable {middle : FileSystem} {way road : Path → Prop}

/-- Directories were added where paths of some kind lead to. Nothing was there before. -/
structure Adds (before after : FileSystem) (way : Path → Prop) : Prop where
  workPlace : after.workPlace = before.workPlace
  look : ∀ place, after.tree.look place = before.tree.look place ∨
    before.tree.look place = none ∧ after.tree.look place = some none ∧
      ∃ path, way path ∧ after.place path = .ok place

theorem Adds.refl (fs : FileSystem) (way : Path → Prop) : fs.Adds fs way :=
  ⟨rfl, fun _ => .inl rfl⟩

theorem Adds.keeps (adds : before.Adds after way) : before.Keeps after where
  workPlace := adds.workPlace
  directories place there := by
    rcases adds.look place with same | ⟨none, -⟩
    · rw [same, there]
    · rw [none] at there
      cases there

theorem Adds.mono (adds : before.Adds after way) (wider : ∀ path, way path → road path) :
    before.Adds after road := by
  refine ⟨adds.workPlace, fun place => (adds.look place).imp_right ?_⟩
  rintro ⟨none, made, path, on, leads⟩
  exact ⟨none, made, path, wider path on, leads⟩

theorem Adds.trans (first : before.Adds middle way) (second : middle.Adds after way) :
    before.Adds after way := by
  refine ⟨second.workPlace.trans first.workPlace, fun place => ?_⟩
  rcases second.look place with same | ⟨none, made, found⟩
  · rcases first.look place with still | ⟨none, made, path, on, leads⟩
    · exact .inl (same.trans still)
    · exact .inr ⟨none, same.trans made, path, on, place_of_keeps second.keeps leads made⟩
  · rcases first.look place with still | ⟨-, there, -⟩
    · exact .inr ⟨still ▸ none, made, found⟩
    · rw [there] at none
      cases none

theorem makeDirectory_adds (made : fs.makeDirectory path = .ok after) :
    fs.Adds after (· = path) := by
  obtain ⟨kept, place, leads, nothing, sets⟩ := makeDirectory_ok made
  refine ⟨kept.workPlace, fun other => ?_⟩
  by_cases here : other = place
  · subst here
    exact .inr ⟨nothing, sets.here, path, rfl, leads⟩
  · exact .inl (by rw [sets.look, if_neg here])

theorem ensureDirectory_adds (fs : FileSystem) (path : Path) :
    fs.Adds (fs.ensureDirectory path).1 (· = path) := by
  rw [ensureDirectory]
  cases made : fs.makeDirectory path with
  | ok after => exact makeDirectory_adds made
  | error e => exact Adds.refl fs _

end Directories

end FileSystem

namespace Path

/-- The paths that a path passes through on its way: its parent, and those that its parent passes
through. -/
inductive Passes : Path → Path → Prop
  | parent {p q : Path} : p.parent? = some q → Passes p q
  | further {p q r : Path} : p.parent? = some q → Passes q r → Passes p r

end Path

namespace FileSystem

/-- A directory is made with those that its path passes through, whether that goes well or not. -/
theorem makeDirectoriesFrom_adds (fs : FileSystem) (steps : Nat) (path : Path) :
    fs.Adds (fs.makeDirectoriesFrom steps path).1 fun p => p = path ∨ path.Passes p := by
  induction steps generalizing path with
  | zero => exact Adds.refl fs _
  | succ steps ih =>
    have ensured (fs : FileSystem) :
        fs.Adds (fs.ensureDirectory path).1 fun p => p = path ∨ path.Passes p :=
      (fs.ensureDirectory_adds path).mono fun p => .inl
    rw [makeDirectoriesFrom]
    split
    · exact Adds.refl fs _
    · split
      · exact Adds.refl fs _
      · rename_i parent _ above
        have parents : fs.Adds (fs.makeDirectoriesFrom steps parent).1
            fun p => p = path ∨ path.Passes p := by
          refine (ih parent).mono ?_
          rintro p (rfl | passes)
          · exact .inr (.parent above)
          · exact .inr (.further above passes)
        split
        · rename_i made
          rw [made] at parents
          exact parents.trans (ensured _)
        · rename_i made
          rw [made] at parents
          exact parents
      · exact ensured fs

end FileSystem

end AmdBundler
