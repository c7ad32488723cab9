import AmdBundler.Proofs.AsciiBytes
import AmdBundler.Source.Fetcher

namespace AmdBundler

namespace Lines
open Text

/-- The pieces of a text between the ends of its lines: a carriage return and a line feed in a row,
or one of them alone. -/
def pieces : List Char → List (List Char)
  | [] => [[]]
  | '\r' :: '\n' :: text => [] :: pieces text
  | '\n' :: text => [] :: pieces text
  | '\r' :: text => [] :: pieces text
  | c :: text => (pieces text).modifyHead (c :: ·)

/-- Lines do not end in an empty piece. -/
def closed (pieces : List (List Char)) : List (List Char) :=
  if pieces.getLast? = some [] then pieces.dropLast else pieces

/-- The text of a file whose lines are joined by line feeds, after its byte order mark. -/
def normalised (text : List Char) : List Char :=
  ['\n'].intercalate (closed (pieces (dropMark text)))

/-- `splitReturns` on characters. -/
def returns (text : List Char) : List (List Char) :=
  if text.getLast? = some '\r' then (text.splitOn '\r').dropLast else text.splitOn '\r'

/-- The pieces of a text whose parts are between line feeds: what ends a part ends a line. -/
def piecesOf : List (List Char) → List (List Char)
  | [] => []
  | [last] => last.splitOn '\r'
  | part :: next :: parts => returns part ++ piecesOf (next :: parts)

section Closed

variable {part : List Char} {parts front : List (List Char)} {text : List Char}

theorem closed_singleton (full : part ≠ []) : closed [part] = [part] := by
  simp [closed, full]

theorem closed_append (some : parts ≠ []) : closed (front ++ parts) = front ++ closed parts := by
  rw [closed, closed, List.getLast?_append_of_ne_nil _ some, List.dropLast_append_of_ne_nil some]
  split <;> rfl

theorem closed_cons (some : parts ≠ []) : closed (part :: parts) = part :: closed parts :=
  show closed ([part] ++ parts) = [part] ++ closed parts from closed_append some

theorem returns_eq_closed (full : text ≠ []) : returns text = closed (text.splitOn '\r') := by
  simp only [returns, closed, getLast?_splitOn, full, false_or]

theorem returns_return (full : text ≠ []) : returns ('\r' :: text) = [] :: returns text := by
  rw [returns_eq_closed full, returns_eq_closed (List.cons_ne_nil _ _), splitOn_mark,
    closed_cons (List.splitOn_ne_nil _ _)]

theorem returns_plain {c : Char} (plain : c ≠ '\r') (text : List Char) :
    returns (c :: text) = (returns text).modifyHead (c :: ·) := by
  by_cases full : text = []
  · subst full
    simp [returns, plain, splitOn_plain plain]
  · rw [returns_eq_closed full, returns_eq_closed (List.cons_ne_nil _ _), splitOn_plain plain]
    cases cut : text.splitOn '\r' with
    | nil => exact absurd cut (List.splitOn_ne_nil _ _)
    | cons part parts =>
      cases parts with
      | nil =>
        have whole : text = part := by
          have joined : ['\r'].intercalate (text.splitOn '\r') = text :=
            List.intercalate_splitOn '\r'
          rw [cut] at joined
          simpa [List.intercalate] using joined.symm
        rw [closed_singleton (whole ▸ full), List.modifyHead_cons,
          closed_singleton (List.cons_ne_nil _ _)]
      | cons next parts =>
        rw [List.modifyHead_cons, closed_cons (List.cons_ne_nil _ _),
          closed_cons (List.cons_ne_nil _ _), List.modifyHead_cons]

theorem returns_ne_nil (text : List Char) : returns text ≠ [] := by
  induction text with
  | nil => exact List.cons_ne_nil _ _
  | cons c text ih =>
    by_cases plain : c = '\r'
    · subst plain
      by_cases full : text = []
      · subst full
        exact List.cons_ne_nil _ _
      · rw [returns_return full]
        exact List.cons_ne_nil _ _
    · rw [returns_plain plain]
      simpa using ih

theorem piecesOf_cons (some : parts ≠ []) :
    piecesOf (part :: parts) = returns part ++ piecesOf parts := by
  cases parts with
  | nil => exact absurd rfl some
  | cons next parts => rfl

theorem piecesOf_ne_nil (some : parts ≠ []) : piecesOf parts ≠ [] := by
  induction parts with
  | nil => exact absurd rfl some
  | cons part parts ih =>
    by_cases single : parts = []
    · subst single
      exact List.splitOn_ne_nil _ _
    · rw [piecesOf_cons single]
      exact List.append_ne_nil_of_right_ne_nil _ (ih single)

theorem closed_piecesOf (some : parts ≠ []) :
    closed (piecesOf parts) = (closed parts).flatMap returns := by
  induction parts with
  | nil => exact absurd rfl some
  | cons part parts ih =>
    by_cases single : parts = []
    · subst single
      by_cases full : part = []
      · subst full
        rfl
      · rw [closed_singleton full, List.flatMap_singleton, returns_eq_closed full]
        rfl
    · rw [piecesOf_cons single, closed_append (piecesOf_ne_nil single), closed_cons single,
        List.flatMap_cons, ih single]

end Closed

theorem pieces_eq (text : List Char) : pieces text = piecesOf (text.splitOn '\n') := by
  induction text using pieces.induct with
  | case1 => rfl
  | case2 text ih =>
    rw [pieces, ih, splitOn_plain (by decide), splitOn_mark, List.modifyHead_cons,
      piecesOf_cons (List.splitOn_ne_nil _ _)]
    rfl
  | case3 text ih =>
    rw [pieces, ih, splitOn_mark, piecesOf_cons (List.splitOn_ne_nil _ _)]
    rfl
  | case4 text apart ih =>
    rw [pieces.eq_4 text apart, ih, splitOn_plain (by decide)]
    cases cut : text.splitOn '\n' with
    | nil => exact absurd cut (List.splitOn_ne_nil _ _)
    | cons part parts =>
      rw [List.modifyHead_cons]
      cases parts with
      | nil => exact (splitOn_mark '\r' part).symm
      | cons next parts =>
        have full : part ≠ [] := by
          rintro rfl
          refine apart (['\n'].intercalate (next :: parts)) ?_
          have joined : ['\n'].intercalate (text.splitOn '\n') = text :=
            List.intercalate_splitOn '\n'
          rw [cut] at joined
          exact joined.symm
        rw [piecesOf, piecesOf, returns_return full, List.cons_append]
  | case5 c text apart other plain ih =>
    rw [pieces.eq_5 c text apart other plain, ih, splitOn_plain other]
    cases cut : text.splitOn '\n' with
    | nil => exact absurd cut (List.splitOn_ne_nil _ _)
    | cons part parts =>
      rw [List.modifyHead_cons]
      cases parts with
      | nil => exact (splitOn_plain plain part).symm
      | cons next parts =>
        rw [piecesOf, piecesOf, returns_plain plain]
        obtain ⟨line, lines, cut⟩ := List.exists_cons_of_ne_nil (returns_ne_nil part)
        rw [cut]
        rfl

theorem lineFeed_marks : Utf8.Marks lineFeed '\n' := ⟨by decide, by decide, by decide⟩

theorem carriageReturn_marks : Utf8.Marks carriageReturn '\r' :=
  ⟨by decide, by decide, by decide⟩

theorem map_decodeLossy_splitReturns (bytes : List UInt8) :
    (splitReturns bytes).map Utf8.decodeLossy = returns (Utf8.decodeLossy bytes) := by
  simp only [splitReturns, returns, Utf8.getLast?_decodeLossy carriageReturn_marks,
    ← Utf8.map_decodeLossy_splitOn carriageReturn_marks]
  split
  · rw [List.map_dropLast]
  · rfl

/-- The lines of bytes stand for the lines of their text. -/
theorem map_decodeLossy_split (bytes : List UInt8) :
    (split bytes).map Utf8.decodeLossy = closed (pieces (Utf8.decodeLossy bytes)) := by
  have parts : (if (bytes.splitOn lineFeed).getLast? = some [] then
        (bytes.splitOn lineFeed).dropLast else bytes.splitOn lineFeed).map Utf8.decodeLossy =
      closed ((Utf8.decodeLossy bytes).splitOn '\n') := by
    rw [closed, ← Utf8.map_decodeLossy_splitOn lineFeed_marks, List.getLast?_map]
    have last : (bytes.splitOn lineFeed).getLast?.map Utf8.decodeLossy = some [] ↔
        (bytes.splitOn lineFeed).getLast? = some [] := by
      simp [Option.map_eq_some_iff, Utf8.decodeLossy_eq_nil_iff]
    simp only [last]
    split
    · rw [List.map_dropLast]
    · rfl
  rw [pieces_eq, closed_piecesOf (List.splitOn_ne_nil _ _), ← parts, List.flatMap_map, split,
    List.map_flatMap]
  simp only [map_decodeLossy_splitReturns]

section Normalised

theorem pieces_ne_nil (text : List Char) : pieces text ≠ [] := by
  rw [pieces_eq]
  exact piecesOf_ne_nil (List.splitOn_ne_nil _ _)

/-- No text is lost between the lines but their ends. -/
theorem flatten_pieces (text : List Char) :
    (pieces text).flatten = text.filter fun c => c ≠ '\n' ∧ c ≠ '\r' := by
  induction text using pieces.induct with
  | case1 => rfl
  | case2 text ih => simpa [pieces] using ih
  | case3 text ih => simpa [pieces] using ih
  | case4 text apart ih => simpa [pieces.eq_4 text apart] using ih
  | case5 c text apart other plain ih =>
    rw [pieces.eq_5 c text apart other plain]
    obtain ⟨piece, more, cut⟩ := List.exists_cons_of_ne_nil (pieces_ne_nil text)
    rw [cut] at ih ⊢
    have kept : c ≠ '\n' ∧ c ≠ '\r' := ⟨other, plain⟩
    rw [List.filter_cons_of_pos (by simpa using kept), ← ih]
    rfl

theorem flatten_closed (parts : List (List Char)) : (closed parts).flatten = parts.flatten := by
  rw [closed]
  split
  · rename_i last
    obtain ⟨front, rfl⟩ := List.getLast?_eq_some_iff.mp last
    simp
  · rfl

theorem dropMark_cons {c : Char} (plain : c ≠ '\uFEFF') (text : List Char) :
    dropMark (c :: text) = c :: text := by
  rw [dropMark]
  intro _ marked
  exact plain (List.cons.inj marked).1

theorem modifyHead_pieces (text : List Char) :
    (pieces text).modifyHead dropMark = pieces (dropMark text) := by
  cases text using pieces.fun_cases with
  | case1 => rfl
  | case2 text => rfl
  | case3 text => rfl
  | case4 text apart =>
    rw [dropMark_cons (by decide), pieces.eq_4 text apart]
    rfl
  | case5 c text apart other plain =>
    rw [pieces.eq_5 c text apart other plain]
    obtain ⟨piece, more, cut⟩ := List.exists_cons_of_ne_nil (pieces_ne_nil text)
    by_cases mark : c = '\uFEFF'
    · subst mark
      rw [dropMark, cut]
      rfl
    · rw [dropMark_cons mark, pieces.eq_5 c text apart other plain, cut, List.modifyHead_cons,
        List.modifyHead_cons, dropMark_cons mark]

/-- A first line that was only a mark is an empty text, like no line at all. -/
theorem intercalate_closed_modifyHead (parts : List (List Char)) :
    ['\n'].intercalate ((closed parts).modifyHead dropMark) =
      ['\n'].intercalate (closed (parts.modifyHead dropMark)) := by
  cases parts with
  | nil => rfl
  | cons part parts =>
    by_cases single : parts = []
    · subst single
      by_cases full : part = []
      · subst full
        rfl
      · rw [closed_singleton full, List.modifyHead_cons]
        by_cases bare : dropMark part = []
        · rw [bare]
          rfl
        · rw [closed_singleton bare]
    · rw [closed_cons single, List.modifyHead_cons, List.modifyHead_cons, closed_cons single]

theorem read_eq_normalised (bytes : List UInt8) :
    read bytes = String.ofList (normalised (Utf8.decodeLossy bytes)) := by
  have first : decode bytes = ((split bytes).map Utf8.decodeLossy).modifyHead dropMark := by
    rw [decode]
    split <;> simp_all
  rw [read, first, map_decodeLossy_split, intercalate_closed_modifyHead, modifyHead_pieces,
    normalised]

theorem mem_intercalate {c : Char} {sep : List Char} {parts : List (List Char)}
    (member : c ∈ sep.intercalate parts) : c ∈ sep ∨ c ∈ parts.flatten := by
  induction parts with
  | nil => simp at member
  | cons part parts ih =>
    cases parts with
    | nil =>
      right
      simpa using member
    | cons next parts =>
      rw [List.intercalate_cons_cons, List.append_assoc, List.mem_append, List.mem_append] at member
      rw [List.flatten_cons, List.mem_append]
      rcases member with here | between | later
      · exact .inr (.inl here)
      · exact .inl between
      · exact (ih later).imp_right .inr

theorem return_not_mem_normalised (text : List Char) : '\r' ∉ normalised text := by
  intro member
  rcases mem_intercalate member with separator | inside
  · exact absurd separator (by decide)
  · rw [flatten_closed, flatten_pieces] at inside
    simpa using (List.mem_filter.mp inside).2

end Normalised

/-- An empty line stays, the piece after the last end does not. -/
example : normalised "\uFEFFa\r\nb\r\rc\n".toList = "a\nb\n\nc".toList := by decide

end Lines

namespace Fetcher

theorem fetch_filesystem (f : Fetcher) {files : FileSystem} {path : String} {bytes : List UInt8}
    (stored : files.read (f.locate path) = .ok bytes) (network : Network) :
    ({ f with strategy := .filesystem }).fetch files network path =
      .ok (String.ofList (Utf8.decodeLossy bytes)) := by
  change f.readFile files path _ = _
  rw [readFile, stored]

theorem fetch_embedded (f : Fetcher) {files : FileSystem} {path : String} {bytes : List UInt8}
    (stored : files.read (f.locate path) = .ok bytes) (network : Network) :
    ({ f with strategy := .embedded }).fetch files network path = .ok (Lines.read bytes) := by
  change f.readFile files path _ = _
  rw [readFile, stored]

/-- Both strategies fail for the same files, and with the same fault. -/
theorem fetch_unreadable (f : Fetcher) {files : FileSystem} {path : String} {cause : FileError}
    (stuck : files.read (f.locate path) = .error cause) (network : Network) :
    ({ f with strategy := .filesystem }).fetch files network path =
        .error (.unreadable (f.locate path) cause) ∧
      ({ f with strategy := .embedded }).fetch files network path =
        .error (.unreadable (f.locate path) cause) := by
  constructor
  all_goals
    change f.readFile files path _ = _
    rw [readFile, stuck]

/-- Reading line by line gives the text of the file with its line ends normalised. The text of any
bytes is fetched, decoded at once or line by line; either way they stand for the same characters,
and line by line no carriage return is left. -/
theorem embedded_fetch_eq_normalised (f : Fetcher) (files : FileSystem) (network : Network)
    (path : String) :
    ({ f with strategy := .embedded }).fetch files network path =
      (({ f with strategy := .filesystem }).fetch files network path).map
        (fun text : String => String.ofList (Lines.normalised text.toList)) ∧
    ∀ bytes, files.read (f.locate path) = .ok bytes →
      ({ f with strategy := .filesystem }).fetch files network path =
        .ok (String.ofList (Utf8.decodeLossy bytes)) ∧
      ({ f with strategy := .embedded }).fetch files network path = .ok (Lines.read bytes) ∧
      (Lines.read bytes).toList = Lines.normalised (Utf8.decodeLossy bytes) ∧
      (Lines.split bytes).flatMap Utf8.decodeLossy =
        (Utf8.decodeLossy bytes).filter (fun c => c ≠ '\n' ∧ c ≠ '\r') ∧
      ((Lines.split bytes).flatMap Utf8.decodeLossy).count '\uFFFD' =
        (Utf8.decodeLossy bytes).count '\uFFFD' ∧
      '\r' ∉ (Lines.read bytes).toList := by
  constructor
  · cases stored : files.read (f.locate path) with
    | ok bytes =>
      rw [fetch_embedded f stored, fetch_filesystem f stored, Except.map, String.toList_ofList,
        Lines.read_eq_normalised]
    | error cause =>
      obtain ⟨whole, byLine⟩ := fetch_unreadable f stored network
      rw [whole, byLine]
      rfl
  · intro bytes stored
    have text : (Lines.read bytes).toList = Lines.normalised (Utf8.decodeLossy bytes) := by
      rw [Lines.read_eq_normalised, String.toList_ofList]
    have kept : (Lines.split bytes).flatMap Utf8.decodeLossy =
        (Utf8.decodeLossy bytes).filter (fun c => c ≠ '\n' ∧ c ≠ '\r') := by
      rw [List.flatMap_def, Lines.map_decodeLossy_split, Lines.flatten_closed, Lines.flatten_pieces]
    refine ⟨fetch_filesystem f stored network, fetch_embedded f stored network, text, kept, ?_, ?_⟩
    · rw [kept, List.count_filter (by decide)]
    · rw [text]
      exact Lines.return_not_mem_normalised _

end Fetcher

end AmdBundler
