import AmdBundler.Proofs.IdentityArtifact
import AmdBundler.Proofs.Occurrences

namespace AmdBundler.Directive

open Text

def nameLetters : List Char := nameMark.tail

def mapLetters : List Char := mapMark.tail

theorem nameMark_eq : nameMark = '\n' :: nameLetters := by rfl

theorem mapMark_eq : mapMark = '\n' :: mapLetters := by rfl

theorem newline_not_mem_nameLetters : '\n' ∉ nameLetters := by decide

theorem newline_not_mem_mapLetters : '\n' ∉ mapLetters := by decide

theorem comment_prefix_nameLetters : "//@ ".toList <+: nameLetters := by decide

theorem comment_prefix_mapLetters : "//@ ".toList <+: mapLetters := by decide

theorem not_nameMark_prefix_mapMark (payload : List Char) : ¬nameMark <+: mapMark ++ payload := by
  intro long
  have start : nameMark <+: mapMark :=
    List.prefix_of_prefix_length_le long (List.prefix_append _ _) (by decide)
  exact absurd start (by decide)

/-- Base64 holds digits and padding only. -/
theorem not_mem_payload {c : Char} (foreign : Base64.value? c = none) (unpadded : c ≠ '=')
    {map payload : List Char} (encoded : encodeMap map = .ok payload) : c ∉ payload := by
  rw [encodeMap] at encoded
  split at encoded
  · cases encoded
  · cases encoded
    intro member
    rcases Base64.mem_encode _ _ member with digit | pad
    · rw [foreign] at digit
      cases digit
    · exact unpadded pad

theorem newline_not_mem_payload {map payload : List Char}
    (encoded : encodeMap map = .ok payload) : '\n' ∉ payload :=
  not_mem_payload rfl (by decide) encoded

def mapLine : Option (List Char) → List Char
  | some payload => mapMark ++ payload
  | none => []

/-- The directives name the path, and go on with the map if there is one, it is to be encoded, and
the encoder takes it. -/
theorem directives_cases (path : List Char) (map : Option (List Char)) (canEncode : Bool) :
    (∃ m payload, map = some m ∧ canEncode = true ∧ encodeMap m = .ok payload ∧
      directives path map canEncode =
        (nameMark ++ (path ++ mapLine (some payload)), .embedded)) ∨
    ∃ embedding, embedding ≠ .embedded ∧
      (∀ m payload, map = some m → canEncode = true → encodeMap m ≠ .ok payload) ∧
      directives path map canEncode = (nameMark ++ (path ++ mapLine none), embedding) := by
  cases map with
  | none => exact .inr ⟨.noSourceMap, by simp, by simp, by simp [directives, mapLine]⟩
  | some m =>
    cases canEncode with
    | false => exact .inr ⟨.encoderUnavailable, by simp, by simp, by simp [directives, mapLine]⟩
    | true =>
      cases encoded : encodeMap m with
      | error wide =>
        refine .inr ⟨.encodingFailed wide, by simp, ?_, by simp [directives, encoded, mapLine]⟩
        rintro _ payload ⟨⟩ -
        simp [encoded]
      | ok payload =>
        exact .inl ⟨m, payload, rfl, rfl, encoded, by simp [directives, encoded, mapLine]⟩

theorem directives_text (path : List Char) (map : Option (List Char)) (canEncode : Bool) :
    ∃ payload, (directives path map canEncode).1 = nameMark ++ (path ++ mapLine payload) ∧
      ∀ p, payload = some p → ∃ m, encodeMap m = .ok p := by
  rcases directives_cases path map canEncode with
    ⟨m, payload, -, -, encoded, made⟩ | ⟨embedding, -, -, made⟩
  · refine ⟨some payload, by rw [made], ?_⟩
    rintro p ⟨⟩
    exact ⟨m, encoded⟩
  · exact ⟨none, by rw [made], fun p absent => nomatch absent⟩

theorem append_eq (js outputPath : String) (map : Option String) (canEncode : Bool) :
    append js outputPath map canEncode =
      (String.ofList (js.toList ++
          (directives outputPath.toList (map.map String.toList) canEncode).1),
        (directives outputPath.toList (map.map String.toList) canEncode).2) := rfl

/-- There is a map, an encoder takes it, and it fits. -/
def Carries (map : Option String) (canEncode : Bool) : Prop :=
  canEncode = true ∧ ∃ m, map = some m ∧ Latin1 m.toList

/-- The map is carried, or there is no second directive. -/
theorem append_carries (js outputPath : String) (map : Option String) (canEncode : Bool) :
    (∃ m payload, map = some m ∧ Carries map canEncode ∧ readMap? payload = some m.toList ∧
      '\n' ∉ payload ∧ append js outputPath map canEncode =
        (String.ofList (js.toList ++ nameMark ++ (outputPath.toList ++ mapLine (some payload))),
          .embedded)) ∨
    (¬Carries map canEncode ∧ ∃ embedding, embedding ≠ .embedded ∧
      append js outputPath map canEncode =
        (String.ofList (js.toList ++ nameMark ++ (outputPath.toList ++ mapLine none)),
          embedding)) := by
  rcases directives_cases outputPath.toList (map.map String.toList) canEncode with
    ⟨letters, payload, isMap, encoder, encoded, made⟩ | ⟨embedding, apart, refuses, made⟩
  · left
    obtain ⟨m, rfl, rfl⟩ := Option.map_eq_some_iff.mp isMap
    have fits := (encodeMap_eq_ok_iff.mp encoded).1
    obtain ⟨_, same, read⟩ := encodeMap_of_latin1 fits
    obtain rfl := Except.ok.inj (encoded.symm.trans same)
    exact ⟨m, payload, rfl, ⟨encoder, m, rfl, fits⟩, read, newline_not_mem_payload encoded,
      by rw [append_eq, made, List.append_assoc]⟩
  · right
    refine ⟨?_, embedding, apart, by rw [append_eq, made, List.append_assoc]⟩
    rintro ⟨encoder, m, rfl, narrow⟩
    obtain ⟨payload, encoded, -⟩ := encodeMap_of_latin1 narrow
    exact refuses m.toList payload rfl encoder encoded

theorem lastAt_map (before : List Char) {payload : List Char} (plain : '\n' ∉ payload) :
    LastAt mapMark (before ++ mapMark ++ payload) before payload :=
  lastAt_of_occurrences newline_not_mem_mapLetters (occurrences_plain plain)

/-- The compiled text, its path and the map that it carries. -/
structure Parts where
  js : List Char
  outputPath : List Char
  map : Option (List Char)
deriving DecidableEq

/-- Reads the last directives of a text. -/
def recover? (text : List Char) : Option Parts :=
  (splitLastAt? nameMark text).map fun (js, behind) =>
    ⟨js, behind.takeWhile (· ≠ '\n'),
      (dropStart? mapMark (behind.dropWhile (· ≠ '\n'))).bind readMap?⟩

def lines (path : List Char) : Option (List Char) → List (List Char)
  | some payload => [nameLetters ++ path, mapLetters ++ payload]
  | none => [nameLetters ++ path]

theorem flatMap_lines (path : List Char) (payload : Option (List Char)) :
    (lines path payload).flatMap ('\n' :: ·) = nameMark ++ (path ++ mapLine payload) := by
  cases payload with
  | none => simp [lines, mapLine, nameMark_eq]
  | some payload => simp [lines, mapLine, nameMark_eq, mapMark_eq]

/-- What can be told from a compiled text with directives behind it, if the path is on one line. -/
structure Tells (text js path : List Char) (payload : Option (List Char)) : Prop where
  name : ∃ behind, LastAt nameMark text js behind ∧ behind.takeWhile (· ≠ '\n') = path ∧
    ('\n' ∈ behind ↔ payload.isSome = true)
  added : ∃ added : List (List Char), text = js ++ added.flatMap ('\n' :: ·) ∧
    added.length = (if payload.isSome = true then 2 else 1) ∧
    ∀ line ∈ added, "//@ ".toList <+: line ∧ '\n' ∉ line
  once : occurrences nameMark text = occurrences nameMark js + 1
  parts : recover? text = some ⟨js, path, payload.bind readMap?⟩

section OneLine

variable {path : List Char} (line : '\n' ∉ path)
include line

theorem takeWhile_path (payload : Option (List Char)) :
    (path ++ mapLine payload).takeWhile (· ≠ '\n') = path ∧
      (path ++ mapLine payload).dropWhile (· ≠ '\n') = mapLine payload := by
  have inside := all_ne_of_not_mem line
  rw [List.takeWhile_append_of_pos inside, List.dropWhile_append_of_pos inside]
  cases payload with
  | none => exact ⟨List.append_nil path, rfl⟩
  | some payload => exact ⟨List.append_nil path, rfl⟩

variable {payload : Option (List Char)} (plain : ∀ p, payload = some p → '\n' ∉ p)
include plain

/-- Behind a path on one line and base64 there is no other name. -/
theorem occurrences_behind : occurrences nameMark (path ++ mapLine payload) = 0 := by
  rw [nameMark_eq, occurrences_plain_append line]
  cases payload with
  | none => exact occurrences_nil
  | some payload =>
    have elsewhere := not_nameMark_prefix_mapMark payload
    rw [nameMark_eq, mapMark_eq, List.cons_append] at elsewhere
    rw [mapLine, mapMark_eq, List.cons_append, occurrences_cons, if_neg elsewhere, Nat.add_zero]
    refine occurrences_plain ?_
    rw [List.mem_append, not_or]
    exact ⟨newline_not_mem_mapLetters, plain payload rfl⟩

theorem lastAt_name (js : List Char) :
    LastAt nameMark (js ++ nameMark ++ (path ++ mapLine payload)) js (path ++ mapLine payload) :=
  lastAt_of_occurrences newline_not_mem_nameLetters (occurrences_behind line plain)

/-- Only the directives in a compiled text come before the one that is put behind it. -/
theorem occurrences_name (js : List Char) :
    occurrences nameMark (js ++ nameMark ++ (path ++ mapLine payload)) =
      occurrences nameMark js + 1 := by
  have behind := occurrences_behind line plain
  rw [nameMark_eq] at behind ⊢
  rw [occurrences_cut newline_not_mem_nameLetters, behind]

theorem recover?_of_parts (js : List Char) :
    recover? (js ++ nameMark ++ (path ++ mapLine payload)) =
      some ⟨js, path, payload.bind readMap?⟩ := by
  obtain ⟨taken, left⟩ := takeWhile_path line payload
  have some_ : nameMark ≠ [] := by simp [nameMark_eq]
  rw [recover?, splitLastAt?_of_lastAt some_ (lastAt_name line plain js)]
  simp only [Option.map_some, taken, left]
  cases payload with
  | none => rfl
  | some payload =>
    have start : dropStart? mapMark (mapMark ++ payload) = some payload :=
      dropStart?_eq_some_iff.mpr rfl
    simp only [mapLine, start]

theorem mem_lines : ∀ l ∈ lines path payload, "//@ ".toList <+: l ∧ '\n' ∉ l := by
  have name : "//@ ".toList <+: nameLetters ++ path ∧ '\n' ∉ nameLetters ++ path :=
    ⟨comment_prefix_nameLetters.trans (List.prefix_append _ _),
      by simp [line, newline_not_mem_nameLetters]⟩
  cases payload with
  | none =>
    rw [lines, List.forall_mem_singleton]
    exact name
  | some payload =>
    have map : "//@ ".toList <+: mapLetters ++ payload ∧ '\n' ∉ mapLetters ++ payload :=
      ⟨comment_prefix_mapLetters.trans (List.prefix_append _ _),
        by simp [plain payload rfl, newline_not_mem_mapLetters]⟩
    rw [lines, List.forall_mem_cons, List.forall_mem_singleton]
    exact ⟨name, map⟩

theorem tells (js : List Char) :
    Tells (js ++ nameMark ++ (path ++ mapLine payload)) js path payload := by
  refine ⟨⟨_, lastAt_name line plain js, (takeWhile_path line payload).1, ?_⟩,
    ⟨lines path payload, ?_, ?_, mem_lines line plain⟩, occurrences_name line plain js,
    recover?_of_parts line plain js⟩
  · cases payload <;> simp [mapLine, mapMark_eq, line]
  · rw [flatMap_lines, List.append_assoc]
  · cases payload <;> rfl

end OneLine

/-- Nothing is lost behind a compiled text, and the status tells the truth. The map is embedded if
there is one, there is an encoder, and it fits; then it is behind the last directive for maps, and
otherwise no such directive is added. If the path is on one line, the last directive for names is
the one behind the compiled text, the path is the rest of its line, the map is on a line of its own,
and all three can be read from the text. -/
theorem append_tells_parts (js outputPath : String) (map : Option String) (canEncode : Bool) :
    let text := (append js outputPath map canEncode).1.toList
    let embedding := (append js outputPath map canEncode).2
    (embedding = .embedded ↔ canEncode = true ∧ ∃ m, map = some m ∧ Latin1 m.toList) ∧
    (embedding = .embedded → ∃ m before payload, map = some m ∧
      LastAt mapMark text before payload ∧ readMap? payload = some m.toList) ∧
    (embedding ≠ .embedded → text = js.toList ++ nameMark ++ outputPath.toList) ∧
    ('\n' ∉ outputPath.toList →
      (∃ behind, LastAt nameMark text js.toList behind ∧
        behind.takeWhile (· ≠ '\n') = outputPath.toList ∧
        ('\n' ∈ behind ↔ embedding = .embedded)) ∧
      (∃ added : List (List Char), text = js.toList ++ added.flatMap ('\n' :: ·) ∧
        added.length = (if embedding = .embedded then 2 else 1) ∧
        ∀ line ∈ added, "//@ ".toList <+: line ∧ '\n' ∉ line) ∧
      occurrences nameMark text = occurrences nameMark js.toList + 1 ∧
      recover? text = some ⟨js.toList, outputPath.toList,
        if embedding = .embedded then map.map String.toList else none⟩) := by
  intro text embedding
  rcases append_carries js outputPath map canEncode with
    ⟨m, payload, rfl, carries, read, plain, made⟩ | ⟨bare, other, apart, made⟩
  · have text_eq : text = js.toList ++ nameMark ++ (outputPath.toList ++ mapLine (some payload)) := by
      simp only [text, made, String.toList_ofList]
    have embedded : embedding = .embedded := by simp only [embedding, made]
    rw [text_eq, embedded]
    refine ⟨⟨fun _ => carries, fun _ => rfl⟩, fun _ => ?_, fun absent => absurd rfl absent, ?_⟩
    · refine ⟨m, js.toList ++ nameMark ++ outputPath.toList, payload, rfl, ?_, read⟩
      rw [mapLine, ← List.append_assoc, ← List.append_assoc]
      exact lastAt_map _ plain
    · intro line
      have single : ∀ p, some payload = some p → '\n' ∉ p := by
        rintro p ⟨⟩
        exact plain
      obtain ⟨name, added, once, parts⟩ := tells line single js.toList
      rw [Option.bind_some, read] at parts
      exact ⟨by simpa using name, by simpa using added, once, by simpa using parts⟩
  · have text_eq : text = js.toList ++ nameMark ++ (outputPath.toList ++ mapLine none) := by
      simp only [text, made, String.toList_ofList]
    have status : embedding = other := by simp only [embedding, made]
    rw [text_eq, status]
    refine ⟨⟨fun same => absurd same apart, fun carries => absurd carries bare⟩,
      fun same => absurd same apart, fun _ => by rw [mapLine, List.append_nil], ?_⟩
    intro line
    have none_ : ∀ p, (none : Option (List Char)) = some p → '\n' ∉ p := by rintro p ⟨⟩
    obtain ⟨name, added, once, parts⟩ := tells line none_ js.toList
    refine ⟨by simpa [apart] using name, ?_, once, by simpa [apart] using parts⟩
    rw [if_neg apart]
    exact added

end AmdBundler.Directive
