import AmdBundler.Proofs.ScalarSkipping

namespace AmdBundler.Json

/-- Marks one after the other, with white space before each of them. -/
inductive Laid : List (List Char) → List Char → Prop
  | nil : Laid [] []
  | cons {gap mark text : List Char} {marks : List (List Char)} (blank : Blank gap)
      (tail : Laid marks text) : Laid (mark :: marks) (gap ++ mark ++ text)

theorem Laid.split {front back : List (List Char)} {text : List Char}
    (laid : Laid (front ++ back) text) :
    ∃ a b, Laid front a ∧ Laid back b ∧ text = a ++ b := by
  induction front generalizing text with
  | nil => exact ⟨[], text, .nil, laid, rfl⟩
  | cons mark front ih =>
    cases laid with
    | cons blank tail =>
      obtain ⟨a, b, first, second, rfl⟩ := ih tail
      exact ⟨_, b, .cons blank first, second, (List.append_assoc _ a b).symm⟩

theorem Laid.mark {mark text : List Char} (laid : Laid [mark] text) :
    ∃ gap, Blank gap ∧ text = gap ++ mark := by
  cases laid with
  | cons blank tail =>
    cases tail
    exact ⟨_, blank, List.append_nil _⟩

/-- Brackets with marks between them. -/
theorem Laid.enclosed {mark close text : List Char} {marks : List (List Char)}
    (laid : Laid (mark :: (marks ++ [close])) text) :
    ∃ gap inside last, Blank gap ∧ Blank last ∧ Laid marks inside ∧
      text = gap ++ (mark ++ (inside ++ last ++ close)) := by
  cases laid with
  | cons blank behind =>
    obtain ⟨inside, _, filled, ends, rfl⟩ := behind.split
    obtain ⟨last, free, rfl⟩ := ends.mark
    exact ⟨_, inside, last, blank, free, filled, by simp⟩

/-- A value of any shape, with its numbers as they are written. -/
inductive Value where
  | null
  | boolean (b : Bool)
  | number (n : Numeral)
  | text (t : String)
  | list (items : List Value)
  | object (members : List (String × Value))

def comma : (first : Bool) → List (List Char)
  | true => []
  | false => [[',']]

/-- The marks of items, with a comma before each but the first one. -/
def separated : (first : Bool) → List (List (List Char)) → List (List Char)
  | _, [] => []
  | first, item :: items => comma first ++ item ++ separated false items

mutual

/-- The marks of a value. -/
def Value.marks : Value → List (List Char)
  | .null => ["null".toList]
  | .boolean b => [Codec.boolean.write b]
  | .number n => [n.write]
  | .text t => [writeText t]
  | .list items => ['['] :: (separated true (itemsMarks items) ++ [[']']])
  | .object members => ['\x7b'] :: (separated true (membersMarks members) ++ [['\x7d']])

def itemsMarks : List Value → List (List (List Char))
  | [] => []
  | v :: vs => v.marks :: itemsMarks vs

def membersMarks : List (String × Value) → List (List (List Char))
  | [] => []
  | m :: ms => memberMarks m :: membersMarks ms

def memberMarks : String × Value → List (List Char)
  | (name, v) => writeText name :: [':'] :: v.marks

end

/-- A text that is passed over where a value or a key is due. It does not open with a closing
bracket, and it takes no more than two steps for each character. -/
structure Passed (due : Due) (text : List Char) : Prop where
  opens : ∃ gap c more, Blank gap ∧ solid c = true ∧ c ≠ ']' ∧ c ≠ '\x7d' ∧ text = gap ++ c :: more
  skips : ∃ k < 2 * text.length, ∀ steps frames offset rest, Delimited rest → ∃ after,
    skipFrom (steps + k + 1) frames due (.before text offset rest) =
      passRest steps frames ⟨after, rest⟩

section Marks

variable {gap more : List Char} {c : Char} (blank : Blank gap) (stays : solid c = true)
  (apart : c ≠ ']' ∧ c ≠ '\x7d')

include blank stays apart

theorem passed_mark
    (opening : ∀ rest, Delimited rest → Reads skipOpening (c :: more) none rest) :
    Passed .value (gap ++ c :: more) where
  opens := ⟨gap, c, more, blank, stays, apart.1, apart.2, rfl⟩
  skips := by
    refine ⟨0, by simp, ?_⟩
    intro steps frames offset rest delimited
    obtain ⟨after, opened⟩ := opening rest delimited (offset + gap.length)
    refine ⟨after, ?_⟩
    rw [skipFrom.eq_def]
    dsimp only
    rw [Cursor.skipSpace_mark blank stays, opened]
    cases frames <;> rfl

theorem passed_entered {inner : Reader (Option Frame)}
    (enters : ∀ place : Cursor, place.peek? = some c → skipOpening place = inner (place.advance 1))
    (reads : ∀ rest, Delimited rest → Reads inner more none rest) :
    Passed .value (gap ++ c :: more) := by
  apply passed_mark blank stays apart
  intro rest delimited offset
  obtain ⟨after, found⟩ := reads rest delimited (offset + 1)
  have ascii := (of_solid stays).1
  refine ⟨after, ?_⟩
  rw [enters _ (Cursor.peek?_before ascii), Cursor.advance_before ascii, found]

theorem passed_word (ascii : more.all (·.toNat < 0x80) = true)
    (enters : ∀ place : Cursor, place.peek? = some c →
      skipOpening place = (expectLetters more (place.advance 1)).map fun (_, c) => (none, c)) :
    Passed .value (gap ++ c :: more) :=
  passed_entered blank stays apart enters fun rest _ =>
    (reads_letters more ascii rest).map fun _ => none

end Marks

theorem passed_text {gap : List Char} (blank : Blank gap) (t : String) :
    Passed .value (gap ++ writeText t) := by
  have written : writeText t = '"' :: (t.toList.flatMap escapeChar ++ ['"']) := rfl
  have content (rest : List UInt8) (_ : Delimited rest) : Reads
      (fun c => (skipText c).map (none, ·)) (t.toList.flatMap escapeChar ++ ['"'])
      (none : Option Frame) rest := by
    intro offset
    obtain ⟨after, skipped⟩ := skipText_written t offset rest
    exact ⟨after, by simp only [skipped]; rfl⟩
  rw [written]
  exact passed_entered blank (by decide) (by decide)
    (fun c here => by simp only [skipOpening, here]) content

theorem skipOpening_digit {c : Cursor} {found : Char} (here : c.peek? = some found)
    (digit : found.isDigit = true) : skipOpening c = (skipNumber c).map (none, ·) := by
  unfold skipOpening
  rw [here]
  split
  · contradiction
  -- No other value opens with a digit.
  all_goals cases ‹some found = some _›
  all_goals first
    | cases digit
    | exact if_pos digit

theorem passed_number {gap : List Char} (blank : Blank gap) (n : Numeral) :
    Passed .value (gap ++ n.write) := by
  have content (rest : List UInt8) (delimited : Delimited rest) :
      Reads (fun c => (skipNumber c).map (none, ·)) n.unsigned (none : Option Frame) rest := by
    intro offset
    obtain ⟨after, skipped⟩ := skipNumber_written n offset delimited
    exact ⟨after, by simp only [skipped]; rfl⟩
  rw [Numeral.write]
  split
  · exact passed_entered blank (by decide) (by decide)
      (fun c here => by simp only [skipOpening, here]) content
  · obtain ⟨c, text, written, digit⟩ := Codec.toDigits_eq_cons n.whole
    have stays := Codec.solid_of_isDigit digit
    rw [Numeral.unsigned, written, List.cons_append] at content ⊢
    have apart : c ≠ ']' ∧ c ≠ '\x7d' := by constructor <;> rintro rfl <;> cases digit
    apply passed_mark blank stays apart
    intro rest delimited offset
    rw [skipOpening_digit (Cursor.peek?_before (of_solid stays).1) digit]
    exact content rest delimited offset

def Frame.mark : Frame → Char
  | .list => '['
  | .object => '\x7b'

/-- What stands in brackets: items, with a comma before each but the first one. -/
inductive Filled (frame : Frame) : (first : Bool) → List Char → Prop
  | nil {first : Bool} {gap : List Char} (blank : Blank gap) : Filled frame first gap
  | first {part others : List Char} (head : Passed frame.item part)
      (tail : Filled frame false others) : Filled frame true (part ++ others)
  | later {gap part others : List Char} (blank : Blank gap) (head : Passed frame.item part)
      (tail : Filled frame false others) : Filled frame false (gap ++ ',' :: (part ++ others))

section Brackets

variable {frame : Frame} {text gap : List Char}

theorem close_cases (frame : Frame) : frame.close = ']' ∨ frame.close = '\x7d' := by
  cases frame
  · exact .inl rfl
  · exact .inr rfl

theorem solid_close (frame : Frame) : solid frame.close = true := by
  cases frame <;> rfl

theorem Filled.delimited (filled : Filled frame false text) (rest : List UInt8) :
    Delimited (Utf8.encode (text ++ [frame.close]) ++ rest) := by
  cases filled with
  | nil blank => exact delimited_blank blank (delimited_cons (.inr (close_cases frame)) [] rest)
  | later blank =>
    rw [List.append_assoc]
    exact delimited_blank blank (delimited_cons (.inl rfl) _ rest)

/-- Where `due` is due, a text and the bracket behind it are passed over in no more than `most`
steps. -/
def Closes (frame : Frame) (due : Due) (most : Nat) (text : List Char) : Prop :=
  ∃ k < most, ∀ steps frames offset rest, ∃ after,
    skipFrom (steps + k + 1) (frame :: frames) due (.before (text ++ [frame.close]) offset rest) =
      passRest steps frames ⟨after, rest⟩

theorem Passed.closes {part others : List Char} (head : Passed frame.item part)
    (tail : Filled frame false others) {most : Nat} (behind : Closes frame .next most others) :
    Closes frame frame.item (2 * part.length + most) (part ++ others) := by
  obtain ⟨few, short, item⟩ := head.skips
  obtain ⟨more, shorter, next⟩ := behind
  refine ⟨few + more + 1, by omega, ?_⟩
  intro steps frames offset rest
  obtain ⟨between, passed⟩ := item (steps + more + 1) (frame :: frames) offset
    (Utf8.encode (others ++ [frame.close]) ++ rest) (tail.delimited rest)
  obtain ⟨after, ends⟩ := next steps frames between rest
  refine ⟨after, ?_⟩
  rw [List.append_assoc, Cursor.before_append,
    show steps + (few + more + 1) + 1 = steps + more + 1 + few + 1 by omega, passed]
  exact ends

theorem Filled.next (filled : Filled frame false text) :
    Closes frame .next (2 * text.length + 1) text := by
  generalize later : false = first at filled
  induction filled with
  | @nil first gap blank =>
    refine ⟨0, by omega, ?_⟩
    intro steps frames offset rest
    refine ⟨offset + gap.length + 1, ?_⟩
    have ascii := (of_solid (solid_close frame)).1
    have apart : frame.close ≠ ',' := by cases frame <;> decide
    rw [skipFrom.eq_def]
    dsimp only
    rw [Cursor.skipSpace_mark blank (solid_close frame), Cursor.peek?_before ascii,
      Cursor.advance_before ascii]
    dsimp only
    rw [if_neg apart, if_pos rfl]
    cases frames <;> rfl
  | first => cases later
  | @later gap part others blank head tail ih =>
    obtain ⟨k, short, closes⟩ := head.closes tail (ih rfl)
    refine ⟨k + 1, by simp; omega, ?_⟩
    intro steps frames offset rest
    obtain ⟨after, ends⟩ := closes steps frames (offset + gap.length + 1) rest
    refine ⟨after, ?_⟩
    rw [skipFrom.eq_def]
    dsimp only
    rw [List.append_assoc, List.cons_append, Cursor.skipSpace_mark blank (by decide),
      Cursor.peek?_before (by decide), Cursor.advance_before (by decide)]
    dsimp only
    rw [if_pos rfl]
    exact ends

theorem skipFrom_skipSpace (steps : Nat) (frames : List Frame) (due : Due) (c : Cursor) :
    skipFrom (steps + 1) frames due c.skipSpace = skipFrom (steps + 1) frames due c := by
  rw [skipFrom.eq_def, skipFrom.eq_def]
  simp only [Cursor.skipSpace_skipSpace]

theorem Filled.opened (filled : Filled frame true text) :
    Closes frame .opened (2 * text.length + 2) text := by
  have stays := solid_close frame
  have ascii := (of_solid stays).1
  cases filled with
  | nil blank =>
    refine ⟨0, by omega, ?_⟩
    intro steps frames offset rest
    refine ⟨offset + text.length + 1, ?_⟩
    rw [skipFrom.eq_def]
    dsimp only
    rw [Cursor.skipSpace_mark blank stays, Cursor.peek?_before ascii,
      Cursor.advance_before ascii]
    dsimp only
    rw [if_pos rfl]
    cases frames <;> rfl
  | @first part others head tail =>
    obtain ⟨k, short, closes⟩ := head.closes tail tail.next
    refine ⟨k + 1, by simp; omega, ?_⟩
    intro steps frames offset rest
    obtain ⟨after, ends⟩ := closes steps frames offset rest
    refine ⟨after, ?_⟩
    -- The item is not read here, but seen not to be the bracket that closes.
    obtain ⟨gap, c, more, blank, solid, list, object, rfl⟩ := head.opens
    have apart : c ≠ frame.close := by cases frame <;> assumption
    rw [← skipFrom_skipSpace] at ends
    rw [skipFrom.eq_def]
    dsimp only
    simp only [List.append_assoc, List.cons_append, Cursor.skipSpace_mark blank solid] at ends ⊢
    rw [Cursor.peek?_before (of_solid solid).1]
    dsimp only
    rw [if_neg apart]
    exact ends

/-- Brackets around items are passed over with what is in them. -/
theorem passed_brackets (blank : Blank gap) (filled : Filled frame true text) :
    Passed .value (gap ++ frame.mark :: (text ++ [frame.close])) where
  opens := by
    refine ⟨gap, frame.mark, _, blank, ?_, ?_, ?_, rfl⟩ <;> cases frame <;> decide
  skips := by
    have stays : solid frame.mark = true := by cases frame <;> rfl
    have ascii := (of_solid stays).1
    have enters (c : Cursor) (here : c.peek? = some frame.mark) :
        skipOpening c = .ok (some frame, c.advance 1) := by
      cases frame <;> simp only [skipOpening, here, Frame.mark]
    obtain ⟨k, short, inside⟩ := filled.opened
    refine ⟨k + 1, by simp; omega, ?_⟩
    intro steps frames offset rest _
    obtain ⟨after, passed⟩ := inside steps frames (offset + gap.length + 1) rest
    refine ⟨after, ?_⟩
    rw [skipFrom.eq_def]
    dsimp only
    rw [Cursor.skipSpace_mark blank stays, enters _ (Cursor.peek?_before ascii),
      Cursor.advance_before ascii]
    exact passed

end Brackets

theorem skipKey_written {gap : List Char} (blank : Blank gap) (name : String) (value : List Char)
    (offset : Nat) (rest : List UInt8) : ∃ start,
      skipKey (.before ('"' :: (name.toList.flatMap escapeChar ++ ['"'] ++ (gap ++ ':' :: value)))
        offset rest) = .ok (.before value start rest) := by
  obtain ⟨behind, key⟩ := skipText_written name (offset + 1)
    (Utf8.encode (gap ++ ':' :: value) ++ rest)
  obtain ⟨start, colon⟩ := Codec.expectColon_written blank value behind rest
  refine ⟨start, ?_⟩
  rw [skipKey, Cursor.peek?_before (by decide), Cursor.advance_before (by decide),
    Cursor.before_append]
  simp only [key]
  exact colon

theorem filled_separated {frame : Frame} {items : List (List (List Char))}
    (passed : ∀ item ∈ items, ∀ text, Laid item text → Passed frame.item text) (first : Bool)
    {text gap : List Char} (laid : Laid (separated first items) text) (blank : Blank gap) :
    Filled frame first (text ++ gap) := by
  induction items generalizing first text with
  | nil =>
    cases laid
    exact .nil blank
  | cons item items ih =>
    obtain ⟨here, others⟩ := List.forall_mem_cons.mp passed
    obtain ⟨lead, more, front, behind, rfl⟩ := laid.split
    obtain ⟨start, part, comma, inside, rfl⟩ := front.split
    have head := here part inside
    have tail := ih others false behind
    cases first with
    | true =>
      cases comma
      simpa using Filled.first head tail
    | false =>
      obtain ⟨gap, free, rfl⟩ := comma.mark
      simpa using Filled.later free head tail

/-- A member is passed over with its value. -/
theorem passed_member {gap between value : List Char} (blank : Blank gap) (free : Blank between)
    (name : String) (passed : Passed .value value) :
    Passed .key (gap ++ writeText name ++ (between ++ ':' :: value)) where
  opens := ⟨gap, '"', _, blank, by decide, by decide, by decide, List.append_assoc _ _ _⟩
  skips := by
    obtain ⟨k, short, skips⟩ := passed.skips
    refine ⟨k + 1, by simp; omega, ?_⟩
    intro steps frames offset rest delimited
    have shape : gap ++ writeText name ++ (between ++ ':' :: value) =
        gap ++ '"' :: (name.toList.flatMap escapeChar ++ ['"'] ++ (between ++ ':' :: value)) := by
      simp [writeText]
    obtain ⟨start, key⟩ := skipKey_written free name value (offset + gap.length) rest
    obtain ⟨after, ends⟩ := skips steps frames start rest delimited
    refine ⟨after, ?_⟩
    rw [shape, skipFrom.eq_def]
    dsimp only
    rw [Cursor.skipSpace_mark blank (by decide), key]
    exact ends

mutual

/-- A value is passed over however it is laid out. -/
theorem Value.passed : ∀ (v : Value) {text : List Char}, Laid v.marks text → Passed .value text
  | .null, _, laid => by
    obtain ⟨gap, blank, rfl⟩ := laid.mark
    exact passed_word blank (by decide) (by decide) (by decide)
      fun c here => by simp only [skipOpening, here]; rfl
  | .boolean b, _, laid => by
    obtain ⟨gap, blank, rfl⟩ := laid.mark
    cases b
    · exact passed_word blank (by decide) (by decide) (by decide)
        fun c here => by simp only [skipOpening, here]; rfl
    · exact passed_word blank (by decide) (by decide) (by decide)
        fun c here => by simp only [skipOpening, here]; rfl
  | .number n, _, laid => by
    obtain ⟨gap, blank, rfl⟩ := laid.mark
    exact passed_number blank n
  | .text t, _, laid => by
    obtain ⟨gap, blank, rfl⟩ := laid.mark
    exact passed_text blank t
  | .list items, _, laid => by
    obtain ⟨gap, inside, last, blank, free, filled, rfl⟩ := laid.enclosed
    have passed : ∀ item ∈ itemsMarks items, ∀ text, Laid item text →
        Passed Frame.list.item text := passed_items items
    exact passed_brackets blank (filled_separated passed true filled free)
  | .object members, _, laid => by
    obtain ⟨gap, inside, last, blank, free, filled, rfl⟩ := laid.enclosed
    have passed : ∀ item ∈ membersMarks members, ∀ text, Laid item text →
        Passed Frame.object.item text := passed_members members
    exact passed_brackets blank (filled_separated passed true filled free)

theorem passed_items : ∀ (items : List Value), ∀ item ∈ itemsMarks items, ∀ text,
    Laid item text → Passed .value text
  | v :: vs, item, member, text, laid => by
    rcases List.mem_cons.mp member with rfl | later
    · exact v.passed laid
    · exact passed_items vs item later text laid

theorem passed_members : ∀ (members : List (String × Value)), ∀ item ∈ membersMarks members,
    ∀ text, Laid item text → Passed .key text
  | m :: ms, item, member, text, laid => by
    rcases List.mem_cons.mp member with rfl | later
    · exact passed_memberMarks m laid
    · exact passed_members ms item later text laid

theorem passed_memberMarks : ∀ (m : String × Value) {text : List Char},
    Laid (memberMarks m) text → Passed .key text
  | (name, v), _, laid => by
    cases laid with
    | cons blank inside =>
      cases inside with
      | cons free value =>
        simpa using passed_member blank free name (v.passed value)

end

/-- Two steps for each byte are enough, so every value is passed over up to its end. -/
theorem skipValue_laid (v : Value) {text : List Char} (laid : Laid v.marks text) (offset : Nat)
    {rest : List UInt8} (delimited : Delimited rest) :
    ∃ after, skipValue (.before text offset rest) = .ok ⟨after, rest⟩ := by
  obtain ⟨k, short, skips⟩ := (v.passed laid).skips
  have bytes := Utf8.length_le_length_encode text
  have room : ∃ steps, 2 * (Cursor.before text offset rest).rest.length + 2 = steps + k + 1 := by
    refine ⟨2 * (Cursor.before text offset rest).rest.length + 1 - k, ?_⟩
    simp [Cursor.before]
    omega
  obtain ⟨steps, room⟩ := room
  obtain ⟨after, passed⟩ := skips steps [] offset rest delimited
  exact ⟨after, by rw [skipValue, room, passed]; rfl⟩

end AmdBundler.Json
