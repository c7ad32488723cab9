import AmdBundler.Json.Codec
import AmdBundler.Json.Text.Lemmas
import AmdBundler.Proofs.AsciiBytes

namespace AmdBundler.Json

theorem isSpace_iff {b : UInt8} :
    isSpace b = true ↔ b = 0x20 ∨ b = 0x0A ∨ b = 0x09 ∨ b = 0x0D := by
  simp [isSpace, or_assoc]

/-- A character of one byte that is no space. -/
def solid (c : Char) : Bool :=
  c.toNat < 0x80 && !isSpace c.toNat.toUInt8

theorem of_solid {c : Char} (stays : solid c = true) :
    c.toNat < 0x80 ∧ isSpace c.toNat.toUInt8 = false := by
  simpa [solid] using stays

namespace Cursor

/-- The place before a text, with `rest` behind it. -/
def before (text : List Char) (offset : Nat) (rest : List UInt8) : Cursor :=
  ⟨offset, Utf8.encode text ++ rest⟩

variable {c : Char} {text more : List Char} {offset : Nat} {rest : List UInt8}

theorem before_append :
    before (text ++ more) offset rest = before text offset (Utf8.encode more ++ rest) := by
  rw [before, before, Utf8.encode_append, List.append_assoc]

theorem rest_before_cons (ascii : c.toNat < 0x80) :
    (before (c :: text) offset rest).rest = c.toNat.toUInt8 :: (Utf8.encode text ++ rest) := by
  rw [before, Utf8.encode_cons, Utf8.encodeChar_of_ascii ascii]
  rfl

theorem peek?_before (ascii : c.toNat < 0x80) :
    (before (c :: text) offset rest).peek? = some c := by
  rw [peek?, rest_before_cons ascii, List.head?_cons, Option.map_some, Option.some_inj]
  apply Char.toNat_inj.mp
  change (c.toNat.toUInt8).toNat = c.toNat
  exact Utf8.toNat_toUInt8 (by omega)

theorem advance_before (ascii : c.toNat < 0x80) :
    (before (c :: text) offset rest).advance 1 = before text (offset + 1) rest := by
  rw [advance, rest_before_cons ascii]
  rfl

theorem skipSpace_before (stays : solid c = true) :
    (before (c :: text) offset rest).skipSpace = before (c :: text) offset rest := by
  obtain ⟨ascii, apart⟩ := of_solid stays
  have content : (before (c :: text) offset rest).rest = _ := rest_before_cons ascii
  rw [skipSpace, skipWhile, content, List.takeWhile_cons_of_neg (by simp [apart]),
    List.dropWhile_cons_of_neg (by simp [apart]), ← content]
  rfl

end Cursor

/-- What may follow a value: nothing that could be a part of it. -/
def Delimited (rest : List UInt8) : Prop :=
  ∀ b, rest.head? = some b → b = 0x2C ∨ b = 0x5D ∨ b = 0x7D ∨ isSpace b = true

theorem delimited_nil : Delimited [] := by
  intro b found
  cases found

theorem delimited_cons {c : Char} (mark : c = ',' ∨ c = ']' ∨ c = '\x7d') (text : List Char)
    (rest : List UInt8) : Delimited (Utf8.encode (c :: text) ++ rest) := by
  intro b found
  rcases mark with rfl | rfl | rfl
  · exact .inl (Option.some.inj found).symm
  · exact .inr (.inl (Option.some.inj found).symm)
  · exact .inr (.inr (.inl (Option.some.inj found).symm))

/-- White space between the marks of a text. -/
def Blank (gap : List Char) : Prop :=
  ∀ c ∈ gap, c = ' ' ∨ c = '\n' ∨ c = '\t' ∨ c = '\r'

theorem blank_nil : Blank [] := by simp [Blank]

theorem of_blank_cons {c : Char} {gap : List Char} (blank : Blank (c :: gap)) :
    c.toNat < 0x80 ∧ isSpace c.toNat.toUInt8 = true ∧ Blank gap := by
  obtain ⟨here, behind⟩ := List.forall_mem_cons.mp blank
  rcases here with rfl | rfl | rfl | rfl <;> exact ⟨by decide, by decide, behind⟩

theorem isSpace_of_blank {gap : List Char} (blank : Blank gap) :
    ∀ b ∈ Utf8.encode gap, isSpace b = true := by
  induction gap with
  | nil => simp [Utf8.encode]
  | cons c gap ih =>
    obtain ⟨ascii, space, blank⟩ := of_blank_cons blank
    rw [Utf8.encode_cons, Utf8.encodeChar_of_ascii ascii]
    simpa [space] using ih blank

@[simp] theorem Cursor.skipSpace_skipSpace (c : Cursor) : c.skipSpace.skipSpace = c.skipSpace := by
  have stops := List.dropWhile_idempotent isSpace c.rest
  have run := List.takeWhile_append_dropWhile (p := isSpace) (l := c.rest.dropWhile isSpace)
  rw [stops, List.append_left_eq_self] at run
  simp [skipSpace, skipWhile, stops, run]

/-- What may follow a value may follow it behind white space. -/
theorem delimited_blank {gap text : List Char} (blank : Blank gap) {rest : List UInt8}
    (delimited : Delimited (Utf8.encode text ++ rest)) :
    Delimited (Utf8.encode (gap ++ text) ++ rest) := by
  cases gap with
  | nil => exact delimited
  | cons c gap =>
    obtain ⟨ascii, space, -⟩ := of_blank_cons blank
    intro b found
    rw [List.cons_append, Utf8.encode_cons, Utf8.encodeChar_of_ascii ascii] at found
    cases found
    exact .inr (.inr (.inr space))

theorem Cursor.skipSpace_blank {gap text : List Char} (blank : Blank gap) (offset : Nat)
    (rest : List UInt8) : (before (gap ++ text) offset rest).skipSpace =
      (before text (offset + gap.length) rest).skipSpace := by
  induction gap generalizing offset with
  | nil => rfl
  | cons c gap ih =>
    obtain ⟨ascii, space, blank⟩ := of_blank_cons blank
    have content : (before (c :: (gap ++ text)) offset rest).rest = _ := rest_before_cons ascii
    rw [List.length_cons, Nat.add_comm gap.length, ← Nat.add_assoc, ← ih blank, List.cons_append,
      skipSpace, skipWhile, content, List.takeWhile_cons_of_pos space,
      List.dropWhile_cons_of_pos space, List.length_cons, Nat.add_comm _ 1, ← Nat.add_assoc]
    rfl

theorem Cursor.skipSpace_mark {gap text : List Char} {c : Char} (blank : Blank gap)
    (stays : solid c = true) (offset : Nat) (rest : List UInt8) :
    (before (gap ++ c :: text) offset rest).skipSpace =
      before (c :: text) (offset + gap.length) rest := by
  rw [skipSpace_blank blank, skipSpace_before stays]

/-- The text is read as `v`, to its end. -/
def Reads {α : Type} (read : Reader α) (text : List Char) (v : α) (rest : List UInt8) : Prop :=
  ∀ offset, ∃ after, read (.before text offset rest) = .ok (v, ⟨after, rest⟩)

/-- What the codec writes opens like a value, and is read back, also behind white space. -/
structure Codec.Faithful {α : Type} (codec : Codec α) : Prop where
  opens : ∀ v, ∃ c text, codec.write v = c :: text ∧ solid c = true ∧ c ≠ ']'
  passes : ∀ c : Cursor, codec.read c.skipSpace = codec.read c
  reads : ∀ v rest, Delimited rest → Reads codec.read (codec.write v) v rest

theorem Reads.behind {α : Type} {read : Reader α} {text gap : List Char} {v : α} {rest : List UInt8}
    (reads : Reads read text v rest) (passes : ∀ c : Cursor, read c.skipSpace = read c)
    (blank : Blank gap) : Reads read (gap ++ text) v rest := by
  intro offset
  obtain ⟨after, found⟩ := reads (offset + gap.length)
  refine ⟨after, ?_⟩
  rw [← passes, Cursor.skipSpace_blank blank, passes, found]

theorem reads_entered {α : Type} {read inner : Reader α} {mark : Char} {text : List Char} {v : α}
    {rest : List UInt8} (stays : solid mark = true)
    (enters : ∀ c : Cursor, c.skipSpace.peek? = some mark → read c = inner (c.skipSpace.advance 1))
    (reads : Reads inner text v rest) : Reads read (mark :: text) v rest := by
  intro offset
  obtain ⟨after, found⟩ := reads (offset + 1)
  refine ⟨after, ?_⟩
  have ascii := (of_solid stays).1
  have here : (Cursor.before (mark :: text) offset rest).skipSpace.peek? = some mark := by
    rw [Cursor.skipSpace_before stays, Cursor.peek?_before ascii]
  rw [enters _ here, Cursor.skipSpace_before stays, Cursor.advance_before ascii, found]

theorem Reads.map {α β : Type} {read : Reader α} {text : List Char} {v : α} {rest : List UInt8}
    (reads : Reads read text v rest) (f : α → β) :
    Reads (fun c => (read c).map fun (x, c) => (f x, c)) text (f v) rest := by
  intro offset
  obtain ⟨after, found⟩ := reads offset
  refine ⟨after, ?_⟩
  dsimp only
  rw [found]
  rfl

theorem reads_letters (letters : List Char) (ascii : letters.all (·.toNat < 0x80) = true)
    (rest : List UInt8) : Reads (expectLetters letters) letters () rest := by
  induction letters with
  | nil => exact fun offset => ⟨offset, rfl⟩
  | cons c letters ih =>
    intro offset
    rw [List.all_cons, Bool.and_eq_true, decide_eq_true_eq] at ascii
    obtain ⟨small, others⟩ := ascii
    obtain ⟨after, read⟩ := ih others (offset + 1)
    refine ⟨after, ?_⟩
    rw [expectLetters, Cursor.peek?_before small]
    simp only [if_true]
    rw [Cursor.advance_before small, read]

namespace Codec

theorem reads_text (expected text : String) (rest : List UInt8) :
    Reads (Codec.text expected).read (writeText text) text rest := by
  have content : Reads readText (text.toList.flatMap escapeChar ++ ['"']) text rest :=
    fun offset => ⟨_, readText_written text offset rest⟩
  refine reads_entered (by decide) ?_ content
  intro c here
  simp only [Codec.text, here]

theorem faithful_text (expected : String) : (Codec.text expected).Faithful where
  opens _ := ⟨'"', _, rfl, by decide, by decide⟩
  passes c := by simp [Codec.text]
  reads text rest _ := reads_text expected text rest

theorem faithful_string : string.Faithful :=
  faithful_text _

theorem faithful_boolean : boolean.Faithful where
  opens v := by
    cases v with
    | false => exact ⟨'f', _, rfl, by decide, by decide⟩
    | true => exact ⟨'t', _, rfl, by decide, by decide⟩
  passes c := by simp [boolean]
  reads v rest _ := by
    cases v with
    | false =>
      rw [show boolean.write false = 'f' :: "alse".toList from rfl]
      refine reads_entered (by decide) ?_
        ((reads_letters "alse".toList (by decide) rest).map fun _ => false)
      intro c here
      simp only [boolean, here]
    | true =>
      rw [show boolean.write true = 't' :: "rue".toList from rfl]
      refine reads_entered (by decide) ?_
        ((reads_letters "rue".toList (by decide) rest).map fun _ => true)
      intro c here
      simp only [boolean, here]

/-- A value that does not look like `null` may be absent. -/
theorem faithful_nullable {α : Type} {codec : Codec α} (faithful : codec.Faithful)
    (apart : ∀ v, (codec.write v).head? ≠ some 'n') : codec.nullable.Faithful where
  opens v := by
    cases v with
    | none => exact ⟨'n', _, rfl, by decide, by decide⟩
    | some v => exact faithful.opens v
  passes c := by simp [nullable, faithful.passes]
  reads v rest delimited := by
    cases v with
    | none =>
      rw [show codec.nullable.write none = 'n' :: "ull".toList from rfl]
      refine reads_entered (by decide) ?_
        ((reads_letters "ull".toList (by decide) rest).map fun _ => none)
      intro c here
      simp only [nullable, here, if_true]
    | some v =>
      intro offset
      obtain ⟨after, read⟩ := ((faithful.reads v rest delimited).map some) offset
      obtain ⟨c, text, written, stays, -⟩ := faithful.opens v
      refine ⟨after, ?_⟩
      have other : c ≠ 'n' := by
        intro same
        apply apart v
        rw [written, same, List.head?_cons]
      have elsewhere : (Cursor.before (codec.write v) offset rest).skipSpace.peek? ≠ some 'n' := by
        rw [written, Cursor.skipSpace_before stays, Cursor.peek?_before (of_solid stays).1]
        exact fun same => other (Option.some.inj same)
      simp only [nullable]
      rw [if_neg elsewhere]
      exact read

theorem isDigit_byte {c : Char} (digit : c.isDigit = true) :
    c.toNat < 0x80 ∧ isDigit c.toNat.toUInt8 = true ∧ c.toNat.toUInt8.toNat = c.toNat := by
  have bounds : 48 ≤ c.toNat ∧ c.toNat ≤ 57 := by
    simpa [Char.isDigit, UInt32.le_iff_toNat_le] using digit
  have small := Utf8.toNat_toUInt8 (n := c.toNat) (by omega)
  refine ⟨by omega, ?_, small⟩
  simp only [isDigit, Bool.and_eq_true, decide_eq_true_eq, UInt8.le_iff_toNat_le, small]
  exact bounds

theorem encode_digits {text : List Char} (digits : ∀ c ∈ text, c.isDigit = true) :
    Utf8.encode text = text.map fun c => c.toNat.toUInt8 := by
  induction text with
  | nil => rfl
  | cons c text ih =>
    rw [Utf8.encode_cons, Utf8.encodeChar_of_ascii (isDigit_byte (digits c List.mem_cons_self)).1,
      ih fun b m => digits b (List.mem_cons_of_mem _ m)]
    rfl

theorem gatherDigits_append (limit value : Nat) (front back : List UInt8) :
    ∀ found, gatherDigits limit value front = (found, []) →
      gatherDigits limit value (front ++ back) = gatherDigits limit found back := by
  induction front generalizing value with
  | nil =>
    intro found gathered
    cases gathered
    rfl
  | cons b front ih =>
    intro found gathered
    rw [gatherDigits] at gathered
    rw [List.cons_append, gatherDigits]
    split at gathered
    · rename_i fits
      rw [if_pos fits]
      exact ih _ found gathered
    · cases gathered

theorem gatherDigits_written {limit n : Nat} (bound : n < limit) :
    gatherDigits limit 0 ((Nat.toDigits 10 n).map fun c => c.toNat.toUInt8) = (n, []) := by
  have last (value digit : Nat) (small : digit < 10) (fits : value * 10 + digit < limit) :
      gatherDigits limit value [(Nat.digitChar digit).toNat.toUInt8] =
        (value * 10 + digit, []) := by
    have code : (Nat.digitChar digit).toNat.toUInt8.toNat = 48 + digit := by
      rw [Nat.toNat_digitChar_of_lt_ten small, Utf8.toNat_toUInt8 (by omega)]
    simp [gatherDigits, code, fits]
  induction n using Nat.strongRecOn with
  | ind n ih =>
    by_cases small : n < 10
    · rw [Nat.toDigits_of_lt_base small, List.map_singleton, last 0 n small (by omega)]
      simp
    · have split := Nat.toDigits_of_base_le (b := 10) (n := n) (by decide) (by omega)
      rw [split, List.map_append, List.map_singleton,
        gatherDigits_append limit 0 _ _ (n / 10) (ih (n / 10) (by omega) (by omega)),
        last (n / 10) (n % 10) (by omega) (by omega)]
      rw [show n / 10 * 10 + n % 10 = n by omega]

theorem toDigits_eq_cons (n : Nat) :
    ∃ c text, Nat.toDigits 10 n = c :: text ∧ c.isDigit = true := by
  cases written : Nat.toDigits 10 n with
  | nil => exact absurd written Nat.toDigits_ne_nil
  | cons c text =>
    refine ⟨c, text, rfl, ?_⟩
    apply Nat.isDigit_of_mem_toDigits (b := 10) (n := n) (by decide) (by decide)
    rw [written]
    exact List.mem_cons_self

theorem head_toDigits_ne_zero {b n : Nat} (base : 1 < b) (positive : 0 < n) :
    (Nat.toDigits b n).head? ≠ some '0' := by
  induction n using Nat.strongRecOn with
  | ind n ih =>
    by_cases small : n < b
    · rw [Nat.toDigits_of_lt_base small, List.head?_cons]
      intro zero
      have := Nat.digitChar_eq_zero.mp (Option.some.inj zero)
      omega
    · have front := ih (n / b) (Nat.div_lt_self positive base)
        (Nat.div_pos (by omega) (by omega))
      rwa [Nat.toDigits_of_base_le base (by omega),
        List.head?_append_of_ne_nil _ Nat.toDigits_ne_nil]

theorem toDigits_of_ne_zero {n : Nat} (other : n ≠ 0) :
    ∃ c text, Nat.toDigits 10 n = c :: text ∧ c.isDigit = true ∧ c.toNat.toUInt8 ≠ 0x30 := by
  have lead := head_toDigits_ne_zero (b := 10) (by decide) (Nat.pos_of_ne_zero other)
  obtain ⟨c, text, written, digit⟩ := toDigits_eq_cons n
  refine ⟨c, text, written, digit, ?_⟩
  intro same
  apply lead
  rw [written, List.head?_cons, Option.some_inj]
  apply Char.toNat_inj.mp
  rw [← (isDigit_byte digit).2.2, same]
  rfl

theorem not_digit_of_delimited {rest : List UInt8} (delimited : Delimited rest) {b : UInt8}
    (found : rest.head? = some b) : isDigit b = false := by
  rcases delimited b found with rfl | rfl | rfl | space
  · rfl
  · rfl
  · rfl
  · rcases isSpace_iff.mp space with rfl | rfl | rfl | rfl <;> rfl

/-- What follows a number does not go on with it. -/
theorem peek?_delimited {rest : List UInt8} (delimited : Delimited rest) {offset : Nat}
    {found : Char} (here : (Cursor.mk offset rest).peek? = some found) :
    found ≠ '.' ∧ found ≠ 'e' ∧ found ≠ 'E' := by
  obtain ⟨b, head, rfl⟩ := Option.map_eq_some_iff.mp here
  rcases delimited b head with rfl | rfl | rfl | space
  · decide
  · decide
  · decide
  · rcases isSpace_iff.mp space with rfl | rfl | rfl | rfl <;> decide

theorem takeWhile_digits {digits rest : List UInt8} (all : ∀ b ∈ digits, isDigit b = true)
    (stop : ∀ b, rest.head? = some b → isDigit b = false) :
    (digits ++ rest).takeWhile isDigit = digits := by
  rw [List.takeWhile_append_of_pos all]
  cases rest with
  | nil => rw [List.takeWhile_nil, List.append_nil]
  | cons b rest => rw [List.takeWhile_cons_of_neg (by simp [stop b rfl]), List.append_nil]

theorem readNumberTail_delimited (n offset : Nat) {rest : List UInt8} (delimited : Delimited rest) :
    readNumberTail true n 0 ⟨offset, rest⟩ = .ok (.natural n, ⟨offset, rest⟩) := by
  unfold readNumberTail
  split
  · exact absurd rfl (peek?_delimited delimited ‹_›).1
  · exact absurd rfl (peek?_delimited delimited ‹_›).2.1
  · exact absurd rfl (peek?_delimited delimited ‹_›).2.2
  · rfl

theorem readNumber_written {n : Nat} (bound : n < Nat.pow 2 64) {rest : List UInt8}
    (delimited : Delimited rest) :
    Reads (readNumber true) (Nat.toDigits 10 n) (.natural n) rest := by
  intro offset
  by_cases zero : n = 0
  · refine ⟨offset + 1, ?_⟩
    rw [zero, Nat.toDigits_zero, readNumber, Cursor.rest_before_cons (by decide),
      Cursor.advance_before (by decide)]
    have tail := readNumberTail_delimited 0 (offset + 1) delimited
    cases rest with
    | nil => exact tail
    | cons b rest =>
      have stop := not_digit_of_delimited delimited (b := b) rfl
      change (if isDigit b = true then _ else _) = _
      rw [stop]
      exact tail
  · -- The first digit is not a zero, so the reader takes the digits as a whole.
    have digits (c : Char) (m : c ∈ Nat.toDigits 10 n) : c.isDigit = true :=
      Nat.isDigit_of_mem_toDigits (by decide) (by decide) m
    have bytes := encode_digits digits
    have all : ∀ b ∈ Utf8.encode (Nat.toDigits 10 n), isDigit b = true := by
      rw [bytes]
      intro b m
      obtain ⟨c, mc, rfl⟩ := List.mem_map.mp m
      exact (isDigit_byte (digits c mc)).2.1
    have gathered := gatherDigits_written bound
    rw [← bytes] at gathered
    obtain ⟨c, text, written, digit, apart⟩ := toDigits_of_ne_zero zero
    rw [written] at bytes all gathered ⊢
    obtain ⟨ascii, byte, -⟩ := isDigit_byte digit
    refine ⟨offset + (Utf8.encode (c :: text)).length, ?_⟩
    have taken := takeWhile_digits all fun _ => not_digit_of_delimited delimited
    have passed : (Cursor.before (c :: text) offset rest).advance (Utf8.encode (c :: text)).length =
        ⟨offset + (Utf8.encode (c :: text)).length, rest⟩ := by
      rw [Cursor.advance, Cursor.before, List.drop_left]
    have content : (Cursor.before (c :: text) offset rest).rest = _ :=
      Cursor.rest_before_cons ascii
    rw [readNumber, content]
    simp only
    rw [if_neg apart, if_pos byte, ← content]
    have bytes : (Cursor.before (c :: text) offset rest).rest =
        Utf8.encode (c :: text) ++ rest := rfl
    rw [bytes, taken, gathered, passed]
    exact readNumberTail_delimited n _ delimited

theorem solid_of_isDigit {c : Char} (digit : c.isDigit = true) : solid c = true := by
  have bounds : 48 ≤ c.toNat ∧ c.toNat ≤ 57 := by
    simpa [Char.isDigit, UInt32.le_iff_toNat_le] using digit
  have check : ∀ n < 58, 48 ≤ n → isSpace n.toUInt8 = false := by decide
  simp [solid, check c.toNat (by omega) bounds.1]
  omega

theorem reads_natural {limit : Nat} (expected : String) (fits : limit ≤ Nat.pow 2 64) {n : Nat}
    (bound : n < limit) {rest : List UInt8} (delimited : Delimited rest) :
    Reads (natural limit expected).read (Nat.toDigits 10 n) n rest := by
  intro offset
  obtain ⟨after, read⟩ := readNumber_written (Nat.lt_of_lt_of_le bound fits) delimited offset
  refine ⟨after, ?_⟩
  obtain ⟨c, text, written, digit⟩ := toDigits_eq_cons n
  have stays := solid_of_isDigit digit
  rw [written] at read ⊢
  simp only [natural]
  rw [Cursor.skipSpace_before stays, Cursor.peek?_before (of_solid stays).1]
  split
  · contradiction
  · rename_i minus
    rw [Option.some.inj minus] at digit
    cases digit
  · rename_i found _ same
    rw [← Option.some.inj same, if_pos digit, read]
    simp [Except.bind, bound]

/-- A type of numbers below a bound that 64 bits hold. -/
theorem faithful_natural {β : Type} {limit : Nat} (expected : String) (fits : limit ≤ Nat.pow 2 64)
    {back : β → Nat} {forth : Nat → β} (bound : ∀ v, back v < limit)
    (inverse : ∀ v, forth (back v) = v) : ((natural limit expected).map back forth).Faithful where
  opens v := by
    obtain ⟨c, text, written, digit⟩ := toDigits_eq_cons (back v)
    refine ⟨c, text, written, solid_of_isDigit digit, ?_⟩
    rintro rfl
    cases digit
  passes c := by simp [map, natural]
  reads v rest delimited := by
    have read := (reads_natural expected fits (bound v) delimited).map forth
    rw [inverse] at read
    exact read

theorem faithful_uint32 : uint32.Faithful :=
  faithful_natural _ (by decide) UInt32.toNat_lt (fun v => UInt32.ofNat_toNat)

theorem faithful_uint8 : uint8.Faithful :=
  faithful_natural _ (by decide) UInt8.toNat_lt (fun v => UInt8.ofNat_toNat)

/-- Parts with commas between them, or before each of them when others have come. -/
def joined : (first : Bool) → List (List Char) → List Char
  | _, [] => []
  | true, part :: parts => part ++ joined false parts
  | false, part :: parts => ',' :: part ++ joined false parts

theorem intercalate_eq_joined (parts : List (List Char)) :
    [','].intercalate parts = joined true parts := by
  cases parts with
  | nil => rfl
  | cons part parts =>
    induction parts generalizing part with
    | nil => simp [joined, List.intercalate]
    | cons next parts ih =>
      rw [List.intercalate_cons_cons, ih next]
      simp [joined]

theorem length_le_length_joined {parts : List (List Char)} (filled : ∀ part ∈ parts, part ≠ []) :
    ∀ first, parts.length ≤ (joined first parts).length := by
  induction parts with
  | nil => exact fun _ => Nat.zero_le _
  | cons part parts ih =>
    intro first
    have one := List.length_pos_iff.mpr (filled part List.mem_cons_self)
    have others := ih (fun p m => filled p (List.mem_cons_of_mem _ m)) false
    cases first <;> simp [joined] <;> omega

theorem delimited_joined (parts : List (List Char)) {close : Char}
    (mark : close = ']' ∨ close = '\x7d') (rest : List UInt8) :
    Delimited (Utf8.encode (joined false parts ++ [close]) ++ rest) := by
  cases parts with
  | nil => exact delimited_cons (.inr mark) [] rest
  | cons part parts =>
    rw [joined, List.cons_append, List.cons_append]
    exact delimited_cons (.inl rfl) _ rest

theorem nextItem_joined {c : Char} (stays : solid c = true) (apart : c ≠ ']') (first : Bool)
    (text : List Char) (parts : List (List Char)) (offset : Nat) (rest : List UInt8) :
    ∃ start, nextItem first (.before (joined first ((c :: text) :: parts) ++ [']']) offset rest) =
      .ok (true, .before (c :: text ++ (joined false parts ++ [']'])) start rest) := by
  have ascii := (of_solid stays).1
  cases first with
  | true =>
    refine ⟨offset, ?_⟩
    rw [joined, List.append_assoc, List.cons_append, nextItem]
    simp only
    rw [Cursor.skipSpace_before stays, Cursor.peek?_before ascii]
    split
    · contradiction
    · rename_i same
      exact absurd (Option.some.inj same) apart
    · rfl
  | false =>
    refine ⟨offset + 1, ?_⟩
    rw [joined, List.cons_append, List.cons_append, List.append_assoc, List.cons_append, nextItem]
    simp only
    rw [Cursor.skipSpace_before (by decide), Cursor.peek?_before (by decide),
      Cursor.advance_before (by decide), Cursor.skipSpace_before stays, Cursor.peek?_before ascii]
    simp only [Bool.false_eq_true, if_false]
    split
    · contradiction
    · rename_i same
      exact absurd (Option.some.inj same) (by decide)
    · rename_i same
      rw [if_pos (Option.some.inj same).symm]

theorem readItems_written {α : Type} {item : Codec α} (faithful : item.Faithful) (vs : List α)
    (rest : List UInt8) : ∀ steps read, vs.length < steps →
      Reads (readItems item.read steps read)
        (joined read.isEmpty (vs.map item.write) ++ [']']) (read.reverse ++ vs) rest := by
  induction vs with
  | nil =>
    intro steps read room offset
    obtain ⟨steps, rfl⟩ := Nat.exists_eq_succ_of_ne_zero (Nat.ne_of_gt room)
    refine ⟨offset + 1, ?_⟩
    rw [List.map_nil, joined, List.nil_append, readItems, nextItem]
    simp only
    rw [Cursor.skipSpace_before (by decide), Cursor.peek?_before (by decide)]
    simp only
    rw [Cursor.advance_before (by decide), List.append_nil]
    rfl
  | cons v vs ih =>
    -- What follows an item is a comma or the bracket, which the law of the item allows for.
    intro steps read room offset
    obtain ⟨steps, rfl⟩ := Nat.exists_eq_succ_of_ne_zero (Nat.ne_of_gt (Nat.zero_lt_of_lt room))
    obtain ⟨c, text, written, stays, apart⟩ := faithful.opens v
    obtain ⟨start, next⟩ :=
      nextItem_joined stays apart read.isEmpty text (vs.map item.write) offset rest
    obtain ⟨behind, taken⟩ := faithful.reads v
      (Utf8.encode (joined false (vs.map item.write) ++ [']']) ++ rest)
      (delimited_joined _ (.inl rfl) rest) start
    obtain ⟨after, others⟩ := ih steps (v :: read) (by simpa using room) behind
    refine ⟨after, ?_⟩
    rw [List.map_cons, written, readItems, next]
    simp only
    rw [Cursor.before_append, ← written, taken]
    simp only
    rw [List.isEmpty_cons, List.reverse_cons, List.append_assoc, List.singleton_append] at others
    exact others

theorem list_write {α : Type} (item : Codec α) (vs : List α) :
    item.list.write vs = '[' :: (joined true (vs.map item.write) ++ [']']) := by
  rw [← intercalate_eq_joined]
  rfl

theorem faithful_list {α : Type} {item : Codec α} (faithful : item.Faithful) :
    item.list.Faithful where
  opens _ := ⟨'[', _, rfl, by decide, by decide⟩
  passes c := by simp [list]
  reads vs rest _ offset := by
    have filled : ∀ part ∈ vs.map item.write, part ≠ [] := by
      intro part m
      obtain ⟨v, -, rfl⟩ := List.mem_map.mp m
      obtain ⟨c, text, written, -⟩ := faithful.opens v
      rw [written]
      exact List.cons_ne_nil c text
    have written := list_write item vs
    have room : vs.length <
        (Cursor.before (item.list.write vs) offset rest).rest.length + 1 := by
      have parts := length_le_length_joined filled true
      have bytes := Utf8.length_le_length_encode (item.list.write vs)
      rw [Cursor.before, List.length_append]
      rw [written, List.length_cons, List.length_append, List.length_singleton] at bytes
      rw [List.length_map] at parts
      rw [written]
      omega
    obtain ⟨after, read⟩ := readItems_written faithful vs rest _ [] room (offset + 1)
    refine ⟨after, ?_⟩
    rw [written] at read ⊢
    simp only [list]
    rw [Cursor.skipSpace_before (by decide), Cursor.peek?_before (by decide),
      Cursor.advance_before (by decide)]
    exact read

end Codec

end AmdBundler.Json
