import AmdBundler.Proofs.VlqWords

namespace AmdBundler.SourceMap.Vlq

/-- Digits with the sixth bit, and a last one without it. -/
inductive IsWord : List Char → Prop
  | last {n : Nat} {c : Char} (digit : Base64.alphabet[n]? = some c)
    (ends : n.testBit 5 = false) : IsWord [c]
  | more {n : Nat} {c : Char} {word : List Char} (digit : Base64.alphabet[n]? = some c)
    (goes : n.testBit 5 = true) (later : IsWord word) : IsWord (c :: word)

theorem isWord_digits (n : Nat) : IsWord (digits n) := by
  have low : ∀ d < 32, d.testBit 5 = false ∧ (d + 32).testBit 5 = true := by decide
  induction n using Nat.strongRecOn with
  | ind n ih =>
    rw [digits]
    split
    · rename_i small
      exact .last (Base64.getElem?_alphabet (by omega)) (low n small).1
    · rename_i large
      exact .more (Base64.getElem?_alphabet (by omega)) (low (n % 32) (by omega)).2
        (ih (n / 32) (by omega))

theorem length_digits_le {count n : Nat} (fits : n < 32 ^ (count + 1)) :
    (digits n).length ≤ count + 1 := by
  induction count generalizing n with
  | zero =>
    have small : n < 32 := fits
    rw [digits, if_pos small]
    exact Nat.le_refl _
  | succ count ih =>
    rw [digits]
    split
    · simp
    · have rest : n / 32 < 32 ^ (count + 1) := by
        rw [Nat.pow_succ] at fits
        omega
      have := ih rest
      simp only [List.length_cons]
      omega

theorem length_digits_pos (n : Nat) : 0 < (digits n).length := by
  rw [digits]
  split <;> simp

/-- A number is read off a word that is not shorter than its digits; if it is no longer either, it
is made of these digits. -/
theorem digits_shortest {text rest : List Char} {n : Nat}
    (read : readDigits? text = some (n, rest)) :
    ∃ word, text = word ++ rest ∧ (digits n).length ≤ word.length ∧
      (word.length = (digits n).length → word = digits n) := by
  induction text generalizing n with
  | nil => cases read
  | cons c text ih =>
    rw [readDigits?] at read
    cases value : Base64.value? c with
    | none =>
      rw [value] at read
      cases read
    | some d =>
      obtain ⟨bound, rfl⟩ := Base64.digit_of_value? value
      rw [value] at read
      by_cases small : d < 32
      · simp only [small, if_true, Option.some_inj, Prod.mk.injEq] at read
        obtain ⟨rfl, rfl⟩ := read
        refine ⟨[Base64.digit d], rfl, ?_⟩
        rw [digits, if_pos small]
        exact ⟨Nat.le_refl _, fun _ => rfl⟩
      · simp only [small, if_false] at read
        obtain ⟨⟨m, left⟩, later, same⟩ := Option.map_eq_some_iff.mp read
        cases same
        obtain ⟨word, rfl, least, only⟩ := ih later
        refine ⟨Base64.digit d :: word, rfl, ?_⟩
        rw [List.length_cons]
        have some_ := length_digits_pos m
        by_cases zero : m = 0
        · -- A last digit of zero makes the word longer than it has to be.
          subst zero
          have single : (digits (d - 32 + 32 * 0)).length = 1 := by
            rw [digits, if_pos (by omega)]
            rfl
          rw [single]
          exact ⟨by omega, fun long => by omega⟩
        · have low : (d - 32 + 32 * m) % 32 + 32 = d := by omega
          have high : (d - 32 + 32 * m) / 32 = m := by omega
          rw [digits, if_neg (by omega), low, high, List.length_cons]
          refine ⟨by omega, fun same => ?_⟩
          rw [only (by omega)]

theorem length_of_read? {text rest : List Char} {v : Int} (read : read? text = some (v, rest)) :
    rest.length < text.length := by
  obtain ⟨⟨n, left⟩, digits, same⟩ := Option.map_eq_some_iff.mp read
  cases same
  obtain ⟨word, rfl, least, -⟩ := digits_shortest digits
  have := length_digits_pos n
  rw [List.length_append]
  omega

def readAll? (text : List Char) : Option (List Int) :=
  if text = [] then some []
  else
    match _read : read? text with
    | none => none
    | some (v, rest) => (readAll? rest).map (v :: ·)
termination_by text.length
decreasing_by exact length_of_read? _read

theorem readAll?_encode (v : Int) (text : List Char) :
    readAll? (encode v ++ text) = (readAll? text).map (v :: ·) := by
  have full : encode v ++ text ≠ [] := by
    intro empty
    have := length_digits_pos (ofInt v)
    rw [encode, List.append_eq_nil_iff] at empty
    rw [empty.1] at this
    exact Nat.lt_irrefl 0 this
  rw [readAll?, if_neg full]
  split
  · rename_i nothing
    rw [read?_encode] at nothing
    cases nothing
  · rename_i read
    rw [read?_encode] at read
    cases read
    rfl

/-- A row of words is read back word by word. -/
theorem readAll?_flatMap (vs : List Int) : readAll? (vs.flatMap encode) = some vs := by
  induction vs with
  | nil => rw [List.flatMap_nil, readAll?, if_pos rfl]
  | cons v vs ih => rw [List.flatMap_cons, readAll?_encode, ih, Option.map_some]

theorem toInt_eq_iff {n : Nat} {v : Int} : toInt n = v ↔ n = ofInt v ∨ v = 0 ∧ n = 1 := by
  unfold toInt ofInt
  split <;> split <;> omega

/-- The word of an integer. -/
structure IsShortest (v : Int) (word : List Char) : Prop where
  shape : IsWord word
  delimited : ∀ rest, read? (word ++ rest) = some (v, rest)
  least : ∀ other, read? other = some (v, []) → word.length ≤ other.length
  only : ∀ other, other.length = word.length →
    (read? other = some (v, []) ↔ other = word ∨ v = 0 ∧ other = ['B'])

theorem isShortest_encode (v : Int) : IsShortest v (encode v) := by
  have shortest {other : List Char} (read : read? other = some (v, [])) :
      (encode v).length ≤ other.length ∧
        (other.length = (encode v).length → other = encode v ∨ v = 0 ∧ other = ['B']) := by
    obtain ⟨⟨n, left⟩, found, same⟩ := Option.map_eq_some_iff.mp read
    cases same
    obtain ⟨word, rfl, least, only⟩ := digits_shortest found
    rw [List.append_nil]
    rcases toInt_eq_iff.mp (rfl : toInt n = toInt n) with positive | ⟨zero, one⟩
    · rw [encode, ← positive]
      exact ⟨least, fun same => .inl (only same)⟩
    · -- The number one is the zero with the other sign.
      have positive : encode 0 = ['A'] := by rw [encode, digits]; rfl
      have negative : digits 1 = ['B'] := by rw [digits]; rfl
      rw [one, negative] at least only
      rw [zero, positive]
      exact ⟨least, fun same => .inr ⟨rfl, only same⟩⟩
  refine ⟨isWord_digits _, read?_encode v, fun other read => (shortest read).1, ?_⟩
  intro other long
  constructor
  · intro read
    exact (shortest read).2 long
  · rintro (rfl | ⟨rfl, rfl⟩)
    · have read := read?_encode v []
      rwa [List.append_nil] at read
    · rfl

/-- The digits of a word, each looked up and put behind the text, until nothing is left of the
word. -/
def write? : (turns : Nat) → (text : List Char) → Int64 → Option (List Char)
  | 0, _, _ => none
  | turns + 1, text, word =>
    let rest := word >>> 5
    let digit := if 0 < rest then word &&& 31 ||| 32 else word &&& 31
    match Base64.alphabet[digit.toUInt64.toNat]? with
    | none => none
    | some letter =>
      if rest = 0 then some (text ++ [letter]) else write? turns (text ++ [letter]) rest

/-- Five bits of a word are a small number, with or without the sixth. -/
theorem exists_digit (word : Int64) (goes : Prop) [Decidable goes] :
    ∃ d < 64, (if goes then word &&& 31 ||| 32 else word &&& 31) = Int64.ofNat d := by
  have low : word &&& 31 = Int64.ofNat (word &&& 31).toBitVec.toNat := by
    apply Int64.toBitVec_inj.mp
    rw [Int64.toBitVec_ofNat', BitVec.ofNat_toNat, BitVec.setWidth_eq]
  have small : (word &&& 31).toBitVec.toNat < 32 := by
    rw [Int64.toBitVec_and, BitVec.toNat_and]
    exact Nat.lt_succ_of_le Nat.and_le_right
  by_cases more : goes
  · refine ⟨(word &&& 31).toBitVec.toNat + 32, by omega, ?_⟩
    rw [if_pos more, ← or_ofNat small, ← low]
  · refine ⟨(word &&& 31).toBitVec.toNat, by omega, ?_⟩
    rw [if_neg more, ← low]

/-- No turn looks beyond the table. -/
theorem lookup_digit (word : Int64) (goes : Prop) [Decidable goes] :
    let digit := if goes then word &&& 31 ||| 32 else word &&& 31
    Base64.alphabet[digit.toUInt64.toNat]? = some (Base64.digit digit.toNatClampNeg) := by
  intro digit
  obtain ⟨d, bound, same⟩ := exists_digit word goes
  have index : (Int64.ofNat d).toUInt64.toNat = d := toNat_ofNat_bits (by omega)
  have number : (Int64.ofNat d).toNatClampNeg = d := Int64.toNatClampNeg_ofNat_of_lt (by omega)
  rw [show digit = Int64.ofNat d from same, index, number, Base64.getElem?_alphabet bound]

theorem write?_eq (turns : Nat) (text : List Char) (word : Int64) :
    write? turns text word = (takeDigits? turns word).map (text ++ ·) := by
  induction turns generalizing text word with
  | zero => rfl
  | succ turns ih =>
    rw [write?, takeDigits?]
    simp only [lookup_digit]
    split
    · rfl
    · rw [ih, Option.map_map]
      congr 1
      funext letters
      simp

section Room

variable {v : Int64} (room : v.toInt.natAbs < 2 ^ 62)
include room

theorem ofInt_lt : ofInt v.toInt < 2 ^ 63 := by
  unfold ofInt
  split <;> omega

theorem toInt_foldSign : (foldSign v).toInt = ofInt v.toInt := by
  have folded := foldSign_ofInt room
  rw [Int64.ofInt_toInt] at folded
  rw [folded, Int64.toInt_ofNat_of_lt (ofInt_lt room)]

theorem write?_foldSign (text : List Char) :
    write? 13 text (foldSign v) = some (text ++ encode v.toInt) := by
  have bound := ofInt_lt room
  have taken : takeDigits? 13 (foldSign (Int64.ofInt v.toInt)) = some (encode v.toInt) :=
    takeDigits?_foldSign room (by omega)
  rw [Int64.ofInt_toInt] at taken
  rw [write?_eq, taken, Option.map_some]

end Room

theorem foldlM_write? {vs : List Int64} (room : ∀ v ∈ vs, v.toInt.natAbs < 2 ^ 62)
    (text : List Char) :
    vs.foldlM (fun text v => write? 13 text (foldSign v)) text =
      some (text ++ vs.flatMap fun v => encode v.toInt) := by
  induction vs generalizing text with
  | nil => simp
  | cons v vs ih =>
    rw [List.forall_mem_cons] at room
    rw [List.foldlM_cons, write?_foldSign room.1, List.flatMap_cons, ← List.append_assoc]
    exact ih room.2 (text ++ encode v.toInt)

/-- A word of 64 bits with room for the sign of its integer is written without an overflow: behind
the text that was there stand at most thirteen digits more. They are the shortest word of the
integer, so a row of integers is read back from what is written for them one behind the other. -/
theorem words_read_back :
    (∀ (v : Int64) (text : List Char), v.toInt.natAbs < 2 ^ 62 →
      (v < 0 → (-v).toInt = -v.toInt) ∧
      (foldSign v).toInt = 2 * v.toInt.natAbs + (if v < 0 then 1 else 0) ∧
      ∃ word, write? 13 text (foldSign v) = some (text ++ word) ∧ word = encode v.toInt ∧
        word.length ≤ 13 ∧ IsShortest v.toInt word) ∧
    ∀ (vs : List Int64) (text : List Char), (∀ v ∈ vs, v.toInt.natAbs < 2 ^ 62) →
      ∃ words, vs.foldlM (fun text v => write? 13 text (foldSign v)) text = some (text ++ words) ∧
        words = vs.flatMap (fun v => encode v.toInt) ∧
        readAll? words = some (vs.map Int64.toInt) := by
  constructor
  · intro v text room
    have negative : v < 0 ↔ v.toInt < 0 := Int64.lt_iff_toInt_lt
    have bound := ofInt_lt room
    refine ⟨fun _ => ?_, ?_, encode v.toInt, write?_foldSign room text, rfl,
      length_digits_le (by omega), isShortest_encode v.toInt⟩
    · have negated : -v = Int64.ofInt (-v.toInt) := by rw [Int64.ofInt_neg, Int64.ofInt_toInt]
      rw [negated]
      exact Int64.toInt_ofInt_of_le (by omega) (by omega)
    · rw [toInt_foldSign room, ofInt]
      simp only [negative]
      split <;> simp
  · intro vs text room
    refine ⟨_, foldlM_write? room text, rfl, ?_⟩
    rw [← readAll?_flatMap, List.flatMap_map]

/-- An integer with the least room that there may be for its sign, alone and in a row. -/
theorem words_at_limit_read_back :
    write? 13 ";".toList (foldSign (-4611686018427387903)) = some ";////////////H".toList ∧
      IsShortest (-4611686018427387903) "////////////H".toList ∧
      [-4611686018427387903, 0, -1].foldlM (fun text v => write? 13 text (foldSign v))
        ";".toList = some ";////////////HAD".toList ∧
      readAll? "////////////HAD".toList = some [-4611686018427387903, 0, -1] := by
  have number : (-4611686018427387903 : Int64).toInt = -4611686018427387903 := by decide
  obtain ⟨-, -, word, written, -, -, shortest⟩ :=
    words_read_back.1 (-4611686018427387903) ";".toList (by rw [number]; norm_num)
  obtain ⟨words, all, -, read⟩ :=
    words_read_back.2 [-4611686018427387903, 0, -1] ";".toList (by simp [number])
  have limit : write? 13 ";".toList (foldSign (-4611686018427387903)) =
      some (";".toList ++ "////////////H".toList) := by decide +kernel
  have row : [-4611686018427387903, 0, -1].foldlM (fun text v => write? 13 text (foldSign v))
      ";".toList = some (";".toList ++ "////////////HAD".toList) := by decide +kernel
  have word_eq := List.append_cancel_left (Option.some.inj (written.symm.trans limit))
  have words_eq := List.append_cancel_left (Option.some.inj (all.symm.trans row))
  rw [word_eq, number] at shortest
  rw [words_eq] at read
  exact ⟨limit, shortest, row, read⟩

end AmdBundler.SourceMap.Vlq
