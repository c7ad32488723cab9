import AmdBundler.Proofs.IdentityArtifact
import AmdBundler.Proofs.StrictDecoding

namespace AmdBundler

namespace Utf8

theorem ascii_of_length_encodeChar {c : Char} (one : (encodeChar c).length = 1) :
    c.toNat < 0x80 := by
  by_contra wide
  simp only [encodeChar, if_neg wide] at one
  split at one
  · cases one
  · split at one <;> cases one

/-- If a text has as many bytes as characters, each byte is a character of its own. -/
theorem ascii_of_length_encode {text : List Char} (many : text.length = (encode text).length) :
    ∀ b ∈ encode text, b.toNat < 0x80 := by
  induction text with
  | nil => simp [encode]
  | cons c text ih =>
    have one := List.length_pos_iff.mpr (encodeChar_ne_nil c)
    have least := length_le_length_encode text
    rw [encode_cons, List.length_append, List.length_cons] at many
    have ascii := ascii_of_length_encodeChar (show (encodeChar c).length = 1 by omega)
    rw [encode_cons, encodeChar_of_ascii ascii, List.singleton_append, List.forall_mem_cons,
      toNat_toUInt8 (by omega)]
    exact ⟨ascii, ih (by omega)⟩

/-- Bytes that are decoded to as many characters are ASCII. -/
theorem ascii_of_decode? {bytes : List UInt8} {text : List Char}
    (decoded : decode? bytes = some text) (many : text.length = bytes.length) :
    ∀ b ∈ bytes, b.toNat < 0x80 := by
  rw [decode?_eq_some_iff] at decoded
  subst decoded
  exact ascii_of_length_encode many

/-- Ill-formed bytes leave a replacement character, so a text without one is read strictly too. -/
theorem decode?_of_decodeLossy {bytes : List UInt8} {text : List Char}
    (decoded : decodeLossy bytes = text) (absent : '\uFFFD' ∉ text) :
    decode? bytes = some text := by
  rw [decode?_eq_some_iff_items, ← decoded, decodeLossy, List.map_map]
  rw [← decoded, decodeLossy] at absent
  refine (List.map_id _).symm.trans (List.map_congr_left fun item member => ?_)
  cases item with
  | none => exact absurd (List.mem_map.mpr ⟨none, member, rfl⟩) absent
  | some c => rfl

end Utf8

def hexDigits : List Char := "0123456789ABCDEF".toList

/-- The number that hexadecimal digits stand for. -/
def ofHex (digits : List Char) : Nat :=
  digits.foldl (fun n c => 16 * n + hexDigits.idxOf c) 0

theorem ofHex_concat (digits : List Char) (c : Char) :
    ofHex (digits ++ [c]) = 16 * ofHex digits + hexDigits.idxOf c := by
  simp [ofHex]

theorem ofHex_zeros (count : Nat) (digits : List Char) :
    ofHex (List.replicate count '0' ++ digits) = ofHex digits := by
  induction count with
  | zero => rfl
  | succ count ih => exact ih

def upperHex (n : Nat) : List Char :=
  (Nat.toDigits 16 n).map Char.toUpper

theorem upper_digitChar {d : Nat} (h : d < 16) :
    (Nat.digitChar d).toUpper ∈ hexDigits ∧ hexDigits.idxOf (Nat.digitChar d).toUpper = d := by
  revert d
  decide

theorem upperHex_eq (n : Nat) :
    upperHex n =
      (if n < 16 then [] else upperHex (n / 16)) ++ [(Nat.digitChar (n % 16)).toUpper] := by
  rw [upperHex]
  split
  · rename_i small
    rw [Nat.toDigits_of_lt_base small, Nat.mod_eq_of_lt small]
    rfl
  · rename_i large
    rw [Nat.toDigits_of_base_le (by decide) (by omega), List.map_append]
    rfl

theorem ofHex_upperHex (n : Nat) : ofHex (upperHex n) = n := by
  induction n using Nat.strongRecOn with
  | ind n ih =>
    have last := (upper_digitChar (d := n % 16) (by omega)).2
    rw [upperHex_eq, ofHex_concat, last]
    split
    · rename_i small
      simp [ofHex]
      omega
    · rename_i large
      rw [ih (n / 16) (by omega)]
      omega

theorem mem_upperHex {n : Nat} : ∀ c ∈ upperHex n, c ∈ hexDigits := by
  induction n using Nat.strongRecOn with
  | ind n ih =>
    have last := (upper_digitChar (d := n % 16) (by omega)).1
    rw [upperHex_eq, List.forall_mem_append, List.forall_mem_singleton]
    refine ⟨?_, last⟩
    split
    · simp
    · exact ih (n / 16) (by omega)

theorem eq_zero_of_toUpper {c : Char} (zero : c.toUpper = '0') : c = '0' := by
  rw [Char.toUpper] at zero
  split at zero
  · rename_i lower
    have letter : 97 ≤ c.val.toNat ∧ c.val.toNat ≤ 122 := by
      simpa [UInt32.le_iff_toNat_le] using lower
    have code : c.val + 4294967264 = 48 := by simpa using congrArg Char.val zero
    have far : (4294967264 : UInt32).toNat = 4294967264 := by rfl
    have number : (c.val + 4294967264).toNat = 48 := by
      rw [code]
      rfl
    rw [UInt32.toNat_add, far] at number
    omega
  · exact zero

theorem head_upperHex_ne_zero {n : Nat} (positive : 0 < n) : (upperHex n).head? ≠ some '0' := by
  rw [upperHex, List.head?_map, ne_eq, Option.map_eq_some_iff]
  rintro ⟨c, first, zero⟩
  rw [eq_zero_of_toUpper zero] at first
  exact Json.Codec.head_toDigits_ne_zero (b := 16) (by decide) positive first

/-- Four hexadecimal digits, or more if the number needs them. -/
structure IsCodePoint (hex : List Char) (n : Nat) : Prop where
  long : 4 ≤ hex.length
  digits : ∀ d ∈ hex, d ∈ hexDigits
  number : ofHex hex = n
  full : 4 < hex.length → hex.head? ≠ some '0'

namespace Directive

theorem isCodePoint_codePoint (w : WideChar) : IsCodePoint w.codePoint w.char.toNat := by
  have written : w.codePoint = List.replicate (4 - (upperHex w.char.toNat).length) '0' ++
      upperHex w.char.toNat := rfl
  rw [written]
  refine ⟨?_, ?_, ?_, ?_⟩
  · rw [List.length_append, List.length_replicate]
    omega
  · rw [List.forall_mem_append]
    refine ⟨fun d zero => ?_, mem_upperHex⟩
    rw [List.eq_of_mem_replicate zero]
    decide
  · rw [ofHex_zeros, ofHex_upperHex]
  · intro more
    rw [List.length_append, List.length_replicate] at more
    have none_ : 4 - (upperHex w.char.toNat).length = 0 := by omega
    rw [none_, List.replicate_zero, List.nil_append]
    refine head_upperHex_ne_zero ?_
    rw [Nat.pos_iff_ne_zero]
    intro zero
    rw [zero] at more
    exact absurd more (by decide)

/-- The character that does not fit is the first of its kind, and the offset counts the characters
before it. -/
theorem cut_of_encodeMap {map : List Char} {w : WideChar} (refused : encodeMap map = .error w) :
    ∃ before after, map = before ++ w.char :: after ∧ Latin1 before ∧ 0xFF < w.char.toNat ∧
      w.offset = before.length := by
  have found : firstWide? map = some w := by
    rw [encodeMap] at refused
    split at refused
    · cases refused
      assumption
    · cases refused
  obtain ⟨⟨c, offset⟩, entry, rfl⟩ := Option.map_eq_some_iff.mp found
  obtain ⟨wide, front, back, cut, narrow⟩ := List.find?_eq_some_iff_append.mp entry
  have letters := congrArg (List.map Prod.fst) cut
  have offsets := congrArg (List.map Prod.snd) cut
  rw [List.zipIdx_map_fst, List.map_append, List.map_cons] at letters
  rw [List.zipIdx_map_snd, List.map_append, List.map_cons] at offsets
  refine ⟨front.map Prod.fst, back.map Prod.fst, letters, ?_, by simpa using wide, ?_⟩
  · intro d member
    obtain ⟨item, inside, rfl⟩ := List.mem_map.mp member
    simpa using narrow item inside
  · -- The offsets before the character are all numbers from zero, so it comes next.
    obtain ⟨count, -, before, behind⟩ := List.range'_eq_append_iff.mp offsets
    have here := (List.range'_eq_cons_iff.mp behind.symm).1
    have length := congrArg List.length before
    rw [List.length_map, List.length_range'] at length
    rw [List.length_map, length]
    simpa using here.symm

theorem message_of_wide (w : WideChar) : ∃ hex, IsCodePoint hex w.char.toNat ∧
    w.message = "character U+" ++ String.ofList hex ++ " at offset " ++ toString w.offset ++
      " is outside the Latin-1 range" :=
  ⟨w.codePoint, isCodePoint_codePoint w, rfl⟩

/-- Bytes of Latin-1 are bytes of UTF-8 for ASCII, and for no other text. -/
theorem decode?_latin1_iff {text : List Char} (narrow : Latin1 text) :
    Utf8.decode? (text.map fun c => c.toNat.toUInt8) = some text ↔
      ∀ c ∈ text, c.toNat < 0x80 := by
  constructor
  · intro decoded c member
    have ascii := Utf8.ascii_of_decode? decoded (List.length_map _).symm
      c.toNat.toUInt8 (List.mem_map_of_mem member)
    have small := narrow c member
    rwa [Utf8.toNat_toUInt8 (by omega)] at ascii
  · intro ascii
    have bytes : (text.map fun c => c.toNat.toUInt8) = Utf8.encode text := by
      rw [Utf8.encode, List.map_eq_flatMap]
      exact List.flatMap_congr fun c member => (Utf8.encodeChar_of_ascii (ascii c member)).symm
    rw [bytes, Utf8.decode?_encode]

theorem decodeLossy_latin1_iff {text : List Char} (narrow : Latin1 text) :
    Utf8.decodeLossy (text.map fun c => c.toNat.toUInt8) = text ↔
      ∀ c ∈ text, c.toNat < 0x80 := by
  rw [← decode?_latin1_iff narrow]
  constructor
  · intro decoded
    refine Utf8.decode?_of_decodeLossy decoded ?_
    intro replaced
    exact absurd (narrow _ replaced) (by decide)
  · intro decoded
    rw [Utf8.decodeLossy, Utf8.decode?_eq_some_iff_items.mp decoded, List.map_map]
    exact List.map_id text

/-- The encoder takes just the maps that fit into Latin-1. What it writes for one has its four
characters for every three that are begun, digits and the padding that is due; its bytes, read as
Latin-1, are the map, so no other map is written in the same way, and read as UTF-8 they are the map
if and only if it is ASCII. Of any other map it names the first character that does not fit, and the
number of characters before it. -/
theorem encodes_latin1_exactly (map : String) :
    ((∃ payload, encodeMap map.toList = .ok payload) ↔ ∀ c ∈ map.toList, c.toNat ≤ 0xFF) ∧
    (∀ payload, encodeMap map.toList = .ok payload →
      payload.length = 4 * ((map.length + 2) / 3) ∧
      (∃ body, payload = body ++ List.replicate ((3 - map.length % 3) % 3) '=' ∧
        ∀ c ∈ body, c ∈ Base64.alphabet) ∧
      (∃ bytes, Base64.decode? payload = some bytes ∧
        bytes.map (fun b => Char.ofNat b.toNat) = map.toList ∧
        (Utf8.decode? bytes = some map.toList ↔ ∀ c ∈ map.toList, c.toNat < 0x80) ∧
        (Utf8.decodeLossy bytes = map.toList ↔ ∀ c ∈ map.toList, c.toNat < 0x80)) ∧
      ∀ other : String, encodeMap other.toList = .ok payload → other = map) ∧
    ∀ w, encodeMap map.toList = .error w →
      ∃ before after hex, map.toList = before ++ w.char :: after ∧
        (∀ c ∈ before, c.toNat ≤ 0xFF) ∧ 0xFF < w.char.toNat ∧ IsCodePoint hex w.char.toNat ∧
        w.message = "character U+" ++ String.ofList hex ++ " at offset " ++
          toString before.length ++ " is outside the Latin-1 range" := by
  refine ⟨?_, ?_, ?_⟩
  · simp only [encodeMap_eq_ok_iff, exists_and_left, exists_eq, and_true]
    rfl
  · intro payload encoded
    obtain ⟨narrow, rfl⟩ := encodeMap_eq_ok_iff.mp encoded
    have size := Base64.length_encode (map.toList.map fun c => c.toNat.toUInt8)
    have padded := Base64.encode_padded (map.toList.map fun c => c.toNat.toUInt8)
    rw [List.length_map, String.length_toList] at size padded
    refine ⟨size, padded, ⟨_, Base64.decode?_encode _, chars_of_bytes narrow,
      decode?_latin1_iff narrow, decodeLossy_latin1_iff narrow⟩, ?_⟩
    intro other same
    obtain ⟨narrowToo, written⟩ := encodeMap_eq_ok_iff.mp same
    have bytes := congrArg Base64.decode? written
    rw [Base64.decode?_encode, Base64.decode?_encode, Option.some_inj] at bytes
    rw [← String.toList_inj, ← chars_of_bytes narrowToo, ← bytes, chars_of_bytes narrow]
  · intro w refused
    obtain ⟨before, after, cut, narrow, wide, offset⟩ := cut_of_encodeMap refused
    obtain ⟨hex, code, message⟩ := message_of_wide w
    rw [offset] at message
    exact ⟨before, after, hex, cut, narrow, wide, code, message⟩

end Directive

end AmdBundler
