import AmdBundler.Text.Quoted

namespace AmdBundler.Blake3

structure Row where
  a : UInt32
  b : UInt32
  c : UInt32
  d : UInt32
deriving DecidableEq

namespace Row

def zipWith (f : UInt32 → UInt32 → UInt32) (x y : Row) : Row :=
  ⟨f x.a y.a, f x.b y.b, f x.c y.c, f x.d y.d⟩

def map (f : UInt32 → UInt32) (x : Row) : Row :=
  ⟨f x.a, f x.b, f x.c, f x.d⟩

def add (x y : Row) : Row := zipWith (· + ·) x y

def xor (x y : Row) : Row := zipWith (· ^^^ ·) x y

/-- The words one place to the left. -/
def turn (x : Row) : Row := ⟨x.b, x.c, x.d, x.a⟩

end Row

def rotateRight (n : UInt32) (w : UInt32) : UInt32 :=
  w >>> n ||| w <<< (32 - n)

structure Chaining where
  low : Row
  high : Row
deriving DecidableEq

/-- The chaining value that every chunk starts from. -/
def start : Chaining :=
  ⟨⟨0x6A09E667, 0xBB67AE85, 0x3C6EF372, 0xA54FF53A⟩,
    ⟨0x510E527F, 0x9B05688C, 0x1F83D9AB, 0x5BE0CD19⟩⟩

/-- The four rows that a compression stirs. -/
structure Block where
  r0 : Row
  r1 : Row
  r2 : Row
  r3 : Row

/-- Stirs the columns, with two rows of the message. -/
def Block.mix (s : Block) (x y : Row) : Block :=
  let r0 := (s.r0.add s.r1).add x
  let r3 := (s.r3.xor r0).map (rotateRight 16)
  let r2 := s.r2.add r3
  let r1 := (s.r1.xor r2).map (rotateRight 12)
  let r0 := (r0.add r1).add y
  let r3 := (r3.xor r0).map (rotateRight 8)
  let r2 := r2.add r3
  let r1 := (r1.xor r2).map (rotateRight 7)
  ⟨r0, r1, r2, r3⟩

/-- Brings the diagonals into the columns. -/
def Block.slant (s : Block) : Block :=
  ⟨s.r0, s.r1.turn, s.r2.turn.turn, s.r3.turn.turn.turn⟩

/-- Brings the diagonals back. -/
def Block.straighten (s : Block) : Block :=
  ⟨s.r0, s.r1.turn.turn.turn, s.r2.turn.turn, s.r3.turn⟩

/-- The sixteen words of a block of the input. -/
structure Message where
  m0 : Row
  m1 : Row
  m2 : Row
  m3 : Row
deriving DecidableEq

/-- The words in the order of the next round. -/
def Message.permute (m : Message) : Message :=
  ⟨⟨m.m0.c, m.m1.c, m.m0.d, m.m2.c⟩, ⟨m.m1.d, m.m0.a, m.m1.a, m.m3.b⟩,
    ⟨m.m0.b, m.m2.d, m.m3.a, m.m1.b⟩, ⟨m.m2.b, m.m3.c, m.m3.d, m.m2.a⟩⟩

/-- A round: the columns with the first half of the message, the diagonals with the second. -/
def round (s : Block) (m : Message) : Block :=
  let s := s.mix ⟨m.m0.a, m.m0.c, m.m1.a, m.m1.c⟩ ⟨m.m0.b, m.m0.d, m.m1.b, m.m1.d⟩
  (s.slant.mix ⟨m.m2.a, m.m2.c, m.m3.a, m.m3.c⟩ ⟨m.m2.b, m.m2.d, m.m3.b, m.m3.d⟩).straighten

def rounds : Nat → Block → Message → Block
  | 0, s, _ => s
  | n + 1, s, m => rounds n (round s m) m.permute

/-- Compresses a block. The chunk's number, the number of bytes and the flags say which block it
is. -/
def compress (cv : Chaining) (m : Message) (chunk : Nat) (length flags : UInt32) : Chaining :=
  let s := rounds 7 ⟨cv.low, cv.high, start.low,
    ⟨chunk.toUInt32, (chunk / Nat.pow 2 32).toUInt32, length, flags⟩⟩ m
  ⟨s.r0.xor s.r2, s.r1.xor s.r3⟩

def chunkStart : UInt32 := 1

def chunkEnd : UInt32 := 2

def parent : UInt32 := 4

def root : UInt32 := 8

/-- Four bytes are a word, the lowest first. Missing bytes are zero. -/
def word (bytes : List UInt8) (index : Nat) : UInt32 :=
  ((bytes.drop (4 * index)).take 4).foldr (fun b w => w <<< 8 ||| b.toUInt32) 0

def Message.ofBytes (bytes : List UInt8) : Message :=
  let row (i : Nat) : Row :=
    ⟨word bytes i, word bytes (i + 1), word bytes (i + 2), word bytes (i + 3)⟩
  ⟨row 0, row 4, row 8, row 12⟩

/-- The chaining value after the blocks of a chunk, at most `count` of them. `top` is the flag of
the last block of all. -/
def blocks (chunk : Nat) (top : UInt32) : (count : Nat) → (first : UInt32) → Chaining →
    List UInt8 → Chaining
  | 0, _, cv, _ => cv
  | count + 1, first, cv, bytes =>
    let block := bytes.take 64
    let rest := bytes.drop 64
    let flags := if rest.isEmpty then first ||| chunkEnd ||| top else first
    let cv := compress cv (.ofBytes block) chunk block.length.toUInt32 flags
    if rest.isEmpty then cv else blocks chunk top count 0 cv rest

def chunkValue (chunk : Nat) (top : UInt32) (bytes : List UInt8) : Chaining :=
  blocks chunk top 16 chunkStart start bytes

def join (top : UInt32) (left right : Chaining) : Chaining :=
  compress start ⟨left.low, left.high, right.low, right.high⟩ 0 64 (parent ||| top)

/-- The number of bytes in the left side of a join: chunks in a power of two, fewer than `size`
bytes. -/
def leftSize (size : Nat) : Nat :=
  1024 * Nat.pow 2 (Nat.log2 ((size - 1) / 1024))

theorem leftSize_pos (size : Nat) : 0 < leftSize size :=
  Nat.mul_pos (by decide) (Nat.pow_pos (by decide))

theorem leftSize_lt {size : Nat} (h : 1024 < size) : leftSize size < size := by
  have nonzero : (size - 1) / 1024 ≠ 0 := by omega
  have : Nat.pow 2 _ ≤ _ := Nat.log2_self_le nonzero
  simp only [leftSize]
  omega

/-- The chaining value of an input that starts with chunk number `chunk`. -/
def tree (chunk : Nat) (top : UInt32) (bytes : List UInt8) : Chaining :=
  if h : 1024 < bytes.length then
    let left := bytes.take (leftSize bytes.length)
    let right := bytes.drop (leftSize bytes.length)
    join top (tree chunk 0 left) (tree (chunk + leftSize bytes.length / 1024) 0 right)
  else
    chunkValue chunk top bytes
termination_by bytes.length
decreasing_by
  · have := leftSize_lt h
    simp only [List.length_take]
    omega
  · have := leftSize_pos bytes.length
    simp only [List.length_drop]
    omega

/-- The bytes of a word, the lowest first. -/
def wordBytes (w : UInt32) : List UInt8 :=
  [w.toUInt8, (w >>> 8).toUInt8, (w >>> 16).toUInt8, (w >>> 24).toUInt8]

def Row.bytes (r : Row) : List UInt8 :=
  wordBytes r.a ++ wordBytes r.b ++ wordBytes r.c ++ wordBytes r.d

def hash (bytes : List UInt8) : List UInt8 :=
  let cv := tree 0 root bytes
  cv.low.bytes ++ cv.high.bytes

def hexByte (b : UInt8) : List Char :=
  Text.hex (b.toNat / 16) ++ Text.hex (b.toNat % 16)

def hexHash (bytes : List UInt8) : String :=
  String.ofList ((hash bytes).flatMap hexByte)

/-- Twelve digits of the hash, for people. -/
def shortHash (bytes : List UInt8) : String :=
  String.ofList ((hexHash bytes).toList.take 12)

end AmdBundler.Blake3
