import AmdBundler.Text.Split
import AmdBundler.Text.Utf8

namespace AmdBundler

/-- A name as the file system has it: bytes, which need not be those of a text. -/
abbrev FileName := List UInt8

def FileName.ofText (text : String) : FileName :=
  Utf8.encode text.toList

/-- The name as a text. What is no text is replaced in it. -/
def FileName.text (name : FileName) : String :=
  String.ofList (Utf8.decodeLossy name)

/-- Names with slashes between them. What a path means is the list of its parts. -/
structure Path where
  bytes : List UInt8
deriving DecidableEq

namespace Path

def slash : UInt8 := 0x2F

def dot : UInt8 := 0x2E

def ofText (text : String) : Path := ⟨FileName.ofText text⟩

def text (p : Path) : String :=
  FileName.text p.bytes

inductive Part where
  | root
  | current
  | parent
  | named (name : FileName)
deriving DecidableEq

namespace Part

def bytes : Part → List UInt8
  | .root => [slash]
  | .current => [dot]
  | .parent => [dot, dot]
  | .named name => name

def rank : Part → Nat
  | .root => 0
  | .current => 1
  | .parent => 2
  | .named _ => 3

/-- The parts that are no names come first; names are ordered by their bytes. -/
instance : LT Part := ⟨fun a b => a.rank < b.rank ∨ a.rank = b.rank ∧ a.bytes < b.bytes⟩

instance (a b : Part) : Decidable (a < b) :=
  inferInstanceAs (Decidable (a.rank < b.rank ∨ a.rank = b.rank ∧ a.bytes < b.bytes))

/-- Empty segments and `.` lead nowhere. -/
def ofSegment? (segment : List UInt8) : Option Part :=
  if segment = [] ∨ segment = [dot] then none
  else if segment = [dot, dot] then some .parent
  else some (.named segment)

end Part

def isAbsolute (p : Path) : Bool :=
  p.bytes.head? == some slash

def segments (p : Path) : List (List UInt8) :=
  p.bytes.splitOn slash

/-- A path may start at the root or, in so many words, at the current directory. -/
def opening (p : Path) : List Part :=
  if p.isAbsolute then [.root]
  else if p.segments.head? = some [dot] then [.current]
  else []

def parts (p : Path) : List Part :=
  p.opening ++ p.segments.filterMap Part.ofSegment?

def precedes (a b : Path) : Bool :=
  decide (a.parts < b.parts)

/-- The path `p` as seen from `base`. -/
def join (base p : Path) : Path :=
  if p.isAbsolute then p
  else if base.bytes.isEmpty || base.bytes.getLast? == some slash then ⟨base.bytes ++ p.bytes⟩
  else ⟨base.bytes ++ slash :: p.bytes⟩

/-- The name of what the path leads to, if the path ends in one. -/
def fileName? (p : Path) : Option FileName :=
  match p.parts.getLast? with
  | some (.named name) => some name
  | _ => none

def trimSegments (segments : List (List UInt8)) : List (List UInt8) :=
  (segments.reverse.dropWhile fun s => s.isEmpty || s == [dot]).reverse

def parent? (p : Path) : Option Path :=
  match p.segments with
  | [] => none
  | first :: rest =>
    match trimSegments rest with
    | [] => if first.isEmpty then none else some ⟨[]⟩
    | rest =>
      match first, trimSegments rest.dropLast with
      | [], [] => some ⟨[slash]⟩
      | first, rest => some ⟨[slash].intercalate (first :: rest)⟩

/-- What stands behind the last dot of a name. A dot that opens the name opens no extension. -/
def extensionOf? (name : FileName) : Option FileName :=
  if name = [dot, dot] then none
  else
    match Text.splitLast? dot name with
    | some (_ :: _, extension) => some extension
    | _ => none

def extension? (p : Path) : Option FileName :=
  p.fileName?.bind extensionOf?

/-- The name without its extension and the dot before it. If two dots are all that is left with the
dot, they stay, for they are no name. -/
def stemOf (name : FileName) : FileName :=
  if name = [dot, dot] then name
  else
    match Text.splitLast? dot name with
    | some (c :: stem, _) => if c :: stem = [dot] then [dot, dot] else c :: stem
    | _ => name

def below? (base p : Path) : Option (List Part) :=
  Text.dropStart? base.parts p.parts

end Path

end AmdBundler
