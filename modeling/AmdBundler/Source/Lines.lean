import AmdBundler.Text.Utf8

namespace AmdBundler.Lines

def lineFeed : UInt8 := 0x0A

def carriageReturn : UInt8 := 0x0D

/-- The lines of the bytes before a line feed. A carriage return at their end closes a line. -/
def splitReturns (bytes : List UInt8) : List (List UInt8) :=
  let lines := bytes.splitOn carriageReturn
  if bytes.getLast? = some carriageReturn then lines.dropLast else lines

/-- The lines of the bytes of a file. -/
def split (bytes : List UInt8) : List (List UInt8) :=
  let parts := bytes.splitOn lineFeed
  let parts := if parts.getLast? = some [] then parts.dropLast else parts
  parts.flatMap splitReturns

/-- The text without a byte order mark at its start. -/
def dropMark : List Char → List Char
  | '\uFEFF' :: text => text
  | text => text

/-- The decoded lines of a file. The first one is freed of a byte order mark. -/
def decode (bytes : List UInt8) : List (List Char) :=
  match (split bytes).map Utf8.decodeLossy with
  | [] => []
  | first :: lines => dropMark first :: lines

/-- The text of a file, line by line. -/
def read (bytes : List UInt8) : String :=
  String.ofList (['\n'].intercalate (decode bytes))

end AmdBundler.Lines
