import AmdBundler.SourceMap.Mappings

namespace AmdBundler.SourceMap

/-- A place as it is read: four integers without bounds. -/
structure Place where
  column : Int
  source : Int
  sourceLine : Int
  sourceColumn : Int
deriving DecidableEq

def Segment.place (s : Segment) : Place :=
  ⟨s.column.toNat, s.source.toNat, s.sourceLine.toNat, s.sourceColumn.toNat⟩

namespace Place

def zero : Place := ⟨0, 0, 0, 0⟩

/-- Reads four differences to the place before, and nothing after them. -/
def ofText? (last : Place) (text : List Char) : Option Place := do
  let (column, rest) ← Vlq.read? text
  let (source, rest) ← Vlq.read? rest
  let (sourceLine, rest) ← Vlq.read? rest
  let (sourceColumn, rest) ← Vlq.read? rest
  guard rest.isEmpty
  return ⟨last.column + column, last.source + source, last.sourceLine + sourceLine,
    last.sourceColumn + sourceColumn⟩

/-- The places of the segments of a line, and the last of them. -/
def ofSegments? (last : Place) : List (List Char) → Option (List Place × Place)
  | [] => some ([], last)
  | text :: texts => do
    let place ← ofText? last text
    let (places, last) ← ofSegments? place texts
    return (place :: places, last)

def ofLine? (last : Place) (line : List Char) : Option (List Place × Place) :=
  let last := { last with column := 0 }
  if line.isEmpty then some ([], last) else ofSegments? last (line.splitOn ',')

def ofLines? (last : Place) : List (List Char) → Option (List (List Place))
  | [] => some []
  | line :: lines => do
    let (places, last) ← ofLine? last line
    return places :: (← ofLines? last lines)

end Place

def decodeMappings? (text : List Char) : Option (List (List Place)) :=
  Place.ofLines? .zero (text.splitOn ';')

end AmdBundler.SourceMap
