import AmdBundler.SourceMap.Vlq

namespace AmdBundler.SourceMap

/-- A place in the generated line, and the place in a source that it comes from, all from zero. -/
structure Segment where
  column : UInt32
  source : UInt32
  sourceLine : UInt32
  sourceColumn : UInt32
deriving DecidableEq

/-- Text under construction: the characters so far, the last one first, whether the current line has
no segment yet, and the segment that the next one is relative to. -/
structure Mappings where
  written : List Char
  atLineStart : Bool
  last : Segment

namespace Mappings

def empty : Mappings := ⟨[], true, ⟨0, 0, 0, 0⟩⟩

def text (m : Mappings) : List Char :=
  m.written.reverse

def nextLine (m : Mappings) : Mappings :=
  ⟨';' :: m.written, true, { m.last with column := 0 }⟩

def distance (a b : UInt32) : Int :=
  (b.toNat : Int) - (a.toNat : Int)

/-- A segment as it is written after the segment `last`. -/
def segmentText (last s : Segment) : List Char :=
  Vlq.encode (distance last.column s.column) ++ Vlq.encode (distance last.source s.source) ++
    Vlq.encode (distance last.sourceLine s.sourceLine) ++
    Vlq.encode (distance last.sourceColumn s.sourceColumn)

def add (m : Mappings) (s : Segment) : Mappings :=
  let before := if m.atLineStart then [] else [',']
  ⟨(before ++ segmentText m.last s).reverse ++ m.written, false, s⟩

/-- What is put into a mappings text: line ends and segments. -/
inductive Step where
  | nextLine
  | add (segment : Segment)
deriving DecidableEq

def take (m : Mappings) : Step → Mappings
  | .nextLine => m.nextLine
  | .add s => m.add s

def ofSteps (steps : List Step) : Mappings :=
  steps.foldl take empty

end Mappings

end AmdBundler.SourceMap
