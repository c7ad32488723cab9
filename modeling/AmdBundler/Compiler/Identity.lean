import AmdBundler.Compiler.Basic
import AmdBundler.SourceMap.Basic
import AmdBundler.SourceMap.Mappings

namespace AmdBundler.Identity

/-- The start of line `index` comes from the start of the same line. -/
def lineStart (index : Nat) : SourceMap.Segment :=
  ⟨0, 0, index.toUInt32, 0⟩

def lineSteps (count : Nat) : List SourceMap.Mappings.Step :=
  (List.range count).flatMap fun index =>
    if index = 0 then [.add (lineStart index)] else [.nextLine, .add (lineStart index)]

/-- The mappings of a text; an empty text has no line to map. -/
def mappings (source : List Char) : List Char :=
  if source.isEmpty then []
  else (SourceMap.Mappings.ofSteps (lineSteps (source.splitOn '\n').length)).text

def sourceMap (source : String) (options : CompileOptions) : SourceMap :=
  { SourceMap.ofFile options.generatedFile options.sourceFiles with
    mappings := String.ofList (mappings source.toList)
    sourcesContent := if options.inline then some [source] else none }

def compile (source : String) (options : CompileOptions) : CompileOutput :=
  ⟨source, if options.sourceMap then some (sourceMap source options).render else none⟩

end AmdBundler.Identity
