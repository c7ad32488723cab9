import AmdBundler.Json.Record

namespace AmdBundler

/-- What a compiler is asked for: a source map, its text inside the map, the paths of the sources
and the path of the output, both for the map. -/
structure CompileOptions where
  sourceMap : Bool
  inline : Bool
  sourceFiles : List String
  generatedFile : String
deriving DecidableEq

namespace CompileOptions

/-- A source map that carries the one source. -/
def inlineMap (sourcePath generatedFile : String) : CompileOptions :=
  ⟨true, true, [sourcePath], generatedFile⟩

def withoutSourceMap (o : CompileOptions) : CompileOptions :=
  { o with sourceMap := false, inline := false }

open Json in
def record : Record CompileOptions where
  title := "CompileOptions"
  blank := ⟨false, false, [], ""⟩
  fields := [
    .of "sourceMap" .required .boolean (·.sourceMap) (fun x o => { o with sourceMap := x })
      fun _ => false,
    .of "inline" .required .boolean (·.inline) (fun x o => { o with inline := x }) fun _ => false,
    .of "sourceFiles" .required (.list .string) (·.sourceFiles)
      (fun x o => { o with sourceFiles := x }) fun _ => false,
    .of "generatedFile" .required .string (·.generatedFile)
      (fun x o => { o with generatedFile := x }) fun _ => false]

def codec : Json.Codec CompileOptions := record.codec

end CompileOptions

/-- Compiled text, and its source map as JSON text. -/
structure CompileOutput where
  js : String
  sourceMap : Option String
deriving DecidableEq

namespace CompileOutput

open Json in
def record : Record CompileOutput where
  title := "CompileOutput"
  blank := ⟨"", none⟩
  fields := [
    .of "js" .required .string (·.js) (fun x o => { o with js := x }) fun _ => false,
    .of "v3SourceMap" .defaulted (.nullable .string) (·.sourceMap)
      (fun x o => { o with sourceMap := x }) Option.isNone]

def codec : Json.Codec CompileOutput := record.codec

end CompileOutput

/-- A failed compilation: a code for programs, words for people, and the line and column in the
source, when they are known. -/
structure CompilerError where
  code : String
  message : String
  location : Option (UInt32 × UInt32)
deriving DecidableEq

namespace CompilerError

def parse (message : String) : CompilerError := ⟨"COMPILER_PARSE_ERROR", message, none⟩

def io (message : String) : CompilerError := ⟨"COMPILER_IO_ERROR", message, none⟩

/-- The compiler gave an answer that is none. -/
def protocol (message : String) : CompilerError := ⟨"COMPILER_PROTOCOL_ERROR", message, none⟩

def located (e : CompilerError) (line column : UInt32) : CompilerError :=
  { e with location := some (line, column) }

def display (e : CompilerError) : String :=
  e.code ++ ": " ++ e.message ++ match e.location with
    | some (line, column) => " at " ++ toString line ++ ":" ++ toString column
    | none => ""

end CompilerError

/-- A compiler whose runs may depend on a state, and change it. -/
structure Compiler (σ : Type) where
  name : String
  compile : String → CompileOptions → σ → Except CompilerError CompileOutput × σ

end AmdBundler
