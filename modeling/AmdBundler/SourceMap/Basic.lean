import AmdBundler.Json.Record

namespace AmdBundler

structure SourceMap where
  version : UInt32
  file : String
  sourceRoot : String
  sources : List String
  names : List String
  mappings : String
  /-- The texts of the sources, when the map carries them. -/
  sourcesContent : Option (List String)
deriving DecidableEq

namespace SourceMap

def ofFile (file : String) (sources : List String) : SourceMap :=
  ⟨3, file, "", sources, [], "", none⟩

open Json in
/-- The root, the names and the texts of the sources may be missing. -/
def record : Record SourceMap where
  title := "SourceMap"
  blank := ⟨0, "", "", [], [], "", none⟩
  fields := [
    .of "version" .required .uint32 (·.version) (fun x m => { m with version := x })
      fun _ => false,
    .of "file" .required .string (·.file) (fun x m => { m with file := x }) fun _ => false,
    .of "sourceRoot" .defaulted .string (·.sourceRoot) (fun x m => { m with sourceRoot := x })
      fun _ => false,
    .of "sources" .required (.list .string) (·.sources) (fun x m => { m with sources := x })
      fun _ => false,
    .of "names" .defaulted (.list .string) (·.names) (fun x m => { m with names := x })
      fun _ => false,
    .of "mappings" .required .string (·.mappings) (fun x m => { m with mappings := x })
      fun _ => false,
    .of "sourcesContent" .defaulted (.nullable (.list .string)) (·.sourcesContent)
      (fun x m => { m with sourcesContent := x }) Option.isNone]

def codec : Json.Codec SourceMap := record.codec

def render (m : SourceMap) : String :=
  codec.render m

end SourceMap

end AmdBundler
