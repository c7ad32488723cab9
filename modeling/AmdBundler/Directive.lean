import AmdBundler.Base64

namespace AmdBundler

/-- A character that is no byte in Latin-1, and the number of characters before it. -/
structure WideChar where
  char : Char
  offset : Nat
deriving DecidableEq

/-- Hexadecimal digits in upper case, at least four of them. -/
def WideChar.codePoint (w : WideChar) : List Char :=
  let digits := (Nat.toDigits 16 w.char.toNat).map Char.toUpper
  List.replicate (4 - digits.length) '0' ++ digits

def WideChar.message (w : WideChar) : String :=
  "character U+" ++ String.ofList w.codePoint ++ " at offset " ++ toString w.offset ++
    " is outside the Latin-1 range"

/-- The fate of a source map. -/
inductive Embedding where
  /-- The text carries it. -/
  | embedded
  /-- There is none. -/
  | noSourceMap
  /-- The host has no encoder. -/
  | encoderUnavailable
  /-- The encoder refuses it. -/
  | encodingFailed (cause : WideChar)
deriving DecidableEq

namespace Embedding

def status : Embedding → String
  | .embedded => "embedded"
  | .noSourceMap => "no_source_map"
  | .encoderUnavailable => "encoder_unavailable"
  | .encodingFailed _ => "encoding_failed"

def reason? : Embedding → Option String
  | .encodingFailed cause => some cause.message
  | _ => none

def isEmbedded (e : Embedding) : Bool :=
  e == .embedded

end Embedding

namespace Directive

def nameMark : List Char := "\n//@ sourceURL=".toList

def mapMark : List Char := "\n//@ sourceMappingURL=data:application/json;base64,".toList

def firstWide? (text : List Char) : Option WideChar :=
  (text.zipIdx.find? fun (c, _) => 0xFF < c.toNat).map fun (c, offset) => ⟨c, offset⟩

/-- Base64 over Latin-1. -/
def encodeMap (map : List Char) : Except WideChar (List Char) :=
  match firstWide? map with
  | some w => .error w
  | none => .ok (Base64.encode (map.map fun c => c.toNat.toUInt8))

def directives (outputPath : List Char) (map : Option (List Char)) (canEncode : Bool) :
    List Char × Embedding :=
  let name := nameMark ++ outputPath
  match map with
  | none => (name, .noSourceMap)
  | some map =>
    if canEncode then
      match encodeMap map with
      | .ok payload => (name ++ (mapMark ++ payload), .embedded)
      | .error w => (name, .encodingFailed w)
    else (name, .encoderUnavailable)

def append (js outputPath : String) (map : Option String) (canEncode : Bool) :
    String × Embedding :=
  let (lines, embedding) := directives outputPath.toList (map.map String.toList) canEncode
  (String.ofList (js.toList ++ lines), embedding)

end Directive

end AmdBundler
