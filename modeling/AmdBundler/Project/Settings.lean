import AmdBundler.Json.Record

namespace AmdBundler

structure Settings where
  directory : String
  jsonLogs : Bool
  /-- How often more words were asked for. -/
  verbosity : UInt8
deriving DecidableEq

open Json in
def Settings.record : Record Settings where
  title := "Config"
  blank := ⟨"", false, 0⟩
  fields := [
    .of "cwd" .required (.text "path string") (·.directory) (fun x s => { s with directory := x })
      fun _ => false,
    .of "json_logs" .required .boolean (·.jsonLogs) (fun x s => { s with jsonLogs := x })
      fun _ => false,
    .of "verbosity" .required .uint8 (·.verbosity) (fun x s => { s with verbosity := x })
      fun _ => false]

def Settings.codec : Json.Codec Settings := Settings.record.codec

end AmdBundler
