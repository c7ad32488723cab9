import AmdBundler.CommandLine.Pipeline
import AmdBundler.CommandLine.Report

namespace AmdBundler.CommandLine

def capabilitiesReport (c : Capabilities) : List Char :=
  laidOut 1 [
    ("runtime_version", (Json.Codec.nullable .string).write c.runtimeVersion),
    .boolean "browser_globals" c.browserGlobals,
    .boolean "worker_globals" c.workerGlobals,
    .boolean "platform_namespace" c.platformNamespace,
    .boolean "base64" c.base64]

def probeReport (host : HostKind) (c : Capabilities) : List Char :=
  laidOut 0 [
    .boolean "ok" (c.strategy != .unsupported),
    .text "host" host.name,
    .text "strategy" c.strategy.name,
    ("capabilities", capabilitiesReport c),
    .boolean "inline_source_maps" c.base64]

def probeText (host : HostKind) (c : Capabilities) : String :=
  "host:     " ++ host.name ++ "\nstrategy: " ++ c.strategy.name ++ "\nmaps:     " ++
    (if c.base64 then "inline" else "none (no base64 encoder)") ++ "\n"

def probe (world : World) (directory : Path) (host : Option HostKind) (json : Bool) : Outcome :=
  match ProjectConfig.load world.files directory with
  | .error e => .failure world e.message
  | .ok project =>
    let host := host.getD project.host
    let c := Capabilities.ofHost host
    let text := if json then printed (probeReport host c) else probeText host c
    { Outcome.success world text with code := if c.strategy = .unsupported then 1 else 0 }

end AmdBundler.CommandLine
