import AmdBundler.Json.Codec
import AmdBundler.Version

namespace AmdBundler

/-- A choice of host. `auto` is the host that the program runs on. -/
inductive HostKind where
  | auto
  | filesystem
  | network
  | embedded
deriving DecidableEq

namespace HostKind

def name : HostKind → String
  | .auto => "auto"
  | .filesystem => "filesystem"
  | .network => "network"
  | .embedded => "embedded"

def table : List (String × HostKind) :=
  [.auto, .filesystem, .network, .embedded].map fun kind => (kind.name, kind)

def codec : Json.Codec HostKind := .choice table name

end HostKind

inductive Strategy where
  | filesystem
  | network
  /-- Line by line, as an embedded interpreter reads. -/
  | embedded
  | unsupported
deriving DecidableEq

def Strategy.name : Strategy → String
  | .filesystem => "filesystem"
  | .network => "network"
  | .embedded => "embedded"
  | .unsupported => "unsupported"

/-- What a host shows of itself. -/
structure Capabilities where
  /-- The version of a process that reads local files. -/
  runtimeVersion : Option String
  /-- A window with a document. -/
  browserGlobals : Bool
  /-- The import function of a worker. -/
  workerGlobals : Bool
  /-- The packages of a managed platform. -/
  platformNamespace : Bool
  /-- An encoder for source maps. -/
  base64 : Bool
deriving DecidableEq

namespace Capabilities

def none : Capabilities := ⟨.none, false, false, false, false⟩

def detected : Capabilities := { none with runtimeVersion := some version, base64 := true }

/-- The embedded host has no encoder. -/
def ofHost : HostKind → Capabilities
  | .auto | .filesystem => detected
  | .network => { none with browserGlobals := true, base64 := true }
  | .embedded => { none with platformNamespace := true }

/-- Local files come before the network, and the network before the platform. -/
def strategy (c : Capabilities) : Strategy :=
  if c.runtimeVersion.isSome then .filesystem
  else if c.browserGlobals || c.workerGlobals then .network
  else if c.platformNamespace then .embedded
  else .unsupported

end Capabilities

end AmdBundler
