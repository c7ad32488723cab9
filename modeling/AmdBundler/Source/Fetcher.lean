import AmdBundler.Source.Lines
import AmdBundler.Source.Network
import AmdBundler.Files.System
import AmdBundler.Host

namespace AmdBundler

inductive FetchError where
  | unsupported
  | unreadable (path : Path) (cause : FileError)
  | failedRequest (url : String) (cause : RequestError)
  /-- An answer that is no success. -/
  | status (url : String) (code : Nat)
  /-- Nothing can be asked for on the network. -/
  | noClient (reason : String)
deriving DecidableEq

namespace FetchError

def code : FetchError → String
  | .unsupported => "FETCH_ENVIRONMENT_UNSUPPORTED"
  | .unreadable .. => "FETCH_IO_ERROR"
  | .failedRequest .. => "FETCH_HTTP_ERROR"
  | .status .. => "FETCH_HTTP_STATUS"
  | .noClient _ => "FETCH_CLIENT_ERROR"

def message : FetchError → String
  | .unsupported => "Environment unsupported."
  | .unreadable path cause => "failed to read " ++ path.text ++ ": " ++ cause.message
  | .failedRequest url cause => "request for " ++ url ++ " failed: " ++ cause.message
  | .status url code => "request for " ++ url ++ " returned status " ++ toString code
  | .noClient reason => "failed to create HTTP client: " ++ reason

end FetchError

/-- A strategy, and the directory that relative paths start from. -/
structure Fetcher where
  strategy : Strategy
  root : Option Path
deriving DecidableEq

namespace Fetcher

/-- The fetcher of a host. One that reads from the network needs a client, which may be missing. -/
def select (clientFault? : Option String) (c : Capabilities) : Except FetchError Fetcher :=
  match c.strategy, clientFault? with
  | .network, some reason => .error (.noClient reason)
  | strategy, _ => .ok ⟨strategy, none⟩

/-- The network has no directories. -/
def withRoot (f : Fetcher) (root : Path) : Fetcher :=
  match f.strategy with
  | .filesystem | .embedded => { f with root := some root }
  | .network | .unsupported => f

def locate (f : Fetcher) (path : String) : Path :=
  match f.root with
  | some root => root.join (.ofText path)
  | none => .ofText path

/-- The text of a file, as `decode` reads it. -/
def readFile (f : Fetcher) (files : FileSystem) (path : String)
    (decode : List UInt8 → String) : Except FetchError String :=
  match files.read (f.locate path) with
  | .ok bytes => .ok (decode bytes)
  | .error cause => .error (.unreadable (f.locate path) cause)

def request (network : Network) (url : String) : Except FetchError String :=
  match requestUrl url with
  | .error cause => .error (.failedRequest url cause)
  | .ok target =>
    match network target with
    | .silence => .error (.failedRequest url (.unanswered target))
    | .answer status body whole =>
      if status < 200 ∨ 299 < status then .error (.status url status)
      else if whole then .ok (String.ofList (Utf8.decodeLossy body))
      else .error (.failedRequest url .incomplete)

def fetch (f : Fetcher) (files : FileSystem) (network : Network) (path : String) :
    Except FetchError String :=
  match f.strategy with
  | .filesystem => f.readFile files path fun bytes => String.ofList (Utf8.decodeLossy bytes)
  | .network => request network path
  | .embedded => f.readFile files path Lines.read
  | .unsupported => .error .unsupported

end Fetcher

end AmdBundler
