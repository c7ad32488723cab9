import AmdBundler.Url.Basic

namespace AmdBundler

inductive Reply where
  /-- Nobody answers, or the connection breaks before there is an answer. -/
  | silence
  /-- An answer; `whole` says that all of its body came. -/
  | answer (status : Nat) (body : List UInt8) (whole : Bool)
deriving DecidableEq

/-- The replies to requests for URLs. -/
abbrev Network := Url → Reply

/-- The network that nobody answers on. -/
def Network.silent : Network := fun _ => .silence

/-- Why a request has no answer. -/
inductive RequestError where
  /-- No request can be made of a text that is no URL, or whose URL is given. -/
  | refused (url : Option Url)
  | unanswered (url : Url)
  | incomplete
deriving DecidableEq

def RequestError.message : RequestError → String
  | .refused none => "builder error"
  | .refused (some url) => "builder error for url (" ++ url.text ++ ")"
  | .unanswered url => "error sending request for url (" ++ url.text ++ ")"
  | .incomplete => "error decoding response body"

/-- The URL that a request for `text` goes to. -/
def requestUrl (text : String) : Except RequestError Url :=
  match Url.parse? text.toList with
  | none => .error (.refused none)
  | some url =>
    let url := url.withoutLogin
    if url.isSendable then .ok url
    else .error (.refused (some url))

end AmdBundler
