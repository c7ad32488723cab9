import AmdBundler.Loader.Error
import AmdBundler.NameMap
import AmdBundler.Text.Split

namespace AmdBundler

structure PathTable where
  baseUrl : String
  targets : NameMap String

namespace PathTable

/-- A base URL ends in a slash, unless it is empty. -/
def ofBase (base : String) : PathTable :=
  match base.toList.getLast? with
  | none | some '/' => ⟨base, .empty⟩
  | some _ => ⟨base ++ "/", .empty⟩

def withTargets (t : PathTable) (targets : NameMap String) : PathTable :=
  { t with targets }

def withTarget (t : PathTable) (name target : String) : PathTable :=
  { t with targets := t.targets.insert name target }

/-- `dir/name.ext` is `dir/name` and `.ext`. A dot that opens the last segment opens no
extension. -/
def splitExtension (name : List Char) : List Char × List Char :=
  let (folder, segment) := match Text.splitLast? '/' name with
    | some (before, after) => (before ++ ['/'], after)
    | none => ([], name)
  match Text.splitLast? '.' segment with
  | some (c :: stem, ext) => (folder ++ c :: stem, '.' :: ext)
  | _ => (name, [])

def isSchemeChar (c : Char) : Bool :=
  c.isAlphanum || c == '+' || c == '-' || c == '.'

/-- Rooted at a slash, or a colon with nothing but letters, digits, `+`, `-` and `.` before it. -/
def isAbsolute (url : List Char) : Bool :=
  url.head? == some '/' ||
    ((url.takeWhile (· ≠ ':')).all isSchemeChar && url.contains ':')

/-- The target of the longest run of leading segments, at most `count` of them, that has one, and
the segments it leaves. -/
def longestTarget (targets : NameMap String) (segments : List (List Char)) :
    Nat → Option (List Char × List (List Char))
  | 0 => none
  | count + 1 =>
    match targets.find? (String.ofList (['/'].intercalate (segments.take (count + 1)))) with
    | some target => some (target.toList, segments.drop (count + 1))
    | none => longestTarget targets segments count

/-- A target stands for a whole name as it is, and for its start without closing slashes. -/
def substitute (targets : NameMap String) (name : List Char) : List Char :=
  let segments := name.splitOn '/'
  match longestTarget targets segments segments.length with
  | none => name
  | some (target, []) => target
  | some (target, rest) => Text.trimEndOf '/' target ++ '/' :: ['/'].intercalate rest

/-- The URL of a name that is not empty. -/
def urlOf (t : PathTable) (nameWithExt : List Char) : List Char :=
  let (name, ext) := splitExtension nameWithExt
  if isAbsolute name then
    name ++ ext
  else
    let url := substitute t.targets name ++ ext
    if isAbsolute url then url else t.baseUrl.toList ++ url

def toUrl (t : PathTable) (nameWithExt : String) : Except LoaderError String :=
  if nameWithExt.isEmpty then .error (.unresolvable nameWithExt)
  else .ok (String.ofList (t.urlOf nameWithExt.toList))

end PathTable

end AmdBundler
