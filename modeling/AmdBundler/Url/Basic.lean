import AmdBundler.Text.Split
import AmdBundler.Url.Host

namespace AmdBundler

/-- The path of a URL: names between slashes, or a text without any structure. -/
inductive UrlPath where
  | names (segments : List (List Char))
  | plain (text : List Char)
deriving DecidableEq

/-- A URL in its parts, all of them escaped. -/
structure Url where
  scheme : List Char
  user : List Char
  password : List Char
  host : Option (List Char)
  /-- The number behind the host, if it is not the usual one of the scheme. -/
  number : Option Nat
  path : UrlPath
  query : Option (List Char)
  fragment : Option (List Char)
deriving DecidableEq

namespace Url

/-- The schemes that have names for hosts, with the number that is usual behind a host. -/
def specialSchemes : List (List Char × Option Nat) :=
  [("http".toList, some 80), ("https".toList, some 443), ("ws".toList, some 80),
    ("wss".toList, some 443), ("ftp".toList, some 21), ("file".toList, none)]

def isSpecial (scheme : List Char) : Bool :=
  (specialSchemes.lookup scheme).isSome

/-- The text without control characters and spaces at its ends. -/
def trim (text : List Char) : List Char :=
  let trimStart (text : List Char) := text.dropWhile (·.toNat ≤ 0x20)
  (trimStart (trimStart text).reverse).reverse

/-- Line ends and tabs are no part of a URL; they only break its text into pieces. -/
def isBreak (c : Char) : Bool :=
  c == '\t' || c == '\n' || c == '\r'

def joined (text : List Char) : List Char :=
  text.filter (!isBreak ·)

def splitScheme? (text : List Char) : Option (List Char × List Char) :=
  let scheme := joined (text.takeWhile (· ≠ ':'))
  match text.dropWhile (· ≠ ':'), scheme with
  | ':' :: rest, c :: _ =>
    if c.isAlpha ∧ scheme.all (fun c => c.isAlphanum || c == '+' || c == '-' || c == '.') then
      some (scheme.map Char.toLower, rest)
    else none
  | _, _ => none

/-- A backslash is a slash where hosts have names. -/
def isSlash (special : Bool) (c : Char) : Bool :=
  c == '/' || (special && c == '\\')

/-- The text before the first `mark`, and the text after it, if there is one. -/
def splitAtMark (mark : Char) (text : List Char) : List Char × Option (List Char) :=
  match text.dropWhile (· ≠ mark) with
  | [] => (text, none)
  | _ :: after => (text.takeWhile (· ≠ mark), some after)

def isCurrent (segment : List Char) : Bool :=
  let segment := segment.map Char.toLower
  segment == ['.'] || segment == "%2e".toList

def isParent (segment : List Char) : Bool :=
  ["..", ".%2e", "%2e.", "%2e%2e"].contains (String.ofList (segment.map Char.toLower))

/-- A segment that starts with a drive, as in `c:` or `c|`, has no name above it to go to. -/
def startsWithDrive : List Char → Bool
  | c :: mark :: rest =>
    c.isAlpha && (mark == ':' || mark == '|') && (rest.isEmpty || rest.head? == some '\\')
  | _ => false

def isDrive (segment : List Char) : Bool :=
  segment.length == 2 && startsWithDrive segment

/-- The letter of a drive that a break sets off from more text, and that text. -/
def brokenDrive? (segment : List Char) : Option (Char × List Char) :=
  match joined segment with
  | c :: ':' :: rest =>
    let behind := ((segment.dropWhile (· ≠ ':')).drop 1).head?
    if c.isAlpha && !rest.isEmpty && behind.any isBreak then some (c, rest) else none
  | _ => none

/-- The way through the segments of a path: those that count so far, in reverse, and whether the
path of a file started with a drive. -/
structure Walk where
  segments : List (List Char)
  drive : Bool

namespace Walk

def start : Walk := ⟨[], false⟩

def up (w : Walk) : Walk :=
  match w.segments with
  | last :: before => if startsWithDrive last then w else { w with segments := before }
  | [] => w

/-- The first segment of a file's path may be a drive, which is written with a colon. What a break
sets off from the colon is a segment of its own. -/
def enter (file : Bool) (w : Walk) (segment : List Char) : Walk :=
  let name := joined segment
  if file && w.segments.isEmpty && isDrive name then ⟨[name.take 1 ++ [':']], true⟩
  else
    match file && w.segments.isEmpty, brokenDrive? segment with
    | true, some (c, rest) => { w with segments := [escape pathSet rest, [c, ':']] }
    | _, _ => { w with segments := escape pathSet name :: w.segments }

def step (file : Bool) (w : Walk) (segment : List Char) : Walk :=
  if isParent (joined segment) then w.up
  else if isCurrent (joined segment) then w
  else w.enter file segment

/-- The last segment. One that leads up or nowhere leaves an empty one. -/
def finish (file : Bool) (w : Walk) (segment : List Char) : Walk :=
  if isParent (joined segment) || isCurrent (joined segment) then
    { w.step file segment with segments := [] :: (w.step file segment).segments }
  else w.enter file segment

end Walk

/-- Walks through what comes after the slash that opens a path. -/
def walk (special file : Bool) (text : List Char) : Walk :=
  let segments := text.splitOnP (isSlash special)
  (segments.dropLast.foldl (Walk.step file) .start).finish file (segments.getLast?.getD [])

/-- The path of a text that starts with a slash, or may do without. -/
def names (special : Bool) (text : List Char) : UrlPath :=
  match text with
  | [] => .names (if special then [[]] else [])
  | c :: rest =>
    .names (walk special false (if isSlash special c then rest else text)).segments.reverse

/-- The host of an authority, the number behind it, and what follows the number. Only where hosts
have no names can something follow, behind a backslash. -/
def hostAndNumber? (scheme : List Char) (text : List Char) :
    Option (List Char × Option Nat × List Char) := do
  let special := isSpecial scheme
  let inner := text.takeWhile (· ≠ ']')
  let (hostText, rest) :=
    if text.head? = some '[' ∧ inner.length < text.length then
      (inner ++ [']'], text.drop (inner.length + 1))
    else (text.takeWhile (· ≠ ':'), text.dropWhile (· ≠ ':'))
  let (number, after) ← match rest with
    | [] => some (none, [])
    | ':' :: rest =>
      let digits := rest.takeWhile Char.isDigit
      let after := rest.dropWhile Char.isDigit
      let n := digits.foldl (fun n c => 10 * n + (c.toNat - '0'.toNat)) 0
      if n < 65536 ∧ (after.isEmpty ∨ after.head? = some '\\') then
        some (if digits.isEmpty then none else some n, after)
      else none
    | _ => none
  if hostText.isEmpty then
    if special ∨ rest ≠ [] then none else some ([], none, [])
  else
    let host ← host? special hostText
    let usual := (specialSchemes.lookup scheme).join
    return (host, if number = usual then none else number, after)

/-- Reads what comes after two slashes: an authority and a path. A login needs a host, and one
without any letter needs at least the end of the text. -/
def ofAuthority? (scheme : List Char) (atEnd : Bool) (text : List Char) : Option Url := do
  let special := isSpecial scheme
  let authority := text.takeWhile fun c => !isSlash special c
  let path := text.dropWhile fun c => !isSlash special c
  let (login, place) := match Text.splitLast? '@' authority with
    | some (login, place) => (some login, place)
    | none => (none, authority)
  let (user, password) := splitAtMark ':' (login.getD [])
  let password := password.getD []
  let (host, number, after) ← hostAndNumber? scheme place
  guard (!host.isEmpty || (user.isEmpty && password.isEmpty))
  guard (!place.isEmpty || login ≠ some [] || (path.isEmpty && atEnd))
  return ⟨scheme, escape userSet user, escape userSet password, host, number,
    names special (after ++ path), none, none⟩

/-- A file on a host. Empty segments at the start of its path do not count. -/
def file (host : List Char) (w : Walk) : Url :=
  let segments := w.segments.reverse.dropWhile List.isEmpty
  ⟨"file".toList, [], [], some host, none, .names (if segments.isEmpty then [[]] else segments),
    none, none⟩

def dropSlash? (text : List Char) : Option (List Char) :=
  match text.dropWhile isBreak with
  | c :: rest => if isSlash true c then some rest else none
  | [] => none

/-- Reads what comes after `file:`. There may be a host between the second and the third slash,
unless a drive stands there. A drive at the start of the path takes the place of the host. -/
def ofFile? (text : List Char) : Option Url := do
  match dropSlash? text >>= dropSlash? with
  | none => return file [] (walk true true ((dropSlash? text).getD text))
  | some rest =>
    let hostText := joined (rest.takeWhile (!isSlash true ·))
    let path := rest.dropWhile (!isSlash true ·)
    if isDrive hostText then return file [] (walk true true rest)
    let host ← if hostText.isEmpty then some [] else host? true hostText
    if host.isEmpty || host = "localhost".toList then return file [] (walk true true path)
    let w := walk true true (path.drop 1)
    return file (if w.drive then [] else host) w

def ofRest? (scheme : List Char) (atEnd : Bool) (rest : List Char) : Option Url :=
  if scheme = "file".toList then ofFile? rest
  else if isSpecial scheme then ofAuthority? scheme atEnd ((joined rest).dropWhile (isSlash true))
  else
    match joined rest with
    | '/' :: '/' :: rest => ofAuthority? scheme atEnd rest
    | '/' :: rest => some ⟨scheme, [], [], none, none, names false ('/' :: rest), none, none⟩
    | rest => some ⟨scheme, [], [], none, none, .plain (escape [] rest), none, none⟩

def parse? (text : List Char) : Option Url := do
  let (scheme, rest) ← splitScheme? (trim text)
  let (rest, fragment) := splitAtMark '#' rest
  let (rest, query) := splitAtMark '?' rest
  let url ← ofRest? scheme (query.isNone && fragment.isNone) rest
  let querySet := if isSpecial scheme then '\'' :: querySet else querySet
  return { url with
    query := query.map fun text => escape querySet (joined text)
    fragment := fragment.map fun text => escape fragmentSet (joined text) }

/-- The user name and the password as they are written before the host. -/
def loginText (u : Url) : List Char :=
  if u.user.isEmpty && u.password.isEmpty then []
  else u.user ++ (if u.password.isEmpty then [] else ':' :: u.password) ++ ['@']

def pathText : UrlPath → List Char
  | .names segments => segments.flatMap ('/' :: ·)
  | .plain text => text

/-- Everything between the scheme and the query. A path that opens with an empty name is set off
from an authority that is not there. -/
def middle (u : Url) : List Char :=
  match u.host, u.path with
  | some host, path =>
    ['/', '/'] ++ u.loginText ++ host ++
      (match u.number with
        | some n => ':' :: Nat.toDigits 10 n
        | none => []) ++ pathText path
  | none, .names ([] :: name :: rest) => ['/', '.'] ++ pathText (.names ([] :: name :: rest))
  | none, path => pathText path

def text (u : Url) : String :=
  let part (mark : Char) : Option (List Char) → List Char
    | some text => mark :: text
    | none => []
  String.ofList (u.scheme ++ ':' :: u.middle ++ part '?' u.query ++ part '#' u.fragment)

def isWeb (u : Url) : Bool :=
  u.scheme == "http".toList || u.scheme == "https".toList

/-- User name and password go with the request and not with the URL. They stay where the user name,
or the password that stands alone, has escapes that are no text. -/
def withoutLogin (u : Url) : Url :=
  let isText (part : List Char) := (Utf8.decode? (unescape part)).isSome
  if isText u.user && (!u.user.isEmpty || isText u.password) then
    { u with user := [], password := [] }
  else u

/-- Characters that a host may hold, but no request. -/
def unsent : List Char := ['"', '\x60', '\x7b', '\x7d']

/-- A URL of a request is at most so many bytes long. -/
def limit : Nat := 65534

def isSendable (u : Url) : Bool :=
  u.isWeb && !(u.host.any (·.any unsent.contains)) && u.text.utf8ByteSize ≤ limit

end Url

end AmdBundler
