import AmdBundler.Json.Number
import AmdBundler.Json.Text

namespace AmdBundler.Json

/-- A bracket that is open. -/
inductive Frame where
  | list
  | object
deriving DecidableEq

/-- What is due next: a value, the key of a member, the end of a bracket or what it opens with, or
what follows a value. -/
inductive Due where
  | value
  | key
  | opened
  | next
deriving DecidableEq

def Frame.close : Frame → Char
  | .list => ']'
  | .object => '\x7d'

/-- What is due inside a frame in place of its closing bracket. -/
def Frame.item : Frame → Due
  | .list => .value
  | .object => .key

def Frame.endCause : Frame → Cause
  | .list => .endInList
  | .object => .endInObject

def Frame.commaCause : Frame → Cause
  | .list => .expectedCommaOrBracket
  | .object => .expectedCommaOrBrace

/-- Passes over what opens a value. The frame that it opened, if any, is due next. -/
def skipOpening (c : Cursor) : Except Fault (Option Frame × Cursor) :=
  match c.peek? with
  | none => c.refused .endInValue
  | some 'n' => (expectLetters "ull".toList (c.advance 1)).map fun (_, c) => (none, c)
  | some 't' => (expectLetters "rue".toList (c.advance 1)).map fun (_, c) => (none, c)
  | some 'f' => (expectLetters "alse".toList (c.advance 1)).map fun (_, c) => (none, c)
  | some '-' => (skipNumber (c.advance 1)).map (none, ·)
  | some '"' => (skipText (c.advance 1)).map (none, ·)
  | some '[' => .ok (some .list, c.advance 1)
  | some '\x7b' => .ok (some .object, c.advance 1)
  | some found =>
    if found.isDigit then (skipNumber c).map (none, ·) else c.refused .expectedValue

def skipKey (c : Cursor) : Except Fault Cursor :=
  match c.peek? with
  | none => c.refused .endInObject
  | some '"' =>
    match skipText (c.advance 1) with
    | .error f => .error f
    | .ok c => expectColon c
  | some _ => c.refused .keyNotString

/-- Goes on until all frames are closed. Every step but the one from `opened` reads a byte, so twice
the number of bytes and one more are `steps` enough. -/
def skipFrom : (steps : Nat) → List Frame → Due → Cursor → Except Fault Cursor
  | 0, _, _, c => c.failed .endInValue
  | steps + 1, frames, due, c =>
    let c := c.skipSpace
    match due, frames with
    | .next, [] => .ok c
    | .opened, [] => .ok c
    | .value, frames =>
      match skipOpening c with
      | .error f => .error f
      | .ok (none, c) => match frames with
        | [] => .ok c
        | _ => skipFrom steps frames .next c
      | .ok (some frame, c) => skipFrom steps (frame :: frames) .opened c
    | .key, frames =>
      match skipKey c with
      | .error f => .error f
      | .ok c => skipFrom steps frames .value c
    | .opened, frame :: frames =>
      match c.peek? with
      | none => c.refused frame.endCause
      | some found =>
        if found = frame.close then
          match frames with
          | [] => .ok (c.advance 1)
          | _ => skipFrom steps frames .next (c.advance 1)
        else skipFrom steps (frame :: frames) frame.item c
    | .next, frame :: frames =>
      match c.peek? with
      | none => c.refused frame.endCause
      | some found =>
        if found = ',' then skipFrom steps (frame :: frames) frame.item (c.advance 1)
        else if found = frame.close then
          match frames with
          | [] => .ok (c.advance 1)
          | _ => skipFrom steps frames .next (c.advance 1)
        else c.refused frame.commaCause

def skipValue (c : Cursor) : Except Fault Cursor :=
  skipFrom (2 * c.rest.length + 2) [] .value c

end AmdBundler.Json
