import AmdBundler.Json.Codec

namespace AmdBundler.Json

inductive Presence where
  /-- Its absence is a fault. -/
  | required
  /-- An object may leave it out, but a list has a place for it. -/
  | optional
  /-- It has a default. -/
  | defaulted
deriving DecidableEq

/-- A field of the record `α`: its text, unless it is left out, and how a value is read into it. -/
structure Field (α : Type) where
  name : String
  presence : Presence
  write : α → Option (List Char)
  read : α → Reader α

/-- The field that `get` and `set` show, which `skip` may leave out. -/
def Field.of {α β : Type} (name : String) (presence : Presence) (codec : Codec β)
    (get : α → β) (set : β → α → α) (skip : β → Bool) : Field α where
  name := name
  presence := presence
  write v := if skip (get v) then none else some (codec.write (get v))
  read v c := (codec.read c).map fun (x, c) => (set x v, c)

/-- A record: its name in messages, the values its fields have before anything is read, and its
fields in order. -/
structure Record (α : Type) where
  title : String
  blank : α
  fields : List (Field α)

namespace Record

variable {α : Type}

/-- Takes in the member behind its key. The state is the record so far and the names of the fields
that have been read. -/
def readMember (r : Record α) (key : String) (state : α × List String) (c : Cursor) :
    Except Fault ((α × List String) × Cursor) :=
  match r.fields.find? (·.name == key) with
  | none =>
    match expectColon c with
    | .error f => .error f
    | .ok c => (skipValue c).map fun c => (state, c)
  | some field =>
    if state.2.contains key then .error ⟨.duplicateField key, offsetOfClose c⟩
    else
      match expectColon c with
      | .error f => .error f
      | .ok c => (field.read state.1 c).map fun (v, c) => ((v, key :: state.2), c)

def missing? (r : Record α) (read : List String) : Option String :=
  (r.fields.find? fun f => f.presence == .required && !read.contains f.name).map (·.name)

def readObject (r : Record α) (c : Cursor) : Except Fault (α × Cursor) :=
  match Codec.readMembers r.readMember (c.rest.length + 1) true (r.blank, []) c with
  | .error f => .error f
  | .ok ((v, read), c) =>
    match r.missing? read with
    | some name => (c.advance 1).failed (.missingField name)
    | none => .ok (v, c.advance 1)

/-- The words for a record that takes `n` values. -/
def shape (r : Record α) : String :=
  "struct " ++ r.title ++ " with " ++ toString r.fields.length ++
    (if r.fields.length = 1 then " element" else " elements")

def readEnd (c : Cursor) : Except Fault Cursor :=
  let c := c.skipSpace
  match c.peek? with
  | none => c.refused .endInList
  | some ']' => .ok (c.advance 1)
  | some ',' =>
    let c := (c.advance 1).skipSpace
    if c.peek? = some ']' then c.refused .trailingComma else c.refused .trailingCharacters
  | some _ => c.refused .trailingCharacters

/-- Reads the values of the given fields, the first of them being number `index`, and the bracket
after them. -/
def readValues (r : Record α) (index : Nat) : List (Field α) → α → Cursor →
    Except Fault (α × Cursor)
  | [], v, c => (readEnd c).map fun c => (v, c)
  | field :: fields, v, c =>
    match nextItem (index == 0) c with
    | .error f => .error f
    | .ok (false, c) =>
      if field.presence = .defaulted then r.readValues (index + 1) fields v c
      else (c.advance 1).failed (.invalidLength index r.shape)
    | .ok (true, c) =>
      match field.read v c with
      | .error f => .error f
      | .ok (v, c) => r.readValues (index + 1) fields v c

/-- The members of a value that are not left out, as they are written. -/
def members (r : Record α) (v : α) : List (List Char) :=
  r.fields.filterMap fun f => (f.write v).map (Codec.writeMember f.name)

def codec (r : Record α) : Codec α where
  write v := '\x7b' :: [','].intercalate (r.members v) ++ ['\x7d']
  read c :=
    let c := c.skipSpace
    match c.peek? with
    | none => c.refused .endInValue
    | some '[' => r.readValues 0 r.fields r.blank (c.advance 1)
    | some '\x7b' => r.readObject (c.advance 1)
    | some _ => mismatch ("struct " ++ r.title) c

end Record

end AmdBundler.Json
