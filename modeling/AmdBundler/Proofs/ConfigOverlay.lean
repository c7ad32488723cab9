import AmdBundler.Proofs.LaidObjects

namespace AmdBundler

open Json

namespace ProjectConfig

inductive Setting where
  | baseUrl
  | paths
  | isBuild
  | sourceExt
  | targetExt
  | host
  | compiler
  | nodeBinary
deriving DecidableEq

namespace Setting

def all : List Setting :=
  [.baseUrl, .paths, .isBuild, .sourceExt, .targetExt, .host, .compiler, .nodeBinary]

def name : Setting → String
  | .baseUrl => "baseUrl"
  | .paths => "paths"
  | .isBuild => "isBuild"
  | .sourceExt => "sourceExt"
  | .targetExt => "targetExt"
  | .host => "host"
  | .compiler => "compiler"
  | .nodeBinary => "nodeBinary"

/-- What a setting may be set to. -/
def Content : Setting → Type
  | .baseUrl | .sourceExt | .targetExt => String
  | .paths => NameMap String
  | .isBuild => Bool
  | .host => HostKind
  | .compiler => CompilerKind
  | .nodeBinary => Option String

def value : (s : Setting) → s.Content → Value
  | .baseUrl, text | .sourceExt, text | .targetExt, text => .text text
  | .paths, m => .object (m.entries.map fun e => (e.1, .text e.2))
  | .isBuild, b => .boolean b
  | .host, kind => .text kind.name
  | .compiler, kind => .text kind.name
  | .nodeBinary, none => .null
  | .nodeBinary, some text => .text text

def codec : (s : Setting) → Codec s.Content
  | .baseUrl | .sourceExt | .targetExt => .string
  | .paths => .nameMap .string
  | .isBuild => .boolean
  | .host => HostKind.codec
  | .compiler => CompilerKind.codec
  | .nodeBinary => .nullable .string

def get : (s : Setting) → ProjectConfig → s.Content
  | .baseUrl, p => p.baseUrl
  | .paths, p => p.paths
  | .isBuild, p => p.isBuild
  | .sourceExt, p => p.sourceExt
  | .targetExt, p => p.targetExt
  | .host, p => p.host
  | .compiler, p => p.compiler
  | .nodeBinary, p => p.nodeBinary

def set : (s : Setting) → s.Content → ProjectConfig → ProjectConfig
  | .baseUrl, x, p => { p with baseUrl := x }
  | .paths, x, p => { p with paths := x }
  | .isBuild, x, p => { p with isBuild := x }
  | .sourceExt, x, p => { p with sourceExt := x }
  | .targetExt, x, p => { p with targetExt := x }
  | .host, x, p => { p with host := x }
  | .compiler, x, p => { p with compiler := x }
  | .nodeBinary, x, p => { p with nodeBinary := x }

theorem mem_all (s : Setting) : s ∈ all := by
  cases s <;> decide

theorem name_injective {s t : Setting} (same : s.name = t.name) : s = t := by
  cases s <;> cases t <;> first | rfl | exact absurd same (by decide)

@[simp] theorem get_set_self (s : Setting) (x : s.Content) (p : ProjectConfig) :
    s.get (s.set x p) = x := by
  cases s <;> rfl

theorem get_set_of_ne {s t : Setting} (apart : t ≠ s) (x : s.Content) (p : ProjectConfig) :
    t.get (s.set x p) = t.get p := by
  cases s <;> cases t <;> first | rfl | exact absurd rfl apart

/-- A configuration is known by its settings. -/
theorem ext_get {p q : ProjectConfig} (same : ∀ s : Setting, s.get p = s.get q) : p = q := by
  obtain ⟨baseUrl, paths, isBuild, sourceExt, targetExt, host, compiler, nodeBinary⟩ := p
  cases same .baseUrl
  cases same .paths
  cases same .isBuild
  cases same .sourceExt
  cases same .targetExt
  cases same .host
  cases same .compiler
  cases same .nodeBinary
  rfl

theorem reads_value (s : Setting) (x : s.Content) {text : List Char}
    (laid : Laid (s.value x).marks text) {rest : List UInt8} (delimited : Delimited rest) :
    Reads s.codec.read text x rest := by
  cases s with
  | baseUrl | sourceExt | targetExt => exact reads_laid Codec.faithful_string x laid delimited
  | paths => exact reads_laid_map x laid rest
  | isBuild => exact reads_laid Codec.faithful_boolean x laid delimited
  | host => exact reads_laid HostKind.faithful_codec x laid delimited
  | compiler => exact reads_laid CompilerKind.faithful_codec x laid delimited
  | nodeBinary =>
    cases x with
    | none => exact reads_laid Codec.faithful_optionalText none laid delimited
    | some text => exact reads_laid Codec.faithful_optionalText (some text) laid delimited

theorem exists_field (s : Setting) : ∃ f : Json.Field ProjectConfig,
    record.fields.find? (·.name == s.name) = some f ∧ f.name = s.name ∧
      ∀ p c, f.read p c = (s.codec.read c).map fun (x, c) => (s.set x p, c) := by
  cases s <;> exact ⟨_, rfl, rfl, fun _ _ => rfl⟩

theorem find?_eq_none {key : String} (foreign : ∀ s : Setting, key ≠ s.name) :
    record.fields.find? (·.name == key) = none := by
  have names : record.fields.map (·.name) = all.map name := rfl
  rw [List.find?_eq_none]
  intro f member same
  have known : f.name ∈ all.map name := names ▸ List.mem_map_of_mem member
  obtain ⟨s, -, named⟩ := List.mem_map.mp known
  exact foreign s ((beq_iff_eq.mp same).symm.trans named.symm)

theorem reads_member (s : Setting) (x : s.Content) (p : ProjectConfig) {keys : List String}
    (unread : s.name ∉ keys) {gap text : List Char} {rest : List UInt8} (blank : Blank gap)
    (laid : Laid (s.value x).marks text) (delimited : Delimited rest) :
    Reads (record.readMember s.name (p, keys)) (gap ++ ':' :: text) (s.set x p, s.name :: keys)
      rest := by
  obtain ⟨f, found, named, reads⟩ := s.exists_field
  rw [← named] at found unread ⊢
  refine Record.reads_member found unread blank ?_
  intro offset
  obtain ⟨after, read⟩ := (s.reads_value x laid delimited).map (s.set · p) offset
  exact ⟨after, by rw [reads]; exact read⟩

end Setting

/-- A member of a configuration file: a setting, or something under a key that nobody knows. -/
inductive Member where
  | setting (s : Setting) (x : s.Content)
  | other (key : String) (v : Value)

namespace Member

def json : Member → String × Value
  | setting s x => (s.name, s.value x)
  | other key v => (key, v)

def put : Member → ProjectConfig → ProjectConfig
  | setting s x, p => s.set x p
  | other _ _, p => p

/-- Keys of other members are none of the settings. -/
def Foreign : Member → Prop
  | setting _ _ => True
  | other key _ => ∀ s : Setting, key ≠ s.name

/-- Members that do not set the same. -/
def Apart : Member → Member → Prop
  | setting s _, setting t _ => s ≠ t
  | _, _ => True

end Member

theorem accepts_members (members : List Member) (foreign : ∀ m ∈ members, m.Foreign)
    (apart : members.Pairwise Member.Apart) (p : ProjectConfig) (keys : List String)
    (fresh : ∀ s x, .setting s x ∈ members → s.name ∉ keys) :
    ∃ all, Accepts record.readMember (members.map Member.json) (p, keys)
      (members.foldl (fun p m => m.put p) p, all) := by
  induction members generalizing p keys with
  | nil => exact ⟨keys, .nil _⟩
  | cons m members ih =>
    obtain ⟨known, others⟩ := List.forall_mem_cons.mp foreign
    obtain ⟨alone, distinct⟩ := List.pairwise_cons.mp apart
    cases m with
    | setting s x =>
      obtain ⟨all, accepts⟩ := ih others distinct (s.set x p) (s.name :: keys) (by
        intro t y later again
        rcases List.mem_cons.mp again with same | before
        · exact alone _ later (Setting.name_injective same).symm
        · exact fresh t y (List.mem_cons_of_mem _ later) before)
      refine ⟨all, .cons ?_ accepts⟩
      intro gap text rest blank laid delimited
      exact s.reads_member x p (fresh s x List.mem_cons_self) blank laid delimited
    | other key v =>
      obtain ⟨all, accepts⟩ := ih others distinct p keys
        fun t y later => fresh t y (List.mem_cons_of_mem _ later)
      refine ⟨all, .cons ?_ accepts⟩
      intro gap text rest blank laid delimited
      exact reads_unknown (Setting.find?_eq_none known) v (p, keys) blank laid delimited

theorem get_of_absent {s : Setting} (members : List Member) (p : ProjectConfig)
    (absent : ∀ x, .setting s x ∉ members) :
    s.get (members.foldl (fun p m => m.put p) p) = s.get p := by
  induction members generalizing p with
  | nil => rfl
  | cons m members ih =>
    rw [List.foldl_cons, ih _ fun x later => absent x (List.mem_cons_of_mem _ later)]
    cases m with
    | other key v => rfl
    | setting t y =>
      apply Setting.get_set_of_ne
      rintro rfl
      exact absent y List.mem_cons_self

theorem get_of_mem {s : Setting} {x : s.Content} {members : List Member} (p : ProjectConfig)
    (apart : members.Pairwise Member.Apart) (member : .setting s x ∈ members) :
    s.get (members.foldl (fun p m => m.put p) p) = x := by
  induction members generalizing p with
  | nil => cases member
  | cons m members ih =>
    obtain ⟨alone, distinct⟩ := List.pairwise_cons.mp apart
    rw [List.foldl_cons]
    rcases List.mem_cons.mp member with rfl | later
    · rw [get_of_absent members _ fun y again => alone _ again rfl]
      exact Setting.get_set_self s x p
    · exact ih _ distinct later

abbrev Given := (s : Setting) → Option s.Content

namespace Given

def members (given : Given) : List Member :=
  Setting.all.filterMap fun s => (given s).map (.setting s)

/-- The configuration with the given settings, and the standard ones in place of those that are not
given. -/
def overlay (given : Given) : ProjectConfig where
  baseUrl := (given .baseUrl).getD standard.baseUrl
  paths := (given .paths).getD standard.paths
  isBuild := (given .isBuild).getD standard.isBuild
  sourceExt := (given .sourceExt).getD standard.sourceExt
  targetExt := (given .targetExt).getD standard.targetExt
  host := (given .host).getD standard.host
  compiler := (given .compiler).getD standard.compiler
  nodeBinary := (given .nodeBinary).getD standard.nodeBinary

variable {given : Given} {s : Setting} {x : s.Content}

theorem get_overlay (given : Given) (s : Setting) :
    s.get given.overlay = (given s).getD (s.get standard) := by
  cases s <;> rfl

theorem mem_members : .setting s x ∈ given.members ↔ given s = some x := by
  rw [members, List.mem_filterMap]
  constructor
  · rintro ⟨t, -, found⟩
    obtain ⟨y, told, same⟩ := Option.map_eq_some_iff.mp found
    cases same
    exact told
  · intro told
    exact ⟨s, s.mem_all, by rw [told]; rfl⟩

theorem apart_members (given : Given) : given.members.Pairwise Member.Apart := by
  have distinct : Setting.all.Pairwise (· ≠ ·) := by decide
  refine distinct.filterMap _ ?_
  intro s t other m found n also
  obtain ⟨x, -, rfl⟩ := Option.map_eq_some_iff.mp found
  obtain ⟨y, -, rfl⟩ := Option.map_eq_some_iff.mp also
  exact other

end Given

section Overlay

variable {given : Given} {others : List (String × Value)} {members : List Member}
  (order : members.Perm (given.members ++ others.map fun o => .other o.1 o.2))

include order

theorem mem_setting {s : Setting} {x : s.Content} :
    .setting s x ∈ members ↔ given s = some x := by
  rw [order.mem_iff, List.mem_append, Given.mem_members]
  simp

theorem apart_of_perm : members.Pairwise Member.Apart := by
  have symmetric {m n : Member} (apart : m.Apart n) : n.Apart m := by
    cases m <;> cases n <;> first | trivial | exact Ne.symm apart
  rw [order.pairwise_iff symmetric, List.pairwise_append]
  refine ⟨given.apart_members, ?_, ?_⟩
  · rw [List.pairwise_map]
    exact List.pairwise_of_forall fun _ _ => trivial
  · intro m _ n other
    obtain ⟨o, -, rfl⟩ := List.mem_map.mp other
    cases m <;> trivial

theorem foldl_put_eq_overlay :
    members.foldl (fun p m => m.put p) standard = given.overlay := by
  apply Setting.ext_get
  intro s
  rw [Given.get_overlay]
  cases told : given s with
  | none =>
    apply get_of_absent
    intro x member
    rw [mem_setting order, told] at member
    cases member
  | some x => exact get_of_mem standard (apart_of_perm order) ((mem_setting order).mpr told)

theorem parse_laid (foreign : ∀ o ∈ others, ∀ s : Setting, o.1 ≠ s.name) {text : List Char}
    (laid : Laid (Value.object (members.map Member.json)).marks text) {gap : List Char}
    (blank : Blank gap) : codec.parse (Utf8.encode (text ++ gap)) = .ok given.overlay := by
  have known : ∀ m ∈ members, m.Foreign := by
    intro m member
    cases m with
    | setting => trivial
    | other key v =>
      rcases List.mem_append.mp (order.mem_iff.mp member) with mine | other
      · obtain ⟨s, -, found⟩ := List.mem_filterMap.mp mine
        obtain ⟨x, -, same⟩ := Option.map_eq_some_iff.mp found
        cases same
      · obtain ⟨o, inside, same⟩ := List.mem_map.mp other
        cases same
        exact foreign o inside
  obtain ⟨keys, accepts⟩ := accepts_members members known (apart_of_perm order) standard []
    fun _ _ _ => List.not_mem_nil
  rw [foldl_put_eq_overlay order] at accepts
  obtain ⟨front, inside, last, before, free, filled, rfl⟩ := laid.enclosed
  have complete : record.missing? keys = none := by
    apply Record.missing?_eq_none
    intro f member required
    simp only [record, List.mem_cons, List.not_mem_nil, or_false] at member
    rcases member with rfl | rfl | rfl | rfl | rfl | rfl | rfl | rfl <;> cases required
  have reads := Record.reads_object (takesIn_laid accepts free true filled) complete
    (Utf8.encode gap)
  rw [Utf8.encode_append]
  exact Codec.parse_written (reads.behind faithful_codec.passes before) (isSpace_of_blank blank)

end Overlay

/-- There is a file exactly if it can be read. -/
theorem isFile_iff {files : FileSystem} {path : Path} :
    isFile files path = true ↔ ∃ bytes, files.read path = .ok bytes := by
  rw [isFile, FileSystem.read]
  cases files.find path with
  | error e => simp
  | ok tree => cases tree <;> simp [FileTree.isDirectory]

theorem load_of_read {files : FileSystem} {directory : Path} {text : List Char}
    (stored : files.read (directory.join (.ofText fileName)) = .ok (Utf8.encode text))
    {p : ProjectConfig} (parsed : codec.parse (Utf8.encode text) = .ok p) :
    load files directory = .ok p := by
  have there : isFile files (directory.join (.ofText fileName)) = true := isFile_iff.mpr ⟨_, stored⟩
  simp only [load, there, if_true, ofFile, FileSystem.readText, stored, Utf8.decode?_encode, ofText,
    Codec.parseText, String.toList_ofList, parsed]
  rfl

theorem load_of_absent {files : FileSystem} {directory : Path}
    (absent : ∀ bytes, files.read (directory.join (.ofText fileName)) ≠ .ok bytes) :
    load files directory = .ok standard := by
  apply if_neg
  rw [isFile_iff]
  rintro ⟨bytes, stored⟩
  exact absent bytes stored

/-- A configuration file lies over the standard configuration. Its members are settings, each once,
and anything under other keys, in any order and with any white space between their marks. Such a
text is read as the configuration with the given settings and the standard ones in place of the
others. A project with such a file has that configuration, and one without a file the standard
one. -/
theorem file_overlays_standard (given : Given) {others : List (String × Value)}
    (foreign : ∀ o ∈ others, ∀ s : Setting, o.1 ≠ s.name) {members : List Member}
    (order : members.Perm (given.members ++ others.map fun o => .other o.1 o.2))
    {text gap : List Char} (laid : Laid (Value.object (members.map Member.json)).marks text)
    (blank : Blank gap) :
    codec.parse (Utf8.encode (text ++ gap)) = .ok given.overlay ∧
      ∀ (files : FileSystem) (directory : Path),
        (files.read (directory.join (.ofText fileName)) = .ok (Utf8.encode (text ++ gap)) →
          load files directory = .ok given.overlay) ∧
        ((∀ bytes, files.read (directory.join (.ofText fileName)) ≠ .ok bytes) →
          load files directory = .ok standard) := by
  have parsed := parse_laid order foreign laid blank
  exact ⟨parsed, fun files directory =>
    ⟨fun stored => load_of_read stored parsed, load_of_absent⟩⟩

/-- A file that sets two settings, behind a note of another kind. -/
def notedText : String :=
  " \x7b \"note\" : [ null , \x7b \"n\" : -1.5e+3 \x7d ] ," ++
    " \"nodeBinary\" : null , \"isBuild\" : true \x7d\n"

def notedGiven : Given
  | .isBuild => some true
  | .nodeBinary => some none
  | _ => none

def note : Value :=
  .list [.null, .object [("n", .number ⟨true, 1, [5], some ⟨false, some true, 3, []⟩⟩)]]

theorem noted_file_is_overlaid :
    load ⟨.directory [(.ofText fileName, .file (Utf8.encode notedText.toList))], []⟩ (.ofText "/") =
      .ok { standard with isBuild := true } := by
  have foreign : ∀ o ∈ [("note", note)], ∀ s : Setting, o.1 ≠ s.name := by
    intro o member s
    cases List.mem_singleton.mp member
    cases s <;> decide
  have blank : Blank [' '] := by simp [Blank]
  have laid := laid_flatMap blank (Value.object ((notedGiven.members ++
    [("note", note)].map fun o => Member.other o.1 o.2).reverse.map Member.json)).marks
  have overlaid := file_overlays_standard notedGiven foreign (List.reverse_perm _) laid
    (show Blank ['\n'] by simp [Blank])
  apply (overlaid.2 _ _).1
  decide +kernel

end ProjectConfig

end AmdBundler
