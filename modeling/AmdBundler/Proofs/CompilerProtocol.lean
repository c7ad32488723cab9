import AmdBundler.Compiler.Runner
import AmdBundler.Proofs.ReaderExtension
import AmdBundler.Proofs.RecordRoundTrip

namespace AmdBundler

open Json

namespace Json.Codec

theorem parse_written {α : Type} {codec : Codec α} {text : List Char} {v : α} {space : List UInt8}
    (reads : Reads codec.read text v space) (blank : ∀ b ∈ space, isSpace b = true) :
    codec.parse (Utf8.encode text ++ space) = .ok v := by
  obtain ⟨after, read⟩ := reads 0
  have passed : space.dropWhile isSpace = [] := List.dropWhile_eq_nil_iff.mpr blank
  rw [parse, show Cursor.start (Utf8.encode text ++ space) = .before text 0 space from rfl, read]
  exact if_pos passed

theorem parse_write {α : Type} {codec : Codec α} (faithful : codec.Faithful) (v : α) :
    codec.parse (Utf8.encode (codec.write v)) = .ok v := by
  have parsed := parse_render faithful v
  rw [render, String.toList_ofList] at parsed
  exact parsed

end Json.Codec

namespace CompileOptions

theorem faithful_codec : codec.Faithful := by
  apply Record.faithful
  · decide
  · intro o f member required
    simp only [record, List.mem_cons, List.not_mem_nil, or_false] at member
    rcases member with rfl | rfl | rfl | rfl <;> rfl
  · intro o
    refine .of Codec.faithful_boolean ?_
    refine .of Codec.faithful_boolean ?_
    refine .of (Codec.faithful_list Codec.faithful_string) ?_
    exact .of Codec.faithful_string (.nil _)

end CompileOptions

namespace Child

theorem Request.faithful_codec : Request.codec.Faithful := by
  apply Record.faithful
  · decide
  · intro r f member required
    simp only [record, List.mem_cons, List.not_mem_nil, or_false] at member
    rcases member with rfl | rfl <;> rfl
  · intro r
    exact .of Codec.faithful_string (.of CompileOptions.faithful_codec (.nil _))

/-- A member of an answer, with its value. -/
inductive Member where
  | js (text : Option String)
  | sourceMap (text : Option String)
  | error (message : Option String)
  | line (number : Option UInt32)
  | column (number : Option UInt32)
deriving DecidableEq

namespace Member

def name : Member → String
  | .js _ => "js"
  | .sourceMap _ => "v3SourceMap"
  | .error _ => "error"
  | .line _ => "line"
  | .column _ => "column"

def value : Member → List Char
  | .js text | .sourceMap text | .error text => Codec.string.nullable.write text
  | .line number | .column number => Codec.uint32.nullable.write number

/-- The answer with the member in it. -/
def put : Member → Response → Response
  | .js text, r => { r with js := text }
  | .sourceMap text, r => { r with sourceMap := text }
  | .error message, r => { r with error := message }
  | .line number, r => { r with line := number }
  | .column number, r => { r with column := number }

theorem put_comm {m n : Member} (apart : m.name ≠ n.name) (r : Response) :
    n.put (m.put r) = m.put (n.put r) := by
  cases m <;> cases n <;> first | rfl | exact absurd rfl apart

theorem faithful_string : Codec.string.nullable.Faithful := by
  apply Codec.faithful_nullable Codec.faithful_string
  intro text
  exact fun same => by cases same

theorem faithful_uint32 : Codec.uint32.nullable.Faithful := by
  apply Codec.faithful_nullable Codec.faithful_uint32
  intro n same
  obtain ⟨c, text, written, digit⟩ := Codec.toDigits_eq_cons n.toNat
  have lead : (Codec.uint32.write n).head? = some c := by
    rw [show Codec.uint32.write n = Nat.toDigits 10 n.toNat from rfl, written]
    rfl
  rw [lead] at same
  cases same
  cases digit

theorem exists_field (m : Member) : ∃ f : Json.Field Response,
    Response.record.fields.find? (·.name == m.name) = some f ∧ f.name = m.name ∧
      ∀ r rest, Delimited rest → Reads (f.read r) m.value (m.put r) rest := by
  cases m with
  | js text => exact ⟨_, rfl, rfl, Record.reads_field faithful_string text⟩
  | sourceMap text => exact ⟨_, rfl, rfl, Record.reads_field faithful_string text⟩
  | error message => exact ⟨_, rfl, rfl, Record.reads_field faithful_string message⟩
  | line number => exact ⟨_, rfl, rfl, Record.reads_field faithful_uint32 number⟩
  | column number => exact ⟨_, rfl, rfl, Record.reads_field faithful_uint32 number⟩

theorem reads_member (m : Member) {keys : List String} (unread : m.name ∉ keys) (r : Response)
    {rest : List UInt8} (delimited : Delimited rest) :
    Reads (Response.record.readMember m.name (r, keys)) (':' :: m.value) (m.put r, m.name :: keys)
      rest := by
  obtain ⟨f, found, named, reads⟩ := m.exists_field
  rw [← named] at found unread ⊢
  exact Record.reads_member found unread blank_nil (reads r rest delimited)

end Member

/-- The answer that members make up. -/
def response (members : List Member) : Response :=
  members.foldl (fun r m => m.put r) Response.record.blank

/-- The text of an answer with the given members. -/
def answer (members : List Member) : String :=
  String.ofList ('\x7b' :: [','].intercalate
    (members.map fun m => Codec.writeMember m.name m.value) ++ ['\x7d'])

theorem response_perm {members others : List Member} (distinct : (members.map Member.name).Nodup)
    (order : members.Perm others) : response members = response others := by
  apply order.foldl_eq'
  intro m inside n among r
  by_cases same : m = n
  · rw [same]
  · apply Member.put_comm
    intro clash
    exact same (List.inj_on_of_nodup_map distinct inside among clash)

theorem takesIn_members (members : List Member) (r : Response) (keys : List String)
    (distinct : (members.map Member.name).Nodup) (fresh : ∀ m ∈ members, m.name ∉ keys) :
    ∃ all, ∀ first, Codec.TakesIn Response.record.readMember first
      (Codec.joined first (members.map fun m => Codec.writeMember m.name m.value))
      (r, keys) (members.foldl (fun r m => m.put r) r, all) := by
  induction members generalizing r keys with
  | nil =>
    refine ⟨keys, fun first => ?_⟩
    cases first <;> exact .nil blank_nil _
  | cons m members ih =>
    obtain ⟨alone, distinct⟩ := List.nodup_cons.mp distinct
    obtain ⟨all, taken⟩ := ih (m.put r) (m.name :: keys) distinct (by
      intro n later again
      rcases List.mem_cons.mp again with same | before
      · exact alone (List.mem_map.mpr ⟨n, later, same⟩)
      · exact fresh n (List.mem_cons_of_mem _ later) before)
    refine ⟨all, fun first => .written ?_ (taken false)⟩
    exact fun rest => m.reads_member (fresh m List.mem_cons_self) r

/-- An answer is read as the members that it is made up of. -/
theorem parse_answer {members : List Member} (distinct : (members.map Member.name).Nodup)
    {space : List UInt8} (blank : ∀ b ∈ space, isSpace b = true) :
    Response.codec.parse (Utf8.encode (answer members).toList ++ space) =
      .ok (response members) := by
  obtain ⟨keys, taken⟩ := takesIn_members members Response.record.blank [] distinct
    fun _ _ => List.not_mem_nil
  have complete : Response.record.missing? keys = none := by
    apply Record.missing?_eq_none
    intro f member required
    simp only [Response.record, List.mem_cons, List.not_mem_nil, or_false] at member
    rcases member with rfl | rfl | rfl | rfl | rfl <;> cases required
  have reads := Record.reads_object (taken true) complete space
  rw [← Codec.intercalate_eq_joined] at reads
  rw [answer, String.toList_ofList]
  exact Codec.parse_written reads blank

theorem closed_response : Closed Response.codec.read := by
  have text : Settled Codec.string.nullable.read :=
    settled_nullable (settled_text _) (refusesEnd_text _)
  have number : Settled Codec.uint32.nullable.read :=
    settled_nullable ((settled_natural _ _).map _) ((refusesEnd_natural _ _).map _)
  apply Record.closed_codec
  intro f member v
  simp only [Response.record, List.mem_cons, List.not_mem_nil, or_false] at member
  rcases member with rfl | rfl | rfl | rfl | rfl
  · exact settled_field text v
  · exact settled_field text v
  · exact settled_field text v
  · exact settled_field number v
  · exact settled_field number v

theorem decode_of_error {stdout : List UInt8}
    (refused : ∃ f, Response.codec.parse stdout = .error f) :
    ∃ words, decode stdout = .error (.protocol words) := by
  obtain ⟨f, refused⟩ := refused
  refine ⟨"invalid compiler response: " ++ f.message stdout, ?_⟩
  rw [decode, Codec.parseText, refused]
  rfl

theorem decode_of_ok {stdout : List UInt8} {r : Response}
    (parsed : Response.codec.parse stdout = .ok r) : decode stdout = r.outcome := by
  rw [decode, Codec.parseText, parsed]
  rfl

theorem answer_bytes (members : List Member) :
    ∃ text, Utf8.encode (answer members).toList = text ++ [0x7D] := by
  rw [answer, String.toList_ofList, Utf8.encode_append]
  exact ⟨_, rfl⟩

/-- What is cut off an answer is no white space: it ends in the brace. -/
theorem solid_of_cut {members : List Member} {front back : List UInt8}
    (cut : Utf8.encode (answer members).toList = front ++ back) (proper : back ≠ []) :
    ∃ b ∈ back, isSpace b = false := by
  obtain ⟨text, ends⟩ := answer_bytes members
  refine ⟨0x7D, ?_, by decide⟩
  have last : (front ++ back).getLast? = some 0x7D := by
    rw [← cut, ends, List.getLast?_concat]
  rw [List.getLast?_append_of_ne_nil _ proper] at last
  exact List.mem_of_getLast? last

/-- The members of an answer with compiled text. A source map that there is not may be left out, or
be null. -/
def Compiled (js : String) (map : Option String) (members : List Member) : Prop :=
  members.Perm [.js (some js), .sourceMap map] ∨ map = none ∧ members = [.js (some js)]

/-- The members of an answer that finds fault with the source. Compiled text may stand beside the
fault. -/
def Complaint (message : String) (line column : Option UInt32) (members : List Member) : Prop :=
  ∃ js map : Option (Option String), members.Perm
    ([.error (some message), .line line, .column column] ++
      ((js.map Member.js).toList ++ (map.map Member.sourceMap).toList))

theorem Compiled.response_eq {js : String} {map : Option String} {members : List Member}
    (compiled : Compiled js map members) : (members.map Member.name).Nodup ∧
      response members = ⟨some js, map, none, none, none⟩ := by
  rcases compiled with order | ⟨rfl, rfl⟩
  · have distinct : (members.map Member.name).Nodup := by
      rw [(order.map Member.name).nodup_iff]
      simp [Member.name]
    exact ⟨distinct, response_perm distinct order⟩
  · exact ⟨by simp, rfl⟩

theorem Complaint.response_eq {message : String} {line column : Option UInt32}
    {members : List Member} (complaint : Complaint message line column members) :
    (members.map Member.name).Nodup ∧ (response members).error = some message ∧
      (response members).line = line ∧ (response members).column = column := by
  obtain ⟨js, map, order⟩ := complaint
  have distinct : (members.map Member.name).Nodup := by
    rw [(order.map Member.name).nodup_iff]
    cases js <;> cases map <;> simp [Member.name]
  rw [response_perm distinct order]
  refine ⟨distinct, ?_⟩
  cases js <;> cases map <;> exact ⟨rfl, rfl, rfl⟩

theorem decode_compiled {js : String} {map : Option String} {members : List Member}
    {space : List UInt8} (compiled : Compiled js map members)
    (blank : ∀ b ∈ space, isSpace b = true) :
    decode (Utf8.encode (answer members).toList ++ space) = .ok ⟨js, map⟩ := by
  obtain ⟨distinct, same⟩ := compiled.response_eq
  rw [decode_of_ok (parse_answer distinct blank), same]
  rfl

/-- The place of a fault is known when both of its numbers are. -/
theorem decode_complaint {message : String} {line column : Option UInt32} {members : List Member}
    {space : List UInt8} (complaint : Complaint message line column members)
    (blank : ∀ b ∈ space, isSpace b = true) :
    decode (Utf8.encode (answer members).toList ++ space) =
      .error ⟨"COMPILER_PARSE_ERROR", message, line.bind fun l => column.map fun c => (l, c)⟩ := by
  obtain ⟨distinct, error, atLine, atColumn⟩ := complaint.response_eq
  rw [decode_of_ok (parse_answer distinct blank), Response.outcome, error, atLine, atColumn]
  cases line <;> cases column <;> rfl

theorem decode_cut {members : List Member} (distinct : (members.map Member.name).Nodup)
    {front back : List UInt8} (cut : Utf8.encode (answer members).toList = front ++ back)
    (proper : back ≠ []) : ∃ words, decode front = .error (.protocol words) := by
  have parsed := parse_answer distinct (List.forall_mem_nil (isSpace · = true))
  rw [List.append_nil, cut] at parsed
  exact decode_of_error (Codec.parse_front_error closed_response parsed (solid_of_cut cut proper))

theorem decode_extended {members : List Member} (distinct : (members.map Member.name).Nodup)
    {more : List UInt8} (solid : ∃ b ∈ more, isSpace b = false) :
    ∃ words, decode (Utf8.encode (answer members).toList ++ more) = .error (.protocol words) := by
  have parsed := parse_answer distinct (List.forall_mem_nil (isSpace · = true))
  rw [List.append_nil] at parsed
  exact decode_of_error (Codec.parse_append_error closed_response parsed solid)

theorem request_toList (source : String) (options : CompileOptions) :
    (request source options).toList =
      '\x7b' :: Codec.writeMember "source" (writeText source) ++ ',' ::
        Codec.writeMember "options" (CompileOptions.codec.write options) ++ ['\x7d'] := by
  have members : Record.written Request.record.fields ⟨source, options⟩ =
      [("source", writeText source), ("options", CompileOptions.codec.write options)] := rfl
  rw [request, Codec.render, String.toList_ofList, Request.codec, Record.codec_write, members]
  simp [Codec.joined]

/-- A child whose end is not known is a fault of the system. -/
theorem outcome_of_unended {course : Course} (unended : ∀ exit, course ≠ .ended exit)
    (program : String) : ∃ words, course.outcome program = .error (.io words) := by
  cases course with
  | notStarted fault => exact ⟨_, rfl⟩
  | notWritten reason => exact ⟨_, rfl⟩
  | notAwaited reason => exact ⟨_, rfl⟩
  | ended exit => exact absurd rfl (unended exit)

/-- What passes between the compiler and its child. A request is an object with the source and the
options, and both are read back. When the child ends well, an answer with compiled text gives that
text and its map, and one that finds fault gives its message, located when it tells line and column;
the order of the members and white space behind them do not matter. An answer that is cut short
anywhere, also inside a character, or that more than white space follows, is an error of the
protocol. What the child wrote does not count when it ends badly, by itself or by a signal, and when
it cannot be started, takes less than the request or cannot be waited for. -/
theorem protocol_exact :
    (∀ source options,
      (request source options).toList =
        '\x7b' :: Codec.writeMember "source" (writeText source) ++ ',' ::
          Codec.writeMember "options" (CompileOptions.codec.write options) ++ ['\x7d'] ∧
      Codec.string.parse (Utf8.encode (writeText source)) = .ok source ∧
      CompileOptions.codec.parse (Utf8.encode (CompileOptions.codec.write options)) = .ok options ∧
      Request.codec.parse (Utf8.encode (request source options).toList) = .ok ⟨source, options⟩) ∧
    ∀ (run : Runner) directory program source options,
      (∀ exit, run directory program (request source options) = .ended exit →
        (exit.ending = .exited 0 →
          (∀ members space, (∀ b ∈ space, isSpace b = true) →
            exit.stdout = Utf8.encode (answer members).toList ++ space →
            (∀ js map, Compiled js map members →
              compile run directory program source options = .ok ⟨js, map⟩) ∧
            (∀ message line column, Complaint message line column members →
              compile run directory program source options =
                .error ⟨"COMPILER_PARSE_ERROR", message,
                  line.bind fun l => column.map fun c => (l, c)⟩)) ∧
          (∀ members,
            (∃ js map, Compiled js map members) ∨
              (∃ message line column, Complaint message line column members) →
            (∀ front back, Utf8.encode (answer members).toList = front ++ back → back ≠ [] →
              exit.stdout = front →
              ∃ words, compile run directory program source options = .error (.protocol words)) ∧
            (∀ more, (∃ b ∈ more, isSpace b = false) →
              exit.stdout = Utf8.encode (answer members).toList ++ more →
              ∃ words, compile run directory program source options = .error (.protocol words)))) ∧
        (exit.ending ≠ .exited 0 →
          ∃ words, compile run directory program source options = .error (.io words))) ∧
      ((∀ exit, run directory program (request source options) ≠ .ended exit) →
        ∃ words, compile run directory program source options = .error (.io words)) := by
  refine ⟨fun source options => ⟨request_toList source options,
    Codec.parse_write Codec.faithful_string source,
    Codec.parse_write CompileOptions.faithful_codec options,
    Codec.parse_render Request.faithful_codec _⟩, ?_⟩
  intro run directory program source options
  refine ⟨?_, fun unended => outcome_of_unended unended program⟩
  intro exit ended
  have outcome : compile run directory program source options = exit.outcome := by
    rw [compile, ended, Course.outcome]
  rw [outcome, Exit.outcome]
  constructor
  · intro well
    rw [if_pos well]
    constructor
    · intro members space blank wrote
      rw [wrote]
      exact ⟨fun js map compiled => decode_compiled compiled blank,
        fun message line column complaint => decode_complaint complaint blank⟩
    · intro members kind
      have distinct : (members.map Member.name).Nodup := by
        rcases kind with ⟨js, map, compiled⟩ | ⟨message, line, column, complaint⟩
        · exact compiled.response_eq.1
        · exact complaint.response_eq.1
      constructor
      · intro front back cut proper wrote
        rw [wrote]
        exact decode_cut distinct cut proper
      · intro more solid wrote
        rw [wrote]
        exact decode_extended distinct solid
  · intro badly
    rw [if_neg badly]
    exact ⟨_, rfl⟩

end Child

end AmdBundler
