import AmdBundler.Project.Config
import AmdBundler.Project.Settings
import AmdBundler.Proofs.CompilerProtocol
import AmdBundler.Proofs.SourceMapRoundTrip

namespace AmdBundler

open Json

namespace Json.Codec

/-- Values come back from their texts, and a text that is accepted, once written anew, is accepted
again and written as it stands. -/
structure RoundTrips {α : Type} (codec : Codec α) : Prop where
  value : ∀ v, codec.parse (Utf8.encode (codec.render v).toList) = .ok v
  text : ∀ bytes v, codec.parse bytes = .ok v →
    ∃ w, codec.parse (Utf8.encode (codec.render v).toList) = .ok w ∧
      codec.render w = codec.render v

theorem Faithful.roundTrips {α : Type} {codec : Codec α} (faithful : codec.Faithful) :
    codec.RoundTrips where
  value := parse_render faithful
  text _ v _ := ⟨v, parse_render faithful v, rfl⟩

theorem reads_name {α : Type} {names : List (String × α)} {name : String} {v : α}
    (found : names.lookup name = some v) (rest : List UInt8) :
    Reads (readName names) (name.toList.flatMap escapeChar ++ ['"']) v rest := by
  intro offset
  refine ⟨offset + (Utf8.encode (name.toList.flatMap escapeChar)).length + 1, ?_⟩
  rw [readName, Cursor.before, readText_written name offset rest]
  simp only
  rw [found]

/-- A choice is read back when its table has every value under its name. -/
theorem faithful_choice {α : Type} {names : List (String × α)} {nameOf : α → String}
    (listed : ∀ v, names.lookup (nameOf v) = some v) : (choice names nameOf).Faithful where
  opens _ := ⟨'"', _, rfl, by decide, by decide⟩
  passes c := by simp [choice]
  reads v rest _ := by
    refine reads_entered (by decide) ?_ (reads_name (listed v) rest)
    intro c here
    simp only [choice, here]

/-- Takes in one entry of a map, behind its name. -/
def readEntry {α : Type} (value : Codec α) (name : String) (m : NameMap α) : Reader (NameMap α) :=
  fun c =>
    match expectColon c with
    | .error f => .error f
    | .ok c => (value.read c).map fun (v, c) => (m.insert name v, c)

theorem reads_entry {α : Type} {value : Codec α} {name : String} {v : α} {gap text : List Char}
    {rest : List UInt8} (blank : Blank gap) (reads : Reads value.read text v rest) (m : NameMap α) :
    Reads (readEntry value name m) (gap ++ ':' :: text) (m.insert name v) rest := by
  intro offset
  obtain ⟨behind, colon⟩ := expectColon_written blank text offset rest
  obtain ⟨after, read⟩ := reads behind
  refine ⟨after, ?_⟩
  rw [readEntry, colon]
  simp only
  rw [read]
  rfl

theorem takesIn_entries {α : Type} {value : Codec α} (faithful : value.Faithful)
    (entries : List (String × α)) (first : Bool) (m : NameMap α) :
    TakesIn (readEntry value) first
      (joined first (entries.map fun e => writeMember e.1 (value.write e.2))) m
      (entries.foldl (fun m e => m.insert e.1 e.2) m) := by
  induction entries generalizing first m with
  | nil => cases first <;> exact .nil blank_nil m
  | cons e entries ih =>
    rw [List.map_cons, List.foldl_cons]
    refine .written ?_ (ih false _)
    intro rest delimited
    exact reads_entry blank_nil (faithful.reads e.2 rest delimited) m

/-- A map is read as what its entries lead to. -/
theorem reads_nameMap {α : Type} {value : Codec α} {text : List Char} {m : NameMap α}
    (taken : TakesIn (readEntry value) true text .empty m) (rest : List UInt8) :
    Reads (nameMap value).read ('\x7b' :: (text ++ ['\x7d'])) m rest := by
  intro offset
  -- The brace is one byte more than the room that the entries need.
  obtain ⟨after, read⟩ := readMembers_written taken rest
    ((Cursor.before ('\x7b' :: (text ++ ['\x7d'])) offset rest).rest.length + 1) (by
      have room := Record.room_written text offset rest
      rw [Cursor.rest_before_cons (by decide), List.length_cons]
      exact Nat.lt_succ_of_lt room) (offset + 1)
  refine ⟨after + 1, ?_⟩
  simp only [nameMap]
  rw [Cursor.skipSpace_before (by decide), Cursor.peek?_before (by decide),
    Cursor.advance_before (by decide)]
  change ((readMembers (readEntry value) _ true .empty _).map _) = _
  rw [read]
  change Except.ok (m, (Cursor.before ['\x7d'] after rest).advance 1) = _
  rw [Cursor.advance_before (by decide)]
  rfl

theorem faithful_nameMap {α : Type} {value : Codec α} (faithful : value.Faithful) :
    (nameMap value).Faithful where
  opens _ := ⟨'\x7b', _, rfl, by decide, by decide⟩
  passes c := by simp [nameMap]
  reads m rest _ := by
    have taken := takesIn_entries faithful m.entries true .empty
    rw [show m.entries.foldl (fun m e => m.insert e.1 e.2) .empty = m from
      NameMap.ofList_entries m, ← intercalate_eq_joined] at taken
    exact reads_nameMap taken rest

theorem faithful_optionalText : string.nullable.Faithful := by
  apply faithful_nullable faithful_string
  intro text same
  cases same

end Json.Codec

theorem HostKind.faithful_codec : HostKind.codec.Faithful := by
  apply Codec.faithful_choice
  intro kind
  cases kind <;> rfl

theorem CompilerKind.faithful_codec : CompilerKind.codec.Faithful := by
  apply Codec.faithful_choice
  intro kind
  cases kind <;> rfl

theorem CompileOutput.faithful_codec : CompileOutput.codec.Faithful := by
  apply Record.faithful
  · decide
  · intro o f member required
    simp only [record, List.mem_cons, List.not_mem_nil, or_false] at member
    rcases member with rfl | rfl
    · rfl
    · cases required
  · intro o
    refine .of Codec.faithful_string ?_
    refine .of Codec.faithful_optionalText ?_
    obtain ⟨js, sourceMap⟩ := o
    cases sourceMap <;> exact .nil _

/-- No field of a configuration has to be there. The program of the compiler is left out when there
is none, as in the standard configuration. -/
theorem ProjectConfig.faithful_codec : codec.Faithful := by
  apply Record.faithful
  · decide
  · intro p f member required
    simp only [record, List.mem_cons, List.not_mem_nil, or_false] at member
    rcases member with rfl | rfl | rfl | rfl | rfl | rfl | rfl | rfl <;> cases required
  · intro p
    refine .of Codec.faithful_string ?_
    refine .of (Codec.faithful_nameMap Codec.faithful_string) ?_
    refine .of Codec.faithful_boolean ?_
    refine .of Codec.faithful_string ?_
    refine .of Codec.faithful_string ?_
    refine .of HostKind.faithful_codec ?_
    refine .of CompilerKind.faithful_codec ?_
    refine .of Codec.faithful_optionalText ?_
    obtain ⟨baseUrl, paths, isBuild, sourceExt, targetExt, host, compiler, nodeBinary⟩ := p
    cases nodeBinary <;> exact .nil _

theorem Settings.faithful_codec : codec.Faithful := by
  apply Record.faithful
  · decide
  · intro s f member required
    simp only [record, List.mem_cons, List.not_mem_nil, or_false] at member
    rcases member with rfl | rfl | rfl <;> rfl
  · intro s
    refine .of (Codec.faithful_text _) ?_
    refine .of Codec.faithful_boolean ?_
    exact .of Codec.faithful_uint8 (.nil _)

/-- Every type that is written as JSON round-trips. -/
theorem wire_types_round_trip :
    SourceMap.codec.RoundTrips ∧ CompileOptions.codec.RoundTrips ∧
      CompileOutput.codec.RoundTrips ∧ ProjectConfig.codec.RoundTrips ∧
      Settings.codec.RoundTrips :=
  ⟨SourceMap.faithful_codec.roundTrips, CompileOptions.faithful_codec.roundTrips,
    CompileOutput.faithful_codec.roundTrips, ProjectConfig.faithful_codec.roundTrips,
    Settings.faithful_codec.roundTrips⟩

end AmdBundler
