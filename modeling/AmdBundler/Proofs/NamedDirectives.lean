import AmdBundler.Proofs.BundleContents
import AmdBundler.Proofs.DefineNaming
import AmdBundler.Proofs.DirectiveRecovery

namespace AmdBundler

open Text

namespace DefineCall

theorem newline_not_mem_opening : '\n' ∉ opening := by decide

theorem parenthesis_mem_opening : '(' ∈ opening := by decide

theorem FirstCall.append {text before arguments : List Char}
    (call : FirstCall text before arguments) (more : List Char) :
    FirstCall (text ++ more) before (arguments ++ more) := by
  have longer := call.replace (arguments ++ more)
  rwa [← List.append_assoc, ← call.cut] at longer

section Behind

variable {rest : List Char}

/-- Further lines bring no call to a text if no opening is in them. -/
theorem OwnCall.of_append {js before arguments : List Char} (absent : ¬opening <:+: rest)
    (own : OwnCall (js ++ '\n' :: rest) before arguments) : ∃ more, OwnCall js before more := by
  rcases cut_at_mark newline_not_mem_opening own.cut with ⟨more, within⟩ | ⟨more, -, behind⟩
  · exact ⟨more, within, own.alone⟩
  · exact absurd ⟨more, arguments, behind.symm⟩ absent

/-- A comment on the next line is no string, also behind an opening with nothing but blanks. -/
theorem isNamed_append_comment (arguments rest : List Char) :
    isNamed (arguments ++ '\n' :: '/' :: rest) = isNamed arguments := by
  rw [isNamed, isNamed, trimStart, trimStart, List.dropWhile_append]
  cases arguments.dropWhile isBlank with
  | nil => rfl
  | cons c more => rfl

/-- The id goes into the text before a comment, if there is no opening in the comment. -/
theorem insertName_append_comment (absent : ¬opening <:+: '/' :: rest) (id js : List Char) :
    insertName id (js ++ '\n' :: '/' :: rest) = insertName id js ++ '\n' :: '/' :: rest := by
  rcases firstCall?_cases js with ⟨-, none_⟩ | ⟨before, arguments, -, call⟩
  · rw [insertName_of_no_call none_, insertName_of_no_call]
    intro before arguments own
    obtain ⟨more, inside⟩ := own.of_append absent
    exact none_ before more inside
  · rw [insertName_of_first call, insertName_of_first (call.append _), isNamed_append_comment]
    split
    · rfl
    · rw [List.append_assoc _ arguments]

end Behind

/-- The lines of two texts go one for one, and at most one of them has changed: it has taken in
`part`. -/
def KeepsLines (part text changed : List Char) : Prop :=
  changed = text ∨ ∃ above left right below,
    text.splitOn '\n' = above ++ (left ++ right) :: below ∧
    changed.splitOn '\n' = above ++ (left ++ part ++ right) :: below

theorem newline_not_mem_nameArgument {id : List Char} (line : '\n' ∉ id) :
    '\n' ∉ nameArgument id := by
  have inside : '\n' ∉ escape id := fun member => line (newline_mem_escape member)
  simp [nameArgument, inside]

theorem keepsLines_insertName {id : List Char} (line : '\n' ∉ id) (js : List Char) :
    KeepsLines (nameArgument id) js (insertName id js) := by
  rcases insertName_cases id js with same | ⟨before, arguments, call, named⟩
  · exact .inl (same id)
  · right
    rw [named, call.cut, ← List.append_assoc]
    exact splitOn_insert (newline_not_mem_nameArgument line) (before ++ opening) arguments

end DefineCall

namespace Directive

open DefineCall

/-- Only the path can bring an opening into the directives. -/
theorem opening_absent {path : List Char} (plain : ¬opening <:+: path)
    {payload : Option (List Char)} (encoded : ∀ p, payload = some p → ∃ m, encodeMap m = .ok p) :
    ¬opening <:+: nameLetters ++ (path ++ mapLine payload) := by
  rintro ⟨front, back, cut⟩
  -- No opening starts among the letters before the path.
  have start := length_le_of_plain (by decide : 'd' ∉ nameLetters) cut.symm
  obtain ⟨more, -, behind⟩ := exists_behind cut.symm start
  cases payload with
  | none =>
    rw [mapLine, List.append_nil] at behind
    exact plain ⟨more, back, behind.symm⟩
  | some payload =>
    rw [mapLine, mapMark_eq, List.cons_append] at behind
    rcases cut_at_mark newline_not_mem_opening behind with ⟨after, within⟩ | ⟨gap, -, later⟩
    · exact plain ⟨more, after, within.symm⟩
    · obtain ⟨m, made⟩ := encoded payload rfl
      have member : '(' ∈ mapLetters ++ payload := by
        rw [later]
        simp [parenthesis_mem_opening]
      rcases List.mem_append.mp member with letter | digit
      · exact absurd letter (by decide)
      · exact not_mem_payload rfl (by decide) made digit

/-- The directives as a comment, for a path without an opening. -/
theorem directives_comment {path : List Char} (plain : ¬opening <:+: path)
    (map : Option (List Char)) (canEncode : Bool) :
    ∃ comment, (directives path map canEncode).1 = '\n' :: '/' :: comment ∧
      ¬opening <:+: '/' :: comment := by
  obtain ⟨payload, made, encoded⟩ := directives_text path map canEncode
  exact ⟨_, made, opening_absent plain encoded⟩

/-- A text of code and directives, and what naming makes of it. -/
structure NamedAlike (id js : String) (directives : List Char) (text named : String) : Prop where
  text_eq : text.toList = js.toList ++ directives
  named_eq : named.toList = (nameAnonymousDefine id js).toList ++ directives
  /-- Unless the id has a line break, the code keeps its lines. -/
  code : '\n' ∉ id.toList → KeepsLines (nameArgument id.toList) js.toList
    (nameAnonymousDefine id js).toList
  /-- In both texts the lines of the code come first, and the same lines follow. -/
  numbers : ∃ further, text.toList.splitOn '\n' = js.toList.splitOn '\n' ++ further ∧
    named.toList.splitOn '\n' = (nameAnonymousDefine id js).toList.splitOn '\n' ++ further

/-- Naming goes past the directives. -/
theorem nameAnonymousDefine_append {outputPath : String} (plain : ¬opening <:+: outputPath.toList)
    (id js : String) (map : Option String) (canEncode : Bool) :
    nameAnonymousDefine id (append js outputPath map canEncode).1 =
      (append (nameAnonymousDefine id js) outputPath map canEncode).1 := by
  obtain ⟨comment, made, absent⟩ :=
    directives_comment plain (map.map String.toList) canEncode
  rw [append_eq, append_eq, made, nameAnonymousDefine, nameAnonymousDefine, String.toList_ofList,
    String.toList_ofList, insertName_append_comment absent]

-- A call at the very end of the code takes the id; the comment behind it is no argument.
example : nameAnonymousDefine "m" (append "define(" "a.js" none true).1 =
    "define('m', \n//@ sourceURL=a.js" := by decide +kernel

theorem namedAlike_append {outputPath : String} (plain : ¬opening <:+: outputPath.toList)
    (id js : String) (map : Option String) (canEncode : Bool) :
    NamedAlike id js (directives outputPath.toList (map.map String.toList) canEncode).1
      (append js outputPath map canEncode).1
      (append (nameAnonymousDefine id js) outputPath map canEncode).1 := by
  refine ⟨by rw [append_eq, String.toList_ofList], by rw [append_eq, String.toList_ofList], ?_, ?_⟩
  · intro line
    rw [nameAnonymousDefine, String.toList_ofList]
    exact keepsLines_insertName line js.toList
  · obtain ⟨comment, made, -⟩ := directives_comment plain (map.map String.toList) canEncode
    refine ⟨('/' :: comment).splitOn '\n', ?_, ?_⟩ <;>
      rw [append_eq, String.toList_ofList, made, List.splitOn_append_cons_self]

end Directive

namespace BuildCache

/-- A cache that holds what loads have kept, whichever transformers took turns on it. -/
inductive Filled : BuildCache → Prop
  | empty : Filled .empty
  | load {σ : Type} {cache : BuildCache} (filled : Filled cache) (t : Transformer)
    (s : Services σ) (isBuild : Bool) (name : String) (state : σ) :
    Filled (t.load s isBuild name (cache, state)).2.1

theorem Filled.annotated {cache : BuildCache} (filled : Filled cache) {name : String}
    {artifact : Artifact} (kept : cache.find? name = some artifact) :
    ∃ t r output, artifact = Transformer.annotate t r output := by
  induction filled with
  | empty => simp at kept
  | load _ t s isBuild loaded state ih =>
    rcases Transformer.find?_load kept with before | ⟨-, r, -, output, -, annotated⟩
    · exact ih before
    · exact ⟨t, r, output, annotated⟩

/-- A bundle of what such caches hold. -/
inductive Written : Bundle → Prop
  | empty : Written .empty
  | write {bundle : Bundle} {cache : BuildCache} (written : Written bundle) (filled : Filled cache)
    (plugin name : String) : Written (cache.write plugin name bundle).2
  | writeAll {bundle : Bundle} {cache : BuildCache} (written : Written bundle)
    (filled : Filled cache) (plugin : String) : Written (cache.writeAll plugin bundle)

theorem Written.mem_modules {bundle : Bundle} (written : Written bundle)
    {entry : String × String} (member : entry ∈ bundle.modules) :
    ∃ plugin name artifact cache, Filled cache ∧ cache.find? name = some artifact ∧
      entry = bundled plugin name artifact.text := by
  induction written with
  | empty => simp [Bundle.empty] at member
  | @write bundle cache _ filled plugin name ih =>
    rw [write_eq] at member
    split at member
    · rename_i artifact kept
      rcases List.mem_append.mp member with before | new
      · exact ih before
      · exact ⟨plugin, name, artifact, cache, filled, kept, List.mem_singleton.mp new⟩
    · exact ih member
  | @writeAll bundle cache _ filled plugin ih =>
    rw [modules_writeAll] at member
    rcases List.mem_append.mp member with before | new
    · exact ih before
    · obtain ⟨⟨name, artifact⟩, kept, rfl⟩ := List.mem_map.mp new
      exact ⟨plugin, name, artifact, cache, filled, NameMap.mem_entries_iff.mp kept, rfl⟩

end BuildCache

namespace Directive

open DefineCall

/-- It does not matter whether a text is named or annotated first, unless its path opens a call. A
module of a bundle carries the directives of its artifact behind the named code, and if its id is on
one line, every line of the code has the number that it has in the artifact. -/
theorem naming_keeps_directives :
    (∀ (id js outputPath : String) (map : Option String) (canEncode : Bool),
      ¬opening <:+: outputPath.toList →
      let annotated := append js outputPath map canEncode
      let renamed := append (nameAnonymousDefine id js) outputPath map canEncode
      nameAnonymousDefine id annotated.1 = renamed.1 ∧ annotated.2 = renamed.2 ∧
        NamedAlike id js (directives outputPath.toList (map.map String.toList) canEncode).1
          annotated.1 renamed.1) ∧
    ∀ bundle, BuildCache.Written bundle → ∀ id text, (id, text) ∈ bundle.modules →
      ∃ plugin name artifact cache, BuildCache.Filled cache ∧ cache.find? name = some artifact ∧
        id = BuildCache.bundleId plugin name ∧ text = nameAnonymousDefine id artifact.text ∧
        (¬opening <:+: artifact.outputPath.toList → ∃ js canEncode,
          let comments := directives artifact.outputPath.toList
            (artifact.sourceMap.map String.toList) canEncode
          artifact.embedding = comments.2 ∧
            NamedAlike id js comments.1 artifact.text text) := by
  constructor
  · intro id js outputPath map canEncode plain annotated renamed
    exact ⟨nameAnonymousDefine_append plain id js map canEncode, rfl,
      namedAlike_append plain id js map canEncode⟩
  · intro bundle written id text member
    obtain ⟨plugin, name, artifact, cache, filled, kept, same⟩ := written.mem_modules member
    obtain ⟨rfl, rfl⟩ := Prod.mk.inj same
    refine ⟨plugin, name, artifact, cache, filled, kept, rfl, rfl, ?_⟩
    intro plain
    obtain ⟨t, r, output, rfl⟩ := filled.annotated kept
    refine ⟨output.js, t.base64, rfl, ?_⟩
    have alike := namedAlike_append plain (BuildCache.bundleId plugin name) output.js
      output.sourceMap t.base64
    rw [← nameAnonymousDefine_append plain] at alike
    exact alike

end Directive

end AmdBundler
