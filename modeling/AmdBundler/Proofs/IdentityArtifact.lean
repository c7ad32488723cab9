import AmdBundler.Compiler.Identity
import AmdBundler.Proofs.LoadRun
import AmdBundler.Proofs.MappingsDecoding
import AmdBundler.Proofs.SourceMapRoundTrip

namespace AmdBundler

namespace Directive

/-- The text of a map, as it is read from the base64 text that carries it. -/
def readMap? (payload : List Char) : Option (List Char) :=
  (Base64.decode? payload).map fun bytes => bytes.map fun b => Char.ofNat b.toNat

theorem firstWide?_eq_none_iff (text : List Char) : firstWide? text = none ↔ Latin1 text := by
  rw [firstWide?, Option.map_eq_none_iff, List.find?_eq_none]
  constructor
  · intro none c member
    obtain ⟨i, inside, rfl⟩ := List.mem_iff_getElem.mp member
    have narrow := none (text[i], i) (List.mk_mem_zipIdx_iff_getElem?.mpr (by simp))
    simpa using narrow
  · intro narrow entry member
    have inside := narrow entry.1 (List.fst_mem_of_mem_zipIdx member)
    simpa using inside

theorem encodeMap_eq_ok_iff {map payload : List Char} :
    encodeMap map = .ok payload ↔
      Latin1 map ∧ payload = Base64.encode (map.map fun c => c.toNat.toUInt8) := by
  rw [encodeMap, ← firstWide?_eq_none_iff]
  cases firstWide? map with
  | none => simp [eq_comm]
  | some cause => simp

theorem chars_of_bytes {text : List Char} (narrow : Latin1 text) :
    (text.map fun c => c.toNat.toUInt8).map (fun b => Char.ofNat b.toNat) = text := by
  have same : ∀ c ∈ text, Char.ofNat c.toNat.toUInt8.toNat = c := by
    intro c member
    have small := narrow c member
    rw [Utf8.toNat_toUInt8 (by omega), Char.ofNat_toNat]
  rw [List.map_map]
  exact (List.map_congr_left same).trans (List.map_id text)

theorem encodeMap_of_latin1 {map : List Char} (narrow : Latin1 map) :
    ∃ payload, encodeMap map = .ok payload ∧ readMap? payload = some map := by
  refine ⟨_, encodeMap_eq_ok_iff.mpr ⟨narrow, rfl⟩, ?_⟩
  rw [readMap?, Base64.decode?_encode, Option.map_some, chars_of_bytes narrow]

theorem encodeMap_of_not_latin1 {map : List Char} (wide : ¬Latin1 map) :
    ∃ cause, encodeMap map = .error cause := by
  rw [encodeMap]
  cases found : firstWide? map with
  | none => exact absurd ((firstWide?_eq_none_iff map).mp found) wide
  | some cause => exact ⟨cause, rfl⟩

/-- With an encoder, the map is carried if it fits, and left away with no other trace if not. -/
theorem append_cases (js outputPath map : String) :
    (Latin1 map.toList ∧ ∃ payload, readMap? payload = some map.toList ∧
      append js outputPath (some map) true =
        (String.ofList (js.toList ++ (nameMark ++ outputPath.toList ++ (mapMark ++ payload))),
          .embedded)) ∨
    (¬Latin1 map.toList ∧ ∃ cause, append js outputPath (some map) true =
      (String.ofList (js.toList ++ (nameMark ++ outputPath.toList)), .encodingFailed cause)) := by
  by_cases fits : Latin1 map.toList
  · obtain ⟨payload, encoded, read⟩ := encodeMap_of_latin1 fits
    exact .inl ⟨fits, payload, read, by simp [append, directives, encoded]⟩
  · obtain ⟨cause, refused⟩ := encodeMap_of_not_latin1 fits
    exact .inr ⟨fits, cause, by simp [append, directives, refused]⟩

end Directive

namespace Identity

open SourceMap

theorem linesOf_starts (indices : List Nat) :
    Mappings.linesOf (indices.flatMap fun index => [.nextLine, .add (lineStart index)]) =
      [] :: indices.map fun index => [lineStart index] := by
  induction indices with
  | nil => rfl
  | cons index indices ih =>
    rw [List.flatMap_cons, List.cons_append, List.cons_append, List.nil_append, Mappings.linesOf,
      Mappings.linesOf, ih]
    rfl

theorem linesOf_lineSteps (count : Nat) :
    Mappings.linesOf (lineSteps (count + 1)) =
      (List.range (count + 1)).map fun index => [lineStart index] := by
  have steps : lineSteps (count + 1) = .add (lineStart 0) ::
      ((List.range count).map Nat.succ).flatMap fun index =>
        [.nextLine, .add (lineStart index)] := by
    rw [lineSteps, List.range_succ_eq_map, List.flatMap_cons, if_pos rfl, List.flatMap_map,
      List.flatMap_map]
    simp
  rw [steps, Mappings.linesOf, linesOf_starts, List.range_succ_eq_map]
  rfl

theorem length_splitOn (mark : Char) (text : List Char) :
    (text.splitOn mark).length = text.count mark + 1 := by
  induction text with
  | nil => rfl
  | cons c text ih =>
    rw [List.splitOn_cons_eq_if_modifyHead]
    by_cases here : c = mark
    · simp [here, ih]
    · simp [here, ih]

/-- The mappings lead the start of every line to the start of the same line. -/
theorem decode_mappings {source : List Char} (filled : source ≠ [])
    (lines : source.count '\n' < UInt32.size) :
    decodeMappings? (mappings source) =
      some ((List.range (source.count '\n' + 1)).map fun index => [⟨0, 0, index, 0⟩]) := by
  have place : ∀ index ∈ List.range (source.count '\n' + 1),
      [lineStart index].map Segment.place = [⟨0, 0, index, 0⟩] := by
    intro index member
    have fits : index < UInt32.size := by
      have := List.mem_range.mp member
      omega
    have number : index.toUInt32.toNat = index := UInt32.toNat_ofNat_of_lt' fits
    simp [lineStart, Segment.place, number]
  rw [mappings, if_neg (by simpa using filled), length_splitOn, Mappings.decode_ofSteps,
    linesOf_lineSteps, List.map_map, Option.some_inj]
  exact List.map_congr_left place

/-- What a map says about a text that was not changed. -/
structure Describes (map : SourceMap) (text sourcePath outputPath : String) : Prop where
  version : map.version = 3
  file : map.file = outputPath
  sources : map.sources = [sourcePath]
  contents : map.sourcesContent = some [text]
  lines : decodeMappings? map.mappings.toList =
    some ((List.range (text.toList.count '\n' + 1)).map fun index => [⟨0, 0, index, 0⟩])

/-- The artifact of the text at `path`, with the map that it carries or that was kept beside it. -/
structure SelfDescribing (t : Transformer) (path text : String) (artifact : Artifact) : Prop where
  sourcePath : artifact.sourcePath = Transformer.displayPath path
  outputPath : artifact.outputPath = t.outputPath artifact.sourcePath
  embedded_iff : artifact.embedding = .embedded ↔
    Latin1 text.toList ∧ Latin1 artifact.sourcePath.toList ∧ Latin1 artifact.outputPath.toList
  carried : artifact.embedding = .embedded → ∃ payload raw map,
    artifact.text.toList = text.toList ++ Directive.nameMark ++ artifact.outputPath.toList ++
      Directive.mapMark ++ payload ∧
    Directive.readMap? payload = some raw ∧ codec.parse (Utf8.encode raw) = .ok map ∧
    Describes map text artifact.sourcePath artifact.outputPath
  bare : artifact.embedding ≠ .embedded →
    artifact.text.toList = text.toList ++ Directive.nameMark ++ artifact.outputPath.toList
  kept : ∃ raw map, artifact.sourceMap = some raw ∧
    codec.parse (Utf8.encode raw.toList) = .ok map ∧
    Describes map text artifact.sourcePath artifact.outputPath

theorem latin1_mappings (source : List Char) : Latin1 (mappings source) := by
  have digits : ∀ d < 64, (Base64.digit d).toNat ≤ 0xFF := by decide
  intro c member
  rw [mappings] at member
  split at member
  · cases member
  · rcases Mappings.mem_text_ofSteps member with rfl | rfl | ⟨d, small, rfl⟩
    · decide
    · decide
    · exact digits d small

theorem latin1_render (text sourcePath outputPath : String) :
    Latin1 (sourceMap text (.inlineMap sourcePath outputPath)).render.toList ↔
      Latin1 text.toList ∧ Latin1 sourcePath.toList ∧ Latin1 outputPath.toList := by
  have narrow := latin1_mappings text.toList
  rw [render, Json.Codec.render, String.toList_ofList, latin1_write]
  simp only [sourceMap, ofFile, CompileOptions.inlineMap, String.toList_ofList, narrow]
  simp
  rw [and_comm, and_assoc, and_left_comm]

theorem describes_sourceMap {text : String} (filled : text ≠ "")
    (lines : text.toList.count '\n' < UInt32.size) (sourcePath outputPath : String) :
    Describes (sourceMap text (.inlineMap sourcePath outputPath)) text sourcePath outputPath where
  version := rfl
  file := rfl
  sources := rfl
  contents := rfl
  lines := by
    have letters : text.toList ≠ [] := by
      intro none
      exact filled (String.toList_eq_nil_iff.mp none)
    rw [← decode_mappings letters lines]
    simp [sourceMap]

theorem selfDescribing_annotate {t : Transformer} (encoder : t.base64 = true) {text : String}
    (filled : text ≠ "") (lines : text.toList.count '\n' < UInt32.size) (name path : String) :
    SelfDescribing t path text (t.annotate (t.record name path text)
      (compile text (t.compileOptions (Transformer.displayPath path)))) := by
  let sourcePath := Transformer.displayPath path
  let outputPath := t.outputPath sourcePath
  let map := sourceMap text (.inlineMap sourcePath outputPath)
  have described := describes_sourceMap filled lines sourcePath outputPath
  have parsed : codec.parse (Utf8.encode map.render.toList) = .ok map :=
    Json.Codec.parse_render faithful_codec map
  have fits : Latin1 map.render.toList ↔
      Latin1 text.toList ∧ Latin1 sourcePath.toList ∧ Latin1 outputPath.toList :=
    latin1_render text sourcePath outputPath
  have made : t.annotate (t.record name path text) (compile text (t.compileOptions sourcePath)) =
      ⟨name, sourcePath, outputPath, (Directive.append text outputPath (some map.render) true).1,
        some map.render, (Directive.append text outputPath (some map.render) true).2⟩ := by
    rw [← encoder]
    rfl
  rw [made]
  rcases Directive.append_cases text outputPath map.render with
    ⟨narrow, payload, read, appended⟩ | ⟨wide, cause, appended⟩
  · rw [appended]
    exact {
      sourcePath := rfl
      outputPath := rfl
      embedded_iff := ⟨fun _ => fits.mp narrow, fun _ => rfl⟩
      carried := fun _ => ⟨payload, map.render.toList, map, by simp, read, parsed, described⟩
      bare := fun absent => absurd rfl absent
      kept := ⟨map.render, map, rfl, parsed, described⟩ }
  · rw [appended]
    exact {
      sourcePath := rfl
      outputPath := rfl
      embedded_iff := ⟨fun same => (by cases same), fun narrow => absurd (fits.mpr narrow) wide⟩
      carried := fun same => (by cases same)
      bare := fun _ => by simp
      kept := ⟨map.render, map, rfl, parsed, described⟩ }

end Identity

namespace Transformer

variable {σ : Type}

/-- A load through the identity compiler makes an artifact that describes itself and hands it over
to the loader; it ends with that artifact, or with the loader's refusal. -/
theorem identity_load_describes_itself {t : Transformer} {s : Services σ} {name path text : String}
    {state resolving fetching : σ}
    (identity : ∀ source options state,
      s.compiler.compile source options state = (.ok (Identity.compile source options), state))
    (encoder : t.base64 = true)
    (resolved : s.loader.toUrl (name ++ "." ++ t.sourceExt) state = (.ok path, resolving))
    (fetched : s.fetch path resolving = (.ok text, fetching)) (filled : text ≠ "")
    (lines : text.toList.count '\n' < UInt32.size) (cache : BuildCache) :
    ∃ artifact, Identity.SelfDescribing t path text artifact ∧ artifact.moduleName = name ∧
      t.load s false name (cache, state) = handOver s name artifact false cache fetching ∧
      ∀ defining loaded rest,
        s.loader.define name artifact.text fetching = (.ok (), defining) →
        s.loader.request name defining = (.ok loaded, rest) →
        t.load s false name (cache, state) = (.ok ⟨loaded, artifact, false⟩, cache, rest) := by
  have made := make_compiled resolved fetched
    (identity text (t.compileOptions (displayPath path)) fetching)
  have loads : t.load s false name (cache, state) = handOver s name _ false cache fetching :=
    load_made (fun build => by cases build) made
  refine ⟨_, Identity.selfDescribing_annotate encoder filled lines name path, rfl, loads, ?_⟩
  intro defining loaded rest defined given
  rw [loads, handOver, register_loaded false defined given]

/-- A text of two lines that stays within Latin-1, for a registry. -/
theorem identity_load_of_two_lines :
    let t : Transformer := ⟨⟨.filesystem, none⟩, true, "amd", "js"⟩
    let s := Services.ofRegistry (fun _ => .ok "a()\nb(\"é\")") "identity" fun source options =>
      .ok (Identity.compile source options)
    let r := Registry.ofPaths (.ofBase "lib")
    ∃ artifact, Identity.SelfDescribing t "lib/m.amd" "a()\nb(\"é\")" artifact ∧
      artifact.embedding = .embedded ∧ t.load s false "m" (.empty, r) =
        (.ok ⟨⟨"m", artifact.text⟩, artifact, false⟩, .empty, r.define "m" artifact.text) := by
  intro t s r
  have found : (PathTable.ofBase "lib").toUrl "m.amd" = .ok "lib/m.amd" := by rfl
  have resolved : s.loader.toUrl ("m" ++ "." ++ t.sourceExt) r = (.ok "lib/m.amd", r) :=
    congrArg (fun answer => (answer, r)) found
  have fetched : s.fetch "lib/m.amd" r = (.ok "a()\nb(\"é\")", r) := rfl
  obtain ⟨artifact, described, -, -, loads⟩ := identity_load_describes_itself (s := s)
    (fun _ _ _ => rfl) (rfl : t.base64 = true) resolved fetched (by decide) (by decide) .empty
  refine ⟨artifact, described, ?_, loads _ _ _ rfl ?_⟩
  · have narrow : Latin1 (displayPath "lib/m.amd").toList ∧
        Latin1 (t.outputPath (displayPath "lib/m.amd")).toList := by decide
    rw [described.embedded_iff, described.outputPath, described.sourcePath]
    exact ⟨by decide, narrow⟩
  · simp [s, Services.ofRegistry, Registry.loader, Registry.request_define]

end Transformer

end AmdBundler
