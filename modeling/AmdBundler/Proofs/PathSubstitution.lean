import AmdBundler.Compiler.Identity
import AmdBundler.Module.Make
import Mathlib

namespace AmdBundler

namespace PathTable

/-- A key stands for a name that it equals, and for the names below it. -/
def Covers (key name : List Char) : Prop :=
  name = key ∨ ∃ rest, name = key ++ '/' :: rest

theorem Covers.refl (name : List Char) : Covers name name :=
  .inl rfl

/-- What the targets make of a name: the name itself if no key stands for it, the target of the name
as it is, or the target of the longest key, without closing slashes, and what the name has behind
the key. -/
inductive Image (targets : NameMap String) (name : List Char) : List Char → Prop
  | kept (free : ∀ key, Covers key name → targets.find? (String.ofList key) = none) :
    Image targets name name
  | whole {target : String} (found : targets.find? (String.ofList name) = some target) :
    Image targets name target.toList
  | below {key rest : List Char} {target : String} (cut : name = key ++ '/' :: rest)
    (found : targets.find? (String.ofList key) = some target)
    (longest : ∀ other, Covers other name → key.length < other.length →
      targets.find? (String.ofList other) = none) :
    Image targets name (Text.trimEndOf '/' target.toList ++ '/' :: rest)

/-- Two cuts of a name at keys of which no longer one has a target are the same cut. -/
theorem cut_unique {targets : NameMap String} {name key other rest more : List Char}
    {target twin : String} (cut : name = key ++ '/' :: rest) (again : name = other ++ '/' :: more)
    (found : targets.find? (String.ofList key) = some target)
    (longest : ∀ longer, Covers longer name → other.length < longer.length →
      targets.find? (String.ofList longer) = none)
    (foundAgain : targets.find? (String.ofList other) = some twin)
    (longestAgain : ∀ longer, Covers longer name → key.length < longer.length →
      targets.find? (String.ofList longer) = none) : key = other ∧ rest = more := by
  have upper : key.length ≤ other.length := by
    by_contra longer
    have absent := longest key (.inr ⟨rest, cut⟩) (by omega)
    rw [found] at absent
    cases absent
  have lower : other.length ≤ key.length := by
    by_contra longer
    have absent := longestAgain other (.inr ⟨more, again⟩) (by omega)
    rw [foundAgain] at absent
    cases absent
  obtain ⟨same, tails⟩ := List.append_inj (cut.symm.trans again) (Nat.le_antisymm upper lower)
  exact ⟨same, (List.cons.inj tails).2⟩

/-- A name has one image. -/
theorem Image.unique {targets : NameMap String} {name a b : List Char}
    (first : Image targets name a) (second : Image targets name b) : a = b := by
  have whole_below {key rest : List Char} {target : String} (cut : name = key ++ '/' :: rest)
      (found : targets.find? (String.ofList name) = some target)
      (longest : ∀ other, Covers other name → key.length < other.length →
        targets.find? (String.ofList other) = none) : False := by
    have absent := longest name (.refl name) (by rw [cut, List.length_append]; simp)
    rw [found] at absent
    cases absent
  have kept_found {key : List Char} {target : String} (covers : Covers key name)
      (free : ∀ key, Covers key name → targets.find? (String.ofList key) = none)
      (found : targets.find? (String.ofList key) = some target) : False := by
    rw [free key covers] at found
    cases found
  cases first with
  | kept free =>
    cases second with
    | kept => rfl
    | whole found => exact (kept_found (.refl name) free found).elim
    | below cut found _ => exact (kept_found (.inr ⟨_, cut⟩) free found).elim
  | whole found =>
    cases second with
    | kept free => exact (kept_found (.refl name) free found).elim
    | whole again => rw [Option.some.inj (found.symm.trans again)]
    | below cut _ longest => exact (whole_below cut found longest).elim
  | below cut found longest =>
    cases second with
    | kept free => exact (kept_found (.inr ⟨_, cut⟩) free found).elim
    | whole again => exact (whole_below cut again longest).elim
    | below cutAgain foundAgain longestAgain =>
      obtain ⟨rfl, rfl⟩ := cut_unique cut cutAgain found longestAgain foundAgain longest
      rw [Option.some.inj (found.symm.trans foundAgain)]

def leading (segments : List (List Char)) (count : Nat) : List Char :=
  ['/'].intercalate (segments.take count)

theorem leading_append {segments : List (List Char)} {count more : Nat} (some : 0 < count)
    (within : count < more) (room : more ≤ segments.length) :
    leading segments more =
      leading segments count ++ '/' :: ['/'].intercalate ((segments.take more).drop count) := by
  have cut : segments.take more = segments.take count ++ (segments.take more).drop count := by
    have front := List.take_append_drop count (segments.take more)
    rwa [List.take_take, Nat.min_eq_left (Nat.le_of_lt within), eq_comm] at front
  have heads : segments.take count ≠ [] := by
    rw [← List.length_pos_iff, List.length_take]
    omega
  have tails : (segments.take more).drop count ≠ [] := by
    rw [← List.length_pos_iff, List.length_drop, List.length_take]
    omega
  rw [leading, leading, ← Text.intercalate_append heads tails, ← cut]

theorem length_leading_le {segments : List (List Char)} {count more : Nat} (some : 0 < count)
    (within : count ≤ more) (room : more ≤ segments.length) :
    (leading segments count).length ≤ (leading segments more).length := by
  rcases Nat.lt_or_eq_of_le within with less | rfl
  · rw [leading_append some less room, List.length_append]
    exact Nat.le_add_right _ _
  · exact Nat.le_refl _

theorem leading_all (name : List Char) :
    leading (name.splitOn '/') (name.splitOn '/').length = name := by
  rw [leading, List.take_length, List.intercalate_splitOn]

theorem cut_leading {name : List Char} {count : Nat} (some : 0 < count)
    (within : count < (name.splitOn '/').length) :
    name = leading (name.splitOn '/') count ++
      '/' :: ['/'].intercalate ((name.splitOn '/').drop count) := by
  have cut := leading_append some within (Nat.le_refl _)
  rwa [leading_all, List.take_length] at cut

/-- The keys that stand for a name are the runs of its leading segments. -/
theorem covers_iff {key name : List Char} :
    Covers key name ↔
      ∃ count, 0 < count ∧ count ≤ (name.splitOn '/').length ∧
        key = leading (name.splitOn '/') count := by
  constructor
  · intro covers
    have some : 0 < (key.splitOn '/').length :=
      List.length_pos_iff.mpr (List.splitOn_ne_nil '/' key)
    rcases covers with rfl | ⟨rest, rfl⟩
    · exact ⟨_, some, Nat.le_refl _, (leading_all name).symm⟩
    · refine ⟨(key.splitOn '/').length, some, ?_, ?_⟩
      · rw [List.splitOn_append_cons_self, List.length_append]
        exact Nat.le_add_right _ _
      · rw [List.splitOn_append_cons_self, leading, List.take_left, List.intercalate_splitOn]
  · rintro ⟨count, some, within, rfl⟩
    rcases Nat.lt_or_eq_of_le within with less | rfl
    · exact .inr ⟨_, cut_leading some less⟩
    · exact .inl (leading_all name).symm

section Longest

variable {targets : NameMap String} {segments rest : List (List Char)} {found : List Char}

theorem longestTarget_none {count : Nat}
    (none_ : longestTarget targets segments count = none) :
    ∀ k, 0 < k → k ≤ count → targets.find? (String.ofList (leading segments k)) = none := by
  induction count with
  | zero =>
    intro k some within
    omega
  | succ count ih =>
    intro k some within
    rw [longestTarget] at none_
    split at none_
    · cases none_
    · rename_i absent
      rcases Nat.lt_or_eq_of_le within with less | rfl
      · exact ih none_ k some (by omega)
      · exact absent

/-- The run of segments that is chosen has a target, and no longer one does. -/
theorem longestTarget_some {count : Nat}
    (chosen : longestTarget targets segments count = some (found, rest)) :
    ∃ k target, 0 < k ∧ k ≤ count ∧
      targets.find? (String.ofList (leading segments k)) = some target ∧
      found = target.toList ∧ rest = segments.drop k ∧
      ∀ j, k < j → j ≤ count → targets.find? (String.ofList (leading segments j)) = none := by
  induction count with
  | zero => cases chosen
  | succ count ih =>
    rw [longestTarget] at chosen
    split at chosen
    · rename_i target here
      cases chosen
      refine ⟨count + 1, target, Nat.zero_lt_succ _, Nat.le_refl _, here, rfl, rfl, ?_⟩
      intro j more within
      omega
    · rename_i absent
      obtain ⟨k, target, some, within, here, text, tail, none_⟩ := ih chosen
      refine ⟨k, target, some, by omega, here, text, tail, ?_⟩
      intro j more upTo
      rcases Nat.lt_or_eq_of_le upTo with less | rfl
      · exact none_ j more (by omega)
      · exact absent

end Longest

/-- Substitution gives the image of a name. -/
theorem image_substitute (targets : NameMap String) (name : List Char) :
    Image targets name (substitute targets name) := by
  rw [substitute]
  split
  · rename_i none_
    refine .kept ?_
    intro key covers
    obtain ⟨count, some, within, rfl⟩ := covers_iff.mp covers
    exact longestTarget_none none_ count some within
  · rename_i found chosen
    obtain ⟨k, target, some, within, here, rfl, tail, -⟩ := longestTarget_some chosen
    have all : k = (name.splitOn '/').length := by
      have := List.drop_eq_nil_iff.mp tail.symm
      omega
    rw [all, leading_all] at here
    exact .whole here
  · rename_i found rest more chosen
    obtain ⟨k, target, some, within, here, rfl, rfl, none_⟩ := longestTarget_some chosen
    have less : k < (name.splitOn '/').length := by
      by_contra all
      exact more (List.drop_eq_nil_iff.mpr (by omega))
    refine .below (cut_leading some less) here ?_
    intro other covers longer
    obtain ⟨j, someOther, withinOther, rfl⟩ := covers_iff.mp covers
    refine none_ j ?_ withinOther
    by_contra shorter
    have := length_leading_le someOther (Nat.le_of_not_lt shorter) within
    omega

theorem substitute_of_free {targets : NameMap String} {name : List Char}
    (free : ∀ key, Covers key name → targets.find? (String.ofList key) = none) :
    substitute targets name = name :=
  (image_substitute targets name).unique (.kept free)

theorem splitExtension_append {name ext : List Char}
    (ends : (name.splitOn '/').getLast? ≠ some []) (slash : '/' ∉ ext) (dot : '.' ∉ ext) :
    splitExtension (name ++ '.' :: ext) = (name, '.' :: ext) := by
  rw [ne_eq, Text.getLast?_splitOn, not_or] at ends
  obtain ⟨full, closed⟩ := ends
  rw [splitExtension]
  cases folder : Text.splitLast? '/' name with
  | none =>
    have plain := Text.splitLast?_eq_none_iff.mp folder
    have whole : Text.splitLast? '/' (name ++ '.' :: ext) = none :=
      Text.splitLast?_eq_none_iff.mpr (by simp [plain, slash])
    have cut : Text.splitLast? '.' (name ++ '.' :: ext) = some (name, ext) :=
      Text.splitLast?_eq_some_iff.mpr ⟨rfl, dot⟩
    obtain ⟨c, stem, rfl⟩ := List.exists_cons_of_ne_nil full
    simp only [whole, cut]
    rfl
  | some parts =>
    obtain ⟨before, segment⟩ := parts
    obtain ⟨rfl, plain⟩ := Text.splitLast?_eq_some_iff.mp folder
    have whole : Text.splitLast? '/' (before ++ '/' :: segment ++ '.' :: ext) =
        some (before, segment ++ '.' :: ext) :=
      Text.splitLast?_eq_some_iff.mpr ⟨by simp, by simp [plain, slash]⟩
    have cut : Text.splitLast? '.' (segment ++ '.' :: ext) = some (segment, ext) :=
      Text.splitLast?_eq_some_iff.mpr ⟨rfl, dot⟩
    have some_ : segment ≠ [] := by
      rintro rfl
      exact closed (by simp)
    obtain ⟨c, stem, rfl⟩ := List.exists_cons_of_ne_nil some_
    simp only [whole, cut]
    simp

theorem splitExtension_fst_append_snd (url : List Char) :
    (splitExtension url).1 ++ (splitExtension url).2 = url := by
  rw [splitExtension]
  cases folder : Text.splitLast? '/' url with
  | none =>
    simp only
    split
    · rename_i cut
      rw [(Text.splitLast?_eq_some_iff.mp cut).1]
      rfl
    · exact List.append_nil url
  | some parts =>
    obtain ⟨before, segment⟩ := parts
    simp only
    split
    · rename_i cut
      rw [(Text.splitLast?_eq_some_iff.mp folder).1, (Text.splitLast?_eq_some_iff.mp cut).1]
      simp
    · exact List.append_nil url

theorem contains_colon_append {url more : List Char} (colon : ':' ∉ more) :
    (url ++ more).contains ':' = url.contains ':' := by
  simp [colon]

theorem isAbsolute_append {url : List Char} (absolute : isAbsolute url = true) (more : List Char) :
    isAbsolute (url ++ more) = true := by
  rw [isAbsolute, Bool.or_eq_true, Bool.and_eq_true] at absolute ⊢
  rcases absolute with rooted | ⟨scheme, colon⟩
  · left
    cases url with
    | nil => cases rooted
    | cons c url => exact rooted
  · right
    have stops : (url.takeWhile (· ≠ ':')).length ≠ url.length := by
      intro all
      have same := List.takeWhile_eq_self_iff.mp
        ((List.takeWhile_prefix (· ≠ ':')).eq_of_length all)
      exact absurd (same ':' (List.contains_iff_mem.mp colon)) (by simp)
    rw [List.takeWhile_append, if_neg stops]
    exact ⟨scheme, by simpa using .inl (List.contains_iff_mem.mp colon)⟩

theorem isAbsolute_append_plain {name more : List Char} (full : name ≠ []) (colon : ':' ∉ more)
    (relative : isAbsolute name = false) : isAbsolute (name ++ more) = false := by
  rw [isAbsolute, Bool.or_eq_false_iff, Bool.and_eq_false_iff] at relative ⊢
  obtain ⟨rootless, schemeless⟩ := relative
  refine ⟨?_, ?_⟩
  · obtain ⟨c, rest, rfl⟩ := List.exists_cons_of_ne_nil full
    exact rootless
  · rw [contains_colon_append colon]
    rcases schemeless with other | none_
    · left
      rw [List.all_eq_false] at other ⊢
      obtain ⟨c, inside, odd⟩ := other
      refine ⟨c, ?_, odd⟩
      rw [List.takeWhile_append]
      split
      · exact List.mem_append_left _ ((List.takeWhile_prefix _).subset inside)
      · exact inside
    · exact .inr none_

/-- A URL that is not absolute is looked for below the base URL. -/
def based (t : PathTable) (url : List Char) : List Char :=
  if isAbsolute url then url else t.baseUrl.toList ++ url

theorem urlOf_append (t : PathTable) {name ext : List Char}
    (ends : (name.splitOn '/').getLast? ≠ some []) (slash : '/' ∉ ext) (dot : '.' ∉ ext)
    (relative : isAbsolute name = false) :
    t.urlOf (name ++ '.' :: ext) = t.based (substitute t.targets name ++ '.' :: ext) := by
  rw [urlOf, splitExtension_append ends slash dot]
  simp only [relative]
  rfl

/-- Without targets it does not matter where the extension starts. -/
theorem urlOf_of_no_targets {t : PathTable} (none_ : t.targets = .empty) (url : List Char) :
    t.urlOf url = t.based url := by
  have whole := splitExtension_fst_append_snd url
  rw [urlOf, none_]
  generalize splitExtension url = parts at whole
  obtain ⟨name, ext⟩ := parts
  simp only at whole ⊢
  rw [substitute_of_free fun _ _ => NameMap.find?_empty _, whole]
  split
  · rename_i absolute
    rw [based, if_pos (whole ▸ isAbsolute_append absolute ext)]
  · rfl

end PathTable

namespace Transformer

open PathTable

section Resolving

variable (fetch : String → Except FetchError String) (compilerName : String)
  (compile : String → CompileOptions → Except CompilerError CompileOutput)

theorem resolve_registry (t : Transformer) (r : Registry) (name : String) :
    t.resolve (.ofRegistry fetch compilerName compile) name r =
      (.ok (String.ofList (r.paths.urlOf (name.toList ++ '.' :: t.sourceExt.toList))), r) := by
  have full : (name ++ "." ++ t.sourceExt).isEmpty = false := by
    rw [String.isEmpty_eq_false_iff]
    intro empty
    have texts := congrArg String.toList empty
    simp [String.toList_append] at texts
  have text : (name ++ "." ++ t.sourceExt).toList = name.toList ++ '.' :: t.sourceExt.toList := by
    simp [String.toList_append]
  rw [resolve, stage, Services.ofRegistry, Registry.loader]
  simp only [Registry.toUrl, toUrl, full, text]
  rfl

/-- What a name is resolved to. An extension without dots is set aside as a whole, and the targets
apply to the name. Of an extension with dots only the last part is set aside, and the targets apply
to the name with the parts before it. -/
theorem resolve_substitutes (t : Transformer) (r : Registry) {name : String}
    (relative : isAbsolute name.toList = false)
    (ends : (name.toList.splitOn '/').getLast? ≠ some [])
    (slash : '/' ∉ t.sourceExt.toList) (colon : ':' ∉ t.sourceExt.toList) :
    ('.' ∉ t.sourceExt.toList → ∃ image, Image r.paths.targets name.toList image ∧
      t.resolve (.ofRegistry fetch compilerName compile) name r =
        (.ok (String.ofList (r.paths.based (image ++ '.' :: t.sourceExt.toList))), r)) ∧
    ∀ front last, t.sourceExt.toList = front ++ '.' :: last → '.' ∉ last →
      ∃ image, Image r.paths.targets (name.toList ++ '.' :: front) image ∧
        t.resolve (.ofRegistry fetch compilerName compile) name r =
          (.ok (String.ofList (r.paths.based (image ++ '.' :: last))), r) := by
  constructor
  · intro dot
    refine ⟨_, image_substitute r.paths.targets name.toList, ?_⟩
    rw [resolve_registry, urlOf_append _ ends slash dot relative]
  · intro front last cut dot
    rw [cut, List.mem_append, List.mem_cons, not_or, not_or] at slash colon
    have full : name.toList ≠ [] := by
      intro empty
      rw [empty] at ends
      exact ends rfl
    have still : isAbsolute (name.toList ++ '.' :: front) = false :=
      isAbsolute_append_plain full (by simp [colon.1]) relative
    have last_ : ((name.toList ++ '.' :: front).splitOn '/').getLast? ≠ some [] := by
      rw [ne_eq, Text.getLast?_splitOn, not_or]
      refine ⟨by simp, ?_⟩
      rw [List.getLast?_append_cons]
      intro closes
      have member := List.mem_of_getLast? closes
      rw [List.mem_cons] at member
      rcases member with same | inside
      · exact absurd same (by decide)
      · exact slash.1 inside
    refine ⟨_, image_substitute r.paths.targets (name.toList ++ '.' :: front), ?_⟩
    have text : name.toList ++ '.' :: t.sourceExt.toList =
        name.toList ++ '.' :: front ++ '.' :: last := by
      rw [cut]
      simp
    rw [resolve_registry, text, urlOf_append _ last_ slash.2.2 dot still]

end Resolving

/-- A folder that has moved, and one module of it that has moved elsewhere. -/
def movedModels : Registry :=
  .ofPaths (((PathTable.ofBase "static/").withTarget "model" "modules/models").withTarget
    "model/todo" "modules/todo_model")

def ofKind (sourceExt : String) : Transformer :=
  ⟨⟨.filesystem, none⟩, true, sourceExt, "js"⟩

def resolving : Services Registry :=
  .ofRegistry (fun _ => .error .unsupported) "identity" fun source options =>
    .ok (Identity.compile source options)

/-- The module that has moved elsewhere is found by its own target for an extension without a dot,
and by that of its folder for one with a dot. -/
theorem resolve_moved_module :
    (Image movedModels.paths.targets "model/todo".toList "modules/todo_model".toList ∧
      (ofKind "coffee").resolve resolving "model/todo" movedModels =
        (.ok "static/modules/todo_model.coffee", movedModels)) ∧
    Image movedModels.paths.targets "model/todo.coffee".toList
        "modules/models/todo.coffee".toList ∧
      (ofKind "coffee.md").resolve resolving "model/todo" movedModels =
        (.ok "static/modules/models/todo.coffee.md", movedModels) := by
  have relative : isAbsolute "model/todo".toList = false := by decide
  have ends : ("model/todo".toList.splitOn '/').getLast? ≠ some [] := by decide
  constructor
  · obtain ⟨image, isImage, resolved⟩ := (resolve_substitutes _ _ _ (ofKind "coffee") movedModels
      relative ends (by decide) (by decide)).1 (by decide)
    have moved : image = "modules/todo_model".toList :=
      (isImage.unique (image_substitute _ _)).trans (by decide +kernel)
    rw [moved] at isImage resolved
    exact ⟨isImage, resolved⟩
  · obtain ⟨image, isImage, resolved⟩ := (resolve_substitutes _ _ _ (ofKind "coffee.md") movedModels
      relative ends (by decide) (by decide)).2 "coffee".toList "md".toList (by decide) (by decide)
    have moved : image = "modules/models/todo.coffee".toList :=
      (isImage.unique (image_substitute _ _)).trans (by decide +kernel)
    rw [moved] at isImage resolved
    exact ⟨isImage, resolved⟩

/-- The targets do not always apply to the name: an extension with a dot inside keeps the module
that has moved elsewhere from its target. -/
theorem inner_dot_hides_target :
    ¬∀ (t : Transformer) (r : Registry) (name : String), isAbsolute name.toList = false →
      (name.toList.splitOn '/').getLast? ≠ some [] → t.sourceExt ≠ "" →
      '/' ∉ t.sourceExt.toList → ':' ∉ t.sourceExt.toList →
      ∃ image, Image r.paths.targets name.toList image ∧
        (t.resolve resolving name r).1 =
          .ok (String.ofList (r.paths.based (image ++ '.' :: t.sourceExt.toList))) := by
  intro claim
  obtain ⟨image, isImage, resolved⟩ := claim (ofKind "coffee.md") movedModels "model/todo"
    (by decide) (by decide) (by decide) (by decide) (by decide)
  have target : image = "modules/todo_model".toList :=
    isImage.unique (.whole (by decide +kernel))
  have found : ((ofKind "coffee.md").resolve resolving "model/todo" movedModels).1 =
      .ok "static/modules/models/todo.coffee.md" := by rfl
  have other : String.ofList (movedModels.paths.based (image ++ ".coffee.md".toList)) =
      "static/modules/todo_model.coffee.md" := by
    rw [target]
    decide +kernel
  rw [found] at resolved
  exact absurd ((Except.ok.inj resolved).trans other) (by decide)

end Transformer

end AmdBundler
