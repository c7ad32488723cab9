import AmdBundler.Proofs.PathSubstitution

namespace AmdBundler.PathTable

/-- What stands behind the last slash. -/
def lastSegment (text : List Char) : List Char :=
  text.rtakeWhile (· ≠ '/')

theorem lastSegment_of_plain {text : List Char} (plain : '/' ∉ text) :
    lastSegment text = text := by
  rw [lastSegment, List.rtakeWhile_eq_self_iff]
  exact Text.all_ne_of_not_mem plain

theorem lastSegment_append (folder : List Char) {segment : List Char} (plain : '/' ∉ segment) :
    lastSegment (folder ++ '/' :: segment) = segment := by
  have absent : '/' ∉ segment.reverse := by simpa using plain
  rw [lastSegment, List.rtakeWhile, List.reverse_append, List.reverse_cons, List.append_assoc,
    List.singleton_append, Text.takeWhile_before absent, List.reverse_reverse]

theorem lastSegment_append_plain (text : List Char) {more : List Char} (plain : '/' ∉ more) :
    lastSegment (text ++ more) = lastSegment text ++ more := by
  cases cut : Text.splitLast? '/' text with
  | none =>
    have whole := Text.splitLast?_eq_none_iff.mp cut
    rw [lastSegment_of_plain whole, lastSegment_of_plain]
    simp [whole, plain]
  | some parts =>
    obtain ⟨folder, segment⟩ := parts
    obtain ⟨rfl, inside⟩ := Text.splitLast?_eq_some_iff.mp cut
    rw [lastSegment_append folder inside, List.append_assoc, List.cons_append, lastSegment_append]
    simp [inside, plain]

/-- A text in its name and its extension: the extension is the last dot of the last segment and what
follows it, unless that dot opens the segment or there is none. -/
structure IsCut (text name ext : List Char) : Prop where
  whole : name ++ ext = text
  shape : ext = [] ∨ ∃ letters, ext = '.' :: letters ∧ '.' ∉ letters ∧ '/' ∉ letters
  named : ext ≠ [] → lastSegment name ≠ []
  dotless : ext = [] → '.' ∉ (lastSegment name).tail

theorem isCut_of_dot {text folder segment stem letters : List Char} {c : Char}
    (last : text = folder ++ segment) (ends : lastSegment text = segment)
    (cut : Text.splitLast? '.' segment = some (c :: stem, letters)) (slash : '/' ∉ segment) :
    IsCut text (folder ++ c :: stem) ('.' :: letters) := by
  obtain ⟨rfl, dot⟩ := Text.splitLast?_eq_some_iff.mp cut
  have plain : '/' ∉ '.' :: letters := fun member => slash (List.mem_append_right _ member)
  refine ⟨by simp [last], .inr ⟨letters, rfl, dot, fun member => plain (.tail _ member)⟩, ?_, ?_⟩
  · intro _ empty
    rw [last, ← List.append_assoc, lastSegment_append_plain _ plain, empty] at ends
    have lengths := congrArg List.length ends
    simp at lengths
    omega
  · rintro ⟨⟩

theorem isCut_of_no_dot {text segment : List Char} (ends : lastSegment text = segment)
    (cut : ∀ c stem letters, Text.splitLast? '.' segment ≠ some (c :: stem, letters)) :
    IsCut text text [] := by
  refine ⟨List.append_nil text, .inl rfl, fun full => absurd rfl full, ?_⟩
  intro _ member
  rw [ends] at member
  obtain ⟨c, tail, rfl⟩ := List.exists_cons_of_ne_nil
    (List.ne_nil_of_mem (List.mem_of_mem_tail member))
  cases found : Text.splitLast? '.' tail with
  | none => exact Text.splitLast?_eq_none_iff.mp found member
  | some parts =>
    obtain ⟨before, after⟩ := parts
    obtain ⟨rfl, absent⟩ := Text.splitLast?_eq_some_iff.mp found
    exact cut c before after (Text.splitLast?_eq_some_iff.mpr ⟨rfl, absent⟩)

theorem isCut_splitExtension (text : List Char) :
    IsCut text (splitExtension text).1 (splitExtension text).2 := by
  rw [splitExtension]
  cases folder : Text.splitLast? '/' text with
  | none =>
    have plain := Text.splitLast?_eq_none_iff.mp folder
    simp only
    split
    · rename_i cut
      exact isCut_of_dot rfl (lastSegment_of_plain plain) cut plain
    · rename_i other
      exact isCut_of_no_dot (lastSegment_of_plain plain) other
  | some parts =>
    obtain ⟨before, segment⟩ := parts
    obtain ⟨rfl, plain⟩ := Text.splitLast?_eq_some_iff.mp folder
    simp only
    split
    · rename_i cut
      exact isCut_of_dot (by simp) (lastSegment_append before plain) cut plain
    · rename_i other
      exact isCut_of_no_dot (lastSegment_append before plain) other

/-- With a dot to cut at, the last segment has one behind its first character. -/
theorem IsCut.dot_of_full {text name ext : List Char} (cut : IsCut text name ext)
    (full : ext ≠ []) : '.' ∈ (lastSegment text).tail := by
  rcases cut.shape with empty | ⟨letters, rfl, -, slash⟩
  · exact absurd empty full
  · obtain ⟨c, stem, named⟩ := List.exists_cons_of_ne_nil (cut.named full)
    have plain : '/' ∉ '.' :: letters := by simp [slash]
    rw [← cut.whole, lastSegment_append_plain name plain, named]
    simp

/-- There is one way to cut a text. -/
theorem IsCut.unique {text name ext other more : List Char} (cut : IsCut text name ext)
    (again : IsCut text other more) : name = other ∧ ext = more := by
  have bare {name ext : List Char} (cut : IsCut text name ext) (empty : ext = []) :
      name = text ∧ '.' ∉ (lastSegment text).tail := by
    have whole := cut.whole
    rw [empty, List.append_nil] at whole
    exact ⟨whole, whole ▸ cut.dotless empty⟩
  by_cases empty : ext = []
  · obtain ⟨whole, none_⟩ := bare cut empty
    have also : more = [] := by
      by_contra full
      exact none_ (again.dot_of_full full)
    exact ⟨whole.trans (bare again also).1.symm, empty.trans also.symm⟩
  · rcases again.shape with none_ | ⟨more, rfl, dotMore, -⟩
    · exact absurd (cut.dot_of_full empty) (bare again none_).2
    · rcases cut.shape with none_ | ⟨letters, rfl, dot, -⟩
      · exact absurd none_ empty
      · have here := Text.splitLast?_eq_some_iff.mpr ⟨cut.whole.symm, dot⟩
        have there := Text.splitLast?_eq_some_iff.mpr ⟨again.whole.symm, dotMore⟩
        rw [here] at there
        cases there
        exact ⟨rfl, rfl⟩

/-- A rooted path, or a URL that starts with a scheme. -/
def Absolute (url : List Char) : Prop :=
  (∃ rest, url = '/' :: rest) ∨
    ∃ scheme rest, url = scheme ++ ':' :: rest ∧
      ∀ c ∈ scheme, c.isAlphanum = true ∨ c = '+' ∨ c = '-' ∨ c = '.'

theorem isSchemeChar_iff (c : Char) :
    isSchemeChar c = true ↔ c.isAlphanum = true ∨ c = '+' ∨ c = '-' ∨ c = '.' := by
  simp [isSchemeChar, or_assoc]

theorem isAbsolute_iff_absolute (url : List Char) : isAbsolute url = true ↔ Absolute url := by
  have rooted : (url.head? == some '/') = true ↔ ∃ rest, url = '/' :: rest := by
    cases url <;> simp
  rw [isAbsolute, Bool.or_eq_true, rooted, Bool.and_eq_true, Absolute]
  refine or_congr_right ?_
  constructor
  · rintro ⟨scheme, colon⟩
    obtain ⟨before, after, rfl, absent⟩ :=
      List.eq_append_cons_of_mem (List.contains_iff_mem.mp colon)
    rw [Text.takeWhile_before absent, List.all_eq_true] at scheme
    exact ⟨before, after, rfl, fun c member => (isSchemeChar_iff c).mp (scheme c member)⟩
  · rintro ⟨scheme, rest, rfl, letters⟩
    have absent : ':' ∉ scheme := by
      intro member
      rcases letters ':' member with letter | same | same | same
      · cases letter
      all_goals exact absurd same (by decide)
    rw [Text.takeWhile_before absent, List.all_eq_true]
    exact ⟨fun c member => (isSchemeChar_iff c).mpr (letters c member), by simp⟩

instance (url : List Char) : Decidable (Absolute url) :=
  decidable_of_iff _ (isAbsolute_iff_absolute url)

/-- The image of a name depends on the keys that stand for it and are not shorter than one with a
target. -/
theorem Image.congr {targets others : NameMap String} {name image : List Char}
    (isImage : Image targets name image)
    (same : ∀ key, Covers key name →
      (∀ other, Covers other name → targets.contains (String.ofList other) = true →
        other.length ≤ key.length) →
      others.find? (String.ofList key) = targets.find? (String.ofList key)) :
    Image others name image := by
  cases isImage with
  | kept free =>
    refine .kept ?_
    intro key covers
    rw [same key covers, free key covers]
    intro other coversOther found
    rw [NameMap.contains, free other coversOther] at found
    cases found
  | whole found =>
    refine .whole ?_
    rw [same name (.refl name), found]
    rintro other (rfl | ⟨rest, rfl⟩) -
    · exact Nat.le_refl _
    · rw [List.length_append]
      exact Nat.le_add_right _ _
  | below cut found longest =>
    rename_i key rest target
    have upper : ∀ other, Covers other name → targets.contains (String.ofList other) = true →
        other.length ≤ key.length := by
      intro other covers present
      by_contra longer
      rw [NameMap.contains, longest other covers (by omega)] at present
      cases present
    refine .below cut ?_ ?_
    · rw [same key (.inr ⟨rest, cut⟩) upper, found]
    · intro other covers longer
      rw [same other covers, longest other covers longer]
      intro third coversThird present
      have := upper third coversThird present
      omega

/-- A new key says nothing about a name that it does not stand for, or that a longer key stands
for. -/
theorem substitute_insert {targets : NameMap String} {name : List Char} {key : String}
    (idle : ¬Covers key.toList name ∨ ∃ longer, Covers longer name ∧
      targets.contains (String.ofList longer) = true ∧ key.toList.length < longer.length)
    (target : String) : substitute (targets.insert key target) name = substitute targets name := by
  refine (image_substitute _ _).unique ((image_substitute targets name).congr ?_)
  intro other covers upper
  refine NameMap.find?_insert_of_ne targets target ?_
  rintro rfl
  rw [String.toList_ofList] at idle
  rcases idle with apart | ⟨longer, coversLonger, present, shorter⟩
  · exact apart covers
  · have := upper longer coversLonger present
    omega

theorem urlOf_of_absolute (t : PathTable) {text name ext : List Char}
    (split : splitExtension text = (name, ext)) (absolute : Absolute name) :
    t.urlOf text = text := by
  have whole := splitExtension_fst_append_snd text
  rw [split] at whole
  rw [urlOf, split]
  simp only [(isAbsolute_iff_absolute name).mpr absolute, if_true]
  exact whole

theorem urlOf_of_relative (t : PathTable) {text name ext : List Char}
    (split : splitExtension text = (name, ext)) (relative : ¬Absolute name) :
    t.urlOf text = t.based (substitute t.targets name ++ ext) := by
  have not_ : isAbsolute name = false := by
    rw [← Bool.not_eq_true, isAbsolute_iff_absolute]
    exact relative
  rw [urlOf, split]
  simp only [not_, Bool.false_eq_true, if_false]
  rfl

theorem toUrl_of_full (t : PathTable) {text : String} (full : text ≠ "") :
    t.toUrl text = .ok (String.ofList (t.urlOf text.toList)) := by
  rw [toUrl, if_neg]
  simpa using full

/-- The URL of a text. The empty text has none. Any other is cut in one way, and what stands before
the extension counts: if it is absolute, the text is its own URL; if not, its image under the
targets and the extension make up the URL, behind the base URL unless they are absolute together. A
further key makes a difference only if it stands for the name and no longer key does. -/
theorem toUrl_substitutes_longest_key (t : PathTable) (text : String) :
    (text = "" → t.toUrl text = .error (.unresolvable "")) ∧
    (text ≠ "" → ∃ name ext, splitExtension text.toList = (name, ext) ∧
      IsCut text.toList name ext ∧
      (∀ other more, IsCut text.toList other more → name = other ∧ ext = more) ∧
      (Absolute name → t.toUrl text = .ok text) ∧
      (¬Absolute name → ∃ image, Image t.targets name image ∧
        t.toUrl text = .ok (String.ofList
          (if Absolute (image ++ ext) then image ++ ext
            else t.baseUrl.toList ++ (image ++ ext)))) ∧
      ∀ key target,
        (¬Covers key.toList name ∨ ∃ longer, Covers longer name ∧
          t.targets.contains (String.ofList longer) = true ∧
          key.toList.length < longer.length) →
        (t.withTarget key target).toUrl text = t.toUrl text) := by
  refine ⟨?_, ?_⟩
  · rintro rfl
    rfl
  intro full
  obtain ⟨name, ext, split⟩ : ∃ name ext, splitExtension text.toList = (name, ext) := ⟨_, _, rfl⟩
  have cut := isCut_splitExtension text.toList
  rw [split] at cut
  refine ⟨name, ext, split, cut, fun _ _ => cut.unique, ?_, ?_, ?_⟩
  · intro absolute
    rw [toUrl_of_full t full, urlOf_of_absolute t split absolute, String.ofList_toList]
  · intro relative
    refine ⟨_, image_substitute t.targets name, ?_⟩
    rw [toUrl_of_full t full, urlOf_of_relative t split relative, based]
    simp only [isAbsolute_iff_absolute]
  · intro key target idle
    rw [toUrl_of_full _ full, toUrl_of_full _ full]
    by_cases absolute : Absolute name
    · rw [urlOf_of_absolute _ split absolute, urlOf_of_absolute _ split absolute]
    · rw [urlOf_of_relative _ split absolute, urlOf_of_relative _ split absolute]
      exact congrArg (fun front => Except.ok (String.ofList (t.based (front ++ ext))))
        (substitute_insert idle target)

end AmdBundler.PathTable
