import AmdBundler.Bundle.DefineCall
import AmdBundler.Proofs.Occurrences

namespace AmdBundler.DefineCall

open Text

/-- What stands behind this text is not part of a longer word. -/
def Alone (before : List Char) : Prop :=
  ∀ c, before.getLast? = some c → isAlphanumeric c = false ∧ c ≠ '_' ∧ c ≠ '$' ∧ c ≠ '.'

/-- A call of `define` itself. -/
structure OwnCall (text before arguments : List Char) : Prop where
  cut : text = before ++ opening ++ arguments
  alone : Alone before

structure FirstCall (text before arguments : List Char) : Prop
    extends OwnCall text before arguments where
  first : ∀ front back, OwnCall text front back → before.length ≤ front.length

/-- There is one first call. -/
theorem FirstCall.unique {text before arguments front back : List Char}
    (call : FirstCall text before arguments) (other : FirstCall text front back) :
    before = front ∧ arguments = back := by
  have lengths := Nat.le_antisymm (call.first front back other.toOwnCall)
    (other.first before arguments call.toOwnCall)
  have same := call.cut.symm.trans other.cut
  rw [List.append_assoc, List.append_assoc] at same
  obtain ⟨fronts, backs⟩ := List.append_inj same lengths
  exact ⟨fronts, List.append_cancel_left backs⟩

/-- The opening behind its first letter. -/
def openingLetters : List Char := opening.tail

theorem opening_eq : opening = 'd' :: openingLetters := rfl

theorem first_not_mem_openingLetters : 'd' ∉ openingLetters := by decide

theorem joins_iff (before : List Char) :
    before.reverse.head?.any joinsWord = true ↔ ¬Alone before := by
  have word (c : Char) : joinsWord c = true ↔
      ¬(isAlphanumeric c = false ∧ c ≠ '_' ∧ c ≠ '$' ∧ c ≠ '.') := by
    simp only [joinsWord, Bool.or_eq_true, beq_iff_eq]
    cases isAlphanumeric c <;> tauto
  rw [List.head?_reverse, Option.any_eq_true, Alone, not_forall]
  simp only [Classical.not_imp, word]

theorem find?_skip {skipped rest : List Char}
    (absent : ∀ front back, skipped ++ rest = front ++ opening ++ back →
      skipped.length ≤ front.length) (before : List Char) :
    find? before (skipped ++ rest) = find? (skipped.reverse ++ before) rest := by
  induction skipped generalizing before with
  | nil => rfl
  | cons c skipped ih =>
    have elsewhere : dropStart? opening (c :: (skipped ++ rest)) = none := by
      rw [Option.eq_none_iff_forall_ne_some]
      intro back here
      have := absent [] back (dropStart?_eq_some_iff.mp here)
      simp at this
    have later : ∀ front back, skipped ++ rest = front ++ opening ++ back →
        skipped.length ≤ front.length := by
      intro front back cut
      have := absent (c :: front) back (by simp [cut])
      simpa using this
    rw [List.cons_append, find?, elsewhere, List.reverse_cons, List.append_assoc]
    exact ih later (c :: before)

theorem dropStart?_opening (arguments : List Char) :
    dropStart? opening ('d' :: (openingLetters ++ arguments)) = some arguments :=
  dropStart?_eq_some_iff.mpr rfl

theorem find?_alone {before : List Char} (alone : Alone before) (arguments : List Char) :
    find? before.reverse (opening ++ arguments) = some (before.reverse, arguments) := by
  have stays : before.reverse.head?.any joinsWord = false := by
    rw [← Bool.not_eq_true, joins_iff]
    exact not_not_intro alone
  rw [opening_eq, List.cons_append, find?, dropStart?_opening]
  simp only [stays, Bool.false_eq_true, if_false]

/-- A call of another function is passed over with its opening. -/
theorem find?_joined {before : List Char} (joined : ¬Alone before) (arguments : List Char) :
    find? before.reverse (opening ++ arguments) =
      find? (before ++ opening).reverse arguments := by
  have goes := (joins_iff before).mpr joined
  have inside : ∀ front back, openingLetters ++ arguments = front ++ opening ++ back →
      openingLetters.length ≤ front.length := fun _ _ cut =>
    length_le_of_plain first_not_mem_openingLetters cut
  rw [opening_eq, List.cons_append, find?, dropStart?_opening]
  simp only [goes, if_true]
  rw [find?_skip inside]
  simp

/-- What the search finds behind `passed`. -/
def firstCall? (passed rest : List Char) : Option (List Char × List Char) :=
  (find? passed.reverse rest).map fun call => (call.1.reverse, call.2)

section Round

variable {passed rest skipped arguments : List Char}

theorem find?_next (next : FirstAt opening rest skipped arguments) :
    find? passed.reverse rest = find? (passed ++ skipped).reverse (opening ++ arguments) := by
  have absent : ∀ front back, skipped ++ (opening ++ arguments) = front ++ opening ++ back →
      skipped.length ≤ front.length := by
    intro front back same
    exact next.first front back (by rw [next.cut, List.append_assoc, same])
  rw [next.cut, List.append_assoc, find?_skip absent, List.reverse_append]

theorem firstCall?_nothing (absent : ∀ front back, rest ≠ front ++ opening ++ back) :
    firstCall? passed rest = none := by
  have skip : ∀ front back, rest ++ [] = front ++ opening ++ back →
      rest.length ≤ front.length := by
    intro front back cut
    rw [List.append_nil] at cut
    exact absurd cut (absent front back)
  have ends := find?_skip skip passed.reverse
  rw [List.append_nil] at ends
  rw [firstCall?, ends]
  rfl

theorem firstCall?_found (next : FirstAt opening rest skipped arguments)
    (alone : Alone (passed ++ skipped)) :
    firstCall? passed rest = some (passed ++ skipped, arguments) := by
  rw [firstCall?, find?_next next, find?_alone alone, Option.map_some, List.reverse_reverse]

theorem firstCall?_further (next : FirstAt opening rest skipped arguments)
    (joined : ¬Alone (passed ++ skipped)) :
    firstCall? passed rest = firstCall? (passed ++ skipped ++ opening) arguments := by
  rw [firstCall?, find?_next next, find?_joined joined, firstCall?]

end Round

/-- The search, from one opening to the next. It ends with a call or without one, or it goes on
behind the opening of another function's call. -/
inductive Search : (passed rest : List Char) → Option (List Char × List Char) → Prop
  | nothing {passed rest : List Char} (absent : ∀ front back, rest ≠ front ++ opening ++ back) :
    Search passed rest none
  | found {passed rest skipped arguments : List Char}
    (next : FirstAt opening rest skipped arguments) (alone : Alone (passed ++ skipped)) :
    Search passed rest (some (passed ++ skipped, arguments))
  | further {passed rest skipped arguments : List Char} {call : Option (List Char × List Char)}
    (next : FirstAt opening rest skipped arguments) (joined : ¬Alone (passed ++ skipped))
    (later : Search (passed ++ skipped ++ opening) arguments call) : Search passed rest call

/-- Every search ends, since each round leaves a shorter rest. -/
theorem search_firstCall? (passed rest : List Char) :
    Search passed rest (firstCall? passed rest) := by
  by_cases somewhere : ∃ front back, rest = front ++ opening ++ back
  · obtain ⟨front, back, cut⟩ := somewhere
    obtain ⟨skipped, arguments, next⟩ := exists_firstAt cut
    by_cases alone : Alone (passed ++ skipped)
    · rw [firstCall?_found next alone]
      exact .found next alone
    · have shorter : arguments.length < rest.length := by
        rw [next.cut, opening_eq]
        simp only [List.length_append, List.length_cons]
        omega
      rw [firstCall?_further next alone]
      exact .further next alone (search_firstCall? _ arguments)
  · have absent : ∀ front back, rest ≠ front ++ opening ++ back := by
      intro front back cut
      exact somewhere ⟨front, back, cut⟩
    rw [firstCall?_nothing absent]
    exact .nothing absent
termination_by rest.length

/-- A search has one outcome. -/
theorem Search.eq_firstCall? {passed rest : List Char} {call : Option (List Char × List Char)}
    (search : Search passed rest call) : call = firstCall? passed rest := by
  induction search with
  | nothing absent => rw [firstCall?_nothing absent]
  | found next alone => rw [firstCall?_found next alone]
  | further next joined _ ih => rw [firstCall?_further next joined, ih]

/-- Behind a call of another function, the next call comes after its opening. -/
theorem behind_of_joined {passed rest skipped arguments front back : List Char}
    (next : FirstAt opening rest skipped arguments) (joined : ¬Alone (passed ++ skipped))
    (own : OwnCall (passed ++ rest) front back) (start : passed.length ≤ front.length) :
    (passed ++ skipped ++ opening).length ≤ front.length := by
  obtain ⟨more, rfl, cut⟩ := exists_behind own.cut start
  have whole := next.cut.symm.trans cut
  rw [List.append_assoc] at whole
  obtain ⟨gap, rfl, after⟩ := exists_behind whole (next.first more back cut)
  cases gap with
  | nil =>
    rw [List.append_nil] at own
    exact absurd own.alone joined
  | cons c gap =>
    -- The opening does not start among its own other letters.
    have letters : openingLetters ++ arguments = gap ++ opening ++ back := (List.cons.inj after).2
    have room := length_le_of_plain first_not_mem_openingLetters letters
    rw [opening_eq]
    simp only [List.length_append, List.length_cons]
    omega

/-- A search that has missed no call so far finds the first one. -/
theorem Search.first {passed rest : List Char} {call : Option (List Char × List Char)}
    (search : Search passed rest call)
    (start : ∀ front back, OwnCall (passed ++ rest) front back →
      passed.length ≤ front.length) :
    (call = none ∧ ∀ before arguments, ¬OwnCall (passed ++ rest) before arguments) ∨
    ∃ before arguments, call = some (before, arguments) ∧
      FirstCall (passed ++ rest) before arguments := by
  induction search with
  | @nothing passed rest absent =>
    refine .inl ⟨rfl, ?_⟩
    intro front back own
    obtain ⟨more, -, cut⟩ := exists_behind own.cut (start front back own)
    exact absent more back cut
  | @found passed rest skipped arguments next alone =>
    refine .inr ⟨_, _, rfl, ⟨by rw [next.cut]; simp, alone⟩, ?_⟩
    intro front back own
    obtain ⟨more, rfl, cut⟩ := exists_behind own.cut (start front back own)
    have := next.first more back cut
    rw [List.length_append, List.length_append]
    omega
  | @further passed rest skipped arguments call next joined later ih =>
    have text : passed ++ rest = passed ++ skipped ++ opening ++ arguments := by
      rw [next.cut]
      simp
    rw [text]
    refine ih ?_
    intro front back own
    rw [← text] at own
    exact behind_of_joined next joined own (start front back own)

theorem firstCall?_cases (text : List Char) :
    (firstCall? [] text = none ∧ ∀ before arguments, ¬OwnCall text before arguments) ∨
    ∃ before arguments, firstCall? [] text = some (before, arguments) ∧
      FirstCall text before arguments :=
  (search_firstCall? [] text).first fun _ _ _ => Nat.zero_le _

/-- The first character behind the blanks is a quote. -/
def StartsWithString (arguments : List Char) : Prop :=
  ∃ blanks quote rest, arguments = blanks ++ quote :: rest ∧ (∀ c ∈ blanks, isBlank c = true) ∧
    (quote = '\'' ∨ quote = '"')

theorem isNamed_iff (arguments : List Char) :
    isNamed arguments = true ↔ StartsWithString arguments := by
  constructor
  · intro named
    rw [isNamed] at named
    split at named
    · rename_i quote first
      obtain ⟨rest, trimmed⟩ := List.head?_eq_some_iff.mp first
      refine ⟨arguments.takeWhile isBlank, quote, rest, ?_, ?_, by simpa using named⟩
      · rw [← trimmed, trimStart, List.takeWhile_append_dropWhile]
      · intro c member
        exact List.mem_takeWhile_imp member
    · cases named
  · rintro ⟨blanks, quote, rest, rfl, blank, isQuote⟩
    have trimmed : trimStart (blanks ++ quote :: rest) = quote :: rest := by
      rw [trimStart, List.dropWhile_append_of_pos blank]
      rcases isQuote with rfl | rfl <;> rfl
    rw [isNamed, trimmed]
    rcases isQuote with rfl | rfl <;> rfl

theorem insertName_eq (id text : List Char) :
    insertName id text = match firstCall? [] text with
      | none => text
      | some (before, arguments) =>
        if isNamed arguments then text
        else before ++ opening ++ nameArgument id ++ arguments := by
  rw [insertName, firstCall?, List.reverse_nil]
  cases find? [] text with
  | none => rfl
  | some call => rfl

theorem insertName_of_first {text before arguments : List Char}
    (call : FirstCall text before arguments) (id : List Char) :
    insertName id text = if isNamed arguments then text
      else before ++ opening ++ nameArgument id ++ arguments := by
  rw [insertName_eq]
  rcases firstCall?_cases text with ⟨-, none_⟩ | ⟨front, back, found, first⟩
  · exact absurd call.toOwnCall (none_ before arguments)
  · obtain ⟨rfl, rfl⟩ := call.unique first
    rw [found]

theorem insertName_of_no_call {text : List Char}
    (none_ : ∀ before arguments, ¬OwnCall text before arguments) (id : List Char) :
    insertName id text = text := by
  rw [insertName_eq]
  rcases firstCall?_cases text with ⟨nothing, -⟩ | ⟨front, back, -, first⟩
  · rw [nothing]
  · exact absurd first.toOwnCall (none_ front back)

/-- What becomes of a text: without a call of `define` it stays, and so it does if the first one
starts with a string; otherwise the id, in quotes, is the new first argument of that call. -/
inductive Naming (id text : List Char) : List Char → Prop
  | absent (none_ : ∀ before arguments, ¬OwnCall text before arguments) : Naming id text text
  | named {before arguments : List Char} (call : FirstCall text before arguments)
    (string : StartsWithString arguments) : Naming id text text
  | inserted {before arguments : List Char} (call : FirstCall text before arguments)
    (anonymous : ¬StartsWithString arguments) :
    Naming id text (before ++ opening ++ ('\'' :: escape id ++ ['\'', ',', ' ']) ++ arguments)

theorem naming_insertName (id text : List Char) : Naming id text (insertName id text) := by
  rcases firstCall?_cases text with ⟨-, none_⟩ | ⟨before, arguments, -, call⟩
  · rw [insertName_of_no_call none_]
    exact .absent none_
  · rw [insertName_of_first call]
    split
    · rename_i string
      exact .named call ((isNamed_iff arguments).mp string)
    · rename_i anonymous
      exact .inserted call fun string => anonymous ((isNamed_iff arguments).mpr string)

/-- A text has one outcome. -/
theorem Naming.eq_insertName {id text other : List Char} (naming : Naming id text other) :
    other = insertName id text := by
  cases naming with
  | absent none_ => rw [insertName_of_no_call none_]
  | named call string => rw [insertName_of_first call, if_pos ((isNamed_iff _).mpr string)]
  | inserted call anonymous =>
    rw [insertName_of_first call, if_neg fun string => anonymous ((isNamed_iff _).mp string)]
    rfl

/-- The text with `new` for every `old`. -/
def replaceAll (old : Char) (new text : List Char) : List Char :=
  text.flatMap fun c => if c = old then new else [c]

/-- The backslashes come first, so those that are put before quotes are not doubled. -/
theorem escape_eq_replaceAll (id : List Char) :
    escape id = replaceAll '\'' ['\\', '\''] (replaceAll '\\' ['\\', '\\'] id) := by
  rw [replaceAll, replaceAll, List.flatMap_assoc, escape]
  congr 1
  funext c
  by_cases backslash : c = '\\'
  · subst backslash
    rfl
  · by_cases quote : c = '\''
    · subst quote
      rfl
    · simp [backslash, quote]

/-- What naming inserts, and where: nothing, or all of it right behind the opening of the first
call. -/
theorem Naming.insertion {id text result : List Char} (naming : Naming id text result) :
    ∃ front inserted back, text = front ++ back ∧ result = front ++ inserted ++ back ∧
      (inserted ≠ [] → ∃ before, FirstCall text before back ∧ front = before ++ opening) := by
  cases naming with
  | absent => exact ⟨text, [], [], by simp, by simp, fun some_ => absurd rfl some_⟩
  | named => exact ⟨text, [], [], by simp, by simp, fun some_ => absurd rfl some_⟩
  | inserted call anonymous =>
    exact ⟨_, _, _, call.cut, rfl, fun _ => ⟨_, call, rfl⟩⟩

/-- The id goes into the first call of `define` itself and nowhere else: the search for it ends,
the outcome is the one that the first call asks for, and the text is what is left of the outcome
when the insertion is taken out. -/
theorem names_first_own_call (id text : String) :
    let result := (nameAnonymousDefine id text).toList
    (∀ call, Search [] text.toList call ↔ call = firstCall? [] text.toList) ∧
    (∀ other, Naming id.toList text.toList other ↔ other = result) ∧
    escape id.toList =
      replaceAll '\'' ['\\', '\''] (replaceAll '\\' ['\\', '\\'] id.toList) ∧
    ∃ front inserted back, text.toList = front ++ back ∧ result = front ++ inserted ++ back ∧
      (inserted ≠ [] → ∃ before, FirstCall text.toList before back ∧ front = before ++ opening) := by
  intro result
  have result_eq : result = insertName id.toList text.toList := String.toList_ofList
  have naming : Naming id.toList text.toList result := by
    rw [result_eq]
    exact naming_insertName id.toList text.toList
  refine ⟨fun call => ⟨Search.eq_firstCall?, ?_⟩, fun other => ⟨?_, ?_⟩,
    escape_eq_replaceAll id.toList, naming.insertion⟩
  · rintro rfl
    exact search_firstCall? [] text.toList
  · intro outcome
    exact outcome.eq_insertName.trans result_eq.symm
  · rintro rfl
    exact naming

end AmdBundler.DefineCall
