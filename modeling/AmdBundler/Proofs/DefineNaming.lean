import AmdBundler.Proofs.DefineSearch

namespace AmdBundler.DefineCall

/-- The first call stays the first with other arguments. -/
theorem FirstCall.replace {text before arguments : List Char}
    (call : FirstCall text before arguments) (more : List Char) :
    FirstCall (before ++ opening ++ more) before more := by
  refine ⟨⟨rfl, call.alone⟩, ?_⟩
  intro front back own
  by_contra earlier
  -- An earlier opening ends before the arguments, so it is in the text as well.
  have within : front ++ opening <+: before ++ opening := by
    refine List.prefix_of_prefix_length_le ⟨back, own.cut.symm⟩ (List.prefix_append _ _) ?_
    rw [List.length_append, List.length_append]
    omega
  obtain ⟨gap, same⟩ := within
  have again : OwnCall text front (gap ++ arguments) :=
    ⟨by rw [call.cut, ← same, List.append_assoc], own.alone⟩
  exact earlier (call.first front (gap ++ arguments) again)

theorem startsWithString_nameArgument (id rest : List Char) :
    StartsWithString (nameArgument id ++ rest) :=
  ⟨[], '\'', _, rfl, fun _ absent => absurd absent List.not_mem_nil, .inl rfl⟩

/-- Naming makes no difference, or it writes the id into the first call. -/
theorem insertName_cases (id text : List Char) :
    (∀ other, insertName other text = text) ∨
    ∃ before arguments, FirstCall text before arguments ∧
      insertName id text = before ++ opening ++ (nameArgument id ++ arguments) := by
  rcases firstCall?_cases text with ⟨-, none_⟩ | ⟨before, arguments, -, call⟩
  · exact .inl (insertName_of_no_call none_)
  · by_cases string : isNamed arguments = true
    · left
      intro other
      rw [insertName_of_first call, if_pos string]
    · right
      refine ⟨before, arguments, call, ?_⟩
      rw [insertName_of_first call, if_neg string, List.append_assoc]

/-- A text that has been named is not named again. -/
theorem insertName_insertName (a b text : List Char) :
    insertName b (insertName a text) = insertName a text := by
  rcases insertName_cases a text with same | ⟨before, arguments, call, named⟩
  · rw [same a, same b]
  · have string := (isNamed_iff _).mpr (startsWithString_nameArgument a arguments)
    rw [named, insertName_of_first (call.replace _), if_pos string]

/-- Reads a string in single quotes behind its opening quote: its characters, and what follows the
quote that closes it. A backslash takes the next character as it is. -/
def readLiteral? : List Char → Option (List Char × List Char)
  | [] => none
  | '\'' :: rest => some ([], rest)
  | '\\' :: [] => none
  | '\\' :: c :: rest => (readLiteral? rest).map fun read => (c :: read.1, read.2)
  | c :: rest => (readLiteral? rest).map fun read => (c :: read.1, read.2)

theorem escape_cons (c : Char) (id : List Char) :
    escape (c :: id) = (if c = '\\' ∨ c = '\'' then ['\\', c] else [c]) ++ escape id :=
  List.flatMap_cons

/-- An escaped id is read to its end, and no further. -/
theorem readLiteral?_escape (id rest : List Char) :
    readLiteral? (escape id ++ '\'' :: rest) = some (id, rest) := by
  induction id with
  | nil => rfl
  | cons c id ih =>
    rw [escape_cons, List.append_assoc]
    by_cases special : c = '\\' ∨ c = '\''
    · rw [if_pos special]
      simp [readLiteral?, ih]
    · rw [not_or] at special
      simp [special, readLiteral?, ih]

theorem newline_mem_escape {id : List Char} (member : '\n' ∈ escape id) : '\n' ∈ id := by
  obtain ⟨c, inside, written⟩ := List.mem_flatMap.mp member
  split at written
  · rename_i special
    rcases special with rfl | rfl <;> simp at written
  · rw [List.mem_singleton] at written
    exact written ▸ inside

/-- A second naming changes nothing, and what a first one has written can be read again: behind the
opening of the call stands a quote, and reading from there gives the id and stops at the quote that
was put behind it. The literal has no line break that the id has not. -/
theorem named_once_and_readable (a b text : String) :
    nameAnonymousDefine b (nameAnonymousDefine a text) = nameAnonymousDefine a text ∧
    (nameAnonymousDefine a text ≠ text → ∃ before literal arguments,
      FirstCall text.toList before arguments ∧
      (nameAnonymousDefine a text).toList =
        before ++ opening ++ '\'' :: (literal ++ '\'' :: ',' :: ' ' :: arguments) ∧
      readLiteral? (literal ++ '\'' :: ',' :: ' ' :: arguments) =
        some (a.toList, ',' :: ' ' :: arguments) ∧
      ('\n' ∈ literal → '\n' ∈ a.toList)) := by
  constructor
  · rw [nameAnonymousDefine, nameAnonymousDefine, String.toList_ofList, insertName_insertName]
  · intro changed
    rcases insertName_cases a.toList text.toList with same | ⟨before, arguments, call, named⟩
    · rw [nameAnonymousDefine, same a.toList, String.ofList_toList] at changed
      exact absurd rfl changed
    · refine ⟨before, escape a.toList, arguments, call, ?_, readLiteral?_escape _ _,
        newline_mem_escape⟩
      rw [nameAnonymousDefine, String.toList_ofList, named, nameArgument]
      simp

end AmdBundler.DefineCall
