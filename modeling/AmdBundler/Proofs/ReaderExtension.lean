import AmdBundler.Json.Record
import AmdBundler.Json.Text.Lemmas
import Mathlib

namespace AmdBundler.Json

/-- A run of bytes of a kind that ends before the end of a text is the same in a longer text. -/
theorem takeWhile_append_of_stop {kind : UInt8 → Bool} {bytes : List UInt8} (more : List UInt8)
    (stops : bytes.dropWhile kind ≠ []) :
    (bytes ++ more).takeWhile kind = bytes.takeWhile kind ∧
      (bytes ++ more).dropWhile kind = bytes.dropWhile kind ++ more := by
  induction bytes with
  | nil => exact absurd rfl stops
  | cons b bytes ih =>
    cases inside : kind b with
    | true =>
      rw [List.dropWhile_cons_of_pos inside] at stops
      obtain ⟨taken, left⟩ := ih stops
      simp [inside, taken, left]
    | false => simp [inside]

namespace Cursor

def extend (c : Cursor) (more : List UInt8) : Cursor := ⟨c.offset, c.rest ++ more⟩

variable {c : Cursor} {found : Char} (more : List UInt8)

theorem rest_ne_nil (here : c.peek? = some found) : c.rest ≠ [] := by
  intro none
  rw [peek?, none] at here
  cases here

theorem peek?_extend (here : c.peek? = some found) : (c.extend more).peek? = some found := by
  obtain ⟨b, rest, cut⟩ := List.exists_cons_of_ne_nil (rest_ne_nil here)
  rw [peek?, cut] at here
  rw [peek?, extend, cut]
  exact here

theorem advance_extend (here : c.rest ≠ []) :
    (c.extend more).advance 1 = (c.advance 1).extend more := by
  obtain ⟨b, rest, cut⟩ := List.exists_cons_of_ne_nil here
  simp [advance, extend, cut]

theorem skipWhile_extend {kind : UInt8 → Bool} (stops : (c.skipWhile kind).rest ≠ []) :
    (c.extend more).skipWhile kind = (c.skipWhile kind).extend more := by
  obtain ⟨taken, left⟩ := takeWhile_append_of_stop more stops
  simp only [skipWhile, extend, taken, left]

theorem advance_takeWhile (c : Cursor) (kind : UInt8 → Bool) :
    c.advance (c.rest.takeWhile kind).length = c.skipWhile kind := by
  have dropped : c.rest.drop (c.rest.takeWhile kind).length = c.rest.dropWhile kind := by
    induction c.rest with
    | nil => rfl
    | cons b rest ih => cases inside : kind b <;> simp [inside, ih]
  rw [advance, skipWhile, dropped]

theorem advance_takeWhile_extend {kind : UInt8 → Bool} (stops : (c.skipWhile kind).rest ≠ []) :
    (c.extend more).rest.takeWhile kind = c.rest.takeWhile kind ∧
      (c.extend more).advance (c.rest.takeWhile kind).length =
        (c.advance (c.rest.takeWhile kind).length).extend more := by
  have run : (c.extend more).rest.takeWhile kind = c.rest.takeWhile kind :=
    (takeWhile_append_of_stop more stops).1
  have behind := advance_takeWhile (c.extend more) kind
  rw [run] at behind
  exact ⟨run, by rw [behind, advance_takeWhile, skipWhile_extend more stops]⟩

theorem exists_peek? (there : c.rest ≠ []) : ∃ found, c.peek? = some found := by
  obtain ⟨b, rest, cut⟩ := List.exists_cons_of_ne_nil there
  exact ⟨Char.ofUInt8 b, by rw [peek?, cut]; rfl⟩

theorem skipSpace_extend (here : c.skipSpace.peek? = some found) :
    (c.extend more).skipSpace = c.skipSpace.extend more :=
  skipWhile_extend more (rest_ne_nil here)

theorem skipSpace_of_nil (none : c.rest = []) : c.skipSpace.rest = [] := by
  rw [skipSpace, skipWhile, none, List.dropWhile_nil]

theorem peek?_skipSpace_of_nil (none : c.rest = []) : c.skipSpace.peek? = .none := by
  rw [peek?, skipSpace_of_nil none]
  rfl

theorem length_le_extend : c.rest.length ≤ (c.extend more).rest.length := by
  rw [extend, List.length_append]
  exact Nat.le_add_right _ _

end Cursor

open Cursor

section Marks

variable {c after : Cursor} (more : List UInt8)

theorem expectLetters_extend {letters : List Char}
    (read : expectLetters letters c = .ok ((), after)) :
    expectLetters letters (c.extend more) = .ok ((), after.extend more) := by
  induction letters generalizing c with
  | nil =>
    cases read
    rfl
  | cons letter letters ih =>
    rw [expectLetters] at read ⊢
    cases here : c.peek? with
    | none =>
      rw [here] at read
      cases read
    | some found =>
      rw [here] at read
      rw [peek?_extend more here, advance_extend more (rest_ne_nil here)]
      simp only at read ⊢
      split at read
      · rename_i same
        rw [if_pos same]
        exact ih read
      · cases read

theorem expectColon_extend (read : expectColon c = .ok after) :
    expectColon (c.extend more) = .ok (after.extend more) := by
  unfold expectColon at read ⊢
  dsimp only at read ⊢
  split at read
  · rename_i here
    cases read
    rw [skipSpace_extend more here, peek?_extend more here, advance_extend more (rest_ne_nil here)]
    rfl
  · cases read
  · cases read

theorem nextItem_extend {first follows : Bool} (read : nextItem first c = .ok (follows, after)) :
    nextItem first (c.extend more) = .ok (follows, after.extend more) := by
  unfold nextItem at read ⊢
  dsimp only at read ⊢
  split at read
  · cases read
  · rename_i here
    cases read
    rw [skipSpace_extend more here, peek?_extend more here]
    rfl
  · rename_i found apart here
    rw [skipSpace_extend more here, peek?_extend more here]
    cases first with
    | true =>
      cases read
      simp only [if_true]
    | false =>
      simp only [Bool.false_eq_true, if_false] at read ⊢
      split at read
      · rename_i comma
        subst comma
        rw [if_pos rfl, advance_extend more (rest_ne_nil here)]
        split at read
        · cases read
        · cases read
        · rename_i next open_ there
          cases read
          rw [skipSpace_extend more there, peek?_extend more there]
          simp only
      · cases read

theorem nextMember_extend {first follows : Bool}
    (read : nextMember first c = .ok (follows, after)) :
    nextMember first (c.extend more) = .ok (follows, after.extend more) := by
  unfold nextMember at read ⊢
  dsimp only at read ⊢
  split at read
  · cases read
  · rename_i here
    cases read
    rw [skipSpace_extend more here, peek?_extend more here]
    rfl
  · rename_i found apart here
    rw [skipSpace_extend more here, peek?_extend more here,
      advance_extend more (rest_ne_nil here)]
    cases first with
    | true =>
      simp only [if_true] at read ⊢
      split at read
      · rename_i quote
        cases read
        rw [if_pos quote]
      · cases read
    | false =>
      simp only [Bool.false_eq_true, if_false] at read ⊢
      split at read
      · rename_i comma
        subst comma
        rw [if_pos rfl]
        split at read
        · cases read
        · rename_i there
          cases read
          rw [skipSpace_extend more there, peek?_extend more there,
            advance_extend more (rest_ne_nil there)]
          rfl
        · cases read
        · cases read
      · cases read

theorem gatherText_extend {content gathered rest : List UInt8} {skip offset : Nat}
    (read : gatherText gathered skip offset rest = .ok (content, after)) :
    gatherText gathered skip offset (rest ++ more) = .ok (content, after.extend more) := by
  induction rest generalizing gathered skip offset with
  | nil => cases read
  | cons b rest ih =>
    cases skip with
    | succ skip =>
      rw [gatherText] at read
      rw [List.cons_append, gatherText]
      exact ih read
    | zero =>
      rw [gatherText] at read
      rw [List.cons_append, gatherText]
      split at read
      · rename_i quote
        cases read
        rw [if_pos quote]
        rfl
      · rename_i quote
        rw [if_neg quote]
        split at read
        · rename_i backslash
          rw [if_pos backslash]
          split at read
          · cases read
          · rename_i escaped
            rw [readEscape_append escaped more]
            exact ih read
        · rename_i backslash
          rw [if_neg backslash]
          split at read
          · cases read
          · rename_i control
            rw [if_neg control]
            exact ih read

theorem readText_extend {text : String} (read : readText c = .ok (text, after)) :
    readText (c.extend more) = .ok (text, after.extend more) := by
  unfold readText at read ⊢
  split at read
  · cases read
  · rename_i content behind gathered
    have again : gatherText [] 0 (c.extend more).offset (c.extend more).rest =
        .ok (content, behind.extend more) := gatherText_extend more gathered
    rw [again]
    dsimp only
    split at read
    · cases read
      rfl
    · cases read

theorem skipEscape_append {text : List UInt8} {used : Nat} (read : skipEscape text = .ok used) :
    skipEscape (text ++ more) = .ok used := by
  cases text with
  | nil => cases read
  | cons b text =>
    rw [skipEscape] at read
    rw [List.cons_append, skipEscape]
    split at read
    · rename_i letter
      rw [if_pos letter]
      exact read
    · rename_i letter
      rw [if_neg letter]
      split at read
      · cases read
      · rename_i unicode
        rw [if_neg unicode]
        cases unit : readUnit 1 text with
        | error e =>
          rw [unit] at read
          cases read
        | ok n =>
          rw [unit] at read
          rw [(readUnit_append unit more).1]
          exact read

theorem skipTextFrom_extend {rest : List UInt8} {skip offset : Nat}
    (read : skipTextFrom skip offset rest = .ok after) :
    skipTextFrom skip offset (rest ++ more) = .ok (after.extend more) := by
  induction rest generalizing skip offset with
  | nil => cases read
  | cons b rest ih =>
    cases skip with
    | succ skip =>
      rw [skipTextFrom] at read
      rw [List.cons_append, skipTextFrom]
      exact ih read
    | zero =>
      rw [skipTextFrom] at read
      rw [List.cons_append, skipTextFrom]
      split at read
      · rename_i quote
        cases read
        rw [if_pos quote]
        rfl
      · rename_i quote
        rw [if_neg quote]
        split at read
        · rename_i backslash
          rw [if_pos backslash]
          split at read
          · cases read
          · rename_i escaped
            rw [skipEscape_append more escaped]
            exact ih read
        · rename_i backslash
          rw [if_neg backslash]
          split at read
          · cases read
          · rename_i control
            rw [if_neg control]
            exact ih read

theorem skipText_extend (read : skipText c = .ok after) :
    skipText (c.extend more) = .ok (after.extend more) :=
  skipTextFrom_extend more read

end Marks

section Numbers

variable {c after : Cursor} (more : List UInt8)

theorem readDouble_ne_natural (positive : Bool) (significand : Nat) (exponent : Int) (c : Cursor)
    (n : Nat) (after : Cursor) :
    readDouble positive significand exponent c ≠ .ok (.natural n, after) := by
  intro read
  unfold readDouble at read
  split at read <;> cases read

theorem readExponent_ne_natural (positive : Bool) (significand : Nat) (start : Int) (c : Cursor)
    (n : Nat) (after : Cursor) :
    readExponent positive significand start c ≠ .ok (.natural n, after) := by
  intro read
  unfold readExponent at read
  dsimp only at read
  repeat' split at read
  all_goals first
    | cases read
    | exact readDouble_ne_natural _ _ _ _ _ _ read

theorem readFraction_ne_natural (positive : Bool) (significand exponent : Nat) (c : Cursor)
    (n : Nat) (after : Cursor) :
    readFraction positive significand exponent c ≠ .ok (.natural n, after) := by
  intro read
  unfold readFraction at read
  dsimp only at read
  repeat' split at read
  all_goals first
    | cases read
    | exact readExponent_ne_natural _ _ _ _ _ _ read
    | exact readDouble_ne_natural _ _ _ _ _ _ read

/-- A natural number ends with its digits. -/
theorem readNumberTail_extend {positive : Bool} {significand left n : Nat}
    (read : readNumberTail positive significand left c = .ok (.natural n, after)) :
    after = c ∧ (c.rest ≠ [] → readNumberTail positive significand left (c.extend more) =
      .ok (.natural n, c.extend more)) := by
  unfold readNumberTail at read ⊢
  split at read
  · exact absurd read (readFraction_ne_natural _ _ _ _ _ _)
  · exact absurd read (readExponent_ne_natural _ _ _ _ _ _)
  · exact absurd read (readExponent_ne_natural _ _ _ _ _ _)
  · rename_i point small large
    split at read
    · exact absurd read (readDouble_ne_natural _ _ _ _ _ _)
    · rename_i none
      split at read
      · cases read
        refine ⟨rfl, fun there => ?_⟩
        obtain ⟨found, here⟩ := exists_peek? there
        rw [here] at point small large
        rw [peek?_extend more here]
        simp_all
      · split at read <;> cases read

theorem readNumber_extend {positive : Bool} {n : Nat}
    (read : readNumber positive c = .ok (.natural n, after)) (open_ : after.rest ≠ []) :
    readNumber positive (c.extend more) = .ok (.natural n, after.extend more) := by
  obtain ⟨offset, bytes⟩ := c
  cases bytes with
  | nil => cases read
  | cons b rest =>
    unfold readNumber at read ⊢
    dsimp only [extend, List.cons_append] at read ⊢
    split at read
    · rename_i zero
      rw [if_pos zero]
      cases rest with
      | nil =>
        obtain ⟨rfl, -⟩ := readNumberTail_extend more read
        exact absurd rfl open_
      | cons d rest =>
        dsimp only [List.head?_cons, List.cons_append] at read ⊢
        split at read
        · cases read
        · rename_i stop
          obtain ⟨rfl, again⟩ := readNumberTail_extend more read
          rw [if_neg stop]
          exact again open_
    · rename_i zero
      rw [if_neg zero]
      split at read
      · rename_i digit
        rw [if_pos digit]
        obtain ⟨rfl, again⟩ := readNumberTail_extend more read
        have stops : (b :: rest).dropWhile isDigit ≠ [] := by
          have reached := advance_takeWhile ⟨offset, b :: rest⟩ isDigit
          dsimp only at reached
          rw [reached] at open_
          exact open_
        obtain ⟨run, place⟩ :=
          Cursor.advance_takeWhile_extend (c := ⟨offset, b :: rest⟩) more stops
        dsimp only [extend, List.cons_append] at run place
        rw [run, place]
        exact again open_
      · cases read

/-- Passes over the digits of an exponent, of which there has to be one. -/
def passDigits (c : Cursor) : Except Fault Cursor :=
  match c.rest with
  | [] => c.failed .invalidNumber
  | b :: _ =>
    if isDigit b then .ok (c.skipWhile isDigit) else (c.advance 1).failed .invalidNumber

theorem passDigits_extend (read : passDigits c = .ok after) (open_ : after.rest ≠ []) :
    passDigits (c.extend more) = .ok (after.extend more) := by
  unfold passDigits at read ⊢
  split at read
  · cases read
  · rename_i b rest cut
    have longer : (c.extend more).rest = b :: (rest ++ more) := by rw [extend, cut]; rfl
    rw [longer]
    dsimp only
    split at read
    · rename_i digit
      cases read
      rw [if_pos digit, skipWhile_extend more open_]
    · cases read

theorem skipExponent_extend (read : skipExponent c = .ok after) (open_ : after.rest ≠ [])
    (here : c.rest ≠ []) : skipExponent (c.extend more) = .ok (after.extend more) := by
  unfold skipExponent at read ⊢
  dsimp only at read ⊢
  rw [advance_extend more here]
  generalize c.advance 1 = d at read ⊢
  have there : d.rest ≠ [] := by
    intro none
    simp [peek?, none] at read
    cases read
  obtain ⟨found, sign⟩ := exists_peek? there
  rw [sign] at read
  rw [peek?_extend more sign, advance_extend more there]
  by_cases plus : found = '+'
  · subst plus
    exact passDigits_extend more read open_
  · by_cases minus : found = '-'
    · subst minus
      exact passDigits_extend more read open_
    · simp only [Option.some.injEq, plus, minus, imp_self] at read ⊢
      exact passDigits_extend more read open_

theorem skipNumberTail_extend (read : skipNumberTail c = .ok after) (open_ : after.rest ≠ []) :
    skipNumberTail (c.extend more) = .ok (after.extend more) := by
  unfold skipNumberTail at read ⊢
  split at read
  · rename_i point
    rw [peek?_extend more point]
    dsimp only at read ⊢
    rw [advance_extend more (rest_ne_nil point)]
    generalize c.advance 1 = digits at read ⊢
    split at read
    · cases read
    · rename_i moved
      have stops : (digits.skipWhile isDigit).rest ≠ [] := by
        intro none
        simp only [peek?, none] at read
        cases read
        exact open_ none
      obtain ⟨found, there⟩ := exists_peek? stops
      rw [there] at read
      rw [skipWhile_extend more stops, peek?_extend more there]
      refine (if_neg moved).trans ?_
      split at read
      · exact skipExponent_extend more read open_ stops
      · exact skipExponent_extend more read open_ stops
      · cases read
        rfl
  · rename_i small
    rw [peek?_extend more small]
    exact skipExponent_extend more read open_ (rest_ne_nil small)
  · rename_i large
    rw [peek?_extend more large]
    exact skipExponent_extend more read open_ (rest_ne_nil large)
  · rename_i point small large
    cases read
    obtain ⟨found, here⟩ := exists_peek? open_
    rw [here] at point small large
    rw [peek?_extend more here]
    simp_all

theorem skipNumberTail_rest (read : skipNumberTail c = .ok after) (open_ : after.rest ≠ []) :
    c.rest ≠ [] := by
  intro none
  simp only [skipNumberTail, peek?, none] at read
  cases read
  exact open_ none

theorem skipNumber_extend (read : skipNumber c = .ok after) (open_ : after.rest ≠ []) :
    skipNumber (c.extend more) = .ok (after.extend more) := by
  obtain ⟨offset, bytes⟩ := c
  cases bytes with
  | nil => cases read
  | cons b rest =>
    unfold skipNumber at read ⊢
    dsimp only [extend, List.cons_append] at read ⊢
    split at read
    · rename_i zero
      rw [if_pos zero]
      split at read
      · cases read
      · rename_i stop
        have behind : rest ≠ [] := skipNumberTail_rest read open_
        obtain ⟨d, rest, rfl⟩ := List.exists_cons_of_ne_nil behind
        exact (if_neg stop).trans (skipNumberTail_extend more read open_)
    · rename_i zero
      rw [if_neg zero]
      split at read
      · rename_i digit
        have stops := skipNumberTail_rest read open_
        have place := skipWhile_extend (c := ⟨offset, b :: rest⟩) more stops
        rw [if_pos digit]
        exact (congrArg skipNumberTail place).trans (skipNumberTail_extend more read open_)
      · cases read

end Numbers

/-- What a reader takes does not change with more text, when the reader has not come to the end. -/
def Settled {α : Type} (read : Reader α) : Prop :=
  ∀ ⦃c after : Cursor⦄ ⦃v : α⦄, read c = .ok (v, after) → after.rest ≠ [] → ∀ more,
    read (c.extend more) = .ok (v, after.extend more)

/-- A reader that knows its end, so that more text does not matter to it. -/
def Closed {α : Type} (read : Reader α) : Prop :=
  ∀ ⦃c after : Cursor⦄ ⦃v : α⦄, read c = .ok (v, after) → ∀ more,
    read (c.extend more) = .ok (v, after.extend more)

theorem exists_of_map_ok {ε α β : Type} {f : α → β} {result : Except ε α} {v : β}
    (got : result.map f = .ok v) : ∃ u, result = .ok u ∧ f u = v := by
  cases result with
  | error e => cases got
  | ok u => exact ⟨u, rfl, Except.ok.inj got⟩

theorem settled_letters {α : Type} (letters : List Char) (v : α) :
    Settled fun c => (expectLetters letters c).map fun (_, c) => (v, c) := by
  intro c after w read _ more
  obtain ⟨⟨_, behind⟩, letters, same⟩ := exists_of_map_ok read
  cases same
  dsimp only
  rw [expectLetters_extend more letters]
  rfl

section Values

variable {c after : Cursor} (more : List UInt8)

theorem settled_skipOpening : Settled skipOpening := by
  have number {c after : Cursor} {opened : Option Frame} {more : List UInt8}
      (read : (skipNumber c).map (none, ·) = .ok (opened, after)) (open_ : after.rest ≠ []) :
      (skipNumber (c.extend more)).map (none, ·) = .ok (opened, after.extend more) := by
    obtain ⟨behind, passed, same⟩ := exists_of_map_ok read
    cases same
    rw [skipNumber_extend more passed open_]
    rfl
  intro c after opened read open_ more
  unfold skipOpening at read ⊢
  cases here : c.peek? with
  | none =>
    rw [here] at read
    cases read
  | some found =>
    rw [here] at read
    rw [peek?_extend more here, advance_extend more (rest_ne_nil here)]
    split at read
    · cases read
    · exact settled_letters _ _ read open_ more
    · exact settled_letters _ _ read open_ more
    · exact settled_letters _ _ read open_ more
    · exact number read open_
    · obtain ⟨behind, passed, same⟩ := exists_of_map_ok read
      cases same
      exact congrArg (Except.map (none, ·)) (skipText_extend more passed)
    · cases read
      rfl
    · cases read
      rfl
    · rename_i same
      cases same
      split at read
      · rename_i digit
        rw [if_pos digit]
        exact number read open_
      · cases read

theorem skipKey_extend (read : skipKey c = .ok after) :
    skipKey (c.extend more) = .ok (after.extend more) := by
  unfold skipKey at read ⊢
  split at read
  · cases read
  · rename_i quote
    rw [peek?_extend more quote, advance_extend more (rest_ne_nil quote)]
    split at read
    · cases read
    · rename_i behind passed
      simp only [skipText_extend more passed]
      exact expectColon_extend more read
  · cases read

/-- Nothing can be passed over at the end of a text. -/
theorem rest_ne_nil_of_skipFrom {steps : Nat} {frames : List Frame} {due : Due}
    (read : skipFrom steps frames due c = .ok after) (open_ : after.rest ≠ []) : c.rest ≠ [] := by
  intro none
  have blank := skipSpace_of_nil none
  have unseen := peek?_skipSpace_of_nil none
  cases steps with
  | zero => cases read
  | succ steps =>
    cases due <;> cases frames <;> simp [skipFrom, skipOpening, skipKey, unseen, refused] at read
    all_goals
      subst read
      exact open_ blank

def passRest (steps : Nat) (frames : List Frame) (c : Cursor) : Except Fault Cursor :=
  match frames with
  | [] => .ok c
  | _ => skipFrom steps frames .next c

theorem rest_ne_nil_of_passRest {steps : Nat} {frames : List Frame}
    (read : passRest steps frames c = .ok after) (open_ : after.rest ≠ []) : c.rest ≠ [] := by
  cases frames with
  | nil =>
    cases read
    exact open_
  | cons frame frames => exact rest_ne_nil_of_skipFrom read open_

/-- What is passed over in `steps` steps is passed over in `larger` steps before more text. -/
def Lasts (steps larger : Nat) (more : List UInt8) (after : Cursor) : Prop :=
  ∀ ⦃frames due c⦄, skipFrom steps frames due c = .ok after →
    skipFrom larger frames due (c.extend more) = .ok (after.extend more)

namespace Lasts

variable {more} {steps larger : Nat} {frame : Frame} {frames : List Frame}

theorem passRest (lasts : Lasts steps larger more after)
    (read : passRest steps frames c = .ok after) :
    Json.passRest larger frames (c.extend more) = .ok (after.extend more) := by
  cases frames with
  | nil =>
    cases read
    rfl
  | cons frame frames => exact lasts read

theorem value (lasts : Lasts steps larger more after) (open_ : after.rest ≠ [])
    (read : skipFrom (steps + 1) frames .value c = .ok after) :
    skipFrom (larger + 1) frames .value (c.extend more) = .ok (after.extend more) := by
  rw [skipFrom.eq_def] at read ⊢
  dsimp only at read ⊢
  cases opening : skipOpening c.skipSpace with
  | error f =>
    rw [opening] at read
    cases read
  | ok opened =>
    obtain ⟨frame, behind⟩ := opened
    rw [opening] at read
    have there : c.skipSpace.rest ≠ [] := by
      intro none
      rw [skipOpening, peek?, none] at opening
      cases opening
    have again (open_ : behind.rest ≠ []) :
        skipOpening (c.extend more).skipSpace = .ok (frame, behind.extend more) := by
      rw [skipSpace, skipWhile_extend more there]
      exact settled_skipOpening opening open_ more
    cases frame with
    | some frame =>
      rw [again (rest_ne_nil_of_skipFrom read open_)]
      exact lasts read
    | none =>
      rw [again (rest_ne_nil_of_passRest read open_)]
      exact lasts.passRest read

theorem key (lasts : Lasts steps larger more after)
    (read : skipFrom (steps + 1) frames .key c = .ok after) :
    skipFrom (larger + 1) frames .key (c.extend more) = .ok (after.extend more) := by
  rw [skipFrom] at read ⊢
  split at read
  · cases read
  · rename_i behind passed
    have there : c.skipSpace.rest ≠ [] := by
      intro none
      rw [skipKey, peek?, none] at passed
      cases passed
    rw [skipSpace, skipWhile_extend more there, ← skipSpace, skipKey_extend more passed]
    exact lasts read

theorem opened (lasts : Lasts steps larger more after)
    (read : skipFrom (steps + 1) (frame :: frames) .opened c = .ok after) :
    skipFrom (larger + 1) (frame :: frames) .opened (c.extend more) = .ok (after.extend more) := by
  rw [skipFrom.eq_def] at read ⊢
  dsimp only at read ⊢
  split at read
  · cases read
  · rename_i found here
    rw [skipSpace_extend more here, peek?_extend more here, advance_extend more (rest_ne_nil here)]
    dsimp only
    by_cases closes : found = frame.close
    · rw [if_pos closes] at read ⊢
      exact lasts.passRest read
    · rw [if_neg closes] at read ⊢
      exact lasts read

theorem next (lasts : Lasts steps larger more after)
    (read : skipFrom (steps + 1) (frame :: frames) .next c = .ok after) :
    skipFrom (larger + 1) (frame :: frames) .next (c.extend more) = .ok (after.extend more) := by
  rw [skipFrom.eq_def] at read ⊢
  dsimp only at read ⊢
  split at read
  · cases read
  · rename_i found here
    rw [skipSpace_extend more here, peek?_extend more here, advance_extend more (rest_ne_nil here)]
    dsimp only
    by_cases comma : found = ','
    · rw [if_pos comma] at read ⊢
      exact lasts read
    · rw [if_neg comma] at read ⊢
      by_cases closes : found = frame.close
      · rw [if_pos closes] at read ⊢
        exact lasts.passRest read
      · rw [if_neg closes] at read
        cases read

end Lasts

/-- More steps and more text change nothing. -/
theorem skipFrom_extend {steps larger : Nat} (open_ : after.rest ≠ []) (room : steps ≤ larger) :
    Lasts steps larger more after := by
  induction steps generalizing larger with
  | zero =>
    intro frames due c read
    cases read
  | succ steps ih =>
    obtain ⟨larger, rfl⟩ : ∃ n, larger = n + 1 := ⟨larger - 1, by omega⟩
    have lasts : Lasts steps larger more after := ih (by omega)
    intro frames due c read
    cases due with
    | value => exact lasts.value open_ read
    | key => exact lasts.key read
    | opened =>
      cases frames with
      | nil =>
        rw [skipFrom] at read ⊢
        cases read
        rw [skipSpace, skipWhile_extend more open_, ← skipSpace]
      | cons frame frames => exact lasts.opened read
    | next =>
      cases frames with
      | nil =>
        rw [skipFrom] at read ⊢
        cases read
        rw [skipSpace, skipWhile_extend more open_, ← skipSpace]
      | cons frame frames => exact lasts.next read

theorem skipValue_extend (read : skipValue c = .ok after) (open_ : after.rest ≠ []) :
    skipValue (c.extend more) = .ok (after.extend more) := by
  have longer := length_le_extend (c := c) more
  exact skipFrom_extend more open_ (by omega) read

end Values

section Codecs

variable {α : Type}

theorem mismatch_ne_ok {expected : String} {c : Cursor} {result : α × Cursor} :
    mismatch expected c ≠ .ok result := by
  intro read
  unfold mismatch at read
  split at read <;> cases read

/-- A reader that finds nothing fails. -/
def RefusesEnd (read : Reader α) : Prop :=
  ∀ ⦃c : Cursor⦄, c.skipSpace.peek? = none → ∀ result, read c ≠ .ok result

theorem refusesEnd_text (expected : String) : RefusesEnd (Codec.text expected).read := by
  intro c none result read
  simp only [Codec.text, none] at read
  cases read

theorem settled_text (expected : String) : Settled (Codec.text expected).read := by
  intro c after text read _ more
  simp only [Codec.text] at read ⊢
  split at read
  · cases read
  · rename_i quote
    rw [skipSpace_extend more quote, peek?_extend more quote,
      advance_extend more (rest_ne_nil quote)]
    exact readText_extend more read
  · exact absurd read mismatch_ne_ok

theorem refusesEnd_natural (limit : Nat) (expected : String) :
    RefusesEnd (Codec.natural limit expected).read := by
  intro c none result read
  simp only [Codec.natural, none] at read
  cases read

/-- A number that is taken as a value is a natural one, and ends with its digits. -/
theorem readNumber_bind_extend {positive : Bool} {n : Nat} {c after : Cursor}
    {accept : Number × Cursor → Except Fault (Nat × Cursor)} (more : List UInt8)
    (accepts : ∀ number c result, accept (number, c) = .ok result →
      (∃ m, number = .natural m) ∧ ∀ d, accept (number, d) = .ok (result.1, d))
    (read : (readNumber positive c).bind accept = .ok (n, after)) (open_ : after.rest ≠ []) :
    (readNumber positive (c.extend more)).bind accept = .ok (n, after.extend more) := by
  cases taken : readNumber positive c with
  | error f =>
    rw [taken] at read
    cases read
  | ok result =>
    obtain ⟨number, behind⟩ := result
    rw [taken] at read
    obtain ⟨⟨m, rfl⟩, anywhere⟩ := accepts number behind _ read
    obtain rfl : behind = after :=
      congrArg Prod.snd (Except.ok.inj ((anywhere behind).symm.trans read))
    rw [readNumber_extend more taken open_]
    exact anywhere _

/-- What a reader of natural numbers does with the number that it has read. -/
def keepBelow (limit : Nat) (expected : String) : Number × Cursor → Except Fault (Nat × Cursor)
  | (.natural n, c) =>
    if n < limit then .ok (n, c) else c.failed (.invalidValue (.integer n) expected)
  | (.negative n, c) => c.failed (.invalidValue (.integer (-n)) expected)
  | (.decimal x, c) => c.failed (.invalidType (.decimal (showDecimal x)) expected)

theorem keepBelow_accepts (limit : Nat) (expected : String) (number : Number) (c : Cursor)
    (result : Nat × Cursor) (got : keepBelow limit expected (number, c) = .ok result) :
    (∃ m, number = .natural m) ∧ ∀ d, keepBelow limit expected (number, d) = .ok (result.1, d) := by
  cases number with
  | natural m =>
    rw [keepBelow] at got
    split at got
    · rename_i small
      cases got
      refine ⟨⟨m, rfl⟩, fun d => ?_⟩
      rw [keepBelow, if_pos small]
    · cases got
  | negative m => cases got
  | decimal x => cases got

theorem settled_natural (limit : Nat) (expected : String) :
    Settled (Codec.natural limit expected).read := by
  intro c after n read open_ more
  cases here : c.skipSpace.peek? with
  | none => exact absurd read (refusesEnd_natural limit expected here _)
  | some found =>
    simp only [Codec.natural, here] at read ⊢
    rw [skipSpace_extend more here, peek?_extend more here,
      advance_extend more (rest_ne_nil here)]
    split at read
    · cases read
    · exact readNumber_bind_extend more (keepBelow_accepts limit expected) read open_
    · rename_i same
      cases same
      split at read
      · rename_i digit
        rw [if_pos digit]
        exact readNumber_bind_extend more (keepBelow_accepts limit expected) read open_
      · exact absurd read mismatch_ne_ok

theorem Settled.map {β : Type} {read : Reader α} (settled : Settled read) (f : α → β) :
    Settled fun c => (read c).map fun (v, c) => (f v, c) := by
  intro c after w taken open_ more
  obtain ⟨⟨v, behind⟩, taken, same⟩ := exists_of_map_ok taken
  cases same
  dsimp only
  rw [settled taken open_ more]
  rfl

theorem RefusesEnd.map {β : Type} {read : Reader α} (refuses : RefusesEnd read) (f : α → β) :
    RefusesEnd fun c => (read c).map fun (v, c) => (f v, c) := by
  intro c none result taken
  obtain ⟨found, taken, -⟩ := exists_of_map_ok taken
  exact refuses none found taken

theorem settled_nullable {codec : Codec α} (settled : Settled codec.read)
    (refuses : RefusesEnd codec.read) : Settled codec.nullable.read := by
  intro c after v read open_ more
  simp only [Codec.nullable] at read ⊢
  cases here : c.skipSpace.peek? with
  | none =>
    rw [here, if_neg (by simp)] at read
    obtain ⟨found, taken, -⟩ := exists_of_map_ok read
    exact absurd taken (refuses here found)
  | some found =>
    rw [here] at read
    rw [skipSpace_extend more here, peek?_extend more here,
      advance_extend more (rest_ne_nil here)]
    split at read
    · rename_i null
      rw [if_pos null]
      exact settled_letters _ _ read open_ more
    · rename_i null
      rw [if_neg null]
      exact settled.map some read open_ more

end Codecs

section Members

variable {c after : Cursor} (more : List UInt8)

theorem rest_ne_nil_of_nextMember_false {first : Bool}
    (read : nextMember first c = .ok (false, after)) : after.rest ≠ [] := by
  unfold nextMember at read
  dsimp only at read
  split at read
  · cases read
  · rename_i brace
    cases read
    exact rest_ne_nil brace
  · repeat' split at read
    all_goals cases read

theorem rest_ne_nil_of_nextMember {first follows : Bool}
    (read : nextMember first c = .ok (follows, after)) : c.rest ≠ [] := by
  intro none
  have unseen := peek?_skipSpace_of_nil none
  simp only [nextMember, unseen] at read
  cases read

variable {σ : Type} {member : String → σ → Reader σ} {state last : σ}

theorem rest_ne_nil_of_readMembers {steps : Nat} {first : Bool}
    (read : Codec.readMembers member steps first state c = .ok (last, after)) : c.rest ≠ [] := by
  cases steps with
  | zero => cases read
  | succ steps =>
    rw [Codec.readMembers] at read
    split at read
    · cases read
    · rename_i next
      exact rest_ne_nil_of_nextMember next
    · rename_i next
      exact rest_ne_nil_of_nextMember next

/-- Members are followed by more members or by the brace, so none of them meets the end. -/
theorem readMembers_extend (settled : ∀ key state, Settled (member key state))
    {steps larger : Nat} {first : Bool}
    (read : Codec.readMembers member steps first state c = .ok (last, after))
    (room : steps ≤ larger) :
    after.rest ≠ [] ∧ Codec.readMembers member larger first state (c.extend more) =
      .ok (last, after.extend more) := by
  induction steps generalizing c larger first state with
  | zero => cases read
  | succ steps ih =>
    obtain ⟨larger, rfl⟩ : ∃ n, larger = n + 1 := ⟨larger - 1, by omega⟩
    rw [Codec.readMembers] at read ⊢
    split at read
    · cases read
    · rename_i next
      cases read
      rw [nextMember_extend more next]
      exact ⟨rest_ne_nil_of_nextMember_false next, rfl⟩
    · rename_i inside next
      rw [nextMember_extend more next]
      dsimp only
      split at read
      · cases read
      · rename_i key behind named
        rw [readText_extend more named]
        dsimp only
        split at read
        · cases read
        · rename_i state there taken
          have open_ := rest_ne_nil_of_readMembers read
          rw [settled key _ taken open_ more]
          exact ih read (by omega)

end Members

theorem settled_field {α β : Type} {name : String} {presence : Presence} {codec : Codec β}
    {get : α → β} {set : β → α → α} {skip : β → Bool} (settled : Settled codec.read) (v : α) :
    Settled ((Field.of name presence codec get set skip).read v) :=
  settled.map fun x => set x v

namespace Record

variable {α : Type} {r : Record α} {c after : Cursor} (more : List UInt8)

theorem settled_readMember (settled : ∀ f ∈ r.fields, ∀ v, Settled (f.read v)) (key : String)
    (state : α × List String) : Settled (r.readMember key state) := by
  intro c after next read open_ more
  unfold readMember at read ⊢
  split at read
  · split at read
    · cases read
    · rename_i behind colon
      obtain ⟨there, passed, same⟩ := exists_of_map_ok read
      cases same
      rw [expectColon_extend more colon]
      simp only [skipValue_extend more passed open_]
      rfl
  · rename_i field found
    split at read
    · cases read
    · rename_i fresh
      rw [if_neg fresh]
      split at read
      · cases read
      · rename_i behind colon
        rw [expectColon_extend more colon]
        exact (settled field (List.mem_of_find?_eq_some found) state.1).map
          (fun v => (v, key :: state.2)) read open_ more

theorem readObject_extend (settled : ∀ f ∈ r.fields, ∀ v, Settled (f.read v)) {v : α}
    (read : r.readObject c = .ok (v, after)) :
    r.readObject (c.extend more) = .ok (v, after.extend more) := by
  unfold readObject at read ⊢
  split at read
  · cases read
  · rename_i w keys behind members
    have room : c.rest.length + 1 ≤ (c.extend more).rest.length + 1 :=
      Nat.succ_le_succ (length_le_extend more)
    obtain ⟨open_, again⟩ := readMembers_extend more (settled_readMember settled) members room
    rw [again]
    dsimp only
    split at read
    · cases read
    · rename_i complete
      cases read
      rw [advance_extend more open_]

theorem readEnd_extend (read : readEnd c = .ok after) :
    readEnd (c.extend more) = .ok (after.extend more) := by
  unfold readEnd at read ⊢
  dsimp only at read ⊢
  split at read
  · cases read
  · rename_i here
    cases read
    rw [skipSpace_extend more here, peek?_extend more here, advance_extend more (rest_ne_nil here)]
    rfl
  · split at read <;> cases read
  · cases read

theorem rest_ne_nil_of_readValues {index : Nat} {fields : List (Field α)} {v w : α}
    (read : r.readValues index fields v c = .ok (w, after)) : c.rest ≠ [] := by
  intro none
  have unseen := peek?_skipSpace_of_nil none
  cases fields with
  | nil =>
    rw [readValues, readEnd] at read
    simp only [unseen] at read
    cases read
  | cons field fields =>
    rw [readValues, nextItem] at read
    simp only [unseen] at read
    cases read

theorem readValues_extend {fields : List (Field α)}
    (settled : ∀ f ∈ fields, ∀ v, Settled (f.read v)) {index : Nat} {v w : α}
    (read : r.readValues index fields v c = .ok (w, after)) :
    r.readValues index fields v (c.extend more) = .ok (w, after.extend more) := by
  induction fields generalizing c v index with
  | nil =>
    rw [readValues] at read ⊢
    obtain ⟨there, closed, same⟩ := exists_of_map_ok read
    cases same
    rw [readEnd_extend more closed]
    rfl
  | cons field fields ih =>
    rw [readValues] at read ⊢
    have others : ∀ f ∈ fields, ∀ v, Settled (f.read v) :=
      fun f m => settled f (List.mem_cons_of_mem _ m)
    split at read
    · cases read
    · rename_i behind next
      rw [nextItem_extend more next]
      dsimp only
      split at read
      · rename_i defaulted
        rw [if_pos defaulted]
        exact ih others read
      · cases read
    · rename_i behind next
      rw [nextItem_extend more next]
      dsimp only
      split at read
      · cases read
      · rename_i u there taken
        rw [settled field List.mem_cons_self v taken (rest_ne_nil_of_readValues read) more]
        exact ih others read

/-- An object and a list end at their brackets. -/
theorem closed_codec (settled : ∀ f ∈ r.fields, ∀ v, Settled (f.read v)) : Closed r.codec.read := by
  intro c after v read more
  simp only [codec] at read ⊢
  split at read
  · cases read
  · rename_i here
    rw [skipSpace_extend more here, peek?_extend more here, advance_extend more (rest_ne_nil here)]
    exact readValues_extend more settled read
  · rename_i here
    rw [skipSpace_extend more here, peek?_extend more here, advance_extend more (rest_ne_nil here)]
    exact readObject_extend more settled read
  · exact absurd read mismatch_ne_ok

end Record

namespace Codec

variable {α : Type} {codec : Codec α} {text front back more : List UInt8} {v : α}

/-- A text that says something does not say it when more than white space comes after it. -/
theorem parse_append_error (closed : Closed codec.read) (parsed : codec.parse text = .ok v)
    (solid : ∃ b ∈ more, isSpace b = false) : ∃ f, codec.parse (text ++ more) = .error f := by
  unfold parse at parsed ⊢
  split at parsed
  · cases parsed
  · rename_i w after read
    have again : codec.read (.start (text ++ more)) = .ok (w, after.extend more) := closed read more
    rw [again]
    have left : (after.extend more).skipSpace.rest ≠ [] := by
      obtain ⟨b, inside, apart⟩ := solid
      intro blank
      have spaces := List.dropWhile_eq_nil_iff.mp blank b (List.mem_append_right _ inside)
      rw [apart] at spaces
      cases spaces
    exact ⟨_, if_neg left⟩

/-- What is left of a text that says something says nothing, when more than white space is cut
off. -/
theorem parse_front_error (closed : Closed codec.read)
    (parsed : codec.parse (front ++ back) = .ok v) (solid : ∃ b ∈ back, isSpace b = false) :
    ∃ f, codec.parse front = .error f := by
  cases cut : codec.parse front with
  | error f => exact ⟨f, rfl⟩
  | ok w =>
    obtain ⟨f, refused⟩ := parse_append_error closed cut solid
    rw [parsed] at refused
    cases refused

end Codec

end AmdBundler.Json
