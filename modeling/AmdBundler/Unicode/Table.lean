namespace AmdBundler.Unicode

/-- The number that hexadecimal digits in upper case stand for. -/
def number (digits : List Char) : Nat :=
  digits.foldl (fun n c =>
    16 * n + (if c.isDigit then c.toNat - '0'.toNat else c.toNat - 'A'.toNat + 10)) 0

def rows (text : String) : List (List Nat) :=
  ((text.toList.splitOnP Char.isWhitespace).filter (!·.isEmpty)).map fun row =>
    (row.splitOn '-').map number

/-- The numbers from `first` to `last`, and what holds for all of them. -/
structure Span (α : Type) where
  first : Nat
  last : Nat
  value : α

/-- Disjoint spans in ascending order. -/
structure Table (α : Type) where
  spans : Array (Span α)

namespace Table

/-- Halves the places `low` to `high - 1` until one is left. -/
def search (spans : Array (Span α)) (n low high : Nat) (bound : high ≤ spans.size) :
    Option (Span α) :=
  if h : low < high then
    let middle := low + (high - low) / 2
    have inside : middle < spans.size := by omega
    if n < spans[middle].first then search spans n low middle (by omega)
    else if spans[middle].last < n then search spans n (middle + 1) high bound
    else some spans[middle]
  else none
termination_by high - low

def find? (t : Table α) (n : Nat) : Option (Span α) :=
  search t.spans n 0 t.spans.size (Nat.le_refl _)

def contains (t : Table α) (n : Nat) : Bool :=
  (t.find? n).isSome

theorem search_sound {spans : Array (Span α)} {bound : high ≤ spans.size}
    (h : search spans n low high bound = some s) :
    s ∈ spans ∧ s.first ≤ n ∧ n ≤ s.last := by
  fun_induction search spans n low high bound with
  | case1 low high bound lt middle inside before ih => exact ih h
  | case2 low high bound lt middle inside before after ih => exact ih h
  | case3 low high bound lt middle inside before after =>
    obtain rfl := Option.some.inj h
    exact ⟨Array.getElem_mem inside, by omega, by omega⟩
  | case4 => simp at h

theorem find?_sound {t : Table α} (h : t.find? n = some s) :
    s ∈ t.spans ∧ s.first ≤ n ∧ n ≤ s.last :=
  search_sound h

/-- A row with one number is a span of one code point; of a row with two, the second is the last
code point. -/
def ofRanges (text : String) : Table Unit :=
  ⟨((rows text).filterMap fun
    | [n] => some ⟨n, n, ()⟩
    | [first, last] => some ⟨first, last, ()⟩
    | _ => none).toArray⟩

/-- A row starts with its first and last code point, and a number for both and all between. -/
def ofTriples (text : String) : Table Nat :=
  ⟨((rows text).filterMap fun
    | [first, last, value] => some ⟨first, last, value⟩
    | _ => none).toArray⟩

/-- A row starts with a code point; the other numbers belong to it. -/
def ofImages (text : String) : Table (List Nat) :=
  ⟨((rows text).filterMap fun
    | n :: image => some ⟨n, n, image⟩
    | [] => none).toArray⟩

end Table

end AmdBundler.Unicode
