import AmdBundler.Json.Record
import AmdBundler.Proofs.CodecRoundTrip

namespace AmdBundler.Json

namespace Codec

/-- What stands before a member or an item: white space, and a comma if others have come. -/
def Leads : (first : Bool) → List Char → Prop
  | true, lead => Blank lead
  | false, lead => ∃ gap front, Blank gap ∧ Blank front ∧ lead = gap ++ ',' :: front

/-- The text of members leads from one state to another. -/
inductive TakesIn {σ : Type} (member : String → σ → Reader σ) : (first : Bool) → List Char →
    σ → σ → Prop
  | nil {first : Bool} {gap : List Char} (blank : Blank gap) (state : σ) :
      TakesIn member first gap state state
  | cons {first : Bool} {lead value others : List Char} {name : String} {state next last : σ}
      (leads : Leads first lead)
      (head : ∀ rest, Delimited rest → Reads (member name state) value next rest)
      (tail : TakesIn member false others next last) :
      TakesIn member first (lead ++ writeText name ++ value ++ others) state last

theorem expectColon_written {gap : List Char} (blank : Blank gap) (text : List Char) (offset : Nat)
    (rest : List UInt8) : ∃ after,
      expectColon (.before (gap ++ ':' :: text) offset rest) = .ok (.before text after rest) := by
  refine ⟨offset + gap.length + 1, ?_⟩
  rw [expectColon, Cursor.skipSpace_mark blank (by decide), Cursor.peek?_before (by decide)]
  simp only
  rw [Cursor.advance_before (by decide)]

theorem nextMember_lead {first : Bool} {lead : List Char} (leads : Leads first lead)
    (text : List Char) (offset : Nat) (rest : List UInt8) : ∃ start,
      nextMember first (.before (lead ++ '"' :: text) offset rest) =
        .ok (true, .before text start rest) := by
  cases first with
  | true =>
    refine ⟨offset + lead.length + 1, ?_⟩
    rw [nextMember, Cursor.skipSpace_mark leads (by decide), Cursor.peek?_before (by decide),
      Cursor.advance_before (by decide)]
    simp
  | false =>
    obtain ⟨gap, front, before, behind, rfl⟩ := leads
    refine ⟨offset + gap.length + 1 + front.length + 1, ?_⟩
    rw [nextMember, List.append_assoc, List.cons_append,
      Cursor.skipSpace_mark before (by decide), Cursor.peek?_before (by decide),
      Cursor.advance_before (by decide)]
    simp only [Bool.false_eq_true, if_false]
    rw [Cursor.skipSpace_mark behind (by decide), Cursor.peek?_before (by decide),
      Cursor.advance_before (by decide)]
    rfl

theorem delimited_lead {lead : List Char} (leads : Leads false lead) (text : List Char)
    (rest : List UInt8) : Delimited (Utf8.encode (lead ++ text) ++ rest) := by
  obtain ⟨gap, front, blank, -, rfl⟩ := leads
  rw [List.append_assoc]
  exact delimited_blank blank (delimited_cons (.inl rfl) _ rest)

section Members

variable {σ : Type} {member : String → σ → Reader σ} {state next last : σ}

theorem TakesIn.delimited {text : List Char} (taken : TakesIn member false text state last)
    (rest : List UInt8) : Delimited (Utf8.encode (text ++ ['\x7d']) ++ rest) := by
  cases taken with
  | nil blank => exact delimited_blank blank (delimited_cons (.inr (.inr rfl)) [] rest)
  | cons leads =>
    simp only [List.append_assoc]
    exact delimited_lead leads _ rest

/-- A member that was written, before others. -/
theorem TakesIn.written {first : Bool} {name : String} {value : List Char}
    {parts : List (List Char)}
    (head : ∀ rest, Delimited rest → Reads (member name state) (':' :: value) next rest)
    (tail : TakesIn member false (joined false parts) next last) :
    TakesIn member first (joined first (writeMember name value :: parts)) state last := by
  cases first with
  | true =>
    have leads : Leads true [] := blank_nil
    simpa [joined, writeMember] using TakesIn.cons leads head tail
  | false =>
    have leads : Leads false [','] := ⟨[], [], blank_nil, blank_nil, rfl⟩
    simpa [joined, writeMember] using TakesIn.cons leads head tail

/-- Every member takes a character, so there are no more of them than the text is long. -/
theorem readMembers_written {first : Bool} {text : List Char}
    (taken : TakesIn member first text state last) (rest : List UInt8) :
    ∀ steps, text.length < steps → ∀ offset, ∃ after,
      readMembers member steps first state (.before (text ++ ['\x7d']) offset rest) =
        .ok (last, .before ['\x7d'] after rest) := by
  induction taken with
  | @nil first gap blank state =>
    intro steps room offset
    obtain ⟨steps, rfl⟩ := Nat.exists_eq_succ_of_ne_zero (Nat.ne_of_gt (Nat.zero_lt_of_lt room))
    refine ⟨offset + gap.length, ?_⟩
    rw [readMembers, nextMember, Cursor.skipSpace_mark blank (by decide),
      Cursor.peek?_before (by decide)]
    rfl
  | @cons first lead value others name state next last leads head tail ih =>
    intro steps room offset
    obtain ⟨steps, rfl⟩ := Nat.exists_eq_succ_of_ne_zero (Nat.ne_of_gt (Nat.zero_lt_of_lt room))
    have shape : lead ++ writeText name ++ value ++ others ++ ['\x7d'] =
        lead ++ '"' ::
          (name.toList.flatMap escapeChar ++ ['"'] ++ (value ++ (others ++ ['\x7d']))) := by
      simp [writeText]
    obtain ⟨start, entered⟩ := nextMember_lead leads
      (name.toList.flatMap escapeChar ++ ['"'] ++ (value ++ (others ++ ['\x7d']))) offset rest
    have key := readText_written name start (Utf8.encode (value ++ (others ++ ['\x7d'])) ++ rest)
    obtain ⟨behind, took⟩ := head (Utf8.encode (others ++ ['\x7d']) ++ rest) (tail.delimited rest)
      (start + (Utf8.encode (name.toList.flatMap escapeChar)).length + 1)
    have fewer : others.length < steps := by
      simp [writeText] at room
      omega
    obtain ⟨after, read⟩ := ih steps fewer behind
    refine ⟨after, ?_⟩
    rw [shape, readMembers, entered]
    simp only
    rw [Cursor.before_append, show Cursor.before (name.toList.flatMap escapeChar ++ ['"']) start
      _ = ⟨start, Utf8.encode (name.toList.flatMap escapeChar ++ ['"']) ++ _⟩ from rfl, key]
    simp only
    rw [← Cursor.before, Cursor.before_append, took]
    exact read

end Members

/-- A whole text that was written is the text of its value. -/
theorem parse_render {α : Type} {codec : Codec α} (faithful : codec.Faithful) (v : α) :
    codec.parse (Utf8.encode (codec.render v).toList) = .ok v := by
  obtain ⟨after, read⟩ := faithful.reads v [] delimited_nil 0
  have start : Cursor.start (Utf8.encode (codec.render v).toList) =
      .before (codec.write v) 0 [] := by
    rw [Cursor.start, Cursor.before, render, String.toList_ofList, List.append_nil]
  rw [parse, start, read]
  rfl

end Codec

namespace Record

variable {α : Type}

def written (fields : List (Field α)) (w : α) : List (String × List Char) :=
  fields.filterMap fun f => (f.write w).map fun text => (f.name, text)

/-- Fields read what they wrote for `w` into a value, which becomes another one in the end. A field
that wrote nothing changes nothing. -/
inductive Refills (w : α) : List (Field α) → α → α → Prop
  | nil (v : α) : Refills w [] v v
  | skipped {f : Field α} {fields : List (Field α)} {v last : α} (absent : f.write w = none)
      (tail : Refills w fields v last) : Refills w (f :: fields) v last
  | refilled {f : Field α} {fields : List (Field α)} {v next last : α} {text : List Char}
      (present : f.write w = some text)
      (head : ∀ rest, Delimited rest → Reads (f.read v) text next rest)
      (tail : Refills w fields next last) : Refills w (f :: fields) v last

/-- A field reads what its codec writes. -/
theorem reads_field {β : Type} {name : String} {presence : Presence} {codec : Codec β}
    {get : α → β} {set : β → α → α} {skip : β → Bool} (faithful : codec.Faithful) (x : β) (v : α)
    (rest : List UInt8) (delimited : Delimited rest) :
    Reads ((Field.of name presence codec get set skip).read v) (codec.write x) (set x v) rest :=
  (faithful.reads x rest delimited).map fun x => set x v

theorem Refills.of {β : Type} {name : String} {presence : Presence} {codec : Codec β}
    {get : α → β} {set : β → α → α} {skip : β → Bool} {fields : List (Field α)} {w v last : α}
    (faithful : codec.Faithful)
    (tail : Refills w fields (if skip (get w) then v else set (get w) v) last) :
    Refills w (.of name presence codec get set skip :: fields) v last := by
  cases left : skip (get w) with
  | true =>
    rw [left] at tail
    exact .skipped (by simp [Field.of, left]) tail
  | false =>
    rw [left] at tail
    have present : (Field.of name presence codec get set skip).write w =
        some (codec.write (get w)) := by
      simp [Field.of, left]
    exact .refilled present (reads_field faithful (get w) v) tail

theorem find?_name {fields : List (Field α)} (distinct : (fields.map (·.name)).Nodup)
    {f : Field α} (member : f ∈ fields) : fields.find? (·.name == f.name) = some f := by
  induction fields with
  | nil => cases member
  | cons g fields ih =>
    rw [List.map_cons, List.nodup_cons] at distinct
    rcases List.mem_cons.mp member with rfl | later
    · rw [List.find?_cons_of_pos (by simp)]
    · have apart : (g.name == f.name) = false := by
        rw [beq_eq_false_iff_ne]
        intro same
        exact distinct.1 (List.mem_map.mpr ⟨f, later, same.symm⟩)
      rw [List.find?_cons, apart]
      exact ih distinct.2 later

/-- A member whose field has not been read is taken in as its field reads it. -/
theorem reads_member {r : Record α} {f : Field α} {v next : α} {gap text : List Char}
    {rest : List UInt8} {read : List String}
    (found : r.fields.find? (·.name == f.name) = some f) (unread : f.name ∉ read)
    (blank : Blank gap) (head : Reads (f.read v) text next rest) :
    Reads (r.readMember f.name (v, read)) (gap ++ ':' :: text) (next, f.name :: read) rest := by
  intro offset
  obtain ⟨behind, colon⟩ := Codec.expectColon_written blank text offset rest
  obtain ⟨after, filled⟩ := head behind
  refine ⟨after, ?_⟩
  rw [readMember, found]
  simp only
  rw [if_neg (by simpa using unread), colon]
  simp only
  rw [filled]
  rfl

/-- Refilling is what the reader of members does with the members that were written. It ends with
their names among those that it has read. -/
theorem takesIn_of_refills {r : Record α} {fields : List (Field α)} {w v last : α}
    (found : ∀ f ∈ fields, r.fields.find? (·.name == f.name) = some f)
    (distinct : (fields.map (·.name)).Nodup) (refills : Refills w fields v last) :
    ∀ read : List String, (∀ f ∈ fields, f.name ∉ read) →
      ∃ keys, (∀ first, Codec.TakesIn r.readMember first (Codec.joined first
        ((written fields w).map fun m => Codec.writeMember m.1 m.2)) (v, read) (last, keys)) ∧
        (∀ key ∈ read, key ∈ keys) ∧ ∀ f ∈ fields, (f.write w).isSome → f.name ∈ keys := by
  -- Along the refilling; `fresh` says that no field still to come has been read.
  induction refills with
  | nil v =>
    intro read _
    refine ⟨read, fun first => ?_, fun key m => m, ?_⟩
    · cases first <;> exact .nil blank_nil _
    · intro f m
      cases m
  | @skipped f fields v last absent _ ih =>
    intro read fresh
    obtain ⟨keys, taken, kept, names⟩ := ih (fun g m => found g (List.mem_cons_of_mem _ m))
      (List.nodup_cons.mp distinct).2 read fun g m => fresh g (List.mem_cons_of_mem _ m)
    refine ⟨keys, ?_, kept, ?_⟩
    · intro first
      rw [written, List.filterMap_cons_none (by simp [absent])]
      exact taken first
    · intro g m there
      rcases List.mem_cons.mp m with rfl | later
      · rw [absent] at there
        cases there
      · exact names g later there
  | @refilled f fields v next last text present head _ ih =>
    intro read fresh
    have unread := fresh f List.mem_cons_self
    obtain ⟨alone, others⟩ := List.nodup_cons.mp distinct
    obtain ⟨keys, taken, kept, names⟩ := ih (fun g m => found g (List.mem_cons_of_mem _ m)) others
      (f.name :: read) (by
        intro g m again
        rcases List.mem_cons.mp again with same | before
        · exact alone (List.mem_map.mpr ⟨g, m, same⟩)
        · exact fresh g (List.mem_cons_of_mem _ m) before)
    refine ⟨keys, ?_, fun key m => kept key (List.mem_cons_of_mem _ m), ?_⟩
    · intro first
      rw [written, List.filterMap_cons_some (b := (f.name, text)) (by simp [present])]
      refine .written ?_ (taken false)
      intro rest delimited
      exact reads_member (found f List.mem_cons_self) unread blank_nil (head rest delimited)
    · intro g m there
      rcases List.mem_cons.mp m with rfl | later
      · exact kept _ List.mem_cons_self
      · exact names g later there

theorem codec_write (r : Record α) (w : α) :
    r.codec.write w = '\x7b' :: (Codec.joined true
      ((written r.fields w).map fun m => Codec.writeMember m.1 m.2) ++ ['\x7d']) := by
  have parts : r.members w =
      (written r.fields w).map fun m => Codec.writeMember m.1 m.2 := by
    rw [members, written, List.map_filterMap]
    congr 1
    funext f
    cases f.write w <;> rfl
  rw [← parts, ← Codec.intercalate_eq_joined]
  rfl

/-- Every member takes a byte, so the reader does not run out of steps. -/
theorem room_written (text : List Char) (offset : Nat) (rest : List UInt8) :
    text.length < (Cursor.before (text ++ ['\x7d']) offset rest).rest.length + 1 := by
  have bytes := Utf8.length_le_length_encode (text ++ ['\x7d'])
  rw [List.length_append] at bytes
  rw [Cursor.before, List.length_append]
  omega

theorem missing?_eq_none {r : Record α} {keys : List String}
    (present : ∀ f ∈ r.fields, f.presence = .required → f.name ∈ keys) :
    r.missing? keys = none := by
  rw [missing?, Option.map_eq_none_iff, List.find?_eq_none]
  intro f m lacks
  simp only [Bool.and_eq_true, beq_iff_eq, Bool.not_eq_true', List.contains_eq_mem,
    decide_eq_false_iff_not] at lacks
  exact lacks.2 (present f m lacks.1)

/-- An object is read as what its members lead to, if none that has to be there is left out. -/
theorem reads_object {r : Record α} {text : List Char} {v : α} {keys : List String}
    (taken : Codec.TakesIn r.readMember true text (r.blank, []) (v, keys))
    (complete : r.missing? keys = none) (rest : List UInt8) :
    Reads r.codec.read ('\x7b' :: (text ++ ['\x7d'])) v rest := by
  have content : Reads r.readObject (text ++ ['\x7d']) v rest := by
    intro offset
    obtain ⟨after, read⟩ := Codec.readMembers_written taken rest _
      (room_written text offset rest) offset
    refine ⟨after + 1, ?_⟩
    rw [readObject, read]
    simp only
    rw [complete, Cursor.advance_before (by decide)]
    rfl
  refine reads_entered (by decide) ?_ content
  intro c here
  simp only [codec, here]

/-- A record with distinct names is read back when its fields refill it and none that has to be
there is left out. Anything may follow it. -/
theorem reads_written {r : Record α} (distinct : (r.fields.map (·.name)).Nodup) {w : α}
    (complete : ∀ f ∈ r.fields, f.presence = .required → (f.write w).isSome)
    (refills : Refills w r.fields r.blank w) (rest : List UInt8) :
    Reads r.codec.read (r.codec.write w) w rest := by
  obtain ⟨keys, taken, -, names⟩ := takesIn_of_refills (r := r)
    (fun f m => find?_name distinct m) distinct refills [] (fun _ _ => List.not_mem_nil)
  rw [codec_write]
  have present := missing?_eq_none fun f m needed => names f m (complete f m needed)
  exact reads_object (taken true) present rest

theorem faithful {r : Record α} (distinct : (r.fields.map (·.name)).Nodup)
    (complete : ∀ w, ∀ f ∈ r.fields, f.presence = .required → (f.write w).isSome)
    (refills : ∀ w, Refills w r.fields r.blank w) : r.codec.Faithful where
  opens _ := ⟨'\x7b', _, rfl, by decide, by decide⟩
  passes c := by simp [codec]
  reads w rest _ := reads_written distinct (complete w) (refills w) rest

end Record

end AmdBundler.Json
