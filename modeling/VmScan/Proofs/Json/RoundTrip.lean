import Mathlib.Data.List.Nodup
import VmScan.Proofs.Json.Numbers

/-!
# Written values are read back

A value is written with a line break and an indentation in front of every item and member. Reading
skips these, and reads each part back in front of the rest.

* `Writable` — a value with containers to some depth, without binary64 numbers, with integers of
  at most `maxDigits` digits, and with each name once in an object.
* `ReadsWritten` — a reader reads a written value back, whatever stands behind it.

Results:
* `collectMembers_of_nodup`: members with different names are kept as they are written.
* `reads_items`, `reads_members`: the inside of a container, from its first item or member on.
* `Writable.readsWritten`: a value, at any level of indentation.
* `decode_write`: a whole text.
-/

namespace VmScan.Json

open VmScan.Number VmScan.Text

variable {runtime : Runtime}

/-! ## Blanks -/

theorem skipBlank_of_not_blank {c : Char} (h : isBlank c = false) (rest : List Char) :
    skipBlank (c :: rest) = c :: rest :=
  List.dropWhile_cons_of_neg (by simp [h])

theorem skipBlank_newLine (level : Nat) (rest : List Char) :
    skipBlank (newLine level ++ rest) = skipBlank rest := by
  refine List.dropWhile_append_of_pos fun c hc => ?_
  rw [newLine, List.mem_cons, List.mem_replicate] at hc
  rcases hc with rfl | ⟨-, rfl⟩ <;> rfl

/-! ## Containers, part by part -/

/-- What stands behind a mark is no longer than what was read from. -/
theorem Parsed.length_behind_le {α : Type} {input tail : List Char} {mark : Char}
    (parsed : Parsed α input) (h : skipBlank parsed.rest = mark :: tail) :
    (skipBlank tail).length ≤ input.length := by
  have hrest := length_skipBlank_le parsed.rest
  have htail := length_skipBlank_le tail
  have hshorter := parsed.shorter
  rw [h, List.length_cons] at hrest
  omega

section Containers

variable {input rest tail after : List Char} {value : Value} {member : String × Value}
  {values : List Value} {members : Members} {reader : Reader Value} {name : List Char}

/-- Behind an item and a comma, the other items are read. -/
theorem readItems_of_comma {parsed : Parsed Value input} (hread : reader input = .ok parsed)
    (hcomma : skipBlank parsed.rest = ',' :: tail) :
    readItems reader input = (readItems reader (skipBlank tail)).map
      (·.behind (parsed.value :: ·) (parsed.length_behind_le hcomma)) := by
  rw [readItems]
  simp only [hread]
  split
  · next hclose =>
    rw [hcomma, List.cons.injEq] at hclose
    exact absurd hclose.1 (by decide)
  · next hsame =>
    rw [hcomma, List.cons.injEq] at hsame
    obtain ⟨-, rfl⟩ := hsame
    cases readItems reader (skipBlank _) <;> rfl
  · next _ hother => exact absurd hcomma (hother tail)

/-- Behind a name and a colon, the value of a member is read. -/
theorem readMember_of_colon {parsed : Parsed (List Char) rest}
    (hread : readString runtime ('"' :: rest) rest = .ok parsed)
    (hcolon : skipBlank parsed.rest = ':' :: tail) :
    readMember runtime reader ('"' :: rest) = (reader (skipBlank tail)).map fun held =>
      (held.behind (String.ofList parsed.value, ·)
        (Nat.le_succ_of_le (parsed.length_behind_le hcolon)) :
          Parsed (String × Value) ('"' :: rest)) := by
  rw [readMember]
  simp only [hread]
  split
  · next hsame =>
    rw [hcolon, List.cons.injEq] at hsame
    obtain ⟨-, rfl⟩ := hsame
    cases reader (skipBlank _) <;> rfl
  · next hother => exact absurd hcolon (hother tail)

/-- Behind a member and a comma, the other members are read. -/
theorem readMembers_of_comma {parsed : Parsed (String × Value) input}
    (hread : readMember runtime reader input = .ok parsed)
    (hcomma : skipBlank parsed.rest = ',' :: tail) :
    readMembers runtime reader input = (readMembers runtime reader (skipBlank tail)).map
      (·.behind (parsed.value :: ·) (parsed.length_behind_le hcomma)) := by
  rw [readMembers]
  simp only [hread]
  split
  · next hclose =>
    rw [hcomma, List.cons.injEq] at hclose
    exact absurd hclose.1 (by decide)
  · next hsame =>
    rw [hcomma, List.cons.injEq] at hsame
    obtain ⟨-, rfl⟩ := hsame
    cases readMembers runtime reader (skipBlank _) <;> rfl
  · next _ hother => exact absurd hcomma (hother tail)

/-- An array that does not close at once holds items. -/
theorem readArray_of_items (hopen : ∀ tail, skipBlank input ≠ ']' :: tail) :
    readArray reader input = (readItems reader (skipBlank input)).map
      (·.behind .array (length_skipBlank_le input)) := by
  unfold readArray
  split
  · next hclose => exact absurd hclose (hopen _)
  · cases readItems reader (skipBlank input) <;> rfl

/-- An object that does not close at once holds members. -/
theorem readObject_of_members (hopen : ∀ tail, skipBlank input ≠ '\x7d' :: tail) :
    readObject runtime reader input = (readMembers runtime reader (skipBlank input)).map
      (·.behind (fun members => .object (collectMembers members))
        (length_skipBlank_le input)) := by
  unfold readObject
  split
  · next hclose => exact absurd hclose (hopen _)
  · cases readMembers runtime reader (skipBlank input) <;> rfl

theorem Reads.lastItem (h : Reads reader input value rest) (hend : skipBlank rest = ']' :: tail) :
    Reads (readItems reader) input [value] tail := by
  obtain ⟨parsed, h, rfl, rfl⟩ := h
  unfold Reads
  rw [readItems]
  simp only [h]
  split
  · next hclose =>
    rw [hend, List.cons.injEq] at hclose
    obtain ⟨-, rfl⟩ := hclose
    exact ⟨_, rfl, rfl, rfl⟩
  · next hcomma =>
    rw [hend, List.cons.injEq] at hcomma
    exact absurd hcomma.1 (by decide)
  · next hclose _ => exact absurd hend (hclose tail)

theorem Reads.nextItem (h : Reads reader input value rest) (hnext : skipBlank rest = ',' :: tail)
    (hmore : Reads (readItems reader) (skipBlank tail) values after) :
    Reads (readItems reader) input (value :: values) after := by
  obtain ⟨parsed, h, rfl, rfl⟩ := h
  obtain ⟨more, hmore, rfl, rfl⟩ := hmore
  unfold Reads
  rw [readItems_of_comma h hnext, hmore]
  exact ⟨_, rfl, rfl, rfl⟩

theorem Reads.nameAndValue (hname : Reads (readString runtime ('"' :: rest)) rest name tail)
    {behind : List Char} (hcolon : skipBlank tail = ':' :: behind)
    (hvalue : Reads reader (skipBlank behind) value after) :
    Reads (readMember runtime reader) ('"' :: rest) (String.ofList name, value) after := by
  obtain ⟨parsed, hname, rfl, rfl⟩ := hname
  obtain ⟨held, hvalue, rfl, rfl⟩ := hvalue
  unfold Reads
  rw [readMember_of_colon hname hcolon, hvalue]
  exact ⟨_, rfl, rfl, rfl⟩

theorem Reads.lastMember (h : Reads (readMember runtime reader) input member rest)
    (hend : skipBlank rest = '\x7d' :: tail) :
    Reads (readMembers runtime reader) input [member] tail := by
  obtain ⟨parsed, h, rfl, rfl⟩ := h
  unfold Reads
  rw [readMembers]
  simp only [h]
  split
  · next hclose =>
    rw [hend, List.cons.injEq] at hclose
    obtain ⟨-, rfl⟩ := hclose
    exact ⟨_, rfl, rfl, rfl⟩
  · next hcomma =>
    rw [hend, List.cons.injEq] at hcomma
    exact absurd hcomma.1 (by decide)
  · next hclose _ => exact absurd hend (hclose tail)

theorem Reads.nextMember (h : Reads (readMember runtime reader) input member rest)
    (hnext : skipBlank rest = ',' :: tail)
    (hmore : Reads (readMembers runtime reader) (skipBlank tail) members after) :
    Reads (readMembers runtime reader) input (member :: members) after := by
  obtain ⟨parsed, h, rfl, rfl⟩ := h
  obtain ⟨more, hmore, rfl, rfl⟩ := hmore
  unfold Reads
  rw [readMembers_of_comma h hnext, hmore]
  exact ⟨_, rfl, rfl, rfl⟩

theorem reads_emptyArray (hclose : skipBlank input = ']' :: tail) :
    Reads (readArray reader) input (.array []) tail := by
  unfold Reads readArray
  split
  · next hsame =>
    rw [hclose, List.cons.injEq] at hsame
    obtain ⟨-, rfl⟩ := hsame
    exact ⟨_, rfl, rfl, rfl⟩
  · next hother => exact absurd hclose (hother tail)

theorem Reads.array (hstart : ∀ tail, skipBlank input ≠ ']' :: tail)
    (h : Reads (readItems reader) (skipBlank input) values rest) :
    Reads (readArray reader) input (.array values) rest := by
  obtain ⟨parsed, h, rfl, rfl⟩ := h
  unfold Reads
  rw [readArray_of_items hstart, h]
  exact ⟨_, rfl, rfl, rfl⟩

theorem reads_emptyObject (hclose : skipBlank input = '\x7d' :: tail) :
    Reads (readObject runtime reader) input (.object []) tail := by
  unfold Reads readObject
  split
  · next hsame =>
    rw [hclose, List.cons.injEq] at hsame
    obtain ⟨-, rfl⟩ := hsame
    exact ⟨_, rfl, rfl, rfl⟩
  · next hother => exact absurd hclose (hother tail)

theorem Reads.object (hstart : ∀ tail, skipBlank input ≠ '\x7d' :: tail)
    (h : Reads (readMembers runtime reader) (skipBlank input) members rest) :
    Reads (readObject runtime reader) input (.object (collectMembers members)) rest := by
  obtain ⟨parsed, h, rfl, rfl⟩ := h
  unfold Reads
  rw [readObject_of_members hstart, h]
  exact ⟨_, rfl, rfl, rfl⟩

end Containers

/-! ## Members with different names -/

theorem setMember_of_not_mem {name : String} {members : Members} (value : Value)
    (h : name ∉ members.map Prod.fst) :
    setMember name value members = members ++ [(name, value)] := by
  induction members with
  | nil => rfl
  | cons first rest ih =>
    rw [List.map_cons, List.mem_cons, not_or] at h
    rw [setMember, if_neg (Ne.symm h.1), ih h.2]
    rfl

/-- Members with different names are kept as they are written. -/
theorem collectMembers_of_nodup {members : Members} (h : (members.map Prod.fst).Nodup) :
    collectMembers members = members := by
  -- the fold is taken up behind any members that are kept already
  have hfold : ∀ kept : Members, ((kept ++ members).map Prod.fst).Nodup →
      members.foldl (fun kept member => setMember member.1 member.2 kept) kept
        = kept ++ members := by
    clear h
    induction members with
    | nil => exact fun kept _ => (List.append_nil kept).symm
    | cons first rest ih =>
      intro kept hnodup
      have hnew : first.1 ∉ kept.map Prod.fst := by
        rw [List.map_append, List.map_cons, List.nodup_append] at hnodup
        exact fun hmem => hnodup.2.2 first.1 hmem first.1 List.mem_cons_self rfl
      rw [List.append_cons] at hnodup ⊢
      rw [List.foldl_cons, setMember_of_not_mem first.2 hnew]
      exact ih _ hnodup
  rw [collectMembers_eq_foldl]
  exact hfold [] h

/-! ## The inside of containers -/

theorem endsNumber_cons {c : Char} (hdigit : isAsciiDigit c = false) (hpoint : c ≠ '.')
    (hsmall : c ≠ 'e') (hlarge : c ≠ 'E') (rest : List Char) : EndsNumber (c :: rest) := by
  rintro other h
  obtain rfl := Option.some.inj h
  exact ⟨hdigit, hpoint, hsmall, hlarge⟩

theorem endsNumber_newLine (level : Nat) (rest : List Char) : EndsNumber (newLine level ++ rest) :=
  endsNumber_cons rfl (by decide) (by decide) (by decide) _

theorem endsNumber_comma (rest : List Char) : EndsNumber (',' :: rest) :=
  endsNumber_cons rfl (by decide) (by decide) (by decide) rest

section Inside

variable {reader : Reader Value} (level : Nat)

/-- The reader reads the written value back, in front of anything that ends a number. -/
def ReadsWritten (reader : Reader Value) (value : Value) : Prop :=
  ∀ level rest, EndsNumber rest → Reads reader (value.write level ++ rest) value rest

/-- The written value starts with no blank, no mark of a byte order, and nothing that closes an
array. -/
def StartsWell (value : Value) : Prop :=
  ∀ level, ∃ c cs, value.write level = c :: cs ∧ isBlank c = false ∧ c ≠ ']' ∧
    c ≠ Char.ofNat 0xFEFF

theorem StartsWell.skipBlank {value : Value} (h : StartsWell value) (level : Nat)
    (rest : List Char) :
    skipBlank (newLine level ++ (value.write level ++ rest)) = value.write level ++ rest := by
  obtain ⟨c, cs, hwrite, hblank, -⟩ := h level
  rw [skipBlank_newLine, hwrite, List.cons_append, skipBlank_of_not_blank hblank]

/-- **The items of an array are read back**, from the first on. -/
theorem reads_items {item : Value} {items : List Value}
    (hread : ∀ value ∈ item :: items, ReadsWritten reader value)
    (hstart : ∀ value ∈ item :: items, StartsWell value) (rest : List Char) :
    Reads (readItems reader)
      (item.write (level + 1) ++ (writeItems level items ++ (newLine level ++ ']' :: rest)))
      (item :: items) rest := by
  induction items generalizing item with
  | nil =>
    have hitem := hread item List.mem_cons_self (level + 1) _
      (endsNumber_newLine level (']' :: rest))
    refine hitem.lastItem ?_
    rw [skipBlank_newLine, skipBlank_of_not_blank rfl]
  | cons next items ih =>
    -- behind the comma stand a line break and the next item, with the blanks already skipped
    have hmore := ih (fun value hvalue => hread value (List.mem_cons_of_mem item hvalue))
      (fun value hvalue => hstart value (List.mem_cons_of_mem item hvalue))
    rw [← (hstart next (by simp)).skipBlank (level + 1)] at hmore
    have hitems : writeItems level (next :: items) ++ (newLine level ++ ']' :: rest)
        = ',' :: (newLine (level + 1) ++ (next.write (level + 1) ++ (writeItems level items
          ++ (newLine level ++ ']' :: rest)))) := by
      simp only [writeItems, List.append_assoc, List.cons_append]
    rw [hitems]
    exact (hread item List.mem_cons_self (level + 1) _ (endsNumber_comma _)).nextItem
      (skipBlank_of_not_blank rfl _) hmore

/-- A written member is read back. -/
theorem reads_member (runtime : Runtime) (member : String × Value)
    (hread : ReadsWritten reader member.2) (hstart : StartsWell member.2) {rest : List Char}
    (hrest : EndsNumber rest) :
    Reads (readMember runtime reader) (writeMember level member ++ rest) member rest := by
  obtain ⟨name, value⟩ := member
  obtain ⟨c, cs, hwrite, hblank, -⟩ := hstart (level + 1)
  have hmember : writeMember level (name, value) ++ rest
      = '"' :: (name.toList.flatMap escapeChar
        ++ '"' :: ':' :: ' ' :: (value.write (level + 1) ++ rest)) := by
    simp only [writeMember, writeString, List.append_assoc, List.cons_append, List.nil_append]
  have hvalue : Json.skipBlank (' ' :: (value.write (level + 1) ++ rest))
      = value.write (level + 1) ++ rest := by
    have hskip : Json.skipBlank (' ' :: (value.write (level + 1) ++ rest))
        = Json.skipBlank (value.write (level + 1) ++ rest) := rfl
    rw [hskip, hwrite, List.cons_append, skipBlank_of_not_blank hblank]
  have hread := hread (level + 1) rest hrest
  rw [← hvalue] at hread
  rw [hmember]
  have hboth := (reads_literal runtime ('"' :: _) name.toList _).nameAndValue
    (skipBlank_of_not_blank rfl _) hread
  rw [String.ofList_toList] at hboth
  exact hboth

theorem skipBlank_writeMember (member : String × Value) (rest : List Char) :
    skipBlank (newLine (level + 1) ++ (writeMember level member ++ rest))
      = writeMember level member ++ rest := by
  obtain ⟨name, value⟩ := member
  rw [skipBlank_newLine]
  exact skipBlank_of_not_blank rfl _

/-- **The members of an object are read back**, from the first on. -/
theorem reads_members (runtime : Runtime) {member : String × Value} {members : Members}
    (hread : ∀ other ∈ member :: members, ReadsWritten reader other.2)
    (hstart : ∀ other ∈ member :: members, StartsWell other.2) (rest : List Char) :
    Reads (readMembers runtime reader)
      (writeMember level member ++ (writeMembers level members ++ (newLine level ++ '}' :: rest)))
      (member :: members) rest := by
  induction members generalizing member with
  | nil =>
    have hmember := reads_member level runtime member (hread member List.mem_cons_self)
      (hstart member List.mem_cons_self) (endsNumber_newLine level ('}' :: rest))
    refine hmember.lastMember ?_
    rw [skipBlank_newLine, skipBlank_of_not_blank rfl]
  | cons next members ih =>
    have hmore := ih (fun other hother => hread other (List.mem_cons_of_mem member hother))
      (fun other hother => hstart other (List.mem_cons_of_mem member hother))
    have hmembers : writeMembers level (next :: members) ++ (newLine level ++ '}' :: rest)
        = ',' :: (newLine (level + 1) ++ (writeMember level next ++ (writeMembers level members
          ++ (newLine level ++ '}' :: rest)))) := by
      simp only [writeMembers, List.append_assoc, List.cons_append]
    rw [← skipBlank_writeMember] at hmore
    rw [hmembers]
    exact (reads_member level runtime member (hread member List.mem_cons_self)
      (hstart member List.mem_cons_self) (endsNumber_comma _)).nextMember
      (skipBlank_of_not_blank rfl _) hmore

end Inside

/-! ## Values -/

/-- A value with at most `depth` containers inside each other, without binary64 numbers, with
integers of at most `maxDigits` digits, and with each name once in an object. -/
inductive Writable : Nat → Value → Prop where
  | null (depth : Nat) : Writable depth .null
  | bool (depth : Nat) (b : Bool) : Writable depth (.bool b)
  | int (depth : Nat) {n : Int} (digits : (Nat.toDigits 10 n.natAbs).length ≤ maxDigits) :
      Writable depth (.int n)
  | string (depth : Nat) (text : String) : Writable depth (.string text)
  | array {depth : Nat} {items : List Value} (held : ∀ item ∈ items, Writable depth item) :
      Writable (depth + 1) (.array items)
  | object {depth : Nat} {members : Members} (names : (members.map Prod.fst).Nodup)
      (held : ∀ member ∈ members, Writable depth member.2) :
      Writable (depth + 1) (.object members)

/-- What starts like a number is read as a number. -/
theorem readValueWith_number {inner : Option (Reader Value)} {input : List Char}
    (hstart : StartsNumber input) : readValueWith runtime inner input = readNumber input := by
  rw [readValueWith]
  case x_6 =>
    rintro rest rfl
    exact StartsNumber.not_signed rfl hstart
  all_goals
    rintro rest rfl
    exact StartsNumber.not_cons rfl (by decide) hstart

/-- A number is read as a value. -/
theorem Reads.number {inner : Option (Reader Value)} {input rest : List Char} {value : Value}
    (hstart : StartsNumber input) (h : Reads readNumber input value rest) :
    Reads (readValueWith runtime inner) input value rest := by
  unfold Reads
  rw [readValueWith_number hstart]
  exact h

/-- How a written value starts. -/
theorem Writable.startsWell {depth : Nat} {value : Value} (h : Writable depth value) :
    StartsWell value := by
  intro level
  cases h with
  | null => exact ⟨_, _, rfl, rfl, by decide, by decide⟩
  | bool depth b => cases b <;> exact ⟨_, _, rfl, rfl, by decide, by decide⟩
  | @int depth n digits =>
    have hstart := startsNumber_toString n []
    rw [List.append_nil] at hstart
    exact hstart.exists_cons
  | string depth text => exact ⟨_, _, rfl, rfl, by decide, by decide⟩
  | @array depth items held => cases items <;> exact ⟨_, _, rfl, rfl, by decide, by decide⟩
  | @object depth members names held =>
    cases members <;> exact ⟨_, _, rfl, rfl, by decide, by decide⟩

theorem Reads.stringValue {inner : Option (Reader Value)} {input rest cs : List Char}
    (h : Reads (readString runtime ('"' :: input)) input cs rest) :
    Reads (readValueWith runtime inner) ('"' :: input) (.string (String.ofList cs)) rest := by
  obtain ⟨parsed, h, rfl, rfl⟩ := h
  unfold Reads
  rw [readValueWith, h]
  exact ⟨_, rfl, rfl, rfl⟩

theorem Reads.arrayValue {reader : Reader Value} {input rest : List Char} {value : Value}
    (h : Reads (readArray reader) input value rest) :
    Reads (readValueWith runtime (some reader)) ('[' :: input) value rest := by
  obtain ⟨parsed, h, rfl, rfl⟩ := h
  unfold Reads
  simp only [readValueWith, h]
  exact ⟨_, rfl, rfl, rfl⟩

theorem Reads.objectValue {reader : Reader Value} {input rest : List Char} {value : Value}
    (h : Reads (readObject runtime reader) input value rest) :
    Reads (readValueWith runtime (some reader)) ('\x7b' :: input) value rest := by
  obtain ⟨parsed, h, rfl, rfl⟩ := h
  unfold Reads
  simp only [readValueWith, h]
  exact ⟨_, rfl, rfl, rfl⟩

/-- Whatever the depth, some reader reads what containers hold. -/
theorem exists_readValue_eq (runtime : Runtime) (depth : Nat) :
    ∃ inner, readValue runtime depth = readValueWith runtime inner := by
  cases depth with
  | zero => exact ⟨none, rfl⟩
  | succ depth => exact ⟨some (readValue runtime depth), rfl⟩

/-- **A written value is read back**, at any level of indentation. -/
theorem Writable.readsWritten (runtime : Runtime) {depth : Nat} {value : Value}
    (h : Writable depth value) :
    ReadsWritten (readValue runtime depth) value := by
  induction h with
  | null depth =>
    obtain ⟨inner, hinner⟩ := exists_readValue_eq runtime depth
    rw [hinner]
    exact fun level rest _ => ⟨_, rfl, rfl, rfl⟩
  | bool depth b =>
    obtain ⟨inner, hinner⟩ := exists_readValue_eq runtime depth
    rw [hinner]
    cases b <;> exact fun level rest _ => ⟨_, rfl, rfl, rfl⟩
  | @int depth n digits =>
    obtain ⟨inner, hinner⟩ := exists_readValue_eq runtime depth
    rw [hinner]
    exact fun level rest hrest => (reads_int digits hrest).number (startsNumber_toString n rest)
  | string depth text =>
    obtain ⟨inner, hinner⟩ := exists_readValue_eq runtime depth
    rw [hinner]
    intro level rest _
    have hliteral : Reads (readValueWith runtime inner) _ _ _ :=
      (reads_literal runtime ('"' :: _) text.toList rest).stringValue
    rw [String.ofList_toList] at hliteral
    have hwrite : (Value.string text).write level ++ rest
        = '"' :: (text.toList.flatMap escapeChar ++ '"' :: rest) := by
      simp only [Value.write, writeString, List.append_assoc, List.cons_append, List.nil_append]
    rw [hwrite]
    exact hliteral
  | @array depth items held ih =>
    intro level rest _
    cases items with
    | nil => exact (reads_emptyArray (skipBlank_of_not_blank rfl rest)).arrayValue
    | cons item items =>
      have hstart : ∀ value ∈ item :: items, StartsWell value :=
        fun value hvalue => (held value hvalue).startsWell
      have hitems := reads_items level ih hstart rest
      rw [← (hstart item List.mem_cons_self).skipBlank (level + 1)] at hitems
      have hopen : ∀ tail, skipBlank (newLine (level + 1) ++ (item.write (level + 1)
          ++ (writeItems level items ++ (newLine level ++ ']' :: rest)))) ≠ ']' :: tail := by
        intro tail
        obtain ⟨c, cs, hwrite, -, hclose, -⟩ := hstart item List.mem_cons_self (level + 1)
        rw [(hstart item List.mem_cons_self).skipBlank (level + 1), hwrite, List.cons_append,
          ne_eq, List.cons.injEq]
        exact fun h => hclose h.1
      have hwrite : (Value.array (item :: items)).write level ++ rest
          = '[' :: (newLine (level + 1) ++ (item.write (level + 1)
            ++ (writeItems level items ++ (newLine level ++ ']' :: rest)))) := by
        simp only [Value.write, List.append_assoc, List.cons_append, List.nil_append]
      rw [hwrite]
      exact (hitems.array hopen).arrayValue
  | @object depth members names held ih =>
    intro level rest _
    cases members with
    | nil => exact (reads_emptyObject (skipBlank_of_not_blank rfl rest)).objectValue
    | cons member members =>
      have hmembers := reads_members level runtime ih
        (fun other hother => (held other hother).startsWell) rest
      have hopen : ∀ tail, skipBlank (newLine (level + 1) ++ (writeMember level member
          ++ (writeMembers level members ++ (newLine level ++ '\x7d' :: rest))))
            ≠ '\x7d' :: tail := by
        intro tail
        rw [skipBlank_writeMember, ne_eq]
        intro h
        rcases member with ⟨name, value⟩
        have hquote : '"' = '\x7d' := (List.cons.inj h).1
        exact absurd hquote (by decide)
      rw [← skipBlank_writeMember] at hmembers
      have hwrite : (Value.object (member :: members)).write level ++ rest
          = '\x7b' :: (newLine (level + 1) ++ (writeMember level member
            ++ (writeMembers level members ++ (newLine level ++ '\x7d' :: rest)))) := by
        simp only [Value.write, List.append_assoc, List.cons_append, List.nil_append]
      have hobject := (hmembers.object hopen).objectValue
      rw [collectMembers_of_nodup names] at hobject
      rw [hwrite]
      exact hobject

/-- **A written text is read back**, at any level of indentation. -/
theorem decode_write {value : Value} (h : Writable runtime.depth value) (level : Nat) :
    decode runtime (value.write level) = .ok value := by
  obtain ⟨c, cs, hwrite, hblank, -, hmark⟩ := h.startsWell level
  have hhead : (value.write level).head? ≠ some (Char.ofNat 0xFEFF) := by
    rw [hwrite, List.head?_cons, ne_eq, Option.some.injEq]
    exact hmark
  have hskip : skipBlank (value.write level) = value.write level := by
    rw [hwrite, skipBlank_of_not_blank hblank]
  have hread :
      Reads (readValue runtime runtime.depth) (skipBlank (value.write level)) value [] := by
    rw [hskip]
    have hwritten := h.readsWritten runtime level [] nofun
    rwa [List.append_nil] at hwritten
  obtain ⟨parsed, hparsed, hvalue, hrest⟩ := hread
  rw [decode, if_neg hhead, hparsed]
  simp only [hrest, hvalue]
  rfl

end VmScan.Json
