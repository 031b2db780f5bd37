import VmScan.Proofs.Json.RoundTrip

/-!
# Places of a text

Reading a text goes from one value to the next. A place at which a value is awaited is described
by the containers it stands in and the text that is left.

* `Named` — a name and a colon, up to the value behind them.
* `Awaits` — a place at which a value is awaited, with the containers around it, the innermost
  first. What stands before the place is read; a sibling of the value is read as a value in front
  of a comma.
* `FailsFrom` — reading fails in the value, or in what follows it in the innermost container.

Results:
* `Awaits.decode_error`: what fails at a place fails the whole text.
* `decode_error_of_awaits`: where a value is awaited and cannot be read, the text is not read.
-/

namespace VmScan.Json

open VmScan.Number VmScan.Text

variable {runtime : Runtime}

/-! ## Places at which a value is awaited -/

/-- The character that opens a container. -/
def Container.opening : Container → Char
  | .array => '['
  | .object => '\x7b'

/-- The input starts with a name and a colon, and the value behind them starts with `behind`. -/
def Named (runtime : Runtime) (input behind : List Char) : Prop :=
  ∃ rest name tail afterColon,
    input = '"' :: rest ∧ Reads (readString runtime input) rest name tail ∧
    skipBlank tail = ':' :: afterColon ∧ behind = skipBlank afterColon

/-- The depth that is left inside the containers. -/
def depthIn (runtime : Runtime) (around : List Container) : Nat := runtime.depth - around.length

/-- Reading the text, a value inside the containers is awaited in front of the rest. -/
inductive Awaits (runtime : Runtime) (text : List Char) : List Container → List Char → Prop where
  | start (h : text.head? ≠ some (Char.ofNat 0xFEFF)) : Awaits runtime text [] (skipBlank text)
  | firstItem {around : List Container} {rest : List Char}
      (h : Awaits runtime text around ('[' :: rest))
      (hopen : ∀ tail, skipBlank rest ≠ ']' :: tail) :
      Awaits runtime text (.array :: around) (skipBlank rest)
  | nextItem {around : List Container} {input rest tail : List Char} {value : Value}
      (h : Awaits runtime text (.array :: around) input)
      (hread : Reads (readValue runtime (depthIn runtime (.array :: around))) input value rest)
      (hcomma : skipBlank rest = ',' :: tail) :
      Awaits runtime text (.array :: around) (skipBlank tail)
  | firstMember {around : List Container} {rest behind : List Char}
      (h : Awaits runtime text around ('\x7b' :: rest))
      (hname : Named runtime (skipBlank rest) behind) :
      Awaits runtime text (.object :: around) behind
  | nextMember {around : List Container} {input rest tail behind : List Char} {value : Value}
      (h : Awaits runtime text (.object :: around) input)
      (hread : Reads (readValue runtime (depthIn runtime (.object :: around))) input value rest)
      (hcomma : skipBlank rest = ',' :: tail) (hname : Named runtime (skipBlank tail) behind) :
      Awaits runtime text (.object :: around) behind

/-- Reading fails from an awaited value on: in the value, or in what follows it in the innermost
container. -/
def FailsFrom (runtime : Runtime) : List Container → List Char → Stop → Prop
  | [], input, stop => readValue runtime runtime.depth input = .error stop
  | .array :: around, input, stop =>
    readItems (readValue runtime (depthIn runtime (.array :: around))) input = .error stop
  | .object :: around, input, stop =>
    readValue runtime (depthIn runtime (.object :: around)) input = .error stop ∨
      ∃ value rest tail,
        Reads (readValue runtime (depthIn runtime (.object :: around))) input value rest ∧
        skipBlank rest = ',' :: tail ∧
        readMembers runtime (readValue runtime (depthIn runtime (.object :: around)))
          (skipBlank tail) = .error stop

section Failures

variable {reader : Reader Value} {input rest tail behind text : List Char} {value : Value}
  {stop : Stop} {around : List Container}

theorem readItems_error_of_item (h : reader input = .error stop) :
    readItems reader input = .error stop := by
  rw [readItems]
  simp only [h]

theorem readItems_error_of_next (hread : Reads reader input value rest)
    (hcomma : skipBlank rest = ',' :: tail)
    (h : readItems reader (skipBlank tail) = .error stop) :
    readItems reader input = .error stop := by
  obtain ⟨parsed, hparsed, rfl, rfl⟩ := hread
  rw [readItems_of_comma hparsed hcomma, h]
  rfl

theorem readMember_error_of_value (hname : Named runtime input behind)
    (h : reader behind = .error stop) : readMember runtime reader input = .error stop := by
  obtain ⟨rest, name, tail, afterColon, rfl, ⟨parsed, hparsed, rfl, rfl⟩, hcolon, rfl⟩ := hname
  rw [readMember_of_colon hparsed hcolon, h]
  rfl

/-- A member is read up to the end of its value. -/
theorem Named.reads_member (hname : Named runtime input behind)
    (h : Reads reader behind value rest) :
    ∃ name, Reads (readMember runtime reader) input (name, value) rest := by
  obtain ⟨_, name, tail, afterColon, rfl, hread, hcolon, rfl⟩ := hname
  exact ⟨_, hread.nameAndValue hcolon h⟩

theorem readMembers_error_of_member (h : readMember runtime reader input = .error stop) :
    readMembers runtime reader input = .error stop := by
  rw [readMembers]
  simp only [h]

theorem readMembers_error_of_next {member : String × Value}
    (hread : Reads (readMember runtime reader) input member rest)
    (hcomma : skipBlank rest = ',' :: tail)
    (h : readMembers runtime reader (skipBlank tail) = .error stop) :
    readMembers runtime reader input = .error stop := by
  obtain ⟨parsed, hparsed, rfl, rfl⟩ := hread
  rw [readMembers_of_comma hparsed hcomma, h]
  rfl

theorem readArray_error (hopen : ∀ tail, skipBlank rest ≠ ']' :: tail)
    (h : readItems reader (skipBlank rest) = .error stop) :
    readArray reader rest = .error stop := by
  rw [readArray_of_items hopen, h]
  rfl

theorem readObject_error (hname : Named runtime (skipBlank rest) behind)
    (h : readMembers runtime reader (skipBlank rest) = .error stop) :
    readObject runtime reader rest = .error stop := by
  obtain ⟨_, _, _, _, hquote, -⟩ := hname
  have hopen : ∀ tail, skipBlank rest ≠ '\x7d' :: tail := fun tail hclose => by
    rw [hclose, List.cons.injEq] at hquote
    exact absurd hquote.1 (by decide)
  rw [readObject_of_members hopen, h]
  rfl

/-- A value that cannot be read fails what it stands in. -/
theorem failsFrom_of_value (h : readValue runtime (depthIn runtime around) input = .error stop) :
    FailsFrom runtime around input stop := by
  cases around with
  | nil => exact h
  | cons container around =>
    cases container with
    | array => exact readItems_error_of_item h
    | object => exact Or.inl h

/-- What fails behind a name fails the members from that name on. -/
theorem readMembers_error_of_failsFrom (hname : Named runtime input behind)
    (h : FailsFrom runtime (.object :: around) behind stop) :
    readMembers runtime (readValue runtime (depthIn runtime (.object :: around))) input
      = .error stop := by
  rcases h with h | ⟨value, rest, tail, hread, hcomma, h⟩
  · exact readMembers_error_of_member (readMember_error_of_value hname h)
  · obtain ⟨name, hmember⟩ := hname.reads_member hread
    exact readMembers_error_of_next hmember hcomma h

theorem depthIn_eq_succ (container : Container) (h : (container :: around).length ≤ runtime.depth) :
    depthIn runtime around = depthIn runtime (container :: around) + 1 := by
  rw [List.length_cons] at h
  rw [depthIn, depthIn, List.length_cons]
  omega

/-- **What fails at a place fails the whole text**, from container to container outwards. -/
theorem Awaits.decode_error (hawaits : Awaits runtime text around input)
    (hdepth : around.length ≤ runtime.depth) (h : FailsFrom runtime around input stop) :
    decode runtime text = .error stop := by
  induction hawaits with
  | start hmark =>
    rw [decode, if_neg hmark]
    simp only [show readValue runtime runtime.depth (skipBlank text) = .error stop from h]
  | @firstItem around rest _ hopen ih =>
    refine ih (Nat.le_of_succ_le hdepth) (failsFrom_of_value ?_)
    rw [depthIn_eq_succ .array hdepth, readValue, readValueWith, readArray_error hopen h]
    rfl
  | nextItem _ hread hcomma ih => exact ih hdepth (readItems_error_of_next hread hcomma h)
  | @firstMember around rest behind _ hname ih =>
    refine ih (Nat.le_of_succ_le hdepth) (failsFrom_of_value ?_)
    rw [depthIn_eq_succ .object hdepth, readValue, readValueWith,
      readObject_error hname (readMembers_error_of_failsFrom hname h)]
    rfl
  | nextMember _ hread hcomma hname ih =>
    exact ih hdepth (Or.inr ⟨_, _, _, hread, hcomma, readMembers_error_of_failsFrom hname h⟩)

/-- **Where a value is awaited and cannot be read, the text is not read.** -/
theorem decode_error_of_awaits (hawaits : Awaits runtime text around input)
    (hdepth : around.length ≤ runtime.depth)
    (h : readValue runtime (depthIn runtime around) input = .error stop) :
    decode runtime text = .error stop :=
  hawaits.decode_error hdepth (failsFrom_of_value h)

end Failures

end VmScan.Json
