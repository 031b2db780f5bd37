import VmScan.Proofs.Json.Readings
import VmScan.Proofs.Number.Range

/-!
# The numbers that are read

Every binary64 number in a decoded value was rounded to the format, however deep it stands.

* `Value.InFormat` — all binary64 numbers of a value are within the format.
* `Yields` — whatever a reader reads has a property.

Results:
* `Yields.items`, `Yields.members`: what the inside of a container has from what it is read with.
* `yields_readValue`: a value, at any depth.
* `inFormat_decode`: a whole text.
-/

namespace VmScan.Json

open VmScan.Number

variable {runtime : Runtime}

/-- All binary64 numbers of the value are within the format. -/
inductive Value.InFormat : Value → Prop where
  | null : InFormat .null
  | bool (b : Bool) : InFormat (.bool b)
  | int (n : Int) : InFormat (.int n)
  | float {x : Binary64} (h : x.InFormat) : InFormat (.float x)
  | string (text : String) : InFormat (.string text)
  | array {items : List Value} (held : ∀ item ∈ items, InFormat item) : InFormat (.array items)
  | object {members : Members} (held : ∀ member ∈ members, InFormat member.2) :
      InFormat (.object members)

/-- Whatever the reader reads has the property. -/
def Yields {α : Type} (reader : Reader α) (property : α → Prop) : Prop :=
  ∀ input parsed, reader input = .ok parsed → property parsed.value

theorem yields_iff {α : Type} {reader : Reader α} {property : α → Prop} :
    Yields reader property ↔
      ∀ input value rest, Reads reader input value rest → property value := by
  constructor
  · rintro h input value rest ⟨parsed, hread, rfl, -⟩
    exact h input parsed hread
  · intro h input parsed hread
    exact h input parsed.value parsed.rest ⟨parsed, hread, rfl, rfl⟩

theorem Yields.of_reads {α : Type} {reader : Reader α} {property : α → Prop}
    (h : Yields reader property) {input rest : List Char} {value : α}
    (hread : Reads reader input value rest) : property value :=
  yields_iff.mp h input value rest hread

/-! ## Numbers -/

theorem inFormat_numberOf {negative : Bool} {whole fraction : List Char} {exponent : Option Int}
    {value : Value} (h : numberOf negative whole fraction exponent = .ok value) :
    value.InFormat := by
  unfold numberOf at h
  split_ifs at h
  · cases h
    exact .int _
  · cases h
    exact .float (Binary64.inFormat_ofDecimal ..)

theorem yields_readNumber : Yields readNumber Value.InFormat := by
  intro input parsed h
  unfold readNumber at h
  extract_lets negative body hbody whole hwhole at h
  split at h
  · cases h
  · split at h
    · cases h
    · next value hnumber =>
      cases h
      exact inFormat_numberOf hnumber

/-! ## Containers -/

section Containers

variable {reader : Reader Value} {property : Value → Prop}

theorem Yields.items (h : Yields reader property) :
    Yields (readItems reader) fun values => ∀ value ∈ values, property value := by
  refine yields_iff.mpr fun input values rest hread => ?_
  induction hn : input.length using Nat.strongRecOn generalizing input values with
  | ind n ih =>
    obtain ⟨value, behind, hfirst, ⟨rfl, -⟩ | ⟨tail, more, rfl, -, hshort, hmore⟩⟩ :=
      hread.items_cases
    · exact List.forall_mem_singleton.mpr (h.of_reads hfirst)
    · exact List.forall_mem_cons.mpr ⟨h.of_reads hfirst, ih _ (hn ▸ hshort) _ _ hmore rfl⟩

theorem Yields.member (h : Yields reader property) :
    Yields (readMember runtime reader) fun member => property member.2 := by
  refine yields_iff.mpr fun input member rest hread => ?_
  obtain ⟨opened, name, tail, behind, value, -, rfl, -, -, hvalue⟩ := hread.member_cases
  exact h.of_reads hvalue

theorem Yields.members (h : Yields reader property) :
    Yields (readMembers runtime reader) fun members => ∀ member ∈ members, property member.2 := by
  refine yields_iff.mpr fun input members rest hread => ?_
  induction hn : input.length using Nat.strongRecOn generalizing input members with
  | ind n ih =>
    obtain ⟨member, behind, hfirst, ⟨rfl, -⟩ | ⟨tail, more, rfl, -, hshort, hmore⟩⟩ :=
      hread.members_cases
    · exact List.forall_mem_singleton.mpr (h.member.of_reads hfirst)
    · exact List.forall_mem_cons.mpr
        ⟨h.member.of_reads hfirst, ih _ (hn ▸ hshort) _ _ hmore rfl⟩

/-- Giving a name its value brings no other value in. -/
theorem forall_mem_setMember {name : String} {value : Value} {members : Members}
    (hvalue : property value) (h : ∀ member ∈ members, property member.2) :
    ∀ member ∈ setMember name value members, property member.2 := by
  induction members with
  | nil => exact List.forall_mem_singleton.mpr hvalue
  | cons first rest ih =>
    obtain ⟨hfirst, hrest⟩ := List.forall_mem_cons.mp h
    unfold setMember
    split
    · exact List.forall_mem_cons.mpr ⟨hvalue, hrest⟩
    · exact List.forall_mem_cons.mpr ⟨hfirst, ih hrest⟩

theorem forall_mem_collectMembers {written : Members}
    (h : ∀ member ∈ written, property member.2) :
    ∀ member ∈ collectMembers written, property member.2 := by
  have hfold : ∀ kept : Members, (∀ member ∈ kept, property member.2) →
      ∀ member ∈ written.foldl (fun kept member => setMember member.1 member.2 kept) kept,
        property member.2 := by
    induction written with
    | nil => exact fun kept hkept => hkept
    | cons first rest ih =>
      obtain ⟨hfirst, hrest⟩ := List.forall_mem_cons.mp h
      exact fun kept hkept => ih hrest _ (forall_mem_setMember hfirst hkept)
  rw [collectMembers_eq_foldl]
  exact hfold [] (List.forall_mem_nil _)

theorem Yields.arrayInFormat (h : Yields reader Value.InFormat) :
    Yields (readArray reader) Value.InFormat := by
  refine yields_iff.mpr fun input value rest hread => ?_
  rcases hread.array_cases with ⟨rfl, -⟩ | ⟨values, rfl, -, hvalues⟩
  · exact .array (List.forall_mem_nil _)
  · exact .array (h.items.of_reads hvalues)

theorem Yields.objectInFormat (h : Yields reader Value.InFormat) :
    Yields (readObject runtime reader) Value.InFormat := by
  refine yields_iff.mpr fun input value rest hread => ?_
  rcases hread.object_cases with ⟨rfl, -⟩ | ⟨members, rfl, -, hmembers⟩
  · exact .object (List.forall_mem_nil _)
  · exact .object (forall_mem_collectMembers (h.members.of_reads hmembers))

end Containers

/-! ## Values -/

theorem WordValue.inFormat {text : List Char} {value : Value} (h : WordValue text value) :
    value.InFormat := by
  cases h with
  | null => exact .null
  | true | false => exact .bool _
  | nan | infinity | minusInfinity => exact .float trivial

theorem yields_readValueWith {inner : Option (Reader Value)}
    (h : ∀ reader ∈ inner, Yields reader Value.InFormat) :
    Yields (readValueWith runtime inner) Value.InFormat := by
  refine yields_iff.mpr fun input value rest hread => ?_
  cases hread.value_cases with
  | word hword => exact hword.inFormat
  | string _ hvalue =>
    rw [hvalue]
    exact .string _
  | array hreader _ harray => exact (h _ hreader).arrayInFormat.of_reads harray
  | object hreader _ hobject => exact (h _ hreader).objectInFormat.of_reads hobject
  | number hnumber => exact yields_readNumber.of_reads hnumber

/-- **Every number in a value that is read is within the format**, at any depth. -/
theorem yields_readValue (depth : Nat) : Yields (readValue runtime depth) Value.InFormat := by
  induction depth with
  | zero => exact yields_readValueWith nofun
  | succ depth ih =>
    refine yields_readValueWith fun reader hreader => ?_
    obtain rfl := Option.some.inj hreader
    exact ih

theorem inFormat_decode {text : List Char} {value : Value} (h : decode runtime text = .ok value) :
    value.InFormat := by
  obtain ⟨-, rest, hread, -⟩ := decode_eq_ok_iff.mp h
  exact (yields_readValue runtime.depth).of_reads hread

end VmScan.Json
