import VisualSignParser.Codec.Borsh

/-!
# Derived Borsh codecs

`#[derive(BorshSerialize, BorshDeserialize)]` encodes a struct as its fields and
an enum as the index of a variant.  A layout says which tuple stands for a
value, and gives both directions of the codec.  Whether a value has an encoding
at all depends on nothing but the lengths of the sequences inside of it.
-/

namespace VisualSignParser.Borsh

open VisualSignParser.Framing
open VisualSignParser.OrderedMap

variable {A B : Type}

/-! ## Layouts -/

/-- The fields a value is encoded as, and the value the fields stand for.  Some
fields stand for none, such as the index of a variant that does not exist. -/
structure Layout (A B : Type) where
  fields : A → B
  build : B → Option A
  build_fields : ∀ value, build (fields value) = some value

theorem Layout.fields_injective (layout : Layout A B) : Function.Injective layout.fields := by
  intro left right heq
  have hbuild := congrArg layout.build heq
  rw [layout.build_fields, layout.build_fields] at hbuild
  exact Option.some.inj hbuild

@[reducible]
def Layout.serializer [BorshSerialize B] (layout : Layout A B) : BorshSerialize A :=
  .ofFields layout.fields layout.fields_injective

/-- The reader that belongs to `Layout.serializer`. -/
@[reducible]
def Layout.reader [BorshSerialize B] [BorshDeserialize B] (layout : Layout A B) :
    @BorshDeserialize A layout.serializer :=
  letI : BorshSerialize A := layout.serializer
  { deserialize := fun bytes => do
      let (fields, rest) ← (deserialize bytes : Option (B × Bytes))
      let value ← layout.build fields
      return (value, rest)
    deserialize_serialize := fun {value} _ hbytes rest => by
      have hfields : serialize (layout.fields value) = some _ := hbytes
      simp only [BorshDeserialize.deserialize_serialize hfields rest, Option.bind_eq_bind,
        Option.bind_some, layout.build_fields, Option.pure_def] }

/-! ## Further readers -/

instance : BorshSerialize UInt16 :=
  .ofWidth 2 UInt16.toNat (fun value => by simpa using UInt16.toNat_lt value)
    fun _ _ heq => UInt16.toNat_inj.1 heq

instance : BorshDeserialize UInt16 where
  deserialize := readWidth 2 UInt16.ofNat
  deserialize_serialize hbytes rest := by
    simp only [serialize, Option.some.injEq] at hbytes
    subst hbytes
    exact readWidth_leBytes (fun value => by simpa using UInt16.toNat_lt value)
      (fun value => UInt16.ofNat_toNat) _ rest

instance : BorshDeserialize Int32 :=
  .ofFields Int32.toUInt32 toUInt32_injective Int32.ofUInt32 fun _ => rfl

def boolOfByte (byte : UInt8) : Option Bool :=
  if byte = 0 then some false else if byte = 1 then some true else none

instance : BorshDeserialize Bool where
  deserialize bytes := do
    let (byte, rest) ← (deserialize bytes : Option (UInt8 × Bytes))
    let flag ← boolOfByte byte
    return (flag, rest)
  deserialize_serialize {flag} _ hbytes rest := by
    have hbyte : serialize (if flag then (1 : UInt8) else 0) = some _ := hbytes
    rw [BorshDeserialize.deserialize_serialize hbyte rest]
    cases flag <;> rfl

instance [BorshSerialize A] [BorshDeserialize A] : BorshDeserialize (Option A) where
  deserialize bytes :=
    match bytes with
    | [] => none
    | tag :: tail =>
        if tag = 0 then some (none, tail)
        else if tag = 1 then (deserialize tail).map fun read => (some read.1, read.2)
        else none
  deserialize_serialize {value} _ hbytes rest := by
    cases value with
    | none =>
        cases hbytes
        rfl
    | some value =>
        obtain ⟨bytes, hvalue, rfl⟩ := Option.map_eq_some_iff.1 hbytes
        simp [BorshDeserialize.deserialize_serialize hvalue rest]

/-- The entries are collected: a later entry replaces an earlier one of its key. -/
instance {K V : Type} [LinearOrder K] [BorshSerialize K] [BorshDeserialize K] [BorshSerialize V]
    [BorshDeserialize V] : BorshDeserialize (BTreeMap K V) where
  deserialize bytes :=
    (deserialize bytes : Option (List (K × V) × Bytes)).map fun read =>
      (⟨collectSorted read.1, ascending_collectSorted read.1⟩, read.2)
  deserialize_serialize {map} _ hbytes rest := by
    have hentries : serialize map.entries = some _ := hbytes
    rw [BorshDeserialize.deserialize_serialize hentries rest, Option.map_some]
    obtain ⟨entries, hascending⟩ := map
    simp only [collectSorted_of_ascending hascending]

/-! ## Values with an encoding -/

/-- The lengths of the sequences, strings and maps inside of a value.  The value
has an encoding exactly when a `u32` holds each of them. -/
class BorshLengths (A : Type) [BorshSerialize A] where
  lengths : A → List ℕ
  isSome_serialize_iff : ∀ value,
    (serialize value).isSome ↔ ∀ length ∈ lengths value, length < 2 ^ 32

export BorshLengths (lengths)

/-- Every sequence inside of the value is shorter than `2^32`. -/
def Fits [BorshSerialize A] [BorshLengths A] (value : A) : Prop :=
  ∀ length ∈ lengths value, length < 2 ^ 32

theorem exists_serialize_iff [BorshSerialize A] [BorshLengths A] (value : A) :
    (∃ bytes, serialize value = some bytes) ↔ Fits value := by
  rw [← Option.isSome_iff_exists, BorshLengths.isSome_serialize_iff, Fits]

@[reducible]
def Layout.sizes [BorshSerialize B] [BorshLengths B] (layout : Layout A B) :
    @BorshLengths A layout.serializer :=
  letI : BorshSerialize A := layout.serializer
  { lengths := fun value => lengths (layout.fields value)
    isSome_serialize_iff := fun value =>
      BorshLengths.isSome_serialize_iff (layout.fields value) }

/-- A value of fixed width has no sequence inside. -/
@[reducible]
def BorshLengths.ofTotal [BorshSerialize A] (htotal : ∀ value : A, (serialize value).isSome) :
    BorshLengths A where
  lengths _ := []
  isSome_serialize_iff value := by simp [htotal value]

instance : BorshLengths UInt8 := .ofTotal fun _ => rfl
instance : BorshLengths UInt16 := .ofTotal fun _ => rfl
instance : BorshLengths UInt32 := .ofTotal fun _ => rfl
instance : BorshLengths Int32 := .ofTotal fun _ => rfl
instance : BorshLengths Bool := .ofTotal fun _ => rfl

instance [BorshSerialize A] [BorshLengths A] [BorshSerialize B] [BorshLengths B] :
    BorshLengths (A × B) where
  lengths pair := lengths pair.1 ++ lengths pair.2
  isSome_serialize_iff pair := by
    have hpair : (serialize pair).isSome ↔
        (serialize pair.1).isSome ∧ (serialize pair.2).isSome := by
      simp only [Option.isSome_iff_exists]
      constructor
      · rintro ⟨bytes, hbytes⟩
        obtain ⟨front, hfront, back, hback, -⟩ := serialize_pair_eq_some.1 hbytes
        exact ⟨⟨front, hfront⟩, ⟨back, hback⟩⟩
      · rintro ⟨⟨front, hfront⟩, ⟨back, hback⟩⟩
        exact ⟨_, serialize_pair_eq_some.2 ⟨front, hfront, back, hback, rfl⟩⟩
    rw [hpair, BorshLengths.isSome_serialize_iff, BorshLengths.isSome_serialize_iff]
    simp only [List.mem_append, or_imp, forall_and]

instance [BorshSerialize A] [BorshLengths A] : BorshLengths (Option A) where
  lengths
    | none => []
    | some value => lengths value
  isSome_serialize_iff value := by
    cases value with
    | none => exact iff_of_true rfl (by simp)
    | some value =>
        have hmap : (serialize (some value)).isSome = (serialize value).isSome :=
          Option.isSome_map ..
        rw [hmap, BorshLengths.isSome_serialize_iff]

theorem isSome_serializeElements [BorshSerialize A] (values : List A) :
    (serializeElements values).isSome ↔ ∀ value ∈ values, (serialize value).isSome := by
  induction values with
  | nil => exact iff_of_true rfl (by simp)
  | cons value values ih =>
      have hcons : (serializeElements (value :: values)).isSome ↔
          (serialize value).isSome ∧ (serializeElements values).isSome := by
        rw [serializeElements]
        cases serialize value <;> cases serializeElements values <;> simp
      rw [hcons, ih, List.forall_mem_cons]

theorem isSome_serializeCount (count : ℕ) : (serializeCount count).isSome ↔ count < 2 ^ 32 := by
  unfold serializeCount
  split_ifs with hcount
  · exact iff_of_true rfl hcount
  · exact iff_of_false Bool.false_ne_true hcount

theorem isSome_serialize_list [BorshSerialize A] (values : List A) :
    (serialize values).isSome ↔
      values.length < 2 ^ 32 ∧ ∀ value ∈ values, (serialize value).isSome := by
  rw [← isSome_serializeCount, ← isSome_serializeElements]
  simp only [serialize]
  cases serializeCount values.length <;> cases serializeElements values <;> simp

instance [BorshSerialize A] [BorshLengths A] : BorshLengths (List A) where
  lengths values := values.length :: values.flatMap lengths
  isSome_serialize_iff values := by
    rw [isSome_serialize_list, List.forall_mem_cons, List.forall_mem_flatMap]
    simp only [BorshLengths.isSome_serialize_iff]

instance : BorshLengths String where
  lengths text := [(utf8Bytes text).length]
  isSome_serialize_iff text := by
    have hbytes : (serialize text).isSome = (serialize (utf8Bytes text)).isSome := rfl
    rw [hbytes, isSome_serialize_list, List.forall_mem_singleton]
    exact and_iff_left fun _ _ => rfl

instance {K V : Type} [LinearOrder K] [BorshSerialize K] [BorshLengths K] [BorshSerialize V]
    [BorshLengths V] : BorshLengths (BTreeMap K V) where
  lengths map := lengths map.entries
  isSome_serialize_iff map := BorshLengths.isSome_serialize_iff map.entries

/-! ## The whole codec -/

/-- Values that fit are the ones with an encoding, and the encoding reads back to
its value alone, in front of any other bytes. -/
theorem codec_lawful [BorshSerialize A] [BorshDeserialize A] [BorshLengths A] (value : A) :
    (Fits value ↔ ∃ bytes, serialize value = some bytes) ∧
    ∀ bytes, serialize value = some bytes →
      tryFromSlice bytes = some value ∧
      (∀ rest, deserialize (bytes ++ rest) = some (value, rest)) ∧
      ∀ other, serialize other = some bytes → other = value := by
  refine ⟨(exists_serialize_iff value).symm, fun bytes hbytes => ⟨?_, ?_, ?_⟩⟩
  · exact tryFromSlice_serialize hbytes
  · exact BorshDeserialize.deserialize_serialize hbytes
  · intro other hother
    exact serialize_injective hother hbytes

end VisualSignParser.Borsh
