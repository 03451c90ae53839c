import VisualSignParser.Codec.Framing
import VisualSignParser.Codec.OrderedMap

/-!
# Borsh

Borsh concatenates the encodings of a value's parts: integers in little-endian
order, a one-byte tag in front of an option or an enum variant, a `u32` count
in front of a sequence, a string or a map, and the fields of a struct in their
declared order.  Nothing separates the parts, so the fact every caller needs is
that an encoding can be split off the front of a longer byte string.  The
serializer class carries that fact and the reader class carries its round trip.
A sequence of `2^32` or more elements has no encoding.
-/

namespace VisualSignParser.Borsh

open VisualSignParser.Framing
open VisualSignParser.OrderedMap

/-- `BorshSerialize`, together with the fact that two encodings with
arbitrary bytes behind them coincide only for equal values and equal rests. -/
class BorshSerialize (A : Type) where
  serialize : A → Option Bytes
  unambiguous : ∀ {left right : A} {leftBytes rightBytes leftRest rightRest : Bytes},
    serialize left = some leftBytes → serialize right = some rightBytes →
    leftBytes ++ leftRest = rightBytes ++ rightRest → left = right ∧ leftRest = rightRest

export BorshSerialize (serialize)

/-- `BorshDeserialize`: read one value off the front of a byte string. -/
class BorshDeserialize (A : Type) [BorshSerialize A] where
  deserialize : Bytes → Option (A × Bytes)
  deserialize_serialize : ∀ {value : A} {bytes : Bytes}, serialize value = some bytes →
    ∀ rest, deserialize (bytes ++ rest) = some (value, rest)

export BorshDeserialize (deserialize)

variable {A B : Type}

/-- `BorshDeserialize::try_from_slice`: the value must use up every byte. -/
def tryFromSlice [BorshSerialize A] [BorshDeserialize A] (bytes : Bytes) : Option A :=
  match (deserialize bytes : Option (A × Bytes)) with
  | some (value, []) => some value
  | _ => none

theorem tryFromSlice_serialize [BorshSerialize A] [BorshDeserialize A] {value : A}
    {bytes : Bytes} (hbytes : serialize value = some bytes) :
    tryFromSlice bytes = some value := by
  have hread := BorshDeserialize.deserialize_serialize hbytes []
  rw [List.append_nil] at hread
  simp [tryFromSlice, hread]

theorem serialize_injective [BorshSerialize A] {left right : A} {bytes : Bytes}
    (hleft : serialize left = some bytes) (hright : serialize right = some bytes) :
    left = right := by
  have happend : bytes ++ [] = bytes ++ [] := rfl
  exact (BorshSerialize.unambiguous hleft hright happend).1

/-- A struct is encoded as the tuple of its fields. -/
@[reducible]
def BorshSerialize.ofFields [BorshSerialize B] (fields : A → B)
    (hfields : Function.Injective fields) : BorshSerialize A where
  serialize value := serialize (fields value)
  unambiguous hleft hright heq := by
    obtain ⟨hvalue, hrest⟩ := BorshSerialize.unambiguous hleft hright heq
    exact ⟨hfields hvalue, hrest⟩

@[reducible]
def BorshDeserialize.ofFields [BorshSerialize B] [BorshDeserialize B] (fields : A → B)
    (hfields : Function.Injective fields) (build : B → A)
    (hbuild : ∀ value, build (fields value) = value) :
    @BorshDeserialize A (.ofFields fields hfields) :=
  letI : BorshSerialize A := .ofFields fields hfields
  { deserialize := fun bytes =>
      (deserialize bytes : Option (B × Bytes)).map fun read => (build read.1, read.2)
    deserialize_serialize := fun hbytes rest => by
      have hread : serialize (fields _) = some _ := hbytes
      rw [BorshDeserialize.deserialize_serialize hread rest, Option.map_some, hbuild] }

/-- An enum is encoded as the index of its variant and the variant's fields. -/
@[reducible]
def BorshSerialize.ofVariants (index : A → UInt8) (fields : A → Option Bytes)
    (hfields : ∀ {left right : A} {leftBytes rightBytes leftRest rightRest : Bytes},
      index left = index right → fields left = some leftBytes → fields right = some rightBytes →
      leftBytes ++ leftRest = rightBytes ++ rightRest → left = right ∧ leftRest = rightRest) :
    BorshSerialize A where
  serialize value := (fields value).map (index value :: ·)
  unambiguous hleft hright heq := by
    obtain ⟨leftBytes, hleftBytes, rfl⟩ := Option.map_eq_some_iff.1 hleft
    obtain ⟨rightBytes, hrightBytes, rfl⟩ := Option.map_eq_some_iff.1 hright
    rw [List.cons_append, List.cons_append, List.cons.injEq] at heq
    exact hfields heq.1 hleftBytes hrightBytes heq.2

/-! ## Integers, flags and fixed arrays -/

/-- A fixed-width little-endian integer. -/
@[reducible]
def BorshSerialize.ofWidth (width : ℕ) (toNat : A → ℕ) (hbound : ∀ value, toNat value < 256 ^ width)
    (hinjective : Function.Injective toNat) : BorshSerialize A where
  serialize value := some (leBytes width (toNat value))
  unambiguous hleft hright heq := by
    simp only [Option.some.injEq] at hleft hright
    subst hleft hright
    obtain ⟨hvalue, hrest⟩ := List.append_inj heq (by simp)
    exact ⟨hinjective (leBytes_injective (hbound _) (hbound _) hvalue), hrest⟩

/-- Read a fixed-width little-endian integer. -/
def readWidth (width : ℕ) (ofNat : ℕ → A) (bytes : Bytes) : Option (A × Bytes) :=
  (takeExact width bytes).map fun read => (ofNat (ofLeBytes read.1), read.2)

theorem readWidth_leBytes {width : ℕ} {toNat : A → ℕ} {ofNat : ℕ → A}
    (hbound : ∀ value, toNat value < 256 ^ width) (hinverse : ∀ value, ofNat (toNat value) = value)
    (value : A) (rest : Bytes) :
    readWidth width ofNat (leBytes width (toNat value) ++ rest) = some (value, rest) := by
  have hread := takeExact_append (leBytes width (toNat value)) rest
  rw [length_leBytes] at hread
  rw [readWidth, hread, Option.map_some, ofLeBytes_leBytes (hbound value), hinverse]

instance : BorshSerialize UInt8 :=
  .ofWidth 1 UInt8.toNat (fun value => by simpa using UInt8.toNat_lt value)
    fun _ _ heq => UInt8.toNat_inj.1 heq

instance : BorshDeserialize UInt8 where
  deserialize := readWidth 1 UInt8.ofNat
  deserialize_serialize hbytes rest := by
    simp only [serialize, Option.some.injEq] at hbytes
    subst hbytes
    exact readWidth_leBytes (fun value => by simpa using UInt8.toNat_lt value)
      (fun value => UInt8.ofNat_toNat) _ rest

instance : BorshSerialize UInt32 :=
  .ofWidth 4 UInt32.toNat (fun value => by simpa using UInt32.toNat_lt value)
    fun _ _ heq => UInt32.toNat_inj.1 heq

instance : BorshDeserialize UInt32 where
  deserialize := readWidth 4 UInt32.ofNat
  deserialize_serialize hbytes rest := by
    simp only [serialize, Option.some.injEq] at hbytes
    subst hbytes
    exact readWidth_leBytes (fun value => by simpa using UInt32.toNat_lt value)
      (fun value => UInt32.ofNat_toNat) _ rest

instance : BorshSerialize UInt64 :=
  .ofWidth 8 UInt64.toNat (fun value => by simpa using UInt64.toNat_lt value)
    fun _ _ heq => UInt64.toNat_inj.1 heq

instance : BorshDeserialize UInt64 where
  deserialize := readWidth 8 UInt64.ofNat
  deserialize_serialize hbytes rest := by
    simp only [serialize, Option.some.injEq] at hbytes
    subst hbytes
    exact readWidth_leBytes (fun value => by simpa using UInt64.toNat_lt value)
      (fun value => UInt64.ofNat_toNat) _ rest

/-- A signed integer is encoded as its two's complement. -/
theorem toUInt32_injective : Function.Injective Int32.toUInt32 := by
  intro left right heq
  exact congrArg Int32.ofUInt32 heq

instance : BorshSerialize Int32 := .ofFields Int32.toUInt32 toUInt32_injective

instance : BorshSerialize Bool :=
  .ofFields (fun flag => if flag then (1 : UInt8) else 0) (by decide)

instance {length : ℕ} : BorshSerialize (ByteArr length) where
  serialize value := some value.1
  unambiguous {left right} _ _ _ _ hleft hright heq := by
    simp only [Option.some.injEq] at hleft hright
    subst hleft hright
    obtain ⟨hvalue, hrest⟩ := List.append_inj heq (left.2.trans right.2.symm)
    exact ⟨Subtype.ext hvalue, hrest⟩

instance {length : ℕ} : BorshDeserialize (ByteArr length) where
  deserialize bytes :=
    match hread : takeExact length bytes with
    | some (field, rest) => some (⟨field, (takeExact_eq_some hread).2⟩, rest)
    | none => none
  deserialize_serialize {value} _ hbytes rest := by
    simp only [serialize, Option.some.injEq] at hbytes
    subst hbytes
    have hread := takeExact_append value.1 rest
    rw [value.2] at hread
    split
    · rename_i field tail htaken
      rw [hread] at htaken
      simp only [Option.some.injEq, Prod.mk.injEq] at htaken
      simp [← htaken.1, htaken.2]
    · rename_i htaken
      simp [hread] at htaken

/-! ## Tuples, options and sequences -/

instance [BorshSerialize A] [BorshSerialize B] : BorshSerialize (A × B) where
  serialize pair := do
    let first ← serialize pair.1
    let second ← serialize pair.2
    return first ++ second
  unambiguous {left right} _ _ _ _ hleft hright heq := by
    simp only [Option.bind_eq_bind, Option.bind_eq_some_iff, Option.pure_def,
      Option.some.injEq] at hleft hright
    obtain ⟨leftFirst, hleftFirst, leftSecond, hleftSecond, rfl⟩ := hleft
    obtain ⟨rightFirst, hrightFirst, rightSecond, hrightSecond, rfl⟩ := hright
    rw [List.append_assoc, List.append_assoc] at heq
    obtain ⟨hfirst, htail⟩ := BorshSerialize.unambiguous hleftFirst hrightFirst heq
    obtain ⟨hsecond, hrest⟩ := BorshSerialize.unambiguous hleftSecond hrightSecond htail
    exact ⟨Prod.ext hfirst hsecond, hrest⟩

theorem serialize_pair_eq_some [BorshSerialize A] [BorshSerialize B] {first : A} {second : B}
    {bytes : Bytes} :
    serialize (first, second) = some bytes ↔ ∃ front, serialize first = some front ∧
      ∃ back, serialize second = some back ∧ front ++ back = bytes := by
  simp only [serialize, Option.bind_eq_bind, Option.bind_eq_some_iff, Option.pure_def,
    Option.some.injEq]

instance [BorshSerialize A] [BorshDeserialize A] [BorshSerialize B] [BorshDeserialize B] :
    BorshDeserialize (A × B) where
  deserialize bytes := do
    let (first, tail) ← (deserialize bytes : Option (A × Bytes))
    let (second, rest) ← (deserialize tail : Option (B × Bytes))
    return ((first, second), rest)
  deserialize_serialize {value} _ hbytes rest := by
    simp only [serialize, Option.bind_eq_bind, Option.bind_eq_some_iff, Option.pure_def,
      Option.some.injEq] at hbytes
    obtain ⟨first, hfirst, second, hsecond, rfl⟩ := hbytes
    simp [List.append_assoc, BorshDeserialize.deserialize_serialize hfirst,
      BorshDeserialize.deserialize_serialize hsecond]

instance [BorshSerialize A] : BorshSerialize (Option A) where
  serialize
    | none => some [0]
    | some value => (serialize value).map (1 :: ·)
  unambiguous {left right} _ _ _ _ hleft hright heq := by
    cases left with
    | none =>
        cases right with
        | none =>
            simp only [Option.some.injEq] at hleft hright
            subst hleft hright
            simpa using heq
        | some value =>
            simp only [Option.some.injEq, Option.map_eq_some_iff] at hleft hright
            obtain ⟨bytes, -, rfl⟩ := hright
            simp [← hleft] at heq
    | some leftValue =>
        cases right with
        | none =>
            simp only [Option.some.injEq, Option.map_eq_some_iff] at hleft hright
            obtain ⟨bytes, -, rfl⟩ := hleft
            simp [← hright] at heq
        | some rightValue =>
            simp only [Option.map_eq_some_iff] at hleft hright
            obtain ⟨leftBytes, hleft, rfl⟩ := hleft
            obtain ⟨rightBytes, hright, rfl⟩ := hright
            simp only [List.cons_append, List.cons.injEq, true_and] at heq
            obtain ⟨hvalue, hrest⟩ := BorshSerialize.unambiguous hleft hright heq
            exact ⟨congrArg some hvalue, hrest⟩

/-- The elements of a sequence, without the count in front. -/
def serializeElements [BorshSerialize A] : List A → Option Bytes
  | [] => some []
  | value :: values => do
      let first ← serialize value
      let rest ← serializeElements values
      return first ++ rest

theorem serializeElements_unambiguous [BorshSerialize A] {left right : List A}
    {leftBytes rightBytes leftRest rightRest : Bytes}
    (hlength : left.length = right.length)
    (hleft : serializeElements left = some leftBytes)
    (hright : serializeElements right = some rightBytes)
    (heq : leftBytes ++ leftRest = rightBytes ++ rightRest) :
    left = right ∧ leftRest = rightRest := by
  induction left generalizing right leftBytes rightBytes with
  | nil =>
      obtain rfl : right = [] := by simpa [eq_comm] using hlength
      simp only [serializeElements, Option.some.injEq] at hleft hright
      subst hleft hright
      exact ⟨rfl, heq⟩
  | cons leftHead leftTail ih =>
      cases right with
      | nil => simp at hlength
      | cons rightHead rightTail =>
          simp only [serializeElements, Option.bind_eq_bind, Option.bind_eq_some_iff,
            Option.pure_def, Option.some.injEq] at hleft hright
          obtain ⟨leftFirst, hleftFirst, leftOthers, hleftOthers, rfl⟩ := hleft
          obtain ⟨rightFirst, hrightFirst, rightOthers, hrightOthers, rfl⟩ := hright
          rw [List.append_assoc, List.append_assoc] at heq
          obtain ⟨hhead, htail⟩ := BorshSerialize.unambiguous hleftFirst hrightFirst heq
          obtain ⟨hothers, hrest⟩ :=
            ih (by simpa using hlength) hleftOthers hrightOthers htail
          exact ⟨by rw [hhead, hothers], hrest⟩

/-- The `u32` count in front of a sequence. -/
def serializeCount (count : ℕ) : Option Bytes :=
  if count < 2 ^ 32 then some (leBytes 4 count) else none

theorem serializeCount_eq_some {count : ℕ} {bytes : Bytes}
    (hbytes : serializeCount count = some bytes) :
    count < 256 ^ 4 ∧ bytes = leBytes 4 count := by
  unfold serializeCount at hbytes
  split at hbytes
  · rename_i hcount
    exact ⟨by simpa using hcount, by simpa [eq_comm] using hbytes⟩
  · simp at hbytes

instance [BorshSerialize A] : BorshSerialize (List A) where
  serialize values := do
    let count ← serializeCount values.length
    let elements ← serializeElements values
    return count ++ elements
  unambiguous {left right} _ _ _ _ hleft hright heq := by
    simp only [Option.bind_eq_bind, Option.bind_eq_some_iff, Option.pure_def,
      Option.some.injEq] at hleft hright
    obtain ⟨leftCount, hleftCount, leftElements, hleftElements, rfl⟩ := hleft
    obtain ⟨rightCount, hrightCount, rightElements, hrightElements, rfl⟩ := hright
    obtain ⟨hleftBound, rfl⟩ := serializeCount_eq_some hleftCount
    obtain ⟨hrightBound, rfl⟩ := serializeCount_eq_some hrightCount
    rw [List.append_assoc, List.append_assoc] at heq
    obtain ⟨hcount, helements⟩ := List.append_inj heq (by simp)
    exact serializeElements_unambiguous (leBytes_injective hleftBound hrightBound hcount)
      hleftElements hrightElements helements

/-- Read `count` elements. -/
def deserializeElements [BorshSerialize A] [BorshDeserialize A] :
    (count : ℕ) → Bytes → Option (List A × Bytes)
  | 0, bytes => some ([], bytes)
  | count + 1, bytes => do
      let (value, tail) ← deserialize bytes
      let (values, rest) ← deserializeElements count tail
      return (value :: values, rest)

theorem deserializeElements_serializeElements [BorshSerialize A] [BorshDeserialize A]
    {values : List A} {bytes : Bytes} (hbytes : serializeElements values = some bytes)
    (rest : Bytes) :
    deserializeElements values.length (bytes ++ rest) = some (values, rest) := by
  induction values generalizing bytes with
  | nil =>
      simp only [serializeElements, Option.some.injEq] at hbytes
      simp [← hbytes, deserializeElements]
  | cons value values ih =>
      simp only [serializeElements, Option.bind_eq_bind, Option.bind_eq_some_iff,
        Option.pure_def, Option.some.injEq] at hbytes
      obtain ⟨first, hfirst, others, hothers, rfl⟩ := hbytes
      simp [deserializeElements, List.append_assoc,
        BorshDeserialize.deserialize_serialize hfirst, ih hothers]

/-- Read the `u32` count in front of a sequence. -/
def deserializeCount (bytes : Bytes) : Option (ℕ × Bytes) := readWidth 4 id bytes

theorem deserializeCount_append {count : ℕ} (hcount : count < 256 ^ 4) (rest : Bytes) :
    deserializeCount (leBytes 4 count ++ rest) = some (count, rest) := by
  have hread := takeExact_append (leBytes 4 count) rest
  rw [length_leBytes] at hread
  simp [deserializeCount, readWidth, hread, ofLeBytes_leBytes hcount]

instance [BorshSerialize A] [BorshDeserialize A] : BorshDeserialize (List A) where
  deserialize bytes := do
    let (count, tail) ← deserializeCount bytes
    deserializeElements count tail
  deserialize_serialize {value} _ hbytes rest := by
    simp only [serialize, Option.bind_eq_bind, Option.bind_eq_some_iff, Option.pure_def,
      Option.some.injEq] at hbytes
    obtain ⟨count, hcount, elements, helements, rfl⟩ := hbytes
    obtain ⟨hbound, rfl⟩ := serializeCount_eq_some hcount
    simp [List.append_assoc, deserializeCount_append hbound,
      deserializeElements_serializeElements helements]

theorem serializeElements_bytes (bytes : Bytes) : serializeElements bytes = some bytes := by
  induction bytes with
  | nil => rfl
  | cons byte bytes ih => simp [serializeElements, serialize, ih, leBytes]

/-- A byte vector is its length-prefixed bytes. -/
theorem serialize_bytes {bytes : Bytes} (hlength : bytes.length < 2 ^ 32) :
    serialize bytes = some (lenPrefixed 4 bytes) := by
  simp only [serialize, serializeCount, if_pos hlength, serializeElements_bytes, lenPrefixed,
    Option.bind_eq_bind, Option.bind_some, Option.pure_def]

theorem length_lt_of_serialize_bytes {bytes encoded : Bytes}
    (hencoded : serialize bytes = some encoded) : bytes.length < 2 ^ 32 := by
  simp only [serialize, Option.bind_eq_bind, Option.bind_eq_some_iff] at hencoded
  obtain ⟨count, hcount, -⟩ := hencoded
  exact (serializeCount_eq_some hcount).1

/-! ## Strings and maps -/

instance : BorshSerialize String := .ofFields utf8Bytes utf8Bytes_injective

instance : BorshDeserialize String where
  deserialize bytes := do
    let (text, rest) ← (deserialize bytes : Option (Bytes × Bytes))
    let value ← ofUtf8Bytes text
    return (value, rest)
  deserialize_serialize {value} _ hbytes rest := by
    have htext : serialize (utf8Bytes value) = some _ := hbytes
    simp [BorshDeserialize.deserialize_serialize htext, ofUtf8Bytes_utf8Bytes]

/-- A string is its length-prefixed UTF-8 bytes. -/
theorem serialize_string {text : String} (hlength : (utf8Bytes text).length < 2 ^ 32) :
    serialize text = some (lenPrefixed 4 (utf8Bytes text)) :=
  serialize_bytes hlength

theorem length_lt_of_serialize_string {text : String} {encoded : Bytes}
    (hencoded : serialize text = some encoded) : (utf8Bytes text).length < 2 ^ 32 :=
  length_lt_of_serialize_bytes hencoded

/-- A map is encoded as its entries in key order. -/
instance {K V : Type} [LinearOrder K] [BorshSerialize K] [BorshSerialize V] :
    BorshSerialize (BTreeMap K V) :=
  .ofFields BTreeMap.entries fun left right heq => by
    cases left
    cases right
    congr

end VisualSignParser.Borsh
