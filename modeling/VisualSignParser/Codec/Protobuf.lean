import VisualSignParser.Codec.Framing

/-!
# The wire format of protocol buffers

A message is a sequence of fields, each behind a key that holds its number and
its wire type.  The encoding is the one every reader agrees on.  The reader here
is a strict one: it takes any sequence of whole fields and refuses bytes that
end within a field, where a reader may do otherwise.  Which numbers a message
knows is decided above this level.  Fields inside of a group are skipped.
-/

namespace VisualSignParser.Protobuf

open VisualSignParser.Framing

/-! ## Varints -/

/-- Seven bits a byte, low bits first, in at most so many bytes. -/
def varintWithin : (width value : ℕ) → Bytes
  | 0, _ => []
  | width + 1, value =>
      if value < 128 then [UInt8.ofNat value]
      else UInt8.ofNat (value % 128 + 128) :: varintWithin width (value / 128)

/-- Ten bytes hold 64 bits. -/
def varint (value : ℕ) : Bytes := varintWithin 10 value

def readVarintWithin : ℕ → Bytes → Option (ℕ × Bytes)
  | 0, _ => none
  | _ + 1, [] => none
  | width + 1, byte :: rest =>
      if byte.toNat < 128 then some (byte.toNat, rest)
      else (readVarintWithin width rest).map fun result =>
        (byte.toNat - 128 + 128 * result.1, result.2)

/-- A varint below the bound. -/
def readVarint (bound : ℕ) (bytes : Bytes) : Option (ℕ × Bytes) :=
  (readVarintWithin 10 bytes).bind fun result => if result.1 < bound then some result else none

theorem readVarintWithin_append {width value : ℕ} (hvalue : value < 128 ^ (width + 1))
    (rest : Bytes) :
    readVarintWithin (width + 1) (varintWithin (width + 1) value ++ rest) = some (value, rest) := by
  induction width generalizing value with
  | zero =>
      have hsmall : value < 128 := by simpa using hvalue
      have hbyte : (UInt8.ofNat value).toNat = value := by
        rw [UInt8.toNat_ofNat', Nat.mod_eq_of_lt (by omega)]
      rw [varintWithin, if_pos hsmall, List.singleton_append, readVarintWithin, hbyte,
        if_pos hsmall]
  | succ width ih =>
      rw [varintWithin]
      split_ifs with hsmall
      · have hbyte : (UInt8.ofNat value).toNat = value := by
          rw [UInt8.toNat_ofNat', Nat.mod_eq_of_lt (by omega)]
        rw [List.singleton_append, readVarintWithin, hbyte, if_pos hsmall]
      · have hbyte : (UInt8.ofNat (value % 128 + 128)).toNat = value % 128 + 128 := by
          rw [UInt8.toNat_ofNat', Nat.mod_eq_of_lt (by omega)]
        have hdiv : value / 128 < 128 ^ (width + 1) :=
          Nat.div_lt_of_lt_mul (by rwa [pow_succ, Nat.mul_comm] at hvalue)
        rw [List.cons_append, readVarintWithin, hbyte, if_neg (by omega), ih hdiv, Option.map_some]
        congr 2
        omega

theorem readVarint_append {bound value : ℕ} (hvalue : value < bound) (hbound : bound ≤ 2 ^ 64)
    (rest : Bytes) : readVarint bound (varint value ++ rest) = some (value, rest) := by
  have hwidth : value < 128 ^ 10 := by
    have hlarge : 2 ^ 64 ≤ 128 ^ 10 := by decide
    omega
  rw [readVarint, varint, readVarintWithin_append hwidth, Option.bind_some, if_pos hvalue]

theorem length_varint_pos (value : ℕ) : 0 < (varint value).length := by
  rw [varint, varintWithin]
  split_ifs
  · exact Nat.one_pos
  · exact Nat.succ_pos _

/-! ## Fields -/

inductive WireValue where
  | varint (value : UInt64)
  | fixed64 (bytes : ByteArr 8)
  | delimited (payload : Bytes)
  | fixed32 (bytes : ByteArr 4)
  deriving DecidableEq

def WireValue.wireType : WireValue → ℕ
  | .varint _ => 0
  | .fixed64 _ => 1
  | .delimited _ => 2
  | .fixed32 _ => 5

def WireValue.write : WireValue → Bytes
  | .varint value => Protobuf.varint value.toNat
  | .fixed64 bytes => bytes.val
  | .delimited payload => Protobuf.varint payload.length ++ payload
  | .fixed32 bytes => bytes.val

/-- No value is written behind a group marker. -/
theorem WireValue.wireType_cases (value : WireValue) :
    value.wireType < 8 ∧ value.wireType ≠ 3 ∧ value.wireType ≠ 4 := by
  cases value <;> simp [WireValue.wireType]

/-- A payload is shorter than four gigabytes. -/
def WireValue.fits : WireValue → Bool
  | .delimited payload => payload.length < 2 ^ 32
  | _ => true

/-- The value of a wire type other than the two group markers. -/
def WireValue.read (wireType : ℕ) (bytes : Bytes) : Option (WireValue × Bytes) :=
  match wireType with
  | 0 => (readVarint (2 ^ 64) bytes).map fun result => (.varint (UInt64.ofNat result.1), result.2)
  | 1 => if hlength : 8 ≤ bytes.length then
      some (.fixed64 ⟨bytes.take 8, by rw [List.length_take]; omega⟩, bytes.drop 8) else none
  | 2 => (readVarint (2 ^ 32) bytes).bind fun result =>
      (takeExact result.1 result.2).map fun split => (.delimited split.1, split.2)
  | 5 => if hlength : 4 ≤ bytes.length then
      some (.fixed32 ⟨bytes.take 4, by rw [List.length_take]; omega⟩, bytes.drop 4) else none
  | _ => none

theorem WireValue.read_append (value : WireValue) (hfits : value.fits = true) (rest : Bytes) :
    WireValue.read value.wireType (value.write ++ rest) = some (value, rest) := by
  cases value with
  | varint value =>
      rw [WireValue.wireType, WireValue.write, WireValue.read]
      rw [readVarint_append (UInt64.toNat_lt value) le_rfl, Option.map_some, UInt64.ofNat_toNat]
  | fixed64 bytes =>
      have hlength : 8 ≤ (bytes.val ++ rest).length := by
        rw [List.length_append, bytes.2]
        omega
      rw [WireValue.wireType, WireValue.write, WireValue.read]
      rw [dif_pos hlength]
      simp only [List.take_left' bytes.2, List.drop_left' bytes.2]
  | delimited payload =>
      have hlength : payload.length < 2 ^ 32 := of_decide_eq_true hfits
      rw [WireValue.wireType, WireValue.write, WireValue.read]
      rw [List.append_assoc, readVarint_append hlength (by decide), Option.bind_some,
        takeExact_append, Option.map_some]
  | fixed32 bytes =>
      have hlength : 4 ≤ (bytes.val ++ rest).length := by
        rw [List.length_append, bytes.2]
        omega
      rw [WireValue.wireType, WireValue.write, WireValue.read]
      rw [dif_pos hlength]
      simp only [List.take_left' bytes.2, List.drop_left' bytes.2]

/-- A field number takes 29 bits and is not zero. -/
structure WireField where
  number : ℕ
  value : WireValue
  number_pos : 0 < number
  number_lt : number < 2 ^ 29
  deriving DecidableEq

def WireField.write (field : WireField) : Bytes :=
  varint (8 * field.number + field.value.wireType) ++ field.value.write

/-- The number and the wire type of a key. -/
def readKey (bytes : Bytes) : Option ({number : ℕ // 0 < number ∧ number < 2 ^ 29} × ℕ × Bytes) :=
  (readVarint (2 ^ 32) bytes).bind fun result =>
    if hnumber : 0 < result.1 / 8 ∧ result.1 / 8 < 2 ^ 29 then
      some (⟨result.1 / 8, hnumber⟩, result.1 % 8, result.2)
    else none

theorem readKey_append (field : WireField) (rest : Bytes) :
    readKey (varint (8 * field.number + field.value.wireType) ++ rest) =
      some (⟨field.number, field.number_pos, field.number_lt⟩, field.value.wireType, rest) := by
  have htype := field.value.wireType_cases.1
  have hnumber := field.number_lt
  have hpos := field.number_pos
  have hdiv : (8 * field.number + field.value.wireType) / 8 = field.number := by omega
  have hmod : (8 * field.number + field.value.wireType) % 8 = field.value.wireType := by omega
  rw [readKey, readVarint_append (by omega) (by decide), Option.bind_some]
  simp only [hdiv, hmod, hpos, hnumber, and_self, dif_pos]

/-- The fields at the top of a message, `depth` groups being open. -/
def readFieldsWithin : (steps depth : ℕ) → Bytes → Option (List WireField)
  | _, 0, [] => some []
  | _, _ + 1, [] => none
  | 0, _, _ :: _ => none
  | steps + 1, depth, first :: bytes => do
      let (number, wireType, rest) ← readKey (first :: bytes)
      if wireType = 3 then readFieldsWithin steps (depth + 1) rest
      else if wireType = 4 then
        match depth with
        | 0 => none
        | depth + 1 => readFieldsWithin steps depth rest
      else do
        let (value, rest) ← WireValue.read wireType rest
        let fields ← readFieldsWithin steps depth rest
        pure (if depth = 0 then ⟨number.val, value, number.2.1, number.2.2⟩ :: fields else fields)

/-- Every step takes a byte at least. -/
def readFields (bytes : Bytes) : Option (List WireField) := readFieldsWithin bytes.length 0 bytes

/-- The encoding of fields, unless one of them is too long. -/
def writeToBytes (fields : List WireField) : Option Bytes :=
  if fields.all fun field => field.value.fits then some (fields.flatMap WireField.write) else none

theorem readFieldsWithin_flatMap {fields : List WireField} {steps : ℕ}
    (hsteps : fields.length ≤ steps) (hfits : ∀ field ∈ fields, field.value.fits = true) :
    readFieldsWithin steps 0 (fields.flatMap WireField.write) = some fields := by
  induction fields generalizing steps with
  | nil =>
      cases steps with
      | zero => rfl
      | succ steps => rfl
  | cons field fields ih =>
      obtain ⟨steps, rfl⟩ : ∃ fewer, steps = fewer + 1 :=
        ⟨steps - 1, by rw [List.length_cons] at hsteps; omega⟩
      have hrest := ih (Nat.le_of_succ_le_succ hsteps) fun other hother =>
        hfits other (List.mem_cons_of_mem _ hother)
      have hvalue := field.value.read_append (hfits field (List.mem_cons_self ..))
        (fields.flatMap WireField.write)
      obtain ⟨-, hthree, hfour⟩ := field.value.wireType_cases
      have hkey := readKey_append field (field.value.write ++ fields.flatMap WireField.write)
      rw [List.flatMap_cons, WireField.write, List.append_assoc]
      obtain ⟨first, bytes, hbytes⟩ : ∃ first bytes,
          varint (8 * field.number + field.value.wireType) ++
            (field.value.write ++ fields.flatMap WireField.write) = first :: bytes := by
        apply List.exists_cons_of_ne_nil
        intro hnil
        have hpos := length_varint_pos (8 * field.number + field.value.wireType)
        rw [(List.append_eq_nil_iff.1 hnil).1] at hpos
        cases hpos
      rw [hbytes] at hkey ⊢
      rw [readFieldsWithin, hkey]
      change (if field.value.wireType = 3 then _ else _) = _
      rw [if_neg hthree, if_neg hfour, hvalue]
      change (readFieldsWithin steps 0 (fields.flatMap WireField.write)).bind _ = _
      rw [hrest]
      rfl

/-- What was written reads back. -/
theorem readFields_of_write {fields : List WireField} {bytes : Bytes}
    (hbytes : writeToBytes fields = some bytes) : readFields bytes = some fields := by
  rw [writeToBytes] at hbytes
  split_ifs at hbytes with hfits
  rw [← Option.some.inj hbytes, readFields]
  apply readFieldsWithin_flatMap _ (List.all_eq_true.1 hfits)
  clear hbytes hfits
  induction fields with
  | nil => exact Nat.zero_le _
  | cons field fields ih =>
      have hpos := length_varint_pos (8 * field.number + field.value.wireType)
      rw [List.length_cons, List.flatMap_cons, List.length_append, WireField.write,
        List.length_append]
      omega

end VisualSignParser.Protobuf
