import VisualSignParser.Sui.Suilend

/-!
# Typed arguments

A configuration generates a getter for each number among the arguments of a function: it
reads the input at a position as a number of a type.  What it returns is compared with the
bytes that the chain decodes, and with the value of an input whose type is told.
-/

namespace VisualSignParser.Sui

open VisualSignParser.Framing
open VisualSignParser.Outcome
open VisualSignParser.VisualSign

/-- The types with `FromLeBytes`. -/
inductive NumberType where
  | bool
  | u8
  | u16
  | u32
  | u64
  | u128
  deriving DecidableEq

namespace NumberType

abbrev Value : NumberType → Type
  | .bool => Bool
  | .u8 => BitVec 8
  | .u16 => BitVec 16
  | .u32 => BitVec 32
  | .u64 => BitVec 64
  | .u128 => BitVec 128

def tag : NumberType → TypeTag
  | .bool => .bool
  | .u8 => .u8
  | .u16 => .u16
  | .u32 => .u32
  | .u64 => .u64
  | .u128 => .u128

def name : NumberType → String
  | .bool => "bool"
  | .u8 => "u8"
  | .u16 => "u16"
  | .u32 => "u32"
  | .u64 => "u64"
  | .u128 => "u128"

end NumberType

/-- A number of one of the types, or a value of another kind. -/
inductive MoveValue where
  | number (type : NumberType) (value : type.Value)
  | other

def MoveValue.as (type : NumberType) : MoveValue → Option type.Value
  | .number found value => if heq : found = type then some (heq ▸ value) else none
  | .other => none

/-! ## Numbers from bytes -/

def boolFromLeBytes : Bytes → Except String Bool
  | [] => .error "bytes array is empty in FromLeBytes"
  | first :: _ =>
      if first = 0 then .ok false
      else if first = 1 then .ok true
      else .error ("Invalid bool value: " ++ toString first.toNat)

/-- The integers take exactly as many bytes as they are wide. -/
def uintFromLeBytes (type : NumberType) (width : ℕ) (bytes : Bytes) :
    Except String (BitVec (8 * width)) :=
  if bytes.length = width then .ok (BitVec.ofNat (8 * width) (ofLeBytes bytes))
  else .error ("Invalid " ++ type.name ++ " value: could not convert slice to array")

def NumberType.fromLeBytes : (type : NumberType) → Bytes → Except String type.Value
  | .bool => boolFromLeBytes
  | .u8 => uintFromLeBytes .u8 1
  | .u16 => uintFromLeBytes .u16 2
  | .u32 => uintFromLeBytes .u32 4
  | .u64 => uintFromLeBytes .u64 8
  | .u128 => uintFromLeBytes .u128 16

section Getters

-- `SuiJsonValue::to_move_value` at the layout of a number.
variable (toMoveValue : Json.Value → NumberType → Except String MoveValue)

def fromMoveValue (type : NumberType) (pure : SuiPureValue) :
    Except VisualSignError type.Value := do
  let tag ← okOr (.decodeError "Failed to get value type") pure.valueType
  require (tag = type.tag) (.decodeError ("Expected " ++ type.name ++ " value type"))
  let value ← (toMoveValue pure.value type).mapError .decodeError
  okOr (.decodeError ("Expected " ++ type.name ++ " value type")) (value.as type)

/-- `decode_number` at each of its types. -/
def decodeNumberAs (type : NumberType) : SuiCallArg → Except VisualSignError type.Value
  | .object _ => .error (.decodeError "Unexpected object in `decode_number`")
  | .pure pure => match pure.valueType with
    | none => do
        let bytes ← (jsonArrayToBytes pure.value).mapError fun error =>
          .decodeError ("Invalid pure value bytes: " ++ error)
        (type.fromLeBytes bytes).mapError .decodeError
    | some _ => fromMoveValue toMoveValue type pure

/-- The getter of a parameter. -/
def getArgument (param : String) (type : NumberType) (position : ℕ)
    (inputs : List SuiCallArg) (args : List SuiArgument) :
    Except VisualSignError type.Value := do
  let index ← getIndex args (some position)
  let arg ← okOr (.missingData (param ++ " not found")) inputs[index.toNat]?
  decodeNumberAs toMoveValue type arg

/-! ## The numbers of the chain -/

/-- How the chain encodes a number. -/
def NumberType.bcs : (type : NumberType) → type.Value → Bytes
  | .bool, value => [if value then 1 else 0]
  | .u8, value => leBytes 1 value.toNat
  | .u16, value => leBytes 2 value.toNat
  | .u32, value => leBytes 4 value.toNat
  | .u64, value => leBytes 8 value.toNat
  | .u128, value => leBytes 16 value.toNat

/-- An array of the numbers of the bytes. -/
def IsByteArray (value : Json.Value) (bytes : Bytes) : Prop :=
  ∃ items, value = .array items ∧
    List.Forall₂ (fun item byte => asU64 item = some byte.toNat) items bytes

/-- The value is the number: its encoding if no type is told, and otherwise tagged with
the type. -/
def Denotes (type : NumberType) (pure : SuiPureValue) (number : type.Value) : Prop :=
  (pure.valueType = none ∧ IsByteArray pure.value (type.bcs number)) ∨
    (pure.valueType = some type.tag ∧ toMoveValue pure.value type = .ok (.number type number))

/-- The argument at the position is a pure input. -/
def IsPureInput (inputs : List SuiCallArg) (args : List SuiArgument) (position : ℕ)
    (pure : SuiPureValue) : Prop :=
  ∃ index, args[position]? = some (.input index) ∧ inputs[index.toNat]? = some (.pure pure)

/-- Bytes behind a truth value. -/
def PaddedBool (type : NumberType) (pure : SuiPureValue) : Prop :=
  type = .bool ∧ pure.valueType = none ∧
    ∃ first rest, IsByteArray pure.value (first :: rest) ∧ (first = 0 ∨ first = 1) ∧ rest ≠ []

variable {toMoveValue} {type : NumberType} {pure : SuiPureValue} {number : type.Value}

/-! ## Bytes -/

theorem uintFromLeBytes_eq_ok {width : ℕ} {bytes : Bytes} {value : BitVec (8 * width)} :
    uintFromLeBytes type width bytes = .ok value ↔ bytes = leBytes width value.toNat := by
  have hpow : 256 ^ width = 2 ^ (8 * width) := by
    rw [show 256 = 2 ^ 8 by rfl, ← pow_mul]
  rw [uintFromLeBytes]
  constructor
  · intro hok
    split_ifs at hok with hlength
    have hlt := ofLeBytes_lt bytes
    rw [hlength, hpow] at hlt
    rw [← Except.ok.inj hok, BitVec.toNat_ofNat, Nat.mod_eq_of_lt hlt, ← hlength,
      leBytes_ofLeBytes]
  · rintro rfl
    have hlt : value.toNat < 256 ^ width := hpow ▸ value.isLt
    rw [if_pos (length_leBytes width value.toNat), ofLeBytes_leBytes hlt, BitVec.ofNat_toNat,
      BitVec.setWidth_eq]

theorem boolFromLeBytes_eq_ok {bytes : Bytes} {value : Bool} :
    boolFromLeBytes bytes = .ok value ↔ ∃ rest, bytes = (if value then 1 else 0) :: rest := by
  cases bytes with
  | nil => simp [boolFromLeBytes]
  | cons first rest =>
      rw [boolFromLeBytes]
      by_cases hzero : first = 0
      · cases value <;> simp [hzero]
      · by_cases hone : first = 1
        · cases value <;> simp [hone]
        · cases value <;> simp [hzero, hone]

/-- A number is read off its encoding, and a truth value also with bytes behind it. -/
theorem fromLeBytes_eq_ok {bytes : Bytes} :
    type.fromLeBytes bytes = .ok number ↔
      bytes = type.bcs number ∨
        type = .bool ∧ ∃ rest, rest ≠ [] ∧ bytes = type.bcs number ++ rest := by
  cases type with
  | bool =>
      refine boolFromLeBytes_eq_ok.trans ?_
      constructor
      · rintro ⟨rest, rfl⟩
        by_cases hrest : rest = []
        · rw [hrest]
          exact .inl rfl
        · exact .inr ⟨rfl, rest, hrest, rfl⟩
      · rintro (rfl | ⟨_, rest, _, rfl⟩)
        · exact ⟨[], rfl⟩
        · exact ⟨rest, rfl⟩
  | u8 => exact uintFromLeBytes_eq_ok.trans (by simp [NumberType.bcs])
  | u16 => exact uintFromLeBytes_eq_ok.trans (by simp [NumberType.bcs])
  | u32 => exact uintFromLeBytes_eq_ok.trans (by simp [NumberType.bcs])
  | u64 => exact uintFromLeBytes_eq_ok.trans (by simp [NumberType.bcs])
  | u128 => exact uintFromLeBytes_eq_ok.trans (by simp [NumberType.bcs])

theorem jsonByte_eq_ok {entry : Json.Value × ℕ} {byte : UInt8} :
    jsonByte entry = .ok byte ↔ asU64 entry.1 = some byte.toNat := by
  simp only [jsonByte, bind_eq_ok, okOr_eq_ok]
  constructor
  · rintro ⟨value, hvalue, hbyte⟩
    split_ifs at hbyte with hlt
    rw [hvalue, ← Except.ok.inj hbyte, UInt8.toNat_ofNat', Nat.mod_eq_of_lt hlt]
  · intro hvalue
    refine ⟨byte.toNat, hvalue, ?_⟩
    rw [if_pos byte.toNat_lt, UInt8.ofNat_toNat]
    rfl

theorem jsonArrayToBytes_eq_ok {value : Json.Value} {bytes : Bytes} :
    jsonArrayToBytes value = .ok bytes ↔ IsByteArray value bytes := by
  cases value with
  | array items =>
      have hitems : List.Forall₂ (fun item byte => asU64 item = some byte.toNat) items bytes ↔
          jsonArrayToBytes (.array items) = .ok bytes := by
        conv_lhs => rw [← List.zipIdx_map_fst 0 items, List.forall₂_map_left_iff]
        rw [jsonArrayToBytes, mapM_eq_ok]
        simp only [jsonByte_eq_ok]
      rw [← hitems]
      constructor
      · intro hbytes
        exact ⟨items, rfl, hbytes⟩
      · rintro ⟨found, heq, hbytes⟩
        rwa [Json.Value.array.inj heq]
  | null => simp [jsonArrayToBytes, IsByteArray]
  | bool flag => simp [jsonArrayToBytes, IsByteArray]
  | number number => simp [jsonArrayToBytes, IsByteArray]
  | string text => simp [jsonArrayToBytes, IsByteArray]
  | object members => simp [jsonArrayToBytes, IsByteArray]

theorem as_eq_some {value : MoveValue} :
    value.as type = some number ↔ value = .number type number := by
  cases value with
  | number found value =>
      rw [MoveValue.as]
      constructor
      · intro hsome
        split_ifs at hsome with heq
        subst heq
        exact congrArg (MoveValue.number found) (Option.some.inj hsome)
      · intro heq
        cases heq
        exact dif_pos rfl
  | other => simp [MoveValue.as]

theorem fromMoveValue_eq_ok {tag : TypeTag} (htag : pure.valueType = some tag) :
    fromMoveValue toMoveValue type pure = .ok number ↔
      tag = type.tag ∧ toMoveValue pure.value type = .ok (.number type number) := by
  simp only [fromMoveValue, htag, bind_eq_ok, okOr_eq_ok, require_eq_ok, mapError_eq_ok,
    as_eq_some]
  constructor
  · rintro ⟨_, ⟨⟩, _, hequal, value, hvalue, rfl⟩
    exact ⟨hequal, hvalue⟩
  · rintro ⟨hequal, hvalue⟩
    exact ⟨tag, rfl, (), hequal, _, hvalue, rfl⟩

theorem IsByteArray.unique {value : Json.Value} {bytes others : Bytes}
    (hbytes : IsByteArray value bytes) (hothers : IsByteArray value others) : bytes = others :=
  Except.ok.inj ((jsonArrayToBytes_eq_ok.2 hbytes).symm.trans (jsonArrayToBytes_eq_ok.2 hothers))

/-- A number is returned if the input denotes it, and a truth value also for bytes behind
its encoding. -/
theorem decodeNumberAs_eq_ok :
    decodeNumberAs toMoveValue type (.pure pure) = .ok number ↔
      Denotes toMoveValue type pure number ∨
        type = .bool ∧ pure.valueType = none ∧
          ∃ rest, rest ≠ [] ∧ IsByteArray pure.value (type.bcs number ++ rest) := by
  rw [decodeNumberAs, Denotes]
  cases htag : pure.valueType with
  | none =>
      simp only [bind_eq_ok, mapError_eq_ok, jsonArrayToBytes_eq_ok, fromLeBytes_eq_ok]
      constructor
      · rintro ⟨bytes, hbytes, rfl | ⟨htype, rest, hrest, rfl⟩⟩
        · exact .inl (.inl ⟨trivial, hbytes⟩)
        · exact .inr ⟨htype, trivial, rest, hrest, hbytes⟩
      · rintro ((⟨_, hbytes⟩ | ⟨⟨⟩, _⟩) | ⟨htype, _, rest, hrest, hbytes⟩)
        · exact ⟨_, hbytes, .inl rfl⟩
        · exact ⟨_, hbytes, .inr ⟨htype, rest, hrest, rfl⟩⟩
  | some tag =>
      rw [fromMoveValue_eq_ok htag]
      simp

theorem getArgument_eq_ok {param : String} {position : ℕ} {inputs : List SuiCallArg}
    {args : List SuiArgument} :
    getArgument toMoveValue param type position inputs args = .ok number ↔
      ∃ pure, IsPureInput inputs args position pure ∧
        decodeNumberAs toMoveValue type (.pure pure) = .ok number := by
  simp only [getArgument, bind_eq_ok, okOr_eq_ok, getIndex_some_eq_ok, IsPureInput]
  constructor
  · rintro ⟨index, harg, input, hinput, hnumber⟩
    cases input with
    | object arg => cases hnumber
    | pure pure => exact ⟨pure, ⟨index, harg, hinput⟩, hnumber⟩
  · rintro ⟨pure, ⟨index, harg, hinput⟩, hnumber⟩
    exact ⟨index, harg, .pure pure, hinput, hnumber⟩

theorem IsPureInput.unique {inputs : List SuiCallArg} {args : List SuiArgument} {position : ℕ}
    {other : SuiPureValue} (hpure : IsPureInput inputs args position pure)
    (hother : IsPureInput inputs args position other) : pure = other := by
  obtain ⟨index, harg, hinput⟩ := hpure
  obtain ⟨another, hargOther, hinputOther⟩ := hother
  rw [SuiArgument.input.inj (Option.some.inj (harg.symm.trans hargOther))] at hinput
  exact SuiCallArg.pure.inj (Option.some.inj (hinput.symm.trans hinputOther))

theorem paddedBool_iff : PaddedBool type pure ↔
    type = .bool ∧ pure.valueType = none ∧
      ∃ number rest, rest ≠ [] ∧ IsByteArray pure.value (type.bcs number ++ rest) := by
  apply and_congr_right
  rintro rfl
  apply and_congr_right
  intro _
  constructor
  · rintro ⟨first, rest, hbytes, rfl | rfl, hrest⟩
    · exact ⟨false, rest, hrest, hbytes⟩
    · exact ⟨true, rest, hrest, hbytes⟩
  · rintro ⟨number, rest, hrest, hbytes⟩
    cases number with
    | false => exact ⟨0, rest, hbytes, .inl rfl, hrest⟩
    | true => exact ⟨1, rest, hbytes, .inr rfl, hrest⟩

/-! ## The getters are exact, but for padded truth values -/

section Exact

variable {param : String} {position : ℕ} {inputs : List SuiCallArg} {args : List SuiArgument}

theorem not_exact_of_paddedBool (hpure : IsPureInput inputs args position pure)
    (hpadded : PaddedBool type pure) :
    ¬∀ number, getArgument toMoveValue param type position inputs args = .ok number ↔
      ∃ pure, IsPureInput inputs args position pure ∧ Denotes toMoveValue type pure number := by
  intro hexact
  obtain ⟨htype, htag, number, rest, hrest, hbytes⟩ := paddedBool_iff.1 hpadded
  have hnumber : getArgument toMoveValue param type position inputs args = .ok number :=
    getArgument_eq_ok.2
      ⟨pure, hpure, decodeNumberAs_eq_ok.2 (.inr ⟨htype, htag, rest, hrest, hbytes⟩)⟩
  obtain ⟨other, hother, hdenotes⟩ := (hexact number).1 hnumber
  rw [← hpure.unique hother] at hdenotes
  rcases hdenotes with ⟨_, hencoded⟩ | ⟨htold, _⟩
  · exact hrest (List.self_eq_append_right.1 (hencoded.unique hbytes))
  · rw [htag] at htold
    cases htold

end Exact

/-- A getter returns the numbers that its argument denotes and no others, unless it is the
getter of a truth value and its argument has bytes behind one. -/
theorem getArgument_exact_iff (toMoveValue : Json.Value → NumberType → Except String MoveValue)
    (param : String) (type : NumberType) (position : ℕ) (inputs : List SuiCallArg)
    (args : List SuiArgument) :
    (∀ number, getArgument toMoveValue param type position inputs args = .ok number ↔
      ∃ pure, IsPureInput inputs args position pure ∧ Denotes toMoveValue type pure number) ↔
    ¬∃ pure, IsPureInput inputs args position pure ∧ PaddedBool type pure := by
  constructor
  · rintro hexact ⟨pure, hpure, hpadded⟩
    exact not_exact_of_paddedBool hpure hpadded hexact
  · intro hpadded number
    rw [getArgument_eq_ok]
    refine exists_congr fun pure => and_congr_right fun hpure => ?_
    rw [decodeNumberAs_eq_ok, or_iff_left]
    rintro ⟨htype, htag, rest, hrest, hbytes⟩
    exact hpadded ⟨pure, hpure, paddedBool_iff.2 ⟨htype, htag, number, rest, hrest, hbytes⟩⟩

/-- A byte of a truth value with a byte behind it. -/
def paddedTrue : SuiPureValue := ⟨none, .array ([1, 7].map byteNumber)⟩

/-- Two bytes are read as a truth value. -/
theorem padded_bool_accepted :
    ¬∀ (toMoveValue : Json.Value → NumberType → Except String MoveValue) (param : String)
      (type : NumberType) (position : ℕ) (inputs : List SuiCallArg) (args : List SuiArgument)
      (number : type.Value),
      getArgument toMoveValue param type position inputs args = .ok number ↔
        ∃ pure, IsPureInput inputs args position pure ∧
          Denotes toMoveValue type pure number := by
  intro hexact
  have hpure : IsPureInput [.pure paddedTrue] [.input 0] 0 paddedTrue := ⟨0, rfl, rfl⟩
  have hbytes : IsByteArray paddedTrue.value [1, 7] :=
    jsonArrayToBytes_eq_ok.1 (jsonArrayToBytes_map [1, 7])
  have hpadded : PaddedBool .bool paddedTrue :=
    ⟨rfl, rfl, 1, [7], hbytes, .inr rfl, List.cons_ne_nil 7 []⟩
  exact not_exact_of_paddedBool hpure hpadded
    (hexact (fun _ _ => .error "not typed") "by_amount_in" .bool 0 [.pure paddedTrue] [.input 0])

/-! ## The decoder of 64-bit numbers -/

/-- What the values of a layout are as 64-bit numbers. -/
def moveU64 (toMoveValue : Json.Value → NumberType → Except String MoveValue)
    (value : Json.Value) : Except String (Option UInt64) :=
  (toMoveValue value .u64).map fun number => (number.as .u64).map UInt64.ofBitVec

theorem u64FromLeBytes_eq (bytes : Bytes) :
    u64FromLeBytes bytes = (NumberType.u64.fromLeBytes bytes).map UInt64.ofBitVec := by
  change u64FromLeBytes bytes = (uintFromLeBytes .u64 8 bytes).map UInt64.ofBitVec
  rw [u64FromLeBytes, uintFromLeBytes]
  split_ifs <;> rfl

/-- The decoder of 64-bit numbers is the one of all types at theirs. -/
theorem decodeNumber_eq (toSuiAddress : SuiPureValue → Except String SuiAddress)
    (input : SuiCallArg) :
    decodeNumber ⟨toSuiAddress, moveU64 toMoveValue⟩ input =
      (decodeNumberAs toMoveValue .u64 input).map UInt64.ofBitVec := by
  cases input with
  | object arg => rfl
  | pure pure =>
      rw [decodeNumber, decodeNumberAs]
      cases htag : pure.valueType with
      | none =>
          dsimp only
          cases jsonArrayToBytes pure.value with
          | error error => rfl
          | ok bytes =>
              change (u64FromLeBytes bytes).mapError _ = _
              rw [u64FromLeBytes_eq, mapError_map]
              rfl
      | some tag =>
          dsimp only
          by_cases htype : tag = .u64
          · subst htype
            simp only [u64FromMoveValue, fromMoveValue, htag, moveU64]
            cases toMoveValue pure.value .u64 with
            | error error => rfl
            | ok value =>
                change _ = (okOr _ (value.as .u64)).map _
                simp only [ne_eq, not_true_eq_false, if_false, Except.map]
                cases value.as .u64 <;> rfl
          · rw [u64FromMoveValue, if_pos htype, fromMoveValue, htag]
            change _ = (require (tag = .u64) _ >>= _).map _
            rw [require, if_neg htype]
            rfl

end Getters

end VisualSignParser.Sui
