import VisualSignParser.Codec.Cursor
import VisualSignParser.Codec.Outcome
import VisualSignParser.Solana.Context

/-!
# Messages inside of a vault transaction

Squads stores the message a vault is to execute in a compact form of its own:
one-byte counts everywhere, and two bytes for the length of instruction data.
The lookups are read and dropped.
-/

namespace VisualSignParser.Solana

open VisualSignParser.Framing
open VisualSignParser.Cursor

structure MultisigCompiledInstruction where
  programIdIndex : UInt8
  accountIndexes : Bytes
  data : Bytes
  deriving DecidableEq

structure VaultTransactionMessage where
  numSigners : UInt8
  numWritableSigners : UInt8
  numWritableNonSigners : UInt8
  accountKeys : List Pubkey
  instructions : List MultisigCompiledInstruction
  deriving DecidableEq

/-- A lookup of the message, of which nothing is kept. -/
structure VaultAddressTableLookup where
  accountKey : Bytes
  writableIndexes : Bytes
  readonlyIndexes : Bytes

/-! ## The parser -/

namespace VaultTransactionMessage

def endOfData : String := "unexpected end of data"

/-- `Pubkey::new_from_array(key_bytes.try_into()?)`. -/
def keyOfBytes (keyBytes : Bytes) : Parser String Pubkey :=
  if hlength : keyBytes.length = 32 then pure ⟨keyBytes, hlength⟩
  else throw (.failed "could not convert slice to array")

def readKey : Parser String Pubkey := do
  let keyBytes ← readBytes endOfData 32
  keyOfBytes keyBytes

def readInstruction : Parser String MultisigCompiledInstruction := do
  let programIdIndex ← readU8 endOfData
  let accountIndexes ← readVecU8 endOfData endOfData
  let data ← readVecU16Le endOfData endOfData
  return ⟨programIdIndex, accountIndexes, data⟩

def readLookup : Parser String VaultAddressTableLookup := do
  let accountKey ← readBytes endOfData 32
  let writableIndexes ← readVecU8 endOfData endOfData
  let readonlyIndexes ← readVecU8 endOfData endOfData
  return ⟨accountKey, writableIndexes, readonlyIndexes⟩

/-- Everything in front of the check for trailing bytes. -/
def readMessage : Parser String (VaultTransactionMessage × List VaultAddressTableLookup) := do
  let numSigners ← readU8 endOfData
  let numWritableSigners ← readU8 endOfData
  let numWritableNonSigners ← readU8 endOfData
  let accountKeys ← readVec endOfData readKey
  let instructions ← readVec endOfData readInstruction
  let lookups ← readVec endOfData readLookup
  return (⟨numSigners, numWritableSigners, numWritableNonSigners, accountKeys, instructions⟩,
    lookups)

def deserialize (data : Bytes) : Except (Fault String) VaultTransactionMessage := do
  let ((message, _), pos) ← readMessage data 0
  if pos ≠ data.length then
    .error (.failed ("trailing bytes after VaultTransactionMessage: pos=" ++ toString pos ++
      ", len=" ++ toString data.length))
  else .ok message

end VaultTransactionMessage

/-! ## The wire format -/

structure MultisigCompiledInstruction.Fits (instruction : MultisigCompiledInstruction) : Prop where
  accountIndexes : instruction.accountIndexes.length < 2 ^ 8
  data : instruction.data.length < 2 ^ 16

def MultisigCompiledInstruction.encode (instruction : MultisigCompiledInstruction) : Bytes :=
  instruction.programIdIndex ::
    (lenPrefixed 1 instruction.accountIndexes ++ lenPrefixed 2 instruction.data)

structure VaultAddressTableLookup.Fits (lookup : VaultAddressTableLookup) : Prop where
  accountKey : lookup.accountKey.length = 32
  writableIndexes : lookup.writableIndexes.length < 2 ^ 8
  readonlyIndexes : lookup.readonlyIndexes.length < 2 ^ 8

def VaultAddressTableLookup.encode (lookup : VaultAddressTableLookup) : Bytes :=
  lookup.accountKey ++
    (lenPrefixed 1 lookup.writableIndexes ++ lenPrefixed 1 lookup.readonlyIndexes)

/-- A message as it travels, lookups included.  Every count fits its prefix. -/
structure WireMessage where
  message : VaultTransactionMessage
  lookups : List VaultAddressTableLookup
  length_accountKeys : message.accountKeys.length < 2 ^ 8
  length_instructions : message.instructions.length < 2 ^ 8
  instructions_fit : ∀ instruction ∈ message.instructions, instruction.Fits
  length_lookups : lookups.length < 2 ^ 8
  lookups_fit : ∀ lookup ∈ lookups, lookup.Fits

def WireMessage.encode (wire : WireMessage) : Bytes :=
  [wire.message.numSigners, wire.message.numWritableSigners, wire.message.numWritableNonSigners] ++
    (leBytes 1 wire.message.accountKeys.length ++ wire.message.accountKeys.flatMap Subtype.val ++
    (leBytes 1 wire.message.instructions.length ++
      wire.message.instructions.flatMap MultisigCompiledInstruction.encode ++
    (leBytes 1 wire.lookups.length ++ wire.lookups.flatMap VaultAddressTableLookup.encode)))

/-! ## Reading the wire format -/

namespace VaultTransactionMessage

theorem reads_readKey : Reads readKey (Format.of (fun _ => True) Subtype.val) := by
  have hkey (keyBytes : Bytes) : Reads (keyOfBytes keyBytes)
      fun key bytes => key.1 = keyBytes ∧ bytes = [] := by
    unfold keyOfBytes
    split_ifs with hlength
    · refine (reads_pure _).congr fun key bytes => ?_
      rw [Format.only, Subtype.ext_iff]
    · refine (reads_throw _).congr fun key bytes => iff_of_false id ?_
      rintro ⟨rfl, -⟩
      exact hlength key.2
  refine ((reads_readBytes endOfData 32).bind hkey).congr fun key bytes => ?_
  constructor
  · rintro ⟨_, _, _, rfl, ⟨rfl, -⟩, rfl, rfl⟩
    exact ⟨trivial, List.append_nil _⟩
  · rintro ⟨-, rfl⟩
    exact ⟨key.1, key.1, [], (List.append_nil _).symm, ⟨rfl, key.2⟩, rfl, rfl⟩

theorem reads_readInstruction : Reads readInstruction
    (Format.of MultisigCompiledInstruction.Fits MultisigCompiledInstruction.encode) := by
  have hparts := (reads_byte endOfData).bind fun programIdIndex =>
    (reads_readVecU8 endOfData endOfData).bind fun accountIndexes =>
    (reads_readVecU16Le endOfData endOfData).bind fun data =>
    reads_pure (⟨programIdIndex, accountIndexes, data⟩ : MultisigCompiledInstruction)
  refine hparts.congr fun instruction bytes => ?_
  simp only [Format.bind_of]
  constructor
  · rintro ⟨_, _, -, rfl, _, _, haccounts, rfl, _, _, hdata, rfl, rfl, rfl⟩
    refine ⟨⟨haccounts, hdata⟩, ?_⟩
    rw [List.append_nil]
    rfl
  · rintro ⟨hfits, rfl⟩
    refine ⟨_, _, trivial, rfl, _, _, hfits.accountIndexes, rfl, _, [], hfits.data, ?_, rfl, rfl⟩
    rw [List.append_nil]

theorem reads_readLookup : Reads readLookup
    (Format.of VaultAddressTableLookup.Fits VaultAddressTableLookup.encode) := by
  have hkey : Reads (readBytes endOfData 32)
      (Format.of (fun bytes => bytes.length = 32) fun bytes => bytes) :=
    (reads_readBytes endOfData 32).congr fun _ _ => and_comm
  have hparts := hkey.bind fun accountKey =>
    (reads_readVecU8 endOfData endOfData).bind fun writableIndexes =>
    (reads_readVecU8 endOfData endOfData).bind fun readonlyIndexes =>
    reads_pure (⟨accountKey, writableIndexes, readonlyIndexes⟩ : VaultAddressTableLookup)
  refine hparts.congr fun lookup bytes => ?_
  simp only [Format.bind_of]
  constructor
  · rintro ⟨_, _, hkey, rfl, _, _, hwritable, rfl, _, _, hreadonly, rfl, rfl, rfl⟩
    refine ⟨⟨hkey, hwritable, hreadonly⟩, ?_⟩
    rw [List.append_nil]
    rfl
  · rintro ⟨hfits, rfl⟩
    refine ⟨_, _, hfits.accountKey, rfl, _, _, hfits.writableIndexes, rfl, _, [],
      hfits.readonlyIndexes, ?_, rfl, rfl⟩
    rw [List.append_nil]

/-- The body is read exactly where a wire message stands. -/
theorem reads_readMessage : Reads readMessage fun parts bytes =>
    ∃ wire : WireMessage, parts = (wire.message, wire.lookups) ∧ bytes = wire.encode := by
  have hparts := (reads_byte endOfData).bind fun numSigners =>
    (reads_byte endOfData).bind fun numWritableSigners =>
    (reads_byte endOfData).bind fun numWritableNonSigners =>
    (reads_readVec endOfData reads_readKey).bind fun accountKeys =>
    (reads_readVec endOfData reads_readInstruction).bind fun instructions =>
    (reads_readVec endOfData reads_readLookup).bind fun lookups =>
    reads_pure ((⟨numSigners, numWritableSigners, numWritableNonSigners, accountKeys,
      instructions⟩ : VaultTransactionMessage), lookups)
  refine hparts.congr fun parts bytes => ?_
  simp only [Format.bind_of]
  constructor
  · rintro ⟨numSigners, _, -, rfl, numWritableSigners, _, -, rfl, numWritableNonSigners, _, -, rfl,
      accountKeys, _, ⟨hkeys, -⟩, rfl, instructions, _, ⟨hinstructions, hfits⟩, rfl, lookups, _,
      ⟨hlookups, hlookupsFit⟩, rfl, rfl, rfl⟩
    refine ⟨⟨⟨numSigners, numWritableSigners, numWritableNonSigners, accountKeys, instructions⟩,
      lookups, hkeys, hinstructions, hfits, hlookups, hlookupsFit⟩, rfl, ?_⟩
    simp [WireMessage.encode]
  · rintro ⟨wire, rfl, rfl⟩
    refine ⟨_, _, trivial, rfl, _, _, trivial, rfl, _, _, trivial, rfl, _, _,
      ⟨wire.length_accountKeys, fun _ _ => trivial⟩, rfl, _, _,
      ⟨wire.length_instructions, wire.instructions_fit⟩, rfl, _, [],
      ⟨wire.length_lookups, wire.lookups_fit⟩, ?_, rfl, rfl⟩
    rw [List.append_nil]

theorem readMessage_eq_ok {data : Bytes}
    {parts : VaultTransactionMessage × List VaultAddressTableLookup} {stop : ℕ} :
    readMessage data 0 = .ok (parts, stop) ↔ ∃ (wire : WireMessage) (rest : Bytes),
      data = wire.encode ++ rest ∧ parts = (wire.message, wire.lookups) ∧
        stop = wire.encode.length := by
  have hread := reads_readMessage.ok_iff [] data parts stop
  rw [List.nil_append, List.length_nil] at hread
  rw [hread]
  simp only [Nat.zero_add]
  constructor
  · rintro ⟨_, rest, rfl, ⟨wire, rfl, rfl⟩, rfl⟩
    exact ⟨wire, rest, rfl, rfl, rfl⟩
  · rintro ⟨wire, rest, rfl, rfl, rfl⟩
    exact ⟨wire.encode, rest, rfl, ⟨wire, rfl, rfl⟩, rfl⟩

theorem deserialize_eq_ok_iff {data : Bytes} {message : VaultTransactionMessage} :
    deserialize data = .ok message ↔
      ∃ wire : WireMessage, wire.encode = data ∧ wire.message = message := by
  rw [deserialize, Outcome.bind_eq_ok]
  constructor
  · rintro ⟨⟨⟨read, lookups⟩, stop⟩, hread, hcheck⟩
    obtain ⟨wire, rest, rfl, hparts, rfl⟩ := readMessage_eq_ok.1 hread
    cases hparts
    dsimp only at hcheck
    split_ifs at hcheck with hstop
    cases hcheck
    have hrest : rest = [] := by
      rw [not_not, List.length_append] at hstop
      exact List.eq_nil_of_length_eq_zero (by omega)
    exact ⟨wire, by rw [hrest, List.append_nil], rfl⟩
  · rintro ⟨wire, rfl, rfl⟩
    refine ⟨((wire.message, wire.lookups), wire.encode.length), ?_, ?_⟩
    · exact readMessage_eq_ok.2 ⟨wire, [], (List.append_nil _).symm, rfl, rfl⟩
    · exact if_neg (not_not.2 rfl)

theorem deserialize_ne_panicked (data : Bytes) : deserialize data ≠ .error .panicked := by
  intro hpanicked
  rw [deserialize] at hpanicked
  cases hread : readMessage data 0 with
  | error fault =>
      rw [hread] at hpanicked
      obtain rfl : fault = .panicked := by cases hpanicked; rfl
      exact reads_readMessage.ne_panicked [] data hread
  | ok step =>
      rw [hread] at hpanicked
      change (if step.2 ≠ data.length then _ else _) = _ at hpanicked
      split_ifs at hpanicked
      cases hpanicked

end VaultTransactionMessage

theorem WireMessage.encode_injective : Function.Injective WireMessage.encode := by
  intro left right heq
  have hread (wire : WireMessage) : VaultTransactionMessage.readMessage wire.encode 0 =
      .ok ((wire.message, wire.lookups), wire.encode.length) :=
    VaultTransactionMessage.readMessage_eq_ok.2 ⟨wire, [], (List.append_nil _).symm, rfl, rfl⟩
  have hparts := (hread left).symm.trans (heq ▸ hread right)
  simp only [Except.ok.injEq, Prod.mk.injEq] at hparts
  obtain ⟨⟨hmessage, hlookups⟩, -⟩ := hparts
  cases left
  cases right
  subst hmessage hlookups
  rfl

/-- The accepted byte strings are the encodings of wire messages, each of one
message only, and no byte string is read beyond its end. -/
theorem vaultMessage_grammar :
    (∀ data message, VaultTransactionMessage.deserialize data = .ok message ↔
      ∃ wire : WireMessage, wire.encode = data ∧ wire.message = message) ∧
    Function.Injective WireMessage.encode ∧
    ∀ data, VaultTransactionMessage.deserialize data ≠ .error .panicked :=
  ⟨fun _ _ => VaultTransactionMessage.deserialize_eq_ok_iff, WireMessage.encode_injective,
    VaultTransactionMessage.deserialize_ne_panicked⟩

end VisualSignParser.Solana
