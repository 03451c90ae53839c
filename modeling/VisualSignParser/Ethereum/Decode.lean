import VisualSignParser.Codec.Base64
import VisualSignParser.Ethereum.Convert

/-!
# Transaction bytes

The bytes of an unsigned transaction are an RLP list, or a type byte in front of
one.  The lists themselves are read by another crate.  Nothing may follow the
transaction.
-/

namespace VisualSignParser.Ethereum

open VisualSignParser.Framing
open VisualSignParser.VisualSign
open VisualSignParser.Hex (SupportedEncodings)

inductive EthereumParserError where
  | unexpectedTrailingData (data : String)
  | unexpectedTransactionType (txType : String)
  | unsupportedTransactionType (txType : String)
  | failedToDecodeTransaction (message : String)
  | failedToParseJsonTransaction (message : String)
  deriving DecidableEq

def EthereumParserError.display : EthereumParserError → String
  | unexpectedTrailingData data => "Unexpected trailing data: " ++ data
  | unexpectedTransactionType txType => "Unexpected transaction type: " ++ txType
  | unsupportedTransactionType txType => "Unsupported transaction type: " ++ txType
  | failedToDecodeTransaction message => "Failed to decode transaction: " ++ message
  | failedToParseJsonTransaction message => "Failed to parse JSON transaction: " ++ message

inductive TxType where
  | legacy
  | eip2930
  | eip1559
  | eip4844
  | eip7702

/-- `TxType::try_from`. -/
def TxType.ofByte : UInt8 → Option TxType
  | 0 => some legacy
  | 1 => some eip2930
  | 2 => some eip1559
  | 3 => some eip4844
  | 4 => some eip7702
  | _ => none

/-- What is called in other crates.  A decoder returns what it read and the bytes
behind it, or the text of its error; the decoder of signed transactions returns
the unsigned part. -/
structure AlloyRlp where
  decodeLegacy : Bytes → Except String (TxLegacy × Bytes)
  decodeEip1559 : Bytes → Except String (TxEip1559 × Bytes)
  decodeEnvelope : Bytes → Option TypedTransaction
  typeError : UInt8 → String
  hexError : Hex.FromHexError → String
  base64Error : String → String

section Decode

variable (rlp : AlloyRlp)

/-- The check for trailing bytes behind a transaction that was read. -/
def finishDecoding (decoded : Except String (SupportedTransaction × Bytes)) :
    Except EthereumParserError TypedTransaction :=
  match decoded with
  | .error message => .error (.failedToDecodeTransaction message)
  | .ok (tx, rest) =>
      if rest.isEmpty then .ok (.supported tx)
      else .error (.unexpectedTrailingData (Hex.encode rest))

def decodeUnsignedTransactionBytes (buf : Bytes) : Except EthereumParserError TypedTransaction :=
  match buf with
  | [] => .error (.failedToDecodeTransaction "Input too short")
  | flag :: rest =>
      if flag = 0 ∨ (0x7f < flag ∧ flag < 0xc0) then
        .error (.failedToDecodeTransaction
          ("Unexpected type flag " ++ toString flag.toNat ++ "."))
      else if flag ≤ 0x7f then
        match TxType.ofByte flag with
        | none => .error (.failedToDecodeTransaction (rlp.typeError flag))
        | some .eip1559 => finishDecoding ((rlp.decodeEip1559 rest).map fun decoded =>
            (.eip1559 decoded.1, decoded.2))
        | some .eip2930 => .error (.unsupportedTransactionType "eip-2930")
        | some .eip4844 => .error (.unsupportedTransactionType "eip-4844")
        | some .eip7702 => .error (.unsupportedTransactionType "eip-7702")
        | some .legacy => .error (.unexpectedTransactionType "legacy")
      else finishDecoding ((rlp.decodeLegacy (flag :: rest)).map fun decoded =>
        (.legacy decoded.1, decoded.2))

def extractUnsignedFromEnvelope : TypedTransaction → Except EthereumParserError TypedTransaction
  | .supported tx => .ok (.supported tx)
  | .unsupported .eip2930 => .error (.unsupportedTransactionType "eip-2930")
  | .unsupported .eip4844 => .error (.unsupportedTransactionType "eip-4844")
  | .unsupported .eip7702 => .error (.unsupportedTransactionType "eip-7702")

/-- Signed transactions are for developers only. -/
def decodeTransactionBytes (buf : Bytes) (allowSigned : Bool) :
    Except EthereumParserError TypedTransaction :=
  match decodeUnsignedTransactionBytes rlp buf with
  | .ok tx => .ok tx
  | .error unsignedErr =>
      if allowSigned then
        match rlp.decodeEnvelope buf with
        | some envelope => extractUnsignedFromEnvelope envelope
        | none => .error unsignedErr
      else .error unsignedErr

/-- The bytes a text stands for. -/
def rawBytes (rawTransaction : String) : Except EthereumParserError Bytes :=
  match SupportedEncodings.detect rawTransaction with
  | .hex => (Hex.decodeHex rawTransaction).mapError fun error =>
      .failedToDecodeTransaction ("Failed to decode hex: " ++ rlp.hexError error)
  | .base64 => Outcome.okOr
      (.failedToDecodeTransaction
        ("Failed to decode base64: " ++ rlp.base64Error rawTransaction))
      (Base64.decode rawTransaction)

def decodeTransaction (rawTransaction : String) (allowSigned : Bool) :
    Except EthereumParserError TypedTransaction := do
  let bytes ← rawBytes rlp rawTransaction
  decodeTransactionBytes rlp bytes allowSigned

end Decode

/-- An accepted transaction is one of the two types that are converted. -/
theorem supported_of_decodeUnsigned {rlp : AlloyRlp} {buf : Bytes} {tx : TypedTransaction}
    (hdecoded : decodeUnsignedTransactionBytes rlp buf = .ok tx) :
    ∃ supported, tx = .supported supported := by
  have hfinish {decoded : Except String (SupportedTransaction × Bytes)}
      (hok : finishDecoding decoded = .ok tx) : ∃ supported, tx = .supported supported := by
    unfold finishDecoding at hok
    split at hok
    · cases hok
    · split_ifs at hok
      cases hok
      exact ⟨_, rfl⟩
  cases buf with
  | nil => cases hdecoded
  | cons flag rest =>
      rw [decodeUnsignedTransactionBytes] at hdecoded
      split_ifs at hdecoded
      · split at hdecoded
        · cases hdecoded
        · exact hfinish hdecoded
        · cases hdecoded
        · cases hdecoded
        · cases hdecoded
        · cases hdecoded
      · exact hfinish hdecoded

end VisualSignParser.Ethereum
