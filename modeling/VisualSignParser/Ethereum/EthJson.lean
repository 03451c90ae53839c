import VisualSignParser.Codec.Radix
import VisualSignParser.Ethereum.Decode
import VisualSignParser.VisualSign.Charset
import VisualSignParser.VisualSign.Deserialize

/-!
# Transactions as JSON

A transaction may come as a JSON object instead of bytes.  The object is tagged
as a transaction, has no other keys than the fields of `eth_sendTransaction`, and
writes every number as hexadecimal text behind a marker.
-/

namespace VisualSignParser.Ethereum

open VisualSignParser.Framing
open VisualSignParser.Json
open VisualSignParser.VisualSign

def defaultGasLimit : UInt64 := 21000

/-- 512 KiB of digits. -/
def maxHexDataLen : ℕ := 512 * 1024

def maxJsonInputLen : ℕ := 1024 * 1024

def errorPreviewLen : ℕ := 64

structure EthJsonTransaction where
  sender : Option String
  destination : Option String
  data : Option String
  value : Option String
  nonce : Option String
  gas : Option String
  gasPrice : Option String
  maxFeePerGas : Option String
  maxPriorityFeePerGas : Option String
  chainId : Option String

inductive EthJsonInput where
  | transaction (tx : EthJsonTransaction)

/-- What is called in other crates: the text of the error for a document that is
not read, `U256::from_str_radix` for hexadecimal text, and the text of the error
for an address that is not read. -/
structure JsonCrates where
  serdeError : String → String
  parseU256 : String → Except String (BitVec 256)
  addressError : String → String

/-! ## The document -/

/-- The keys, in the order of the struct. -/
def EthJsonTransaction.keys : List String :=
  ["from", "to", "data", "value", "nonce", "gas", "gasPrice", "maxFeePerGas",
    "maxPriorityFeePerGas", "chainId"]

/-- No other key is allowed. -/
def EthJsonTransaction.deserialize (members : List (String × Value)) :
    Option EthJsonTransaction := do
  if members.all fun member => EthJsonTransaction.keys.contains member.1 then
    return {
      sender := ← optionalMember "from" readString members
      destination := ← optionalMember "to" readString members
      data := ← optionalMember "data" readString members
      value := ← optionalMember "value" readString members
      nonce := ← optionalMember "nonce" readString members
      gas := ← optionalMember "gas" readString members
      gasPrice := ← optionalMember "gasPrice" readString members
      maxFeePerGas := ← optionalMember "maxFeePerGas" readString members
      maxPriorityFeePerGas := ← optionalMember "maxPriorityFeePerGas" readString members
      chainId := ← optionalMember "chainId" readString members }
  else none

/-- The tag is one of the members and chooses the variant. -/
def EthJsonInput.deserialize (value : Value) : Option EthJsonInput := do
  let members ← structMembers ("type" :: EthJsonTransaction.keys) value
  let tag ← requiredMember "type" readString members
  if tag = "transaction" then
    (EthJsonTransaction.deserialize (members.filter fun member => member.1 ≠ "type")).map
      .transaction
  else none

/-- `serde_json::from_str`. -/
def EthJsonInput.fromStr (text : String) : Option EthJsonInput :=
  (parseDocument 128 text.toList).bind EthJsonInput.deserialize

/-- An opening brace behind white space. -/
def isJsonInput (data : String) : Bool :=
  (Text.trimStart data).toList.head? == some '\x7b'

/-! ## The fields -/

section Fields

variable {A : Type}

/-- The error names the field it is about. -/
def fieldContext (field : String) (result : Except EthereumParserError A) :
    Except EthereumParserError A :=
  result.mapError fun error => match error with
    | .failedToParseJsonTransaction message =>
        .failedToParseJsonTransaction ("'" ++ field ++ "': " ++ message)
    | other => other

/-- The longest start of a text that fits in so many bytes. -/
def takeBytes : ℕ → List Char → List Char
  | _, [] => []
  | size, char :: rest =>
      if char.utf8Size ≤ size then char :: takeBytes (size - char.utf8Size) rest else []

def truncateForError (text : String) : String :=
  if (utf8Bytes text).length ≤ errorPreviewLen then text
  else String.ofList (takeBytes (errorPreviewLen - 3) text.toList) ++ "..."

/-- `require_hex_prefix`. -/
def requireHexMarker (text : String) : Except EthereumParserError String :=
  Outcome.okOr
    (.failedToParseJsonTransaction
      ("Hex value '" ++ truncateForError text ++ "' must start with '0x' prefix"))
    (Hex.splitHexMarker text)

/-- The integer parsers of all widths. -/
def parseHexInt (label : String) (fromStrRadix : String → Except String A) (text : String) :
    Except EthereumParserError A := do
  let hex ← requireHexMarker text
  if hex.isEmpty then
    .error (.failedToParseJsonTransaction
      ("Empty hex " ++ label ++ " '" ++ truncateForError text ++ "'; use '0x0' for zero"))
  else
    (fromStrRadix hex).mapError fun error => .failedToParseJsonTransaction
      ("Invalid hex " ++ label ++ " '" ++ truncateForError text ++ "': " ++ error)

/-- `from_str_radix` of a primitive type, with the text of its error. -/
def fromHexDigits (bits : ℕ) (hex : String) : Except String ℕ :=
  (Radix.fromStrRadix bits 16 hex.toList).mapError Radix.IntErrorKind.display

def parseHexU64 : String → Except EthereumParserError UInt64 :=
  parseHexInt "u64" fun hex => (fromHexDigits 64 hex).map UInt64.ofNat

def parseHexU128 : String → Except EthereumParserError (BitVec 128) :=
  parseHexInt "u128" fun hex => (fromHexDigits 128 hex).map (BitVec.ofNat 128)

def parseHexU256 (crates : JsonCrates) : String → Except EthereumParserError (BitVec 256) :=
  parseHexInt "U256" crates.parseU256

def parseAddress (formats : Formats) (crates : JsonCrates) (text : String) :
    Except EthereumParserError Address :=
  Outcome.okOr
    (.failedToParseJsonTransaction
      ("Invalid address '" ++ truncateForError text ++ "': " ++ crates.addressError text))
    (formats.parseAddress text)

def parseHexBytes (rlp : AlloyRlp) (text : String) : Except EthereumParserError Bytes := do
  let hex ← requireHexMarker text
  if hex.isEmpty then pure []
  else if maxHexDataLen < (utf8Bytes hex).length then
    .error (.failedToParseJsonTransaction
      ("Hex data too large: " ++ toString (utf8Bytes hex).length ++ " chars (max " ++
        toString maxHexDataLen ++ ")"))
  else
    (Hex.decode (utf8Bytes hex)).mapError fun error => .failedToParseJsonTransaction
      ("Invalid hex data '" ++ truncateForError text ++ "': " ++ rlp.hexError error)

end Fields

/-! ## The transaction -/

section Build

variable (formats : Formats) (crates : JsonCrates) (rlp : AlloyRlp)

/-- The checks that come before any other field is read. -/
def checkFeeFields (tx : EthJsonTransaction) : Except EthereumParserError Unit :=
  if tx.gasPrice.isSome ∧ tx.maxFeePerGas.isSome then
    .error (.failedToParseJsonTransaction
      "Cannot specify both 'gasPrice' (legacy) and 'maxFeePerGas' (EIP-1559)")
  else if tx.maxPriorityFeePerGas.isSome ∧ tx.maxFeePerGas.isNone then
    .error (.failedToParseJsonTransaction
      "'maxPriorityFeePerGas' requires 'maxFeePerGas' to be set")
  else .ok ()

def readDestination : Option String → Except EthereumParserError TxKind
  | some address => (fieldContext "to" (parseAddress formats crates address)).map .call
  | none => .ok .create

def readGasLimit : Option String → Except EthereumParserError UInt64
  | some raw => do
      let parsed ← fieldContext "gas" (parseHexU64 raw)
      if parsed = 0 then
        .error (.failedToParseJsonTransaction
          "'gas' must be greater than 0; omit the field to use the default (21000)")
      else pure parsed
  | none => .ok defaultGasLimit

/-- There is no default for the chain. -/
def readChainId : Option String → Except EthereumParserError ChainId
  | some raw => do
      let parsed ← fieldContext "chainId" (parseHexU64 raw)
      if parsed = 0 then
        .error (.failedToParseJsonTransaction "'chainId' must be greater than 0")
      else pure parsed
  | none => .error (.failedToParseJsonTransaction "'chainId' is required")

/-- A field that is left out has its default. -/
def readOrDefault {A : Type} (field : String) (parse : String → Except EthereumParserError A)
    (default : A) (text : Option String) : Except EthereumParserError A :=
  (fieldContext field (text.mapM parse)).map fun parsed => parsed.getD default

/-- The sender is checked and not used. -/
def checkSender : Option String → Except EthereumParserError Unit
  | some sender => (fieldContext "from" (parseAddress formats crates sender)).map fun _ => ()
  | none => .ok ()

/-- The maximum fee makes an EIP-1559 transaction. -/
def buildWithFees (tx : EthJsonTransaction) (destination : TxKind) (value : BitVec 256)
    (nonce gasLimit : UInt64) (chainId : ChainId) (input : Bytes) :
    Except EthereumParserError TypedTransaction :=
  match tx.maxFeePerGas with
  | some fee => do
      let maxFeePerGas ← fieldContext "maxFeePerGas" (parseHexU128 fee)
      let maxPriorityFeePerGas ←
        readOrDefault "maxPriorityFeePerGas" parseHexU128 0 tx.maxPriorityFeePerGas
      if maxFeePerGas < maxPriorityFeePerGas then
        .error (.failedToParseJsonTransaction
          "'maxPriorityFeePerGas' cannot exceed 'maxFeePerGas'")
      else
        pure (.supported (.eip1559 ⟨chainId, nonce, gasLimit, maxFeePerGas, maxPriorityFeePerGas,
          destination, value, [], input⟩))
  | none => do
      let gasPrice ← readOrDefault "gasPrice" parseHexU128 0 tx.gasPrice
      pure (.supported (.legacy ⟨some chainId, nonce, gasPrice, gasLimit, destination, value,
        input⟩))

def buildTransaction (tx : EthJsonTransaction) : Except EthereumParserError TypedTransaction := do
  checkSender formats crates tx.sender
  checkFeeFields tx
  let destination ← readDestination formats crates tx.destination
  let value ← readOrDefault "value" (parseHexU256 crates) 0 tx.value
  let nonce ← readOrDefault "nonce" parseHexU64 0 tx.nonce
  let gasLimit ← readGasLimit tx.gas
  let chainId ← readChainId tx.chainId
  let input ← readOrDefault "data" (parseHexBytes rlp) [] tx.data
  buildWithFees tx destination value nonce gasLimit chainId input

def decodeJsonTransaction (data : String) : Except EthereumParserError TypedTransaction :=
  let length := (utf8Bytes data).length
  if maxJsonInputLen < length then
    .error (.failedToParseJsonTransaction
      ("JSON input too large: " ++ toString length ++ " bytes (max " ++
        toString maxJsonInputLen ++ ")"))
  else match EthJsonInput.fromStr data with
    | none => .error (.failedToParseJsonTransaction (crates.serdeError data))
    | some (.transaction tx) => buildTransaction formats crates rlp tx

/-- `EthereumTransactionWrapper::from_string_with_options`. -/
def fromStringWithOptions (data : String) (developerConfig : Option DeveloperConfig) :
    Except TransactionParseError TypedTransaction :=
  if isJsonInput data then
    (decodeJsonTransaction formats crates rlp data).mapError fun error =>
      .invalidFormat error.display
  else
    (decodeTransaction rlp data
      ((developerConfig.map DeveloperConfig.allowSignedTransactions).getD false)).mapError
        fun error => .decodeError error.display

/-- The payload is screened for characters that may not be shown. -/
def EthereumVisualSignConverter.toVisualSignPayloadFromString (dyn : DynAbi) (k256 : K256)
    (backing : Backing) (converter : EthereumVisualSignConverter) (transactionData : String)
    (options : VisualSignOptions) : Except VisualSignError ConversionResult := do
  let transaction ← (fromStringWithOptions formats crates rlp transactionData
    options.developerConfig).mapError .parseError
  let payload ← converter.convertTransactionInner formats dyn k256 transaction options
  payload.validateCharset backing
  pure ⟨payload, none⟩

end Build

end VisualSignParser.Ethereum
