import VisualSignParser.App.PaymentVerify
import VisualSignParser.VisualSign.Charset
import VisualSignParser.VisualSign.Registry

/-!
# The parse endpoint

A request is converted, its payload checked and serialized, and the result
signed together with digests of the request.  The signed bytes are the Borsh
encoding of four strings, followed by the intermediate output if there is any.
-/

namespace VisualSignParser.App

open VisualSignParser.Framing
open VisualSignParser.Borsh
open VisualSignParser.Sha256
open VisualSignParser.Outcome
open VisualSignParser.Proto
open VisualSignParser.Host
open VisualSignParser.VisualSign
open VisualSignParser.Json

/-! ## The signed bytes -/

/-- The bytes the ephemeral key signs over.  A field that has no encoding makes
the source panic. -/
def signingDigestBytes (payload : ParsedTransactionPayload) : Option Bytes := do
  let bytes ← payload.borshToVec
  if payload.intermediateOutput ≠ [] then
    let intermediate ← serialize payload.intermediateOutput
    return bytes ++ intermediate
  else
    return bytes

/-- What follows the four strings. -/
def intermediateTail (intermediateOutput : Bytes) : Bytes :=
  if intermediateOutput ≠ [] then lenPrefixed 4 intermediateOutput else []

/-- All five fields are shorter than `2^32`. -/
structure FieldsFit (payload : ParsedTransactionPayload) : Prop where
  parsedPayload : (utf8Bytes payload.parsedPayload).length < 2 ^ 32
  inputPayloadDigest : (utf8Bytes payload.inputPayloadDigest).length < 2 ^ 32
  metadataDigest : (utf8Bytes payload.metadataDigest).length < 2 ^ 32
  signablePayload : (utf8Bytes payload.signablePayload).length < 2 ^ 32
  intermediateOutput : payload.intermediateOutput.length < 2 ^ 32

theorem borshToVec_eq {payload : ParsedTransactionPayload} (hfits : FieldsFit payload) :
    payload.borshToVec = some (lenPrefixed 4 (utf8Bytes payload.parsedPayload) ++
      (lenPrefixed 4 (utf8Bytes payload.inputPayloadDigest) ++
        (lenPrefixed 4 (utf8Bytes payload.metadataDigest) ++
          lenPrefixed 4 (utf8Bytes payload.signablePayload)))) := by
  have hparsed := serialize_string hfits.parsedPayload
  have hinput := serialize_string hfits.inputPayloadDigest
  have hmetadata := serialize_string hfits.metadataDigest
  have hsignable := serialize_string hfits.signablePayload
  have htexts := serialize_pair_eq_some.2 ⟨_, hmetadata, _, hsignable, rfl⟩
  have hinputs := serialize_pair_eq_some.2 ⟨_, hinput, _, htexts, rfl⟩
  exact serialize_pair_eq_some.2 ⟨_, hparsed, _, hinputs, rfl⟩

theorem signingDigestBytes_eq {payload : ParsedTransactionPayload} (hfits : FieldsFit payload) :
    signingDigestBytes payload =
      payload.borshToVec.map (· ++ intermediateTail payload.intermediateOutput) := by
  rw [signingDigestBytes, borshToVec_eq hfits, intermediateTail]
  by_cases hempty : payload.intermediateOutput = []
  · rw [hempty]
    simp
  · simp [hempty, serialize_bytes hfits.intermediateOutput]

theorem intermediateTail_injective {left right : Bytes} (hleft : left.length < 2 ^ 32)
    (hright : right.length < 2 ^ 32) (heq : intermediateTail left = intermediateTail right) :
    left = right := by
  have hwidth : (2 : ℕ) ^ 32 = 256 ^ 4 := by norm_num
  rw [hwidth] at hleft hright
  -- a present output is behind its four length bytes, so its tail is not empty
  have hlength (output : Bytes) (hempty : output ≠ []) :
      4 ≤ (intermediateTail output).length := by
    rw [intermediateTail, if_pos hempty, lenPrefixed, List.length_append, length_leBytes]
    exact Nat.le_add_right 4 _
  have hnil : intermediateTail [] = [] := rfl
  by_cases hleftEmpty : left = []
  · by_cases hrightEmpty : right = []
    · rw [hleftEmpty, hrightEmpty]
    · have hshort := hlength right hrightEmpty
      rw [← heq, hleftEmpty, hnil] at hshort
      simp at hshort
  · by_cases hrightEmpty : right = []
    · have hshort := hlength left hleftEmpty
      rw [heq, hrightEmpty, hnil] at hshort
      simp at hshort
    · rw [intermediateTail, intermediateTail, if_pos hleftEmpty, if_pos hrightEmpty] at heq
      exact lenPrefixed_injective hleft hright heq

/-- The signed bytes determine all five fields, although nothing tags the
intermediate output. -/
theorem signingDigestBytes_injective {left right : ParsedTransactionPayload}
    (hleft : FieldsFit left) (hright : FieldsFit right)
    (heq : signingDigestBytes left = signingDigestBytes right) : left = right := by
  obtain ⟨leftBytes, hleftBytes⟩ : ∃ bytes, left.borshToVec = some bytes :=
    ⟨_, borshToVec_eq hleft⟩
  obtain ⟨rightBytes, hrightBytes⟩ : ∃ bytes, right.borshToVec = some bytes :=
    ⟨_, borshToVec_eq hright⟩
  rw [signingDigestBytes_eq hleft, signingDigestBytes_eq hright, hleftBytes, hrightBytes,
    Option.map_some, Option.map_some, Option.some.injEq] at heq
  obtain ⟨hstrings, htail⟩ := BorshSerialize.unambiguous hleftBytes hrightBytes heq
  have hintermediate :=
    intermediateTail_injective hleft.intermediateOutput hright.intermediateOutput htail
  cases left
  cases right
  simp_all

/-! ## The request -/

/-- Why a request is not answered: an error for the caller, or a panic. -/
inductive Abort where
  | grpc (error : GrpcError)
  | panicked
  deriving DecidableEq

/-- `chain_conversion::proto_to_registry`. -/
def protoToRegistry : Proto.Chain → RegistryChain
  | .solana => .solana
  | .ethereum => .ethereum
  | .sui => .sui
  | .tron => .tron
  | .near => .near
  | .unspecified => .unspecified
  | _ => .custom "custom_unknown"

/-- Rejections are the caller's fault, anything else is the server's. -/
def charsetError (error : VisualSignError) : Abort :=
  match error with
  | .validationError _ => .grpc ⟨.invalidArgument, error.display⟩
  | _ => .grpc ⟨.internal, error.display⟩

def requestOptions (request : ParseRequest) : VisualSignOptions where
  decodeTransfers := true
  transactionName := none
  metadata := request.chainMetadata
  developerConfig := none
  includeIntermediateOutput := request.includeIntermediateOutput

/-- The payload for a converted request.  The same text stands in both payload
fields. -/
def parsedTransactionPayload (unsignedPayload : String) (metadataBytes : Bytes)
    (parsedPayload : String) (intermediateOutput : Option Bytes) : ParsedTransactionPayload where
  parsedPayload := parsedPayload
  inputPayloadDigest := Hex.encode (sha256 (utf8Bytes unsignedPayload)).1
  metadataDigest := Hex.encode (sha256 metadataBytes).1
  signablePayload := parsedPayload
  intermediateOutput := intermediateOutput.getD []

section Parse

variable (p256 : P256) (backing : Backing)

def ephemeralSignature (key : p256.Pair) (digest : ByteArr 32) (signature : Bytes) :
    Signature where
  scheme := SignatureScheme.turnkeyP256EphemeralKey.toInt32
  publicKey := Hex.encode (p256.toBytes (p256.publicKey key))
  message := Hex.encode digest.1
  signature := Hex.encode signature

def parseWithRegistry (request : ParseRequest) (key : p256.Pair)
    (registry : TransactionConverterRegistry) : Except Abort ParseResponse := do
  require (request.unsignedPayload ≠ "")
    (.grpc ⟨.invalidArgument, "unsigned transaction is empty"⟩)
  let protoChain ← okOr (.grpc ⟨.invalidArgument, "invalid chain"⟩)
    (Proto.Chain.tryFrom request.chain)
  let conversion ← (registry.convertTransaction (protoToRegistry protoChain)
    request.unsignedPayload (requestOptions request)).mapError fun error =>
      .grpc ⟨.invalidArgument, error.display⟩
  (conversion.payload.validateCharset backing).mapError charsetError
  let parsedPayload ← (conversion.payload.toSerdeString backing).mapError fun error =>
    .grpc ⟨.internal, "Failed to serialize payload: " ++ error.message⟩
  let metadataBytes ←
    okOr (.grpc ⟨.internal, "chain_metadata borsh encode: Kind(InvalidData)"⟩)
      (chainMetadataBytes request.chainMetadata)
  let payload := parsedTransactionPayload request.unsignedPayload metadataBytes parsedPayload
    conversion.intermediateOutput
  let bytes ← okOr .panicked (signingDigestBytes payload)
  let digest := sha256 bytes
  let signature ← (p256.sign key digest.1).mapError fun error => .grpc ⟨.internal, error⟩
  return ⟨some ⟨some payload, some (ephemeralSignature p256 key digest signature)⟩⟩

/-- How a request came to be answered. -/
structure Answered (request : ParseRequest) (key : p256.Pair)
    (registry : TransactionConverterRegistry) (payload : ParsedTransactionPayload)
    (signature : Signature) : Prop where
  nonempty : request.unsignedPayload ≠ ""
  converted : ∃ protoChain conversion, Proto.Chain.tryFrom request.chain = some protoChain ∧
    registry.convertTransaction (protoToRegistry protoChain) request.unsignedPayload
      (requestOptions request) = .ok conversion ∧
    conversion.payload.validateCharset backing = .ok () ∧
    ∃ parsedPayload metadataBytes, conversion.payload.toSerdeString backing = .ok parsedPayload ∧
      chainMetadataBytes request.chainMetadata = some metadataBytes ∧
      payload = parsedTransactionPayload request.unsignedPayload metadataBytes parsedPayload
        conversion.intermediateOutput
  signed : ∃ bytes signatureBytes, signingDigestBytes payload = some bytes ∧
    p256.sign key (sha256 bytes).1 = .ok signatureBytes ∧
    signature = ephemeralSignature p256 key (sha256 bytes) signatureBytes

theorem parseWithRegistry_eq_ok_iff {request : ParseRequest} {key : p256.Pair}
    {registry : TransactionConverterRegistry} {response : ParseResponse} :
    parseWithRegistry p256 backing request key registry = .ok response ↔
      ∃ payload signature, response = ⟨some ⟨some payload, some signature⟩⟩ ∧
        Answered p256 backing request key registry payload signature := by
  simp only [parseWithRegistry, bind_eq_ok, require_eq_ok, okOr_eq_ok, mapError_eq_ok, pure_eq_ok]
  constructor
  · rintro ⟨-, hnonempty, protoChain, hchain, conversion, hconversion, ⟨⟩, hcharset, parsedPayload,
      hparsed, metadataBytes, hmetadata, bytes, hbytes, signatureBytes, hsign, rfl⟩
    exact ⟨_, _, rfl, hnonempty, ⟨protoChain, conversion, hchain, hconversion, hcharset,
      parsedPayload, metadataBytes, hparsed, hmetadata, rfl⟩,
      ⟨bytes, signatureBytes, hbytes, hsign, rfl⟩⟩
  · rintro ⟨payload, signature, rfl, hnonempty, ⟨protoChain, conversion, hchain, hconversion,
      hcharset, parsedPayload, metadataBytes, hparsed, hmetadata, rfl⟩,
      ⟨bytes, signatureBytes, hbytes, hsign, rfl⟩⟩
    exact ⟨(), hnonempty, protoChain, hchain, conversion, hconversion, (), hcharset, parsedPayload,
      hparsed, metadataBytes, hmetadata, bytes, hbytes, signatureBytes, hsign, rfl⟩

/-- Everything the payload and the signature tell about the request. -/
theorem Answered.digests {request : ParseRequest} {key : p256.Pair}
    {registry : TransactionConverterRegistry} {payload : ParsedTransactionPayload}
    {signature : Signature}
    (hanswered : Answered p256 backing request key registry payload signature) :
    ∃ metadataBytes, chainMetadataBytes request.chainMetadata = some metadataBytes ∧
      payload.inputPayloadDigest = Hex.encode (sha256 (utf8Bytes request.unsignedPayload)).1 ∧
      payload.metadataDigest = Hex.encode (sha256 metadataBytes).1 ∧
      payload.signablePayload = payload.parsedPayload := by
  obtain ⟨-, -, -, -, -, -, metadataBytes, -, hmetadata, rfl⟩ := hanswered.converted
  exact ⟨metadataBytes, hmetadata, rfl, rfl, rfl⟩

/-- The deployment's configuration.  `Trust` is the posture towards metadata
supplied by callers, which only the converters read. -/
structure ParserConfig (Trust : Type) (p256Sign : P256Sign) where
  abiTrust : Trust
  payment : PaymentPolicy p256Sign

variable {Trust : Type} {p256Sign : P256Sign} (borshMessage : Bytes → String)
  (createRegistry : Trust → TransactionConverterRegistry)

def parse (request : ParseRequest) (key : p256.Pair) (config : ParserConfig Trust p256Sign) :
    Except Abort ParseResponse := do
  (verify p256Sign borshMessage request config.payment).mapError fun error =>
    .grpc error.toGrpcError
  parseWithRegistry p256 backing request key (createRegistry config.abiTrust)

theorem parse_eq_ok {request : ParseRequest} {key : p256.Pair}
    {config : ParserConfig Trust p256Sign} {response : ParseResponse}
    (hparse : parse p256 backing borshMessage createRegistry request key config = .ok response) :
    parseWithRegistry p256 backing request key (createRegistry config.abiTrust) = .ok response := by
  obtain ⟨-, -, hresponse⟩ := bind_eq_ok.1 hparse
  exact hresponse

/-- Without a payment policy nothing stands in front of the endpoint. -/
theorem parse_disabled {request : ParseRequest} {key : p256.Pair}
    {config : ParserConfig Trust p256Sign} (hpayment : config.payment = .disabled) :
    parse p256 backing borshMessage createRegistry request key config =
      parseWithRegistry p256 backing request key (createRegistry config.abiTrust) := by
  rw [parse, hpayment]
  rfl

end Parse

/-! ## An answered request -/

def networkPayload : SignablePayload where
  fields := [.textV2 ⟨"Ethereum Mainnet", "Network"⟩ ⟨"Ethereum Mainnet"⟩]
  payloadType := "EthereumTx"
  subtitle := none
  title := "Ethereum Transaction"
  version := "0"

/-- A converter that shows the network only. -/
def networkConverter : Converter := fun _ _ => .ok ⟨networkPayload, none⟩

theorem networkPayload_validateCharset (backing : Backing) :
    networkPayload.validateCharset backing = .ok () := by
  rw [SignablePayload.validateCharset, toJson_eq_ok]
  dsimp only
  rw [String.toList_ofList]
  cases backing <;> decide +kernel

theorem networkPayload_toSerdeString (backing : Backing) :
    ∃ text, networkPayload.toSerdeString backing = .ok text ∧
      (utf8Bytes text).length < 2 ^ 32 := by
  have hrender : (networkPayload.document backing).render.length < 2 ^ 30 := by
    cases backing <;> decide +kernel
  have hlength := length_utf8Bytes_ofList_le (networkPayload.document backing).render
  exact ⟨_, toSerdeString_eq_ok backing networkPayload, by omega⟩

/-- What a request needs to be answered by some registry. -/
structure Answerable (request : ParseRequest) : Prop where
  nonempty : request.unsignedPayload ≠ ""
  chain : ∃ chain, Proto.Chain.tryFrom request.chain = some chain
  metadata : ∃ bytes, chainMetadataBytes request.chainMetadata = some bytes

theorem Answered.answerable {p256 : P256} {backing : Backing} {request : ParseRequest}
    {key : p256.Pair} {registry : TransactionConverterRegistry}
    {payload : ParsedTransactionPayload} {signature : Signature}
    (hanswered : Answered p256 backing request key registry payload signature) :
    Answerable request := by
  obtain ⟨chain, -, hchain, -, -, -, metadataBytes, -, hmetadata, -⟩ := hanswered.converted
  exact ⟨hanswered.nonempty, ⟨chain, hchain⟩, ⟨metadataBytes, hmetadata⟩⟩

theorem fieldsFit_parsedTransactionPayload {unsignedPayload parsedPayload : String}
    {metadataBytes : Bytes} (hparsed : (utf8Bytes parsedPayload).length < 2 ^ 32) :
    FieldsFit (parsedTransactionPayload unsignedPayload metadataBytes parsedPayload none) := by
  have hdigest (message : Bytes) :
      (utf8Bytes (Hex.encode (sha256 message).1)).length < 2 ^ 32 := by
    have hlength := Hex.length_utf8Bytes_encode_le (sha256 message).1
    rw [(sha256 message).2] at hlength
    omega
  exact ⟨hparsed, hdigest _, hdigest _, hparsed, Nat.two_pow_pos 32⟩

/-- A registry that shows the network answers every request that can be
answered. -/
theorem Answerable.answered {p256 : P256} (hlawful : p256.Lawful) (backing : Backing)
    (key : p256.Pair) {request : ParseRequest} (hanswerable : Answerable request)
    {registry : TransactionConverterRegistry} {chain : Proto.Chain}
    (hchain : Proto.Chain.tryFrom request.chain = some chain)
    (hconverted : registry.convertTransaction (protoToRegistry chain) request.unsignedPayload
      (requestOptions request) = .ok ⟨networkPayload, none⟩) :
    ∃ payload signature, Answered p256 backing request key registry payload signature := by
  obtain ⟨metadataBytes, hmetadata⟩ := hanswerable.metadata
  obtain ⟨parsedPayload, hparsed, hlength⟩ := networkPayload_toSerdeString backing
  have hfits := @fieldsFit_parsedTransactionPayload request.unsignedPayload _ metadataBytes hlength
  have hbytes := signingDigestBytes_eq hfits
  rw [borshToVec_eq hfits, Option.map_some] at hbytes
  obtain ⟨signatureBytes, hsign, -⟩ := hlawful.sign_verify key (sha256 _).1
  exact ⟨_, _, hanswerable.nonempty, ⟨chain, ⟨networkPayload, none⟩, hchain, hconverted,
    networkPayload_validateCharset backing, parsedPayload, metadataBytes, hparsed, hmetadata, rfl⟩,
    ⟨_, signatureBytes, hbytes, hsign, rfl⟩⟩

theorem Answerable.exists_answered {p256 : P256} (hlawful : p256.Lawful) (backing : Backing)
    (key : p256.Pair) {request : ParseRequest} (hanswerable : Answerable request) :
    ∃ registry payload signature,
      Answered p256 backing request key registry payload signature := by
  obtain ⟨chain, hchain⟩ := hanswerable.chain
  use TransactionConverterRegistry.new.register (protoToRegistry chain) networkConverter
  apply hanswerable.answered hlawful backing key hchain
  rw [TransactionConverterRegistry.convertTransaction_register]
  rfl

def unsignedTransaction : String :=
  "0x02f84b0180830f4240843b9aca00830186a09411111111111111111111111111111111111111118" ++
    "0a46ab6fefe0000000000000000000000000000000000000000000000000000000000000007c0"

def transactionRequest (chain : Int32) : ParseRequest where
  unsignedPayload := unsignedTransaction
  chain := chain
  chainMetadata := none
  includeIntermediateOutput := false
  paymentMarker := []

def ephemeralPublicBytes : Bytes := hexConstant
  ("046cabae77e507340f35325c1b2bd956809899d4a89a7d354133b0eba1b00bb22d" ++
    "03ff71dc73388a7b81d20b2d0c306dd805e2626583e951b956a9e5375ddd8e81" ++
    "044f69570dca5c42453b009db83823e2702453efc4e59591940679920e0666b42b" ++
    "bccde0acede533230b0f842b607904a1217c6ca3008cb6b123b1b53cdc3d9321")

def answerDigest : Bytes :=
  hexConstant "b82ca30a4c0cc5fb8f6ee1942f866cc8907295dd54ecc7699716955485bf2771"

def answerSignature : Bytes := hexConstant
  ("f8589ae013bde5ddf85080a2fd8029cea3cfb09fc8f7daf3bea40b3cc589017f" ++
    "3d3d3209259ff8fcebb5c7c0e88d5e9b0f01af0d55a21394b51286147b69448a")

/-- A key pair with its signature on the digest of the network payload.  On
other messages the signature is a stand-in. -/
def ephemeralKey : P256 where
  Pair := Unit
  Public := Unit
  decEqPublic := inferInstance
  publicKey _ := ()
  toBytes _ := ephemeralPublicBytes
  fromBytes bytes := if bytes = ephemeralPublicBytes then .ok () else .error "FailedToReadPublicKey"
  sign _ message := .ok (if message = answerDigest then answerSignature else message)
  verify _ message signature :=
    signature == if message = answerDigest then answerSignature else message
  hexDecode text := (Hex.decodeHex text).mapError fun _ => "InvalidHex"

theorem ephemeralKey_lawful : ephemeralKey.Lawful := by
  constructor
  · rintro ⟨⟩
    simp [ephemeralKey]
  · intro bytes
    exact mapError_eq_ok.2 (Hex.decodeHex_encode bytes)
  · intro pair message
    exact ⟨_, rfl, beq_self_eq_true _⟩

end VisualSignParser.App
