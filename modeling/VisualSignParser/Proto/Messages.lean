import Mathlib.Data.String.Basic
import VisualSignParser.Codec.Borsh

/-!
# Messages of the parser service

The generated message types, with the Borsh encodings the code generator
derives for them: a struct is encoded field by field in declaration order.
-/

namespace VisualSignParser.Proto

open VisualSignParser.Framing
open VisualSignParser.OrderedMap
open VisualSignParser.Borsh

/-- `google::rpc::Code`. -/
inductive Code where
  | ok
  | cancelled
  | unknown
  | invalidArgument
  | deadlineExceeded
  | notFound
  | alreadyExists
  | permissionDenied
  | unauthenticated
  | resourceExhausted
  | failedPrecondition
  | aborted
  | outOfRange
  | unimplemented
  | internal
  | unavailable
  | dataLoss
  deriving DecidableEq

/-! ## Chain metadata -/

/-- One key and value of a signature's description. -/
structure Metadata where
  key : String
  value : String
  deriving DecidableEq

instance : BorshSerialize Metadata :=
  .ofFields (fun message => (message.key, message.value)) (by rintro ⟨⟩ ⟨⟩ ⟨⟩; rfl)

structure SignatureMetadata where
  value : String
  metadata : List Metadata
  deriving DecidableEq

instance : BorshSerialize SignatureMetadata :=
  .ofFields (fun message => (message.value, message.metadata)) (by rintro ⟨⟩ ⟨⟩ ⟨⟩; rfl)

structure Abi where
  value : String
  signature : Option SignatureMetadata
  abiType : Option Int32
  implementationAddress : Option String
  deriving DecidableEq

instance : BorshSerialize Abi :=
  .ofFields
    (fun message =>
      (message.value, message.signature, message.abiType, message.implementationAddress))
    (by rintro ⟨⟩ ⟨⟩ ⟨⟩; rfl)

structure Idl where
  value : String
  idlType : Option Int32
  idlVersion : Option String
  signature : Option SignatureMetadata
  programName : Option String
  deriving DecidableEq

instance : BorshSerialize Idl :=
  .ofFields
    (fun message =>
      (message.value, message.idlType, message.idlVersion, message.signature,
        message.programName))
    (by rintro ⟨⟩ ⟨⟩ ⟨⟩; rfl)

structure TokenMetadataEntry where
  value : String
  signature : Option SignatureMetadata
  originChain : Option Int32
  deriving DecidableEq

instance : BorshSerialize TokenMetadataEntry :=
  .ofFields (fun message => (message.value, message.signature, message.originChain))
    (by rintro ⟨⟩ ⟨⟩ ⟨⟩; rfl)

structure EthereumMetadata where
  networkId : Option String
  abiMappings : BTreeMap String Abi

instance : BorshSerialize EthereumMetadata :=
  .ofFields (fun message => (message.networkId, message.abiMappings))
    (by rintro ⟨⟩ ⟨⟩ ⟨⟩; rfl)

structure SolanaMetadata where
  networkId : Option String
  idl : Option Idl
  idlMappings : BTreeMap String Idl
  simulatedTransactionResult : Option String

instance : BorshSerialize SolanaMetadata :=
  .ofFields
    (fun message =>
      (message.networkId, message.idl, message.idlMappings, message.simulatedTransactionResult))
    (by rintro ⟨⟩ ⟨⟩ ⟨⟩; rfl)

structure NearMetadata where
  networkId : Option String
  tokenMappings : BTreeMap String TokenMetadataEntry

instance : BorshSerialize NearMetadata :=
  .ofFields (fun message => (message.networkId, message.tokenMappings))
    (by rintro ⟨⟩ ⟨⟩ ⟨⟩; rfl)

/-- The variants of `ChainMetadata::metadata`. -/
inductive ChainMetadata.Metadata where
  | ethereum (metadata : EthereumMetadata)
  | solana (metadata : SolanaMetadata)
  | near (metadata : NearMetadata)

def ChainMetadata.Metadata.index : ChainMetadata.Metadata → UInt8
  | ethereum _ => 0
  | solana _ => 1
  | near _ => 2

def ChainMetadata.Metadata.fields : ChainMetadata.Metadata → Option Bytes
  | ethereum metadata => serialize metadata
  | solana metadata => serialize metadata
  | near metadata => serialize metadata

instance : BorshSerialize ChainMetadata.Metadata :=
  .ofVariants ChainMetadata.Metadata.index ChainMetadata.Metadata.fields <| by
    intro left right _ _ _ _ hindex hleft hright heq
    cases left <;> cases right <;> first | (cases hindex; done) | skip
    all_goals
      obtain ⟨hvalue, hrest⟩ := BorshSerialize.unambiguous hleft hright heq
      exact ⟨congrArg _ hvalue, hrest⟩

structure ChainMetadata where
  metadata : Option ChainMetadata.Metadata

instance : BorshSerialize ChainMetadata :=
  .ofFields ChainMetadata.metadata (by rintro ⟨⟩ ⟨⟩ ⟨⟩; rfl)

/-- The encoding of present metadata starts with the tag of an option. -/
theorem serialize_chainMetadata_ne_nil {metadata : ChainMetadata} {bytes : Bytes}
    (hbytes : serialize metadata = some bytes) : bytes ≠ [] := by
  obtain ⟨metadata⟩ := metadata
  cases metadata with
  | none =>
      cases hbytes
      exact List.cons_ne_nil _ _
  | some variant =>
      obtain ⟨rest, -, rfl⟩ := Option.map_eq_some_iff.1 hbytes
      exact List.cons_ne_nil _ _

/-! ## Requests -/

inductive Chain where
  | unspecified
  | bitcoin
  | ethereum
  | solana
  | sui
  | tron
  | near
  | custom
  deriving DecidableEq

def Chain.toInt32 : Chain → Int32
  | unspecified => 0
  | bitcoin => 1
  | ethereum => 2
  | solana => 3
  | sui => 4
  | tron => 5
  | near => 6
  | custom => 999

/-- `Chain::try_from`, which fails on a number that names no chain. -/
def Chain.tryFrom (number : Int32) : Option Chain :=
  [unspecified, bitcoin, ethereum, solana, sui, tron, near, custom].find? fun chain =>
    chain.toInt32 == number

def Chain.fromStrName : String → Option Chain
  | "CHAIN_UNSPECIFIED" => some unspecified
  | "CHAIN_BITCOIN" => some bitcoin
  | "CHAIN_ETHEREUM" => some ethereum
  | "CHAIN_SOLANA" => some solana
  | "CHAIN_SUI" => some sui
  | "CHAIN_TRON" => some tron
  | "CHAIN_NEAR" => some near
  | "CHAIN_CUSTOM" => some custom
  | _ => none

structure ParseRequest where
  unsignedPayload : String
  chain : Int32
  chainMetadata : Option ChainMetadata
  includeIntermediateOutput : Bool
  paymentMarker : Bytes

/-! ## Responses -/

structure ParsedTransactionPayload where
  parsedPayload : String
  inputPayloadDigest : String
  metadataDigest : String
  signablePayload : String
  intermediateOutput : Bytes
  deriving DecidableEq

/-- The derived encoding skips `intermediate_output`. -/
def ParsedTransactionPayload.borshToVec (payload : ParsedTransactionPayload) : Option Bytes :=
  serialize (payload.parsedPayload, payload.inputPayloadDigest, payload.metadataDigest,
    payload.signablePayload)

inductive SignatureScheme where
  | unspecified
  | turnkeyP256EphemeralKey
  deriving DecidableEq

def SignatureScheme.toInt32 : SignatureScheme → Int32
  | unspecified => 0
  | turnkeyP256EphemeralKey => 1

def SignatureScheme.tryFrom (number : Int32) : Option SignatureScheme :=
  [unspecified, turnkeyP256EphemeralKey].find? fun scheme => scheme.toInt32 == number

def SignatureScheme.asStrName : SignatureScheme → String
  | unspecified => "SIGNATURE_SCHEME_UNSPECIFIED"
  | turnkeyP256EphemeralKey => "SIGNATURE_SCHEME_TURNKEY_P256_EPHEMERAL_KEY"

structure Signature where
  scheme : Int32
  publicKey : String
  message : String
  signature : String
  deriving DecidableEq

structure ParsedTransaction where
  payload : Option ParsedTransactionPayload
  signature : Option Signature
  deriving DecidableEq

structure ParseResponse where
  parsedTransaction : Option ParsedTransaction
  deriving DecidableEq

end VisualSignParser.Proto
