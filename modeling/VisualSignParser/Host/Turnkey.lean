import VisualSignParser.Proto.Messages

/-!
# The HTTP envelope

Request and response bodies of the parse routes.  Gateway and enclave server
share them.
-/

namespace VisualSignParser.Host

open VisualSignParser.Proto

/-- Chain metadata with an explicit chain tag. -/
inductive ChainMetadataInput where
  | ethereum (metadata : EthereumMetadata)
  | solana (metadata : SolanaMetadata)
  | near (metadata : NearMetadata)

def ChainMetadataInput.toChainMetadata : ChainMetadataInput → ChainMetadata
  | ethereum metadata => ⟨some (.ethereum metadata)⟩
  | solana metadata => ⟨some (.solana metadata)⟩
  | near metadata => ⟨some (.near metadata)⟩

structure TurnkeyRequest where
  unsignedPayload : String
  chain : String
  chainMetadata : Option ChainMetadataInput
  includeIntermediateOutput : Bool

structure TurnkeyRequestWrapper where
  request : TurnkeyRequest

structure TurnkeyBootProof where
  awsAttestationDocB64 : String
  qosManifestB64 : String
  qosManifestEnvelopeB64 : String
  ephemeralPublicKeyHex : String
  enclaveApp : String
  deploymentLabel : String
  deriving DecidableEq

structure TurnkeyPayload where
  signablePayload : String
  metadataDigest : String
  inputPayloadDigest : String
  intermediateOutput : String
  deriving DecidableEq

structure TurnkeySignature where
  message : String
  publicKey : String
  scheme : String
  signature : String
  deriving DecidableEq

structure TurnkeyParsedTransaction where
  payload : TurnkeyPayload
  signature : Option TurnkeySignature
  deriving DecidableEq

structure TurnkeyResponse where
  parsedTransaction : TurnkeyParsedTransaction
  deriving DecidableEq

structure TurnkeyResponseWrapper where
  bootProof : TurnkeyBootProof
  response : TurnkeyResponse
  error : Option String
  deriving DecidableEq

/-- The digest of no bytes, in hexadecimal. -/
def emptySha256 : String := "e3b0c44298fc1c149afbf4c8996fb92427ae41e4649b934ca495991b7852b855"

def errorResponse (message : String) (bootProof : TurnkeyBootProof) : TurnkeyResponseWrapper where
  bootProof := bootProof
  response := ⟨⟨⟨"", emptySha256, emptySha256, ""⟩, none⟩⟩
  error := some message

def successResponse (bootProof : TurnkeyBootProof) (payload : TurnkeyPayload)
    (signature : Option TurnkeySignature) : TurnkeyResponseWrapper where
  bootProof := bootProof
  response := ⟨⟨payload, signature⟩⟩
  error := none

inductive StatusCode where
  | ok
  | badRequest
  | notFound
  | internalServerError
  | badGateway
  | gatewayTimeout
  deriving DecidableEq

/-- The status and the text of an error response.  An error never has the
status of a success. -/
structure Failure where
  status : StatusCode
  message : String
  isError : status ≠ .ok

def Failure.badRequest (message : String) : Failure := ⟨.badRequest, message, by decide⟩

def Failure.notFound (message : String) : Failure := ⟨.notFound, message, by decide⟩

def Failure.internalServerError (message : String) : Failure :=
  ⟨.internalServerError, message, by decide⟩

def Failure.badGateway (message : String) : Failure := ⟨.badGateway, message, by decide⟩

def Failure.gatewayTimeout (message : String) : Failure := ⟨.gatewayTimeout, message, by decide⟩

end VisualSignParser.Host
