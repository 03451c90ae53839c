import VisualSignParser.Proto.Messages
import VisualSignParser.VisualSign.Errors
import VisualSignParser.VisualSign.Field

/-!
# Converters and registries

A converter turns the text of an unsigned transaction into a payload to display.
The registry holds one converter for each chain.
-/

namespace VisualSignParser.VisualSign

open VisualSignParser.Framing

/-- `visualsign::registry::Chain`. -/
inductive RegistryChain where
  | unspecified
  | solana
  | ethereum
  | bitcoin
  | sui
  | aptos
  | polkadot
  | tron
  | near
  | custom (name : String)
  deriving DecidableEq

def RegistryChain.asStr : RegistryChain → String
  | unspecified => "Unspecified"
  | solana => "Solana"
  | ethereum => "Ethereum"
  | bitcoin => "Bitcoin"
  | sui => "Sui"
  | aptos => "Aptos"
  | polkadot => "Polkadot"
  | tron => "Tron"
  | near => "Near"
  | custom name => name

structure DeveloperConfig where
  allowSignedTransactions : Bool

structure VisualSignOptions where
  decodeTransfers : Bool
  transactionName : Option String
  metadata : Option Proto.ChainMetadata
  developerConfig : Option DeveloperConfig
  includeIntermediateOutput : Bool

structure ConversionResult where
  payload : SignablePayload
  intermediateOutput : Option Bytes

/-- `VisualSignConverterAny::to_visual_sign_payload_from_string_any`. -/
abbrev Converter := String → VisualSignOptions → Except VisualSignError ConversionResult

structure TransactionConverterRegistry where
  getConverter : RegistryChain → Option Converter

namespace TransactionConverterRegistry

def new : TransactionConverterRegistry where
  getConverter _ := none

def register (registry : TransactionConverterRegistry) (chain : RegistryChain)
    (converter : Converter) : TransactionConverterRegistry where
  getConverter := Function.update registry.getConverter chain (some converter)

def convertTransaction (registry : TransactionConverterRegistry) (chain : RegistryChain)
    (transactionData : String) (options : VisualSignOptions) :
    Except VisualSignError ConversionResult :=
  match registry.getConverter chain with
  | some converter => converter transactionData options
  | none => .error (.conversionError ("No converter registered for chain: " ++ chain.asStr))

theorem convertTransaction_register (registry : TransactionConverterRegistry)
    (chain : RegistryChain) (converter : Converter) (transactionData : String)
    (options : VisualSignOptions) :
    (registry.register chain converter).convertTransaction chain transactionData options =
      converter transactionData options := by
  simp [convertTransaction, register]

end TransactionConverterRegistry

end VisualSignParser.VisualSign
