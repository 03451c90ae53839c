import VisualSignParser.Codec.Text
import VisualSignParser.VisualSign.Registry

/-!
# Networks of NEAR

A transaction carries no chain id.  The request may name the network, and the
accounts have to agree with it.
-/

namespace VisualSignParser.Near

open VisualSignParser.VisualSign

inductive NearNetwork where
  | mainnet
  | testnet
  deriving DecidableEq

/-- The name in a debug print. -/
def NearNetwork.debug : NearNetwork → String
  | .mainnet => "Mainnet"
  | .testnet => "Testnet"

def NearNetwork.displayName : NearNetwork → String
  | .mainnet => "NEAR Mainnet"
  | .testnet => "NEAR Testnet"

def NearNetwork.networkId : NearNetwork → String
  | .mainnet => "NEAR_MAINNET"
  | .testnet => "NEAR_TESTNET"

theorem NearNetwork.displayName_injective : Function.Injective NearNetwork.displayName := by
  intro left right
  cases left <;> cases right <;> decide

/-- The upper case of a character, where that is ASCII text.  Outside of ASCII
these are the dotless i, the long and the sharp s and the ligatures; every other
character is no part of an ASCII word in upper case either, and is left alone. -/
def upperChar (char : Char) : List Char :=
  if 'a' ≤ char ∧ char ≤ 'z' then [Char.ofNat (char.toNat - 32)]
  else match char.toNat with
    | 0x131 => ['I']
    | 0x17F => ['S']
    | 0xDF => ['S', 'S']
    | 0xFB00 => ['F', 'F']
    | 0xFB01 => ['F', 'I']
    | 0xFB02 => ['F', 'L']
    | 0xFB03 => ['F', 'F', 'I']
    | 0xFB04 => ['F', 'F', 'L']
    | 0xFB05 => ['S', 'T']
    | 0xFB06 => ['S', 'T']
    | _ => [char]

/-- `str::to_uppercase`, up to texts that are not ASCII in upper case. -/
def toUppercase (text : String) : String := String.ofList (text.toList.flatMap upperChar)

def NearNetwork.fromNetworkId (networkId : String) : Option NearNetwork :=
  if toUppercase networkId = "NEAR_MAINNET" then some .mainnet
  else if toUppercase networkId = "NEAR_TESTNET" then some .testnet
  else none

theorem NearNetwork.fromNetworkId_networkId (network : NearNetwork) :
    NearNetwork.fromNetworkId network.networkId = some network := by
  cases network <;> decide

/-- `str::ends_with`. -/
def endsWith (ending text : String) : Bool := decide (ending.toList <:+ text.toList)

/-- The suffix of an account that names the other network. -/
def NearNetwork.contradicts (network : NearNetwork) (accountId : String) : Bool :=
  match network with
  | .mainnet => endsWith ".testnet" accountId
  | .testnet => endsWith ".near" accountId

def networkMismatch (role accountId : String) (network : NearNetwork) : Option String :=
  if network.contradicts accountId then
    some (role ++ " account '" ++ accountId ++ "' does not match resolved network " ++
      network.debug)
  else none

theorem networkMismatch_eq_none {role accountId : String} {network : NearNetwork} :
    networkMismatch role accountId network = none ↔ network.contradicts accountId = false := by
  rw [networkMismatch]
  cases network.contradicts accountId <;> simp

/-- The network id of the request, if it is metadata of this chain. -/
def suppliedNetworkId (metadata : Option Proto.ChainMetadata) : Option String :=
  match metadata.bind Proto.ChainMetadata.metadata with
  | some (.near near) => near.networkId
  | _ => none

def extractNetworkFromMetadata (metadata : Option Proto.ChainMetadata) :
    Except VisualSignError (Option NearNetwork) :=
  match suppliedNetworkId metadata with
  | none => .ok none
  | some networkId =>
      match NearNetwork.fromNetworkId networkId with
      | some network => .ok (some network)
      | none => .error (.validationError ("Invalid NEAR network_id: " ++ networkId))

end VisualSignParser.Near
