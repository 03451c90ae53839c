import VisualSignParser.Ethereum.Address
import VisualSignParser.Proto.Messages

/-!
# Networks

The table of known networks, from which chain ids are named and network names
are read.
-/

namespace VisualSignParser.Ethereum

structure Network where
  networkId : String
  chainId : ChainId
  displayName : String
  feePayingAssetSymbol : String

def networks : List Network := [
  ⟨"ETHEREUM_MAINNET", 1, "Ethereum Mainnet", "ETH"⟩,
  ⟨"ETHEREUM_SEPOLIA", 11155111, "Ethereum Sepolia", "ETH"⟩,
  ⟨"ETHEREUM_GOERLI", 5, "Ethereum Goerli (deprecated)", "ETH"⟩,
  ⟨"ETHEREUM_HOLESKY", 17000, "Ethereum Holesky", "ETH"⟩,
  ⟨"BSC_MAINNET", 56, "BNB Smart Chain Mainnet", "BNB"⟩,
  ⟨"BSC_TESTNET", 97, "BNB Smart Chain Testnet", "BNB"⟩,
  ⟨"POLYGON_MAINNET", 137, "Polygon Mainnet", "POL"⟩,
  ⟨"POLYGON_AMOY", 80002, "Polygon Amoy", "POL"⟩,
  ⟨"AVALANCHE_MAINNET", 43114, "Avalanche C-Chain", "AVAX"⟩,
  ⟨"AVALANCHE_FUJI", 43113, "Avalanche Fuji Testnet", "AVAX"⟩,
  ⟨"FANTOM_MAINNET", 250, "Fantom Opera", "FTM"⟩,
  ⟨"GNOSIS_MAINNET", 100, "Gnosis Chain", "XDAI"⟩,
  ⟨"CELO_MAINNET", 42220, "Celo Mainnet", "CELO"⟩,
  ⟨"CELO_ALFAJORES", 44787, "Celo Alfajores Testnet", "CELO"⟩,
  ⟨"OPTIMISM_MAINNET", 10, "OP Mainnet", "ETH"⟩,
  ⟨"OPTIMISM_SEPOLIA", 11155420, "OP Sepolia", "ETH"⟩,
  ⟨"ARBITRUM_MAINNET", 42161, "Arbitrum One", "ETH"⟩,
  ⟨"ARBITRUM_SEPOLIA", 421614, "Arbitrum Sepolia", "ETH"⟩,
  ⟨"BASE_MAINNET", 8453, "Base", "ETH"⟩,
  ⟨"BASE_SEPOLIA", 84532, "Base Sepolia", "ETH"⟩,
  ⟨"BLAST_MAINNET", 81457, "Blast", "ETH"⟩,
  ⟨"MANTLE_MAINNET", 5000, "Mantle", "MNT"⟩,
  ⟨"WORLDCHAIN_MAINNET", 480, "World Chain", "ETH"⟩,
  ⟨"ZKSYNC_MAINNET", 324, "zkSync Era", "ETH"⟩,
  ⟨"LINEA_MAINNET", 59144, "Linea", "ETH"⟩,
  ⟨"SCROLL_MAINNET", 534352, "Scroll", "ETH"⟩,
  ⟨"ZORA_MAINNET", 7777777, "Zora", "ETH"⟩,
  ⟨"UNICHAIN_MAINNET", 130, "Unichain", "ETH"⟩]

def networkOf (chainId : ChainId) : Option Network :=
  networks.find? fun network => network.chainId = chainId

def getNetworkName (chainId : Option ChainId) : String :=
  match chainId with
  | some chainId => match networkOf chainId with
    | some network => network.displayName
    | none => "Unknown Network (Chain ID: " ++ toString chainId.toNat ++ ")"
  | none => "Unknown Network"

def getFeePayingAssetSymbol (chainId : ChainId) : Option String :=
  (networkOf chainId).map Network.feePayingAssetSymbol

/-- The upper-case form of a character where it is ASCII.  Any other character
stands for itself: its upper-case form is not ASCII either, and the text is only
compared with ASCII names. -/
def upperChar (char : Char) : List Char :=
  match char with
  | 'ß' => ['S', 'S']
  | 'ı' => ['I']
  | 'ſ' => ['S']
  | 'ﬀ' => ['F', 'F']
  | 'ﬁ' => ['F', 'I']
  | 'ﬂ' => ['F', 'L']
  | 'ﬃ' => ['F', 'F', 'I']
  | 'ﬄ' => ['F', 'F', 'L']
  | 'ﬅ' => ['S', 'T']
  | 'ﬆ' => ['S', 'T']
  | char => [char.toUpper]

def toUppercase (text : String) : String := String.ofList (text.toList.flatMap upperChar)

def networkIdToChainId (networkId : String) : Option ChainId :=
  (networks.find? fun network => toUppercase networkId = network.networkId).map Network.chainId

def extractChainIdFromMetadata (metadata : Option Proto.ChainMetadata) : Option ChainId := do
  let metadata ← metadata
  let inner ← metadata.metadata
  match inner with
  | .ethereum ethereum => do
      let networkId ← ethereum.networkId
      networkIdToChainId networkId
  | _ => none

end VisualSignParser.Ethereum
