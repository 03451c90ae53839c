import VisualSignParser.App.ExactAmounts
import VisualSignParser.App.SanitisedTexts
import VisualSignParser.App.SigningPath
import VisualSignParser.Cli.AbiMappings
import VisualSignParser.Cli.AbiPosture
import VisualSignParser.Cli.IdlMappings
import VisualSignParser.Cli.Mappings
import VisualSignParser.Cli.TransactionInput
import VisualSignParser.Codec.AsciiBytes
import VisualSignParser.Codec.DecimalValue
import VisualSignParser.Codec.HalfEven
import VisualSignParser.Codec.History
import VisualSignParser.Codec.Pointwise
import VisualSignParser.Codec.Retention
import VisualSignParser.Deploy.Posture
import VisualSignParser.Deploy.Prune
import VisualSignParser.Ethereum.AbiCalls
import VisualSignParser.Ethereum.AbiCoverage
import VisualSignParser.Ethereum.AbiTrust
import VisualSignParser.Ethereum.ChainLabel
import VisualSignParser.Ethereum.HexNumbers
import VisualSignParser.Ethereum.InputEncodings
import VisualSignParser.Ethereum.Permit2Selectors
import VisualSignParser.Ethereum.RegistryMaps
import VisualSignParser.Ethereum.RouterPayments
import VisualSignParser.Ethereum.SwapPaths
import VisualSignParser.Gateway.BearerAuth
import VisualSignParser.Gateway.ParseHandler
import VisualSignParser.Gateway.Startup
import VisualSignParser.Http.Server
import VisualSignParser.Near.AccessKeys
import VisualSignParser.Near.AssetTexts
import VisualSignParser.Near.Messages
import VisualSignParser.Near.NetworkAgreement
import VisualSignParser.Near.RenderErrors
import VisualSignParser.Solana.ArgRendering
import VisualSignParser.Solana.CanonicalArgs
import VisualSignParser.Solana.CarriedData
import VisualSignParser.Solana.Convert
import VisualSignParser.Solana.DflowAggregator
import VisualSignParser.Solana.Dispatch
import VisualSignParser.Solana.Displayed
import VisualSignParser.Solana.IdlPresetAccounts
import VisualSignParser.Solana.IdlRecords
import VisualSignParser.Solana.InnerInstructions
import VisualSignParser.Solana.JupiterSwap
import VisualSignParser.Solana.NamedAccounts
import VisualSignParser.Solana.Nesting
import VisualSignParser.Solana.Simulation
import VisualSignParser.Solana.SplToken
import VisualSignParser.Solana.SwigActions
import VisualSignParser.Solana.SwigInstruction
import VisualSignParser.Solana.SwigOrigin
import VisualSignParser.Sui.CoinReferences
import VisualSignParser.Sui.Coins
import VisualSignParser.Sui.Coverage
import VisualSignParser.Sui.NativeStaking
import VisualSignParser.Sui.Suilend
import VisualSignParser.Sui.SwapDisplays
import VisualSignParser.Sui.Swaps
import VisualSignParser.Sui.TypedArguments
import VisualSignParser.Tron.Contracts
import VisualSignParser.Tron.Parse
import VisualSignParser.VisualSign.AnchorageRender
import VisualSignParser.VisualSign.CharsetExact
import VisualSignParser.VisualSign.NumberFields
import VisualSignParser.VisualSign.RoundTrip
