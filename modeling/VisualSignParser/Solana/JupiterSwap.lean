import VisualSignParser.Solana.UnknownProgram
import VisualSignParser.Sui.Transaction

/-!
# Swaps of the aggregator

A swap is shown by its two sides, the token that goes in and the token that comes
out.  An instruction names the mints by the positions of its accounts, and each of
the routes has an order of its own.
-/

namespace VisualSignParser.Solana

open VisualSignParser.Framing
open VisualSignParser.Outcome
open VisualSignParser.Sui (asU64)
open VisualSignParser.VisualSign

/-! ## Tokens -/

structure TokenInfo where
  symbol : String
  name : String
  decimals : UInt8

/-- `get_token_lookup_table`. -/
def tokenLookupTable : List (String × TokenInfo) :=
  [("11111111111111111111111111111112", ⟨"SOL", "Solana", 9⟩),
    ("EPjFWdd5AufqSSqeM2qN1xzybapC8G4wEGGkZwyTDt1v", ⟨"USDC", "USD Coin", 6⟩),
    ("Es9vMFrzaCERmJfrF4H2FYD4KCoNkY11McCe8BenwNYB", ⟨"USDT", "Tether USD", 6⟩)]

def formatTokenAmount (amount : ℕ) (decimals : UInt8) : String :=
  -- `checked_pow`: a scale that is out of range leaves the raw amount.
  if 10 ^ decimals.toNat < 2 ^ 64 then Decimal.trimmedText amount decimals.toNat
  else toString amount

structure SwapTokenInfo where
  address : String
  symbol : String
  name : String
  decimals : UInt8
  amount : ℕ
  humanReadableAmount : String
  deriving DecidableEq

/-- The first and the last four characters of a long text; the texts of accounts are
ASCII, so that their bytes are their characters. -/
def truncateAddress (address : String) : String :=
  let text := address.toList
  if 8 < text.length then
    String.ofList (text.take 4 ++ "...".toList ++ text.drop (text.length - 4))
  else address

def getTokenInfo (address : String) (amount : ℕ) : SwapTokenInfo :=
  match tokenLookupTable.lookup address with
  | some token => ⟨address, token.symbol, token.name, token.decimals, amount,
      formatTokenAmount amount token.decimals⟩
  | none => ⟨address, truncateAddress address,
      "Unknown Token (" ++ truncateAddress address ++ ")", 0, amount, toString amount⟩

@[simp]
theorem getTokenInfo_address (address : String) (amount : ℕ) :
    (getTokenInfo address amount).address = address := by
  unfold getTokenInfo
  split <;> rfl

theorem truncateAddress_ne_empty {address : String} (haddress : address ≠ "") :
    truncateAddress address ≠ "" := by
  unfold truncateAddress
  intro hempty
  by_cases hlong : 8 < address.toList.length
  · rw [if_pos hlong] at hempty
    have hlist := congrArg String.toList hempty
    simp at hlist
  · rw [if_neg hlong] at hempty
    exact haddress hempty

/-- A token has a symbol that is not empty: the known one, or its shortened address. -/
theorem getTokenInfo_symbol_ne_empty {address : String} (haddress : address ≠ "") (amount : ℕ) :
    (getTokenInfo address amount).symbol ≠ "" := by
  have hknown : ∀ entry ∈ tokenLookupTable, entry.2.symbol ≠ "" := by decide
  unfold getTokenInfo
  split
  · next token htoken =>
      obtain ⟨before, after, htable, -⟩ := List.lookup_eq_some_iff.1 htoken
      exact hknown (address, token) (by rw [htable]; simp)
  · exact truncateAddress_ne_empty haddress

namespace Jupiter

/-! ## Instructions -/

def jupiterProgramId : String := "JUP6LkbZbjS1jKKwapdHNy74zcZ3tLUZoi5QNyVTaV4"

/-- The token that goes in and the token that comes out. -/
structure SwapSides where
  inToken : Option SwapTokenInfo
  outToken : Option SwapTokenInfo
  deriving DecidableEq

inductive JupiterSwapInstruction where
  | route (sides : SwapSides) (slippageBps : UInt16) (platformFeeBps : UInt8)
  | exactOutRoute (sides : SwapSides) (slippageBps : UInt16) (platformFeeBps : UInt8)
  | sharedAccountsRoute (sides : SwapSides) (slippageBps : UInt16) (platformFeeBps : UInt8)
  | routeV2 (sides : SwapSides) (slippageBps platformFeeBps positiveSlippageBps : UInt16)
  | exactOutRouteV2 (sides : SwapSides) (slippageBps platformFeeBps positiveSlippageBps : UInt16)
  | sharedAccountsRouteV2 (sides : SwapSides)
      (slippageBps platformFeeBps positiveSlippageBps : UInt16)
  | sharedAccountsExactOutRouteV2 (sides : SwapSides)
      (slippageBps platformFeeBps positiveSlippageBps : UInt16)
  | unknown (instructionName : Option String)
  deriving DecidableEq

/-- The instructions that are shown as swaps. -/
inductive RouteVariant where
  | route
  | exactOutRoute
  | sharedAccountsRoute
  | routeV2
  | exactOutRouteV2
  | sharedAccountsRouteV2
  | sharedAccountsExactOutRouteV2
  deriving DecidableEq

/-- The route of an instruction, with its sides. -/
def JupiterSwapInstruction.swap : JupiterSwapInstruction → Option (RouteVariant × SwapSides)
  | route sides _ _ => some (.route, sides)
  | exactOutRoute sides _ _ => some (.exactOutRoute, sides)
  | sharedAccountsRoute sides _ _ => some (.sharedAccountsRoute, sides)
  | routeV2 sides _ _ _ => some (.routeV2, sides)
  | exactOutRouteV2 sides _ _ _ => some (.exactOutRouteV2, sides)
  | sharedAccountsRouteV2 sides _ _ _ => some (.sharedAccountsRouteV2, sides)
  | sharedAccountsExactOutRouteV2 sides _ _ _ => some (.sharedAccountsExactOutRouteV2, sides)
  | unknown _ => none

abbrev CallArgs := List (String × Json.Value)

def extractU64Arg (args : CallArgs) (name : String) : Except String ℕ :=
  okOr ("Missing or invalid argument: " ++ name) ((args.lookup name).bind asU64)

/-- `u16::try_from`. -/
def tryU16 (value : ℕ) : Except String UInt16 :=
  if value < 2 ^ 16 then .ok (UInt16.ofNat value)
  else .error "out of range integral type conversion attempted"

/-- `u8::try_from`. -/
def tryU8 (value : ℕ) : Except String UInt8 :=
  if value < 2 ^ 8 then .ok (UInt8.ofNat value)
  else .error "out of range integral type conversion attempted"

/-- The tokens at two positions of the accounts. -/
def swapSides (accounts : List String) (inIndex outIndex inAmount outAmount : ℕ) : SwapSides :=
  ⟨accounts[inIndex]?.map fun address => getTokenInfo address inAmount,
    accounts[outIndex]?.map fun address => getTokenInfo address outAmount⟩

/-- The amount that goes in and the amount that comes out of the first routes. -/
def routeAmounts (args : CallArgs) (exactOut : Bool) : Except String (ℕ × ℕ) :=
  if exactOut then do
    let outAmount ← extractU64Arg args "out_amount"
    let quotedInAmount ← extractU64Arg args "quoted_in_amount"
    pure (quotedInAmount, outAmount)
  else do
    let inAmount ← extractU64Arg args "in_amount"
    let quotedOutAmount ← extractU64Arg args "quoted_out_amount"
    pure (inAmount, quotedOutAmount)

/-- One of the first three routes. -/
def parseRoute (args : CallArgs) (accounts : List String) (exactOut : Bool)
    (variant : SwapSides → UInt16 → UInt8 → JupiterSwapInstruction) :
    Except String JupiterSwapInstruction := do
  let (inAmount, outAmount) ← routeAmounts args exactOut
  let slippageBps ← tryU16 (← extractU64Arg args "slippage_bps")
  let platformFeeBps ← tryU8 (← extractU64Arg args "platform_fee_bps")
  pure (variant (swapSides accounts 0 5 inAmount outAmount) slippageBps platformFeeBps)

/-- The amounts of the second version, which reads the amount that goes in first. -/
def routeV2Amounts (args : CallArgs) (exactOut : Bool) : Except String (ℕ × ℕ) :=
  if exactOut then do
    let quotedInAmount ← extractU64Arg args "quoted_in_amount"
    let outAmount ← extractU64Arg args "out_amount"
    pure (quotedInAmount, outAmount)
  else do
    let inAmount ← extractU64Arg args "in_amount"
    let quotedOutAmount ← extractU64Arg args "quoted_out_amount"
    pure (inAmount, quotedOutAmount)

def parseRouteV2 (args : CallArgs) (accounts : List String) (exactOut shared : Bool) :
    Except String JupiterSwapInstruction := do
  let slippageBps ← tryU16 (← extractU64Arg args "slippage_bps")
  let platformFeeBps ← tryU16 (← extractU64Arg args "platform_fee_bps")
  let positiveSlippageBps ← tryU16 (← extractU64Arg args "positive_slippage_bps")
  let (sourceMintIndex, destinationMintIndex) := if shared then (6, 7) else (3, 4)
  let (inAmount, outAmount) ← routeV2Amounts args exactOut
  let sides := swapSides accounts sourceMintIndex destinationMintIndex inAmount outAmount
  pure (match exactOut, shared with
    | false, false => .routeV2 sides slippageBps platformFeeBps positiveSlippageBps
    | true, false => .exactOutRouteV2 sides slippageBps platformFeeBps positiveSlippageBps
    | false, true => .sharedAccountsRouteV2 sides slippageBps platformFeeBps positiveSlippageBps
    | true, true =>
        .sharedAccountsExactOutRouteV2 sides slippageBps platformFeeBps positiveSlippageBps)

section Parse

-- The IDL of the program is a bundled document; the crate decodes it and the data.
variable (parser : IdlParser) (jupiterIdlJson : String)

def parseJupiterInstructionWithIdl (data : Bytes) (accounts : List String) :
    Except String JupiterSwapInstruction := do
  let idl ← okOr "Jupiter IDL not available" (parser.decodeIdlData jupiterIdlJson)
  let parsed ← okOr "Failed to parse instruction"
    (parser.parseInstructionWithIdl data jupiterProgramId idl)
  let args := parsed.programCallArgs
  match parsed.instructionName with
  | "route" => parseRoute args accounts false .route
  | "exact_out_route" => parseRoute args accounts true .exactOutRoute
  | "shared_accounts_route" => parseRoute args accounts false .sharedAccountsRoute
  | "route_v2" => parseRouteV2 args accounts false false
  | "exact_out_route_v2" => parseRouteV2 args accounts true false
  | "shared_accounts_route_v2" => parseRouteV2 args accounts false true
  | "shared_accounts_exact_out_route_v2" => parseRouteV2 args accounts true true
  | instructionName => pure (.unknown (some instructionName))

def parseJupiterSwapInstruction (data : Bytes) (accounts : List String) :
    Except String JupiterSwapInstruction :=
  if data.length < 8 then .error "Invalid instruction data length"
  else match parseJupiterInstructionWithIdl parser jupiterIdlJson data accounts with
    | .ok instruction => .ok instruction
    | .error _ => .ok (.unknown none)

end Parse

/-! ## The fields -/

def formatTokenAmount (token : Option SwapTokenInfo) : String :=
  (token.map fun token => toString token.amount).getD "Unknown"

def formatTokenSymbol (token : Option SwapTokenInfo) : String :=
  (token.map SwapTokenInfo.symbol).getD "Unknown"

/-- A rate that is named only if there is one. -/
def rateText (label : String) (bps : ℕ) : String :=
  if 0 < bps then ", " ++ label ++ ": " ++ toString bps ++ "bps" else ""

def swapText (instructionType : String) (sides : SwapSides)
    (slippageBps platformFeeBps positiveSlippageBps : ℕ) : String :=
  instructionType ++ ": From " ++ formatTokenAmount sides.inToken ++ " " ++
    formatTokenSymbol sides.inToken ++ " To " ++ formatTokenAmount sides.outToken ++ " " ++
    formatTokenSymbol sides.outToken ++ " (slippage: " ++ toString slippageBps ++ "bps" ++
    rateText "platform fee" platformFeeBps ++
    rateText "positive slippage" positiveSlippageBps ++ ")"

def formatJupiterSwapInstruction : JupiterSwapInstruction → String
  | .route sides slippage fee => swapText "Jupiter Swap" sides slippage.toNat fee.toNat 0
  | .exactOutRoute sides slippage fee =>
      swapText "Jupiter Exact Out Route" sides slippage.toNat fee.toNat 0
  | .sharedAccountsRoute sides slippage fee =>
      swapText "Jupiter Shared Accounts Route" sides slippage.toNat fee.toNat 0
  | .routeV2 sides slippage fee positive =>
      swapText "Jupiter Swap V2" sides slippage.toNat fee.toNat positive.toNat
  | .exactOutRouteV2 sides slippage fee positive =>
      swapText "Jupiter Exact Out Route V2" sides slippage.toNat fee.toNat positive.toNat
  | .sharedAccountsRouteV2 sides slippage fee positive =>
      swapText "Jupiter Shared Accounts Route V2" sides slippage.toNat fee.toNat positive.toNat
  | .sharedAccountsExactOutRouteV2 sides slippage fee positive =>
      swapText "Jupiter Shared Accounts Exact Out Route V2" sides slippage.toNat fee.toNat
        positive.toNat
  | .unknown (some name) => "Jupiter: " ++ name
  | .unknown none => "Jupiter: Unknown Instruction"

/-- The error of a field, as an error of the conversion. -/
def converted {A : Type} (field : Except VisualSignError A) : Except VisualSignError A :=
  field.mapError fun error => .conversionError error.display

/-- The fields of one side of a swap. -/
def tokenFields (side amountLabel : String) (showsAddress : Bool) :
    Option SwapTokenInfo → Except VisualSignError (List AnnotatedPayloadField)
  | none => .ok []
  | some token => do
      let amount ← converted (createAmountField amountLabel (toString token.amount) token.symbol)
      pure ([createTextField (side ++ " Token") token.symbol, amount,
        createTextField (side ++ " Token Name") token.name] ++
          if showsAddress then [createTextField (side ++ " Token Address") token.address] else [])

def rateField (label : String) (bps : ℕ) : Except VisualSignError AnnotatedPayloadField :=
  converted (createNumberField label (toString bps) "bps")

def rateFields (label : String) (bps : ℕ) : Except VisualSignError (List AnnotatedPayloadField) :=
  if 0 < bps then (rateField label bps).map fun field => [field] else .ok []

/-- The fields of a swap; the first routes do not show the address that goes in. -/
def swapFields (showsInputAddress : Bool) (sides : SwapSides)
    (slippageBps platformFeeBps positiveSlippageBps : ℕ) :
    Except VisualSignError (List AnnotatedPayloadField) := do
  let input ← tokenFields "Input" "Input Amount" showsInputAddress sides.inToken
  let output ← tokenFields "Output" "Quoted Output Amount" true sides.outToken
  let slippage ← rateField "Slippage" slippageBps
  let platformFee ← rateFields "Platform Fee" platformFeeBps
  let positiveSlippage ← rateFields "Positive Slippage" positiveSlippageBps
  pure (input ++ output ++ [slippage] ++ platformFee ++ positiveSlippage)

def instructionFields : JupiterSwapInstruction →
    Except VisualSignError (List AnnotatedPayloadField)
  | .route sides slippage fee => swapFields false sides slippage.toNat fee.toNat 0
  | .exactOutRoute sides slippage fee => swapFields false sides slippage.toNat fee.toNat 0
  | .sharedAccountsRoute sides slippage fee => swapFields false sides slippage.toNat fee.toNat 0
  | .routeV2 sides slippage fee positive =>
      swapFields true sides slippage.toNat fee.toNat positive.toNat
  | .exactOutRouteV2 sides slippage fee positive =>
      swapFields true sides slippage.toNat fee.toNat positive.toNat
  | .sharedAccountsRouteV2 sides slippage fee positive =>
      swapFields true sides slippage.toNat fee.toNat positive.toNat
  | .sharedAccountsExactOutRouteV2 sides slippage fee positive =>
      swapFields true sides slippage.toNat fee.toNat positive.toNat
  | .unknown (some name) => .ok [createTextField "Status"
      ("Jupiter instruction: " ++ name ++ " (not explicitly handled)")]
  | .unknown none => .ok [createTextField "Status" "Unknown Jupiter instruction type"]

def createJupiterSwapExpandedFields (instruction : JupiterSwapInstruction)
    (context : VisualizerContext) : Except VisualSignError (List AnnotatedPayloadField) := do
  let fields ← instructionFields instruction
  pure ([createTextField "Program ID" (UnknownProgram.resolveProgramIdStr context)] ++ fields ++
    [createRawDataField context.data none])

def createJupiterPreviewLayout (instruction : JupiterSwapInstruction)
    (context : VisualizerContext) : Except VisualSignError AnnotatedPayloadField := do
  let text := formatJupiterSwapInstruction instruction
  let expanded ← createJupiterSwapExpandedFields instruction context
  pure (previewField ("Instruction " ++ toString (context.instructionIndex + 1))
    (UnknownProgram.fallbackText (UnknownProgram.resolveProgramIdStr context) context.data)
    text "" [createTextField "Instruction" text] expanded)

/-- The texts of the accounts of an instruction. -/
def instructionAccounts (context : VisualizerContext) : List String :=
  (List.range context.numAccounts).map (UnknownProgram.resolveAccountStr context)

/-- `JupiterSwapVisualizer::visualize_tx_commands`. -/
def visualizeTxCommands (parser : IdlParser) (jupiterIdlJson : String)
    (context : VisualizerContext) : Except VisualSignError AnnotatedPayloadField := do
  let instruction ← (parseJupiterSwapInstruction parser jupiterIdlJson context.data
    (instructionAccounts context)).mapError .decodeError
  createJupiterPreviewLayout instruction context

def rateRow (label : String) (bps : ℕ) : AnnotatedPayloadField :=
  annotateField (.number ⟨toString bps ++ " " ++ "bps", label⟩ ⟨toString bps⟩)

def rateRows (label : String) (bps : ℕ) : List AnnotatedPayloadField :=
  if 0 < bps then [rateRow label bps] else []

theorem rateField_eq (label : String) (bps : ℕ) : rateField label bps = .ok (rateRow label bps) := by
  rw [rateField, createNumberField, validateNumberString_toString]
  rfl

theorem rateFields_eq (label : String) (bps : ℕ) :
    rateFields label bps = .ok (rateRows label bps) := by
  unfold rateFields rateRows
  split
  · rw [rateField_eq]
    rfl
  · rfl

/-- The fields of a side show its token; a side without a token has no fields. -/
def sideFields (side amountLabel : String) (showsAddress : Bool) :
    Option SwapTokenInfo → List AnnotatedPayloadField
  | none => []
  | some token =>
      [createTextField (side ++ " Token") token.symbol,
        annotateField (.amountV2 ⟨toString token.amount ++ " " ++ token.symbol, amountLabel⟩
          ⟨toString token.amount, some token.symbol⟩),
        createTextField (side ++ " Token Name") token.name] ++
          if showsAddress then [createTextField (side ++ " Token Address") token.address] else []

/-- The fields of one side never fail, if the symbol of its token is not empty. -/
theorem tokenFields_eq (side amountLabel : String) (showsAddress : Bool)
    {token : Option SwapTokenInfo} (hsymbol : ∀ known ∈ token, known.symbol ≠ "") :
    tokenFields side amountLabel showsAddress token =
      .ok (sideFields side amountLabel showsAddress token) := by
  cases token with
  | none => rfl
  | some token =>
      rw [tokenFields, createAmountField_eq _ (validateNumberString_toString _) (hsymbol token rfl)]
      rfl

def SwapSides.Shown (sides : SwapSides) : Prop :=
  (∀ token ∈ sides.inToken, token.symbol ≠ "") ∧ ∀ token ∈ sides.outToken, token.symbol ≠ ""

/-- The fields of both sides, the one that goes in first. -/
def SwapSides.fields (sides : SwapSides) (showsInputAddress : Bool) :
    List AnnotatedPayloadField :=
  sideFields "Input" "Input Amount" showsInputAddress sides.inToken ++
    sideFields "Output" "Quoted Output Amount" true sides.outToken

/-- A swap shows its two sides and then its rates. -/
theorem swapFields_eq (showsInputAddress : Bool) {sides : SwapSides} (hsides : sides.Shown)
    (slippageBps platformFeeBps positiveSlippageBps : ℕ) :
    swapFields showsInputAddress sides slippageBps platformFeeBps positiveSlippageBps =
      .ok (sides.fields showsInputAddress ++ ([rateRow "Slippage" slippageBps] ++
        rateRows "Platform Fee" platformFeeBps ++
        rateRows "Positive Slippage" positiveSlippageBps)) := by
  rw [swapFields, tokenFields_eq _ _ _ hsides.1, tokenFields_eq _ _ _ hsides.2, rateField_eq,
    rateFields_eq, rateFields_eq, ← List.append_assoc, ← List.append_assoc]
  rfl

/-- The fields of a swap are those of its two sides, and behind them the rates of
the variant. -/
theorem instructionFields_of_swap {instruction : JupiterSwapInstruction} {variant : RouteVariant}
    {sides : SwapSides} (hswap : instruction.swap = some (variant, sides))
    (hsides : sides.Shown) : ∃ showsInputAddress rates,
      instructionFields instruction = .ok (sides.fields showsInputAddress ++ rates) := by
  cases instruction with
  | unknown name => cases hswap
  | _ =>
      cases hswap
      exact ⟨_, _, swapFields_eq _ hsides _ _ _⟩

/-- The fields of an instruction can always be built if its tokens have symbols. -/
theorem instructionFields_isOk {instruction : JupiterSwapInstruction}
    (hsides : ∀ variant sides, instruction.swap = some (variant, sides) → sides.Shown) :
    ∃ fields, instructionFields instruction = .ok fields := by
  cases hswap : instruction.swap with
  | none =>
      cases instruction with
      | unknown name => cases name <;> exact ⟨_, rfl⟩
      | _ => cases hswap
  | some swap =>
      obtain ⟨_, _, hfields⟩ := instructionFields_of_swap hswap (hsides _ _ hswap)
      exact ⟨_, hfields⟩

/-! ## The routes of the IDL -/

namespace RouteVariant

def instructionName : RouteVariant → String
  | route => "route"
  | exactOutRoute => "exact_out_route"
  | sharedAccountsRoute => "shared_accounts_route"
  | routeV2 => "route_v2"
  | exactOutRouteV2 => "exact_out_route_v2"
  | sharedAccountsRouteV2 => "shared_accounts_route_v2"
  | sharedAccountsExactOutRouteV2 => "shared_accounts_exact_out_route_v2"

def directAccounts : List String :=
  ["user_transfer_authority", "user_source_token_account", "user_destination_token_account",
    "source_mint", "destination_mint", "source_token_program", "destination_token_program",
    "destination_token_account", "event_authority", "program"]

def sharedAccounts : List String :=
  ["program_authority", "user_transfer_authority", "source_token_account",
    "program_source_token_account", "program_destination_token_account",
    "destination_token_account", "source_mint", "destination_mint", "source_token_program",
    "destination_token_program", "event_authority", "program"]

/-- The accounts of the instruction in the bundled IDL. -/
def accountNames : RouteVariant → List String
  | route => ["token_program", "user_transfer_authority", "user_source_token_account",
      "user_destination_token_account", "destination_token_account", "destination_mint",
      "platform_fee_account", "event_authority", "program"]
  | exactOutRoute => ["token_program", "user_transfer_authority", "user_source_token_account",
      "user_destination_token_account", "destination_token_account", "source_mint",
      "destination_mint", "platform_fee_account", "token_2022_program", "event_authority",
      "program"]
  | sharedAccountsRoute => ["token_program", "program_authority", "user_transfer_authority",
      "source_token_account", "program_source_token_account",
      "program_destination_token_account", "destination_token_account", "source_mint",
      "destination_mint", "platform_fee_account", "token_2022_program", "event_authority",
      "program"]
  | routeV2 => directAccounts
  | exactOutRouteV2 => directAccounts
  | sharedAccountsRouteV2 => sharedAccounts
  | sharedAccountsExactOutRouteV2 => sharedAccounts

/-- The arguments of the IDL that are the amounts of the two sides. -/
def amountNames : RouteVariant → String × String
  | exactOutRoute => ("quoted_in_amount", "out_amount")
  | exactOutRouteV2 => ("quoted_in_amount", "out_amount")
  | sharedAccountsExactOutRouteV2 => ("quoted_in_amount", "out_amount")
  | _ => ("in_amount", "quoted_out_amount")

/-- The account that the IDL names so. -/
def namedAccount (variant : RouteVariant) (accounts : List String) (name : String) :
    Option String :=
  (variant.accountNames.zip accounts).lookup name

end RouteVariant

/-- The positions at which the program reads the mints. -/
def RouteVariant.readPositions : RouteVariant → ℕ × ℕ
  | routeV2 => (3, 4)
  | exactOutRouteV2 => (3, 4)
  | sharedAccountsRouteV2 => (6, 7)
  | sharedAccountsExactOutRouteV2 => (6, 7)
  | _ => (0, 5)

/-! ## The mints of a route -/

/-- The sides that the IDL names, with the amounts that it names. -/
def SidesNamed (variant : RouteVariant) (args : CallArgs) (accounts : List String)
    (sides : SwapSides) : Prop :=
  ∃ inAmount outAmount,
    extractU64Arg args variant.amountNames.1 = .ok inAmount ∧
    extractU64Arg args variant.amountNames.2 = .ok outAmount ∧
    sides.inToken = (variant.namedAccount accounts "source_mint").map
      (fun address => getTokenInfo address inAmount) ∧
    sides.outToken = (variant.namedAccount accounts "destination_mint").map
      (fun address => getTokenInfo address outAmount)

/-- The accounts at the positions that are read are the mints of the IDL. -/
def RouteVariant.Aligned (accounts : List String) : RouteVariant → Prop
  | route => accounts = []
  | exactOutRoute => accounts[0]? = accounts[5]? ∧ accounts[5]? = accounts[6]?
  | sharedAccountsRoute => accounts[0]? = accounts[7]? ∧ accounts[5]? = accounts[8]?
  | _ => True

/-- A name is looked up at the position that it has. -/
theorem lookup_zip (names texts : List String) (name : String) :
    (names.zip texts).lookup name = (names.idxOf? name).bind fun index => texts[index]? := by
  induction names generalizing texts with
  | nil => rfl
  | cons first rest ih =>
      rw [List.idxOf?_cons]
      cases texts with
      | nil => cases (if first == name then some 0 else (rest.idxOf? name).map (· + 1)) <;> rfl
      | cons text texts =>
          by_cases hname : first = name
          · subst hname
            simp
          · have hne : (first == name) = false := beq_false_of_ne hname
            have hne' : (name == first) = false := beq_false_of_ne (Ne.symm hname)
            rw [List.zip_cons_cons, List.lookup_cons, hne', hne, ih]
            cases rest.idxOf? name <;> rfl

theorem map_getTokenInfo_injective (amount : ℕ) {left right : Option String} :
    left.map (fun address => getTokenInfo address amount) =
      right.map (fun address => getTokenInfo address amount) ↔ left = right := by
  have hinjective : Function.Injective fun address => getTokenInfo address amount := by
    intro first second htokens
    have haddresses := congrArg SwapTokenInfo.address htokens
    simpa using haddresses
  exact (Option.map_injective hinjective).eq_iff

/-- The positions of the mints in the IDL. -/
def RouteVariant.mintPositions : RouteVariant → Option ℕ × Option ℕ
  | route => (none, some 5)
  | exactOutRoute => (some 5, some 6)
  | sharedAccountsRoute => (some 7, some 8)
  | routeV2 => (some 3, some 4)
  | exactOutRouteV2 => (some 3, some 4)
  | sharedAccountsRouteV2 => (some 6, some 7)
  | sharedAccountsExactOutRouteV2 => (some 6, some 7)

theorem idxOf_mints (variant : RouteVariant) :
    variant.accountNames.idxOf? "source_mint" = variant.mintPositions.1 ∧
      variant.accountNames.idxOf? "destination_mint" = variant.mintPositions.2 := by
  cases variant <;> decide

/-- The parser reads the mints where the layout names them exactly if the accounts
at both pairs of positions coincide. -/
theorem aligned_iff (variant : RouteVariant) (accounts : List String) :
    variant.Aligned accounts ↔
      accounts[variant.readPositions.1]? = variant.namedAccount accounts "source_mint" ∧
      accounts[variant.readPositions.2]? = variant.namedAccount accounts "destination_mint" := by
  obtain ⟨hsource, hdestination⟩ := idxOf_mints variant
  unfold RouteVariant.namedAccount
  rw [lookup_zip, lookup_zip, hsource, hdestination]
  cases variant with
  | route => simp [RouteVariant.Aligned, RouteVariant.readPositions, RouteVariant.mintPositions]
  | exactOutRoute => rfl
  | sharedAccountsRoute => rfl
  -- The second version reads the mints where the IDL has them.
  | _ => exact iff_of_true trivial ⟨rfl, rfl⟩

/-- The amounts that an instruction pairs with its sides. -/
structure ReadAs (variant : RouteVariant) (args : CallArgs) (accounts : List String)
    (sides : SwapSides) (inAmount outAmount : ℕ) : Prop where
  hin : extractU64Arg args variant.amountNames.1 = .ok inAmount
  hout : extractU64Arg args variant.amountNames.2 = .ok outAmount
  hsides : sides = swapSides accounts variant.readPositions.1 variant.readPositions.2
    inAmount outAmount

/-- The amounts are always the right ones, so that only the accounts decide. -/
theorem ReadAs.sidesNamed_iff {variant : RouteVariant} {args : CallArgs} {accounts : List String}
    {sides : SwapSides} {inAmount outAmount : ℕ}
    (hread : ReadAs variant args accounts sides inAmount outAmount) :
    SidesNamed variant args accounts sides ↔ variant.Aligned accounts := by
  obtain ⟨hin, hout, rfl⟩ := hread
  rw [aligned_iff]
  constructor
  · rintro ⟨otherIn, otherOut, hotherIn, hotherOut, hsource, hdestination⟩
    obtain rfl : inAmount = otherIn := by
      rw [hin] at hotherIn
      exact Except.ok.inj hotherIn
    obtain rfl : outAmount = otherOut := by
      rw [hout] at hotherOut
      exact Except.ok.inj hotherOut
    exact ⟨(map_getTokenInfo_injective _).1 hsource, (map_getTokenInfo_injective _).1 hdestination⟩
  · rintro ⟨hsource, hdestination⟩
    exact ⟨inAmount, outAmount, hin, hout, (map_getTokenInfo_injective _).2 hsource,
      (map_getTokenInfo_injective _).2 hdestination⟩

/-! ## What is read -/

theorem routeAmounts_eq_ok {args : CallArgs} {exactOut : Bool} {amounts : ℕ × ℕ}
    (hamounts : routeAmounts args exactOut = .ok amounts) :
    extractU64Arg args (if exactOut then "quoted_in_amount" else "in_amount") = .ok amounts.1 ∧
      extractU64Arg args (if exactOut then "out_amount" else "quoted_out_amount") =
        .ok amounts.2 := by
  cases exactOut with
  | false =>
      obtain ⟨inAmount, hin, hrest⟩ := bind_eq_ok.1 hamounts
      obtain ⟨outAmount, hout, hpair⟩ := bind_eq_ok.1 hrest
      obtain rfl := pure_eq_ok.1 hpair
      exact ⟨hin, hout⟩
  | true =>
      obtain ⟨outAmount, hout, hrest⟩ := bind_eq_ok.1 hamounts
      obtain ⟨inAmount, hin, hpair⟩ := bind_eq_ok.1 hrest
      obtain rfl := pure_eq_ok.1 hpair
      exact ⟨hin, hout⟩

theorem routeV2Amounts_eq_ok {args : CallArgs} {exactOut : Bool} {amounts : ℕ × ℕ}
    (hamounts : routeV2Amounts args exactOut = .ok amounts) :
    extractU64Arg args (if exactOut then "quoted_in_amount" else "in_amount") = .ok amounts.1 ∧
      extractU64Arg args (if exactOut then "out_amount" else "quoted_out_amount") =
        .ok amounts.2 := by
  cases exactOut <;>
    · obtain ⟨inAmount, hin, hrest⟩ := bind_eq_ok.1 hamounts
      obtain ⟨outAmount, hout, hpair⟩ := bind_eq_ok.1 hrest
      obtain rfl := pure_eq_ok.1 hpair
      exact ⟨hin, hout⟩

/-- A route of the first version takes its sides from the first and the sixth account. -/
theorem readAs_of_parseRoute {args : CallArgs} {accounts : List String} {exactOut : Bool}
    {construct : SwapSides → UInt16 → UInt8 → JupiterSwapInstruction}
    {instruction : JupiterSwapInstruction}
    (hparse : parseRoute args accounts exactOut construct = .ok instruction)
    {variant : RouteVariant} (hpositions : variant.readPositions = (0, 5))
    (hnames : variant.amountNames = (if exactOut then "quoted_in_amount" else "in_amount",
      if exactOut then "out_amount" else "quoted_out_amount")) :
    ∃ sides slippage fee, instruction = construct sides slippage fee ∧
      ∃ inAmount outAmount, ReadAs variant args accounts sides inAmount outAmount := by
  obtain ⟨amounts, hamounts, hrest⟩ := bind_eq_ok.1 hparse
  obtain ⟨slippageArg, -, hrest⟩ := bind_eq_ok.1 hrest
  obtain ⟨slippage, -, hrest⟩ := bind_eq_ok.1 hrest
  obtain ⟨feeArg, -, hrest⟩ := bind_eq_ok.1 hrest
  obtain ⟨fee, -, hinstruction⟩ := bind_eq_ok.1 hrest
  obtain ⟨hin, hout⟩ := routeAmounts_eq_ok hamounts
  refine ⟨_, slippage, fee, (pure_eq_ok.1 hinstruction).symm, amounts.1, amounts.2, ?_⟩
  constructor
  · rw [hnames, hin]
  · rw [hnames, hout]
  · rw [hpositions]

/-- The route of the second version that two flags select. -/
def routeV2Variant (exactOut shared : Bool) : RouteVariant :=
  match exactOut, shared with
  | false, false => .routeV2
  | true, false => .exactOutRouteV2
  | false, true => .sharedAccountsRouteV2
  | true, true => .sharedAccountsExactOutRouteV2

theorem readAs_of_parseRouteV2 {args : CallArgs} {accounts : List String} {exactOut shared : Bool}
    {instruction : JupiterSwapInstruction}
    (hparse : parseRouteV2 args accounts exactOut shared = .ok instruction) :
    ∃ sides, instruction.swap = some (routeV2Variant exactOut shared, sides) ∧
      ∃ inAmount outAmount,
        ReadAs (routeV2Variant exactOut shared) args accounts sides inAmount outAmount := by
  obtain ⟨slippageArg, -, hrest⟩ := bind_eq_ok.1 hparse
  obtain ⟨slippage, -, hrest⟩ := bind_eq_ok.1 hrest
  obtain ⟨feeArg, -, hrest⟩ := bind_eq_ok.1 hrest
  obtain ⟨fee, -, hrest⟩ := bind_eq_ok.1 hrest
  obtain ⟨positiveArg, -, hrest⟩ := bind_eq_ok.1 hrest
  obtain ⟨positive, -, hrest⟩ := bind_eq_ok.1 hrest
  obtain ⟨amounts, hamounts, hinstruction⟩ := bind_eq_ok.1 hrest
  obtain rfl := pure_eq_ok.1 hinstruction
  obtain ⟨hin, hout⟩ := routeV2Amounts_eq_ok hamounts
  cases exactOut <;> cases shared <;> exact ⟨_, rfl, _, _, hin, hout, rfl⟩

/-- The sides of a swap are read from the arguments and the accounts of its route. -/
theorem readAs_of_parse {parser : IdlParser} {jupiterIdlJson : String} {data : Bytes}
    {accounts : List String} {instruction : JupiterSwapInstruction}
    (hparse : parseJupiterInstructionWithIdl parser jupiterIdlJson data accounts =
      .ok instruction) {variant : RouteVariant} {sides : SwapSides}
    (hswap : instruction.swap = some (variant, sides)) :
    ∃ idl parsed, parser.decodeIdlData jupiterIdlJson = some idl ∧
      parser.parseInstructionWithIdl data jupiterProgramId idl = some parsed ∧
      parsed.instructionName = variant.instructionName ∧ ∃ inAmount outAmount,
        ReadAs variant parsed.programCallArgs accounts sides inAmount outAmount := by
  obtain ⟨idl, hidl, hrest⟩ := bind_eq_ok.1 hparse
  obtain ⟨parsed, hparsed, hinstruction⟩ := bind_eq_ok.1 hrest
  refine ⟨idl, parsed, okOr_eq_ok.1 hidl, okOr_eq_ok.1 hparsed, ?_⟩
  have hroute : ∀ {exactOut : Bool} {construct} {other : RouteVariant},
      parseRoute parsed.programCallArgs accounts exactOut construct = .ok instruction →
      (∀ sides slippage fee, (construct sides slippage fee).swap = some (other, sides)) →
      other.readPositions = (0, 5) →
      other.amountNames = (if exactOut then "quoted_in_amount" else "in_amount",
        if exactOut then "out_amount" else "quoted_out_amount") →
      parsed.instructionName = other.instructionName →
      parsed.instructionName = variant.instructionName ∧ ∃ inAmount outAmount,
        ReadAs variant parsed.programCallArgs accounts sides inAmount outAmount := by
    intro exactOut construct other hroute hconstruct hpositions hnames hname
    obtain ⟨read, slippage, fee, rfl, hread⟩ := readAs_of_parseRoute hroute hpositions hnames
    rw [hconstruct] at hswap
    cases hswap
    exact ⟨hname, hread⟩
  have hrouteV2 : ∀ {exactOut shared : Bool},
      parseRouteV2 parsed.programCallArgs accounts exactOut shared = .ok instruction →
      parsed.instructionName = (routeV2Variant exactOut shared).instructionName →
      parsed.instructionName = variant.instructionName ∧ ∃ inAmount outAmount,
        ReadAs variant parsed.programCallArgs accounts sides inAmount outAmount := by
    intro exactOut shared hroute hname
    obtain ⟨read, hread, hamounts⟩ := readAs_of_parseRouteV2 hroute
    rw [hread] at hswap
    cases hswap
    exact ⟨hname, hamounts⟩
  split at hinstruction
  · next hname => exact hroute hinstruction (fun _ _ _ => rfl) rfl rfl hname
  · next hname => exact hroute hinstruction (fun _ _ _ => rfl) rfl rfl hname
  · next hname => exact hroute hinstruction (fun _ _ _ => rfl) rfl rfl hname
  · next hname => exact hrouteV2 hinstruction hname
  · next hname => exact hrouteV2 hinstruction hname
  · next hname => exact hrouteV2 hinstruction hname
  · next hname => exact hrouteV2 hinstruction hname
  · -- Any other instruction is not shown as a swap.
    cases pure_eq_ok.1 hinstruction
    cases hswap

/-- The sides of a swap that is parsed are read from the positions and the arguments
of its variant. -/
theorem readAs_of_parseSwap {parser : IdlParser} {jupiterIdlJson : String} {data : Bytes}
    {accounts : List String} {instruction : JupiterSwapInstruction}
    (hparse : parseJupiterSwapInstruction parser jupiterIdlJson data accounts = .ok instruction)
    {variant : RouteVariant} {sides : SwapSides}
    (hswap : instruction.swap = some (variant, sides)) :
    ∃ idl parsed, parser.decodeIdlData jupiterIdlJson = some idl ∧
      parser.parseInstructionWithIdl data jupiterProgramId idl = some parsed ∧
      parsed.instructionName = variant.instructionName ∧ ∃ inAmount outAmount,
        ReadAs variant parsed.programCallArgs accounts sides inAmount outAmount := by
  unfold parseJupiterSwapInstruction at hparse
  split at hparse
  · cases hparse
  split at hparse
  · next read hread =>
      obtain rfl := Except.ok.inj hparse
      exact readAs_of_parse hread hswap
  · -- An instruction that is not understood is not a swap.
    cases hparse
    cases hswap

/-! ## What is shown -/

theorem shown_swapSides {accounts : List String} (haccounts : ∀ account ∈ accounts, account ≠ "")
    (inIndex outIndex inAmount outAmount : ℕ) :
    (swapSides accounts inIndex outIndex inAmount outAmount).Shown := by
  have hside : ∀ (index amount : ℕ), ∀ token ∈ accounts[index]?.map fun address =>
      getTokenInfo address amount, token.symbol ≠ "" := by
    intro index amount token htoken
    obtain ⟨address, haddress, rfl⟩ := Option.map_eq_some_iff.1 htoken
    exact getTokenInfo_symbol_ne_empty (haccounts address (List.mem_of_getElem? haddress)) amount
  exact ⟨hside _ _, hside _ _⟩

/-- Every account has a text, also one that comes from a lookup table or is missing. -/
theorem resolveAccountStr_ne_empty (context : VisualizerContext) (position : ℕ) :
    UnknownProgram.resolveAccountStr context position ≠ "" := by
  unfold UnknownProgram.resolveAccountStr
  split
  · next pubkey _ =>
      intro hempty
      have hbytes : pubkey.1 = [] := Base58.encode_injective hempty
      have hlength := pubkey.2
      rw [hbytes] at hlength
      cases hlength
  · intro hempty
    have hlist := congrArg String.toList hempty
    simp at hlist
  · decide

/-- The accounts of an instruction can be shown as tokens. -/
theorem instructionAccounts_ne_empty (context : VisualizerContext) :
    ∀ account ∈ instructionAccounts context, account ≠ "" := by
  intro account haccount
  obtain ⟨position, -, rfl⟩ := List.mem_map.1 haccount
  exact resolveAccountStr_ne_empty context position

/-- Every instruction with a discriminator is shown. -/
theorem visualizeTxCommands_isOk (parser : IdlParser) (jupiterIdlJson : String)
    {context : VisualizerContext} (hdata : 8 ≤ context.data.length) :
    ∃ field, visualizeTxCommands parser jupiterIdlJson context = .ok field := by
  obtain ⟨instruction, hparse⟩ : ∃ instruction, parseJupiterSwapInstruction parser jupiterIdlJson
      context.data (instructionAccounts context) = .ok instruction := by
    rw [parseJupiterSwapInstruction, if_neg (Nat.not_lt.2 hdata)]
    split <;> exact ⟨_, rfl⟩
  obtain ⟨fields, hfields⟩ : ∃ fields, instructionFields instruction = .ok fields := by
    apply instructionFields_isOk
    intro variant sides hswap
    obtain ⟨_, _, -, -, -, inAmount, outAmount, hread⟩ := readAs_of_parseSwap hparse hswap
    rw [hread.hsides]
    exact shown_swapSides (instructionAccounts_ne_empty context) _ _ _ _
  obtain ⟨field, hfield⟩ : ∃ field, createJupiterPreviewLayout instruction context = .ok field := by
    rw [createJupiterPreviewLayout, createJupiterSwapExpandedFields, hfields]
    exact ⟨_, rfl⟩
  refine ⟨field, ?_⟩
  rw [visualizeTxCommands, hparse]
  exact hfield

/-! ## Named sides -/

/-- The sides of a swap are the ones that the IDL names exactly if the mints are at the
positions that are read, and the sides are what is shown. -/
theorem swap_sidesNamed_iff (parser : IdlParser) (jupiterIdlJson : String) (data : Bytes)
    (accounts : List String) {instruction : JupiterSwapInstruction}
    (hparse : parseJupiterSwapInstruction parser jupiterIdlJson data accounts = .ok instruction)
    {variant : RouteVariant} {sides : SwapSides}
    (hswap : instruction.swap = some (variant, sides)) :
    ∃ idl parsed, parser.decodeIdlData jupiterIdlJson = some idl ∧
      parser.parseInstructionWithIdl data jupiterProgramId idl = some parsed ∧
      parsed.instructionName = variant.instructionName ∧
      (SidesNamed variant parsed.programCallArgs accounts sides ↔ variant.Aligned accounts) ∧
      ((∀ account ∈ accounts, account ≠ "") → ∃ showsInputAddress rates,
        instructionFields instruction = .ok (sides.fields showsInputAddress ++ rates)) := by
  obtain ⟨idl, parsed, hidl, hparsed, hname, inAmount, outAmount, hread⟩ :=
    readAs_of_parseSwap hparse hswap
  refine ⟨idl, parsed, hidl, hparsed, hname, hread.sidesNamed_iff, ?_⟩
  intro haccounts
  apply instructionFields_of_swap hswap
  rw [hread.hsides]
  exact shown_swapSides haccounts _ _ _ _

/-- An instruction of the tests: two million of a token go in. -/
def sampleData : Bytes :=
  [0xe5, 0x17, 0xcb, 0x97, 0x7a, 0xe3, 0xad, 0x2a, 0x01, 0x00, 0x00, 0x00, 0x2f, 0x01, 0x00,
    0x64, 0x00, 0x01, 0x80, 0x84, 0x1e, 0x00, 0x00, 0x00, 0x00, 0x00, 0x3d, 0xa9, 0x17,
    0x00, 0x00, 0x00, 0x00, 0x00, 0x32, 0x00, 0x00]

/-- The first accounts of the sample, with the mint of the token that comes out last. -/
def sampleAccounts : List String :=
  ["TokenkegQfeZyiNwAJbNbGKPFXCWuBvf9Ss623VQ5DA", "B7hSadyLX8YhNT8RDcK8RbnR3KAfX4HbWvV89XmeqitA",
    "3c5JEJ3un3HZAtWvZ77nhNGxDGqmWM7uZ1cx4bGDsKE8", "FAXnNWMXbadmfMTfWtEu3WDymtRwsxYLGdbKoJbfLKsK",
    "JUP6LkbZbjS1jKKwapdHNy74zcZ3tLUZoi5QNyVTaV4", "Dz9mQ9NzkBcCsuGPFJ3r1bS4wgqKMHBPiVuniW8Mbonk"]

def sampleArgs : CallArgs :=
  [("in_amount", .number ⟨"2000000".toList, by decide⟩),
    ("quoted_out_amount", .number ⟨"1550653".toList, by decide⟩),
    ("slippage_bps", .number ⟨"50".toList, by decide⟩),
    ("platform_fee_bps", .number ⟨"0".toList, by decide⟩)]

/-- A crate that decodes the sample. -/
def sampleParser : IdlParser where
  decodeIdlData document := some ⟨document, []⟩
  parseInstructionWithIdl data program _ :=
    if data = sampleData ∧ program = jupiterProgramId then
      some ⟨"route", "e517cb977ae3ad2a", sampleArgs⟩
    else none

def sampleSides : SwapSides := swapSides sampleAccounts 0 5 2000000 1550653

theorem parse_sample : parseJupiterSwapInstruction sampleParser "" sampleData sampleAccounts =
    .ok (.route sampleSides 50 0) := by
  rfl

/-- The sample shows the token program as the token that goes in. -/
theorem not_sidesNamed_sample :
    parseJupiterSwapInstruction sampleParser "" sampleData sampleAccounts =
        .ok (.route sampleSides 50 0) ∧
      sampleSides.inToken.map SwapTokenInfo.address =
        some "TokenkegQfeZyiNwAJbNbGKPFXCWuBvf9Ss623VQ5DA" ∧
      createTextField "Input Token" "Toke...Q5DA" ∈ sampleSides.fields false ∧
      ¬SidesNamed .route sampleArgs sampleAccounts sampleSides := by
  refine ⟨parse_sample, by decide, ?_, ?_⟩
  · exact List.mem_append_left _ (List.mem_cons.2 (.inl rfl))
  · rintro ⟨inAmount, outAmount, -, -, hin, -⟩
    have hnone : RouteVariant.route.namedAccount sampleAccounts "source_mint" = none := by decide
    rw [hnone] at hin
    cases hin

theorem swap_sidesNamed_iff_sample :
    ∃ idl parsed, sampleParser.decodeIdlData "" = some idl ∧
      sampleParser.parseInstructionWithIdl sampleData jupiterProgramId idl = some parsed ∧
      parsed.instructionName = "route" ∧
      (SidesNamed .route parsed.programCallArgs sampleAccounts sampleSides ↔
        RouteVariant.route.Aligned sampleAccounts) ∧
      ((∀ account ∈ sampleAccounts, account ≠ "") → ∃ showsInputAddress rates,
        instructionFields (.route sampleSides 50 0) =
          .ok (sampleSides.fields showsInputAddress ++ rates)) :=
  swap_sidesNamed_iff sampleParser "" sampleData sampleAccounts parse_sample rfl

end Jupiter

end VisualSignParser.Solana
