import VisualSignParser.Solana.JupiterSwap
import VisualSignParser.Solana.NativePrograms

/-!
# The extended token program

Unlike the other token visualizer this one refuses an instruction whose accounts do
not all resolve: a user could approve an authority without having seen it.  Pausing
and setting an authority are read off the bytes, the rest by the token crate.
-/

namespace VisualSignParser.Solana.Token2022

open VisualSignParser.Framing
open VisualSignParser.OrderedMap
open VisualSignParser.Outcome
open VisualSignParser.Solana.Squads (PreviewFields)
open VisualSignParser.Solana.UnknownProgram (resolveProgramIdStr)
open VisualSignParser.VisualSign

def pausableExtensionDiscriminator : UInt8 := 44
def pausablePauseDiscriminator : UInt8 := 1
def pausableResumeDiscriminator : UInt8 := 2
def setAuthorityDiscriminator : UInt8 := 6
def maxTokenDecimals : UInt8 := 18

/-- `spl_token_2022::instruction::TokenInstruction`; only the instructions that are shown
are told apart. -/
inductive TokenInstruction where
  | mintToChecked (amount : UInt64) (decimals : UInt8)
  | burnChecked (amount : UInt64) (decimals : UInt8)
  | freezeAccount
  | thawAccount
  | closeAccount
  | other

inductive Token2022Instruction where
  | mintToChecked (amount : UInt64) (decimals : UInt8) (mint account mintAuthority : String)
  | burnChecked (amount : UInt64) (decimals : UInt8) (account mint authority : String)
  | pause (mint pauseAuthority : String)
  | resume (mint pauseAuthority : String)
  | freeze (account mint freezeAuthority : String)
  | thaw (account mint freezeAuthority : String)
  | closeAccount (account destination owner : String)
  | setAuthority (account : String) (authorityType : UInt8) (authorityTypeName : String)
      (currentAuthority : String) (newAuthority : Option String)
  deriving DecidableEq

def isPauseInstruction : Bytes → Bool
  | first :: second :: _ =>
      first == pausableExtensionDiscriminator && second == pausablePauseDiscriminator
  | _ => false

def isResumeInstruction : Bytes → Bool
  | first :: second :: _ =>
      first == pausableExtensionDiscriminator && second == pausableResumeDiscriminator
  | _ => false

def isSetAuthorityInstruction : Bytes → Bool
  | first :: _ => first == setAuthorityDiscriminator
  | [] => false

def getAuthorityTypeName (authorityType : UInt8) : String :=
  match authorityType.toNat with
  | 0 => "MintTokens"
  | 1 => "FreezeAccount"
  | 2 => "AccountOwner"
  | 3 => "CloseAccount"
  | 4 => "TransferFeeConfig"
  | 5 => "WithheldWithdraw"
  | 6 => "CloseMint"
  | 7 => "InterestRate"
  | 8 => "PermanentDelegate"
  | 9 => "ConfidentialTransferMint"
  | 10 => "TransferHookProgramId"
  | 11 => "ConfidentialTransferFeeConfig"
  | 12 => "MetadataPointer"
  | 13 => "GroupPointer"
  | 14 => "GroupMemberPointer"
  | 15 => "ScaledUiAmount"
  | 16 => "Pause"
  | _ => "Unknown(" ++ toString authorityType.toNat ++ ")"

/-! ## Parsing -/

/-- The new authority behind the discriminator and the type.  Nothing there means none. -/
def parseNewAuthority : Bytes → Except String (Option String)
  | [] => .ok none
  | flag :: rest =>
      match flag.toNat with
      | 0 => .ok none
      | 1 =>
          if 32 ≤ rest.length then .ok (some (Base58.encode (rest.take 32)))
          else .error "Invalid setAuthority: incomplete pubkey data"
      | _ => .error "Invalid setAuthority: invalid option flag"

def parseSetAuthority (data : Bytes) (accounts : List String) :
    Except String Token2022Instruction :=
  match accounts with
  | account :: currentAuthority :: _ =>
      match data.drop 1 with
      | [] => .error "Invalid setAuthority: insufficient data"
      | authorityType :: rest =>
          (parseNewAuthority rest).map
            (.setAuthority account authorityType (getAuthorityTypeName authorityType)
              currentAuthority)
  | _ => .error "Invalid setAuthority: insufficient accounts"

def unknownDiscriminator (data : Bytes) : String :=
  "Unsupported Token 2022 instruction: unknown discriminator " ++
    match data with
    | [] => "empty"
    | first :: _ => "0x" ++ Hex.encode [first]

/-- The first three accounts, for an instruction that needs them. -/
def threeAccounts (name : String) (accounts : List String) :
    Except String (String × String × String) :=
  match accounts with
  | first :: second :: third :: _ => .ok (first, second, third)
  | _ => .error ("Invalid " ++ name ++ ": insufficient accounts")

def checkDecimals (name : String) (decimals : UInt8) : Except String Unit :=
  require (decimals ≤ maxTokenDecimals) ("Invalid " ++ name ++ ": decimals " ++
    toString decimals.toNat ++ " exceeds maximum supported value " ++
    toString maxTokenDecimals.toNat)

def parseTokenInstruction (data : Bytes) (accounts : List String) :
    TokenInstruction → Except String Token2022Instruction
  | .mintToChecked amount decimals => do
      let (mint, account, mintAuthority) ← threeAccounts "mintToChecked" accounts
      checkDecimals "mintToChecked" decimals
      return .mintToChecked amount decimals mint account mintAuthority
  | .burnChecked amount decimals => do
      let (account, mint, authority) ← threeAccounts "burnChecked" accounts
      checkDecimals "burnChecked" decimals
      return .burnChecked amount decimals account mint authority
  | .freezeAccount => do
      let (account, mint, freezeAuthority) ← threeAccounts "freezeAccount" accounts
      return .freeze account mint freezeAuthority
  | .thawAccount => do
      let (account, mint, freezeAuthority) ← threeAccounts "thawAccount" accounts
      return .thaw account mint freezeAuthority
  | .closeAccount => do
      let (account, destination, owner) ← threeAccounts "closeAccount" accounts
      return .closeAccount account destination owner
  | .other => .error (unknownDiscriminator data)

/-- `parse_token_2022_instruction`; `unpack` is the decoder of the token crate. -/
def parseToken2022Instruction (unpack : Bytes → Option TokenInstruction) (data : Bytes)
    (accounts : List String) : Except String Token2022Instruction :=
  if isPauseInstruction data then
    match accounts with
    | mint :: pauseAuthority :: _ => .ok (.pause mint pauseAuthority)
    | _ => .error "Invalid pause: insufficient accounts"
  else if isResumeInstruction data then
    match accounts with
    | mint :: pauseAuthority :: _ => .ok (.resume mint pauseAuthority)
    | _ => .error "Invalid resume: insufficient accounts"
  else if isSetAuthorityInstruction data then parseSetAuthority data accounts
  else
    match unpack data with
    | some instruction => parseTokenInstruction data accounts instruction
    | none => .error (unknownDiscriminator data)

/-! ## What the data asks for -/

/-- The instruction without its parties. -/
inductive Request where
  | pause
  | resume
  | setAuthority (authorityType : UInt8) (newAuthority : Option String)
  | mintToChecked (amount : UInt64) (decimals : UInt8)
  | burnChecked (amount : UInt64) (decimals : UInt8)
  | freeze
  | thaw
  | closeAccount
  deriving DecidableEq

namespace Request

def partyCount : Request → ℕ
  | pause | resume | setAuthority .. => 2
  | _ => 3

/-- The instruction for the first parties of a list. -/
def forParties : Request → List String → Option Token2022Instruction
  | pause, mint :: authority :: _ => some (.pause mint authority)
  | resume, mint :: authority :: _ => some (.resume mint authority)
  | setAuthority authorityType newAuthority, account :: authority :: _ =>
      some (.setAuthority account authorityType (getAuthorityTypeName authorityType) authority
        newAuthority)
  | mintToChecked amount decimals, mint :: account :: authority :: _ =>
      some (.mintToChecked amount decimals mint account authority)
  | burnChecked amount decimals, account :: mint :: authority :: _ =>
      some (.burnChecked amount decimals account mint authority)
  | freeze, account :: mint :: authority :: _ => some (.freeze account mint authority)
  | thaw, account :: mint :: authority :: _ => some (.thaw account mint authority)
  | closeAccount, account :: destination :: owner :: _ =>
      some (.closeAccount account destination owner)
  | _, _ => none

/-- The requests of the token crate that are shown. -/
def ofToken : TokenInstruction → Option Request
  | .mintToChecked amount decimals =>
      if decimals ≤ maxTokenDecimals then some (mintToChecked amount decimals) else none
  | .burnChecked amount decimals =>
      if decimals ≤ maxTokenDecimals then some (burnChecked amount decimals) else none
  | .freezeAccount => some freeze
  | .thawAccount => some thaw
  | .closeAccount => some closeAccount
  | .other => none

/-- The request in the data; none for data that is refused. -/
def ofData (unpack : Bytes → Option TokenInstruction) (data : Bytes) : Option Request :=
  if isPauseInstruction data then some pause
  else if isResumeInstruction data then some resume
  else if isSetAuthorityInstruction data then
    match data.drop 1 with
    | [] => none
    | authorityType :: rest => (parseNewAuthority rest).toOption.map (setAuthority authorityType)
  else (unpack data).bind ofToken

/-- An instruction can be put together exactly if there are at least as many
accounts as it has parties. -/
theorem forParties_isSome_iff (request : Request) (accounts : List String) :
    (∃ instruction, request.forParties accounts = some instruction) ↔
      request.partyCount ≤ accounts.length := by
  rcases accounts with _ | ⟨first, _ | ⟨second, _ | ⟨third, rest⟩⟩⟩ <;>
    cases request <;> simp [forParties, partyCount]

/-- Only the first parties count. -/
theorem forParties_take (request : Request) (accounts : List String) :
    request.forParties (accounts.take request.partyCount) = request.forParties accounts := by
  rcases accounts with _ | ⟨first, _ | ⟨second, _ | ⟨third, rest⟩⟩⟩ <;> cases request <;> rfl

end Request

/-- What the parser accepts is an instruction of one of the kinds it knows that has
an account for each of its parties. -/
theorem parseTokenInstruction_eq_ok {data : Bytes} {accounts : List String}
    {token : TokenInstruction} {instruction : Token2022Instruction} :
    parseTokenInstruction data accounts token = .ok instruction ↔
      ∃ request, Request.ofToken token = some request ∧
        request.forParties accounts = some instruction := by
  rcases accounts with _ | ⟨first, _ | ⟨second, _ | ⟨third, rest⟩⟩⟩ <;> cases token <;>
    simp [parseTokenInstruction, threeAccounts, checkDecimals, require, Request.ofToken,
      Request.forParties, bind, Except.bind, pure, Except.pure] <;> grind [Request.forParties]

/-- A change of an authority is read off the data behind the tag: the kind of the
authority, then the optional new one, and its accounts. -/
theorem parseSetAuthority_eq_ok {data : Bytes} {accounts : List String}
    {instruction : Token2022Instruction} :
    parseSetAuthority data accounts = .ok instruction ↔
      ∃ authorityType rest newAuthority, data.drop 1 = authorityType :: rest ∧
        parseNewAuthority rest = .ok newAuthority ∧
        (Request.setAuthority authorityType newAuthority).forParties accounts =
          some instruction := by
  rcases accounts with _ | ⟨account, _ | ⟨authority, others⟩⟩
  · simp [parseSetAuthority, Request.forParties]
  · simp [parseSetAuthority, Request.forParties]
  · rw [parseSetAuthority]
    cases data.drop 1 with
    | nil => simp
    | cons authorityType rest =>
        simp only [map_eq_ok, Request.forParties, List.cons.injEq, Option.some.injEq]
        constructor
        · rintro ⟨newAuthority, hparsed, hinstruction⟩
          exact ⟨_, _, newAuthority, ⟨rfl, rfl⟩, hparsed, hinstruction⟩
        · rintro ⟨_, _, newAuthority, ⟨rfl, rfl⟩, hparsed, hinstruction⟩
          exact ⟨newAuthority, hparsed, hinstruction⟩

/-- What is parsed is the request in the data, with the first accounts as its parties. -/
theorem parse_eq_ok_iff {unpack : Bytes → Option TokenInstruction} {data : Bytes}
    {accounts : List String} {instruction : Token2022Instruction} :
    parseToken2022Instruction unpack data accounts = .ok instruction ↔
      ∃ request, Request.ofData unpack data = some request ∧
        request.forParties accounts = some instruction := by
  unfold parseToken2022Instruction Request.ofData
  by_cases hpause : isPauseInstruction data
  · rw [if_pos hpause, if_pos hpause]
    rcases accounts with _ | ⟨mint, _ | ⟨authority, others⟩⟩ <;> simp [Request.forParties]
  rw [if_neg hpause, if_neg hpause]
  by_cases hresume : isResumeInstruction data
  · rw [if_pos hresume, if_pos hresume]
    rcases accounts with _ | ⟨mint, _ | ⟨authority, others⟩⟩ <;> simp [Request.forParties]
  rw [if_neg hresume, if_neg hresume]
  by_cases hauthority : isSetAuthorityInstruction data
  · rw [if_pos hauthority, if_pos hauthority, parseSetAuthority_eq_ok]
    cases data.drop 1 with
    | nil => simp
    | cons authorityType rest =>
        cases hparsed : parseNewAuthority rest <;> simp [hparsed, Except.toOption]
  · rw [if_neg hauthority, if_neg hauthority]
    cases unpack data with
    | none => simp
    | some token => exact parseTokenInstruction_eq_ok

/-! ## The preview -/

/-- An account of the instruction; only a key that is known is shown. -/
def accountText (context : VisualizerContext) (position : ℕ) : Except VisualSignError String :=
  match context.account position with
  | some (.resolved pubkey) => .ok pubkey.text
  | some (.unresolved rawIndex) =>
      .error (.decodeError ("token_2022: unresolved account index " ++ toString rawIndex.toNat ++
        " at position " ++ toString position))
  | none => .error (.decodeError ("token_2022: missing account at position " ++ toString position))

/-- A text or a number of the preview. -/
inductive Row where
  | text (label value : String)
  | number (label : String) (value : ℕ)

def Row.field : Row → Except VisualSignError AnnotatedPayloadField
  | text label value => .ok (createTextField label value)
  | number label value => createNumberField label (toString value) ""

/-- Title, condensed rows and expanded rows. -/
structure TokenLayout where
  title : String
  condensed : List Row
  expanded : List Row

def checkedLayout (action amountText : String) (amount : UInt64) (decimals : UInt8)
    (parties : List Row) : TokenLayout where
  title := action ++ ": " ++ amountText ++ " tokens"
  condensed := [.text "Action" action, .text "Amount" amountText]
  expanded := [.text "Instruction" action, .text "Amount" amountText,
    .number "Raw Amount" amount.toNat, .number "Decimals" decimals.toNat] ++ parties

def partiesLayout (title name : String) (parties : List Row) : TokenLayout where
  title := title
  condensed := [.text "Action" title]
  expanded := .text "Instruction" name :: parties

def tokenLayout : Token2022Instruction → TokenLayout
  | .mintToChecked amount decimals mint account mintAuthority =>
      checkedLayout "Mint To Checked" (formatTokenAmount amount.toNat decimals) amount decimals
        [.text "Mint" mint, .text "Destination Account" account,
          .text "Mint Authority" mintAuthority]
  | .burnChecked amount decimals account mint authority =>
      checkedLayout "Burn Checked" (formatTokenAmount amount.toNat decimals) amount decimals
        [.text "Token Account" account, .text "Mint" mint, .text "Authority" authority]
  | .pause mint pauseAuthority =>
      partiesLayout "Pause Token" "Pause" [.text "Mint" mint,
        .text "Pause Authority" pauseAuthority]
  | .resume mint pauseAuthority =>
      partiesLayout "Resume Token" "Resume" [.text "Mint" mint,
        .text "Pause Authority" pauseAuthority]
  | .setAuthority account authorityType authorityTypeName currentAuthority newAuthority =>
      { title := "Set Authority: " ++ authorityTypeName
        condensed := [.text "Action" "Set Authority", .text "Authority Type" authorityTypeName]
        expanded := [.text "Instruction" "Set Authority", .text "Account" account,
          .text "Authority Type" authorityTypeName,
          .number "Authority Type ID" authorityType.toNat,
          .text "Current Authority" currentAuthority,
          .text "New Authority" (newAuthority.getD "None (Remove Authority)")] }
  | .freeze account mint freezeAuthority =>
      partiesLayout "Freeze Account" "Freeze" [.text "Token Account" account, .text "Mint" mint,
        .text "Freeze Authority" freezeAuthority]
  | .thaw account mint freezeAuthority =>
      partiesLayout "Thaw Account" "Thaw" [.text "Token Account" account, .text "Mint" mint,
        .text "Freeze Authority" freezeAuthority]
  | .closeAccount account destination owner =>
      partiesLayout "Close Account" "Close Account" [.text "Token Account" account,
        .text "Destination" destination, .text "Owner" owner]

/-- `create_token_2022_preview_layout`. -/
def createPreviewLayout (context : VisualizerContext) (layout : TokenLayout) :
    Except VisualSignError AnnotatedPayloadField := do
  let condensed ← layout.condensed.mapM Row.field
  let expanded ← layout.expanded.mapM Row.field
  return previewField ("Instruction " ++ toString (context.instructionIndex + 1))
    ("Token 2022: " ++ layout.title ++ "\nProgram ID: " ++ resolveProgramIdStr context)
    layout.title "" condensed (expanded ++
      [createTextField "Program ID" (resolveProgramIdStr context),
        createRawDataField context.data none])

def visualizeTxCommands (unpack : Bytes → Option TokenInstruction) (context : VisualizerContext) :
    Except VisualSignError AnnotatedPayloadField := do
  let accounts ← (List.range context.numAccounts).mapM (accountText context)
  let instruction ← (parseToken2022Instruction unpack context.data accounts).mapError .decodeError
  createPreviewLayout context (tokenLayout instruction)

/-! ## What a preview shows -/

/-- The field of a row; a number in digits always passes its check. -/
def Row.rendered : Row → AnnotatedPayloadField
  | text label value => createTextField label value
  | number label value => annotateField (.number ⟨toString value, label⟩ ⟨toString value⟩)

theorem Row.field_eq (row : Row) : row.field = .ok row.rendered := by
  cases row with
  | text label value => rfl
  | number label value =>
      rw [Row.field, createNumberField, validateNumberString_toString]
      rfl

/-- The label and the text of a row can be read off the rendered field, so rows with
one display are one row. -/
theorem Row.rendered_injective : Function.Injective Row.rendered := by
  intro left right hsame
  cases left with
  | text label value =>
      cases right <;> simp_all [Row.rendered, createTextField, annotateField]
  | number label value =>
      cases right with
      | text => simp [Row.rendered, createTextField, annotateField] at hsame
      | number otherLabel otherValue =>
          simp only [Row.rendered, annotateField, AnnotatedPayloadField.mk.injEq,
            SignablePayloadField.number.injEq, SignablePayloadFieldCommon.mk.injEq] at hsame
          rw [hsame.1.1.2, Decimal.toString_injective hsame.1.1.1]

theorem mapM_rowField (rows : List Row) : rows.mapM Row.field = .ok (rows.map Row.rendered) := by
  rw [mapM_eq_ok, List.forall₂_map_right_iff]
  exact List.forall₂_same.2 fun row _ => row.field_eq

/-- The text of an account is the address of a key that is resolved; a position
without a resolved key has no text. -/
theorem accountText_eq_ok {context : VisualizerContext} {position : ℕ} {text : String} :
    accountText context position = .ok text ↔
      ∃ key : Pubkey, context.account position = some (.resolved key) ∧ key.text = text := by
  rw [accountText]
  cases context.account position with
  | none => simp
  | some account => cases account <;> simp

/-- The texts of the accounts are the texts of their keys. -/
theorem mapM_accountText_eq_ok {context : VisualizerContext} {positions : List ℕ}
    {accounts : List String} :
    positions.mapM (accountText context) = .ok accounts ↔
      ∃ keys : List Pubkey, positions.map context.account =
        keys.map (fun key => some (.resolved key)) ∧ keys.map Pubkey.text = accounts := by
  rw [mapM_eq_ok]
  induction positions generalizing accounts with
  | nil =>
      rw [List.forall₂_nil_left_iff]
      constructor
      · rintro rfl
        exact ⟨[], rfl, rfl⟩
      · rintro ⟨keys, hkeys, rfl⟩
        rw [List.map_eq_nil_iff.1 hkeys.symm, List.map_nil]
  | cons first rest ih =>
      constructor
      · intro hall
        cases hall with
        | cons hfirst hrest =>
            obtain ⟨key, hkey, rfl⟩ := accountText_eq_ok.1 hfirst
            obtain ⟨keys, hkeys, rfl⟩ := ih.1 hrest
            exact ⟨key :: keys, by rw [List.map_cons, hkey, hkeys, List.map_cons], rfl⟩
      · rintro ⟨keys, hkeys, rfl⟩
        cases keys with
        | nil => cases hkeys
        | cons key keys =>
            rw [List.map_cons, List.map_cons, List.cons.injEq] at hkeys
            exact .cons (accountText_eq_ok.2 ⟨key, hkeys.1, rfl⟩) (ih.2 ⟨keys, hkeys.2, rfl⟩)

/-- What is shown: the keys of all accounts, the request in the data, and the instruction
for its parties. -/
theorem visualizeTxCommands_eq_ok {unpack : Bytes → Option TokenInstruction}
    {context : VisualizerContext} {field : AnnotatedPayloadField} :
    visualizeTxCommands unpack context = .ok field ↔
      ∃ (keys : List Pubkey) (request : Request) (instruction : Token2022Instruction),
        (List.range context.numAccounts).map context.account =
            keys.map (fun key => some (.resolved key)) ∧
          Request.ofData unpack context.data = some request ∧
          request.forParties (keys.map Pubkey.text) = some instruction ∧
          createPreviewLayout context (tokenLayout instruction) = .ok field := by
  rw [visualizeTxCommands]
  simp only [bind_eq_ok, mapError_eq_ok, mapM_accountText_eq_ok, parse_eq_ok_iff]
  constructor
  · rintro ⟨_, ⟨keys, hkeys, rfl⟩, instruction, ⟨request, hrequest, hparties⟩, hfield⟩
    exact ⟨keys, request, instruction, hkeys, hrequest, hparties, hfield⟩
  · rintro ⟨keys, request, instruction, hkeys, hrequest, hparties, hfield⟩
    exact ⟨_, ⟨keys, hkeys, rfl⟩, instruction, ⟨request, hrequest, hparties⟩, hfield⟩

/-- The preview never fails: it shows the title and the rows of the layout, behind
the number of the instruction and the program it calls. -/
theorem createPreviewLayout_eq (context : VisualizerContext) (layout : TokenLayout) :
    createPreviewLayout context layout = .ok
      (previewField ("Instruction " ++ toString (context.instructionIndex + 1))
        ("Token 2022: " ++ layout.title ++ "\nProgram ID: " ++ resolveProgramIdStr context)
        layout.title "" (layout.condensed.map Row.rendered)
        (layout.expanded.map Row.rendered ++
          [createTextField "Program ID" (resolveProgramIdStr context),
            createRawDataField context.data none])) := by
  rw [createPreviewLayout, mapM_rowField, mapM_rowField]
  rfl

/-- The keys of the accounts, for a context that has them all. -/
theorem length_keys {context : VisualizerContext} {keys : List Pubkey}
    (hkeys : (List.range context.numAccounts).map context.account =
      keys.map fun key => some (.resolved key)) : keys.length = context.numAccounts := by
  have hlength := congrArg List.length hkeys
  rw [List.length_map, List.length_range, List.length_map] at hlength
  exact hlength.symm

/-- An instruction is shown exactly if every account has a key and the data has a request
with no more parties than there are accounts. -/
theorem token2022_shown_iff (unpack : Bytes → Option TokenInstruction)
    (context : VisualizerContext) :
    (∃ field, visualizeTxCommands unpack context = .ok field) ↔
      (∀ position < context.numAccounts, ∃ key, context.account position = some (.resolved key)) ∧
      ∃ request, Request.ofData unpack context.data = some request ∧
        request.partyCount ≤ context.numAccounts := by
  simp only [visualizeTxCommands_eq_ok, createPreviewLayout_eq]
  constructor
  · rintro ⟨_, keys, request, instruction, hkeys, hrequest, hparties, -⟩
    refine ⟨fun position hposition => ?_, request, hrequest, ?_⟩
    · have hmem : context.account position ∈ keys.map fun key => some (.resolved key) := by
        rw [← hkeys]
        exact List.mem_map_of_mem (List.mem_range.2 hposition)
      obtain ⟨key, -, hkey⟩ := List.mem_map.1 hmem
      exact ⟨key, hkey.symm⟩
    · rw [← length_keys hkeys, ← List.length_map (f := Pubkey.text)]
      exact (request.forParties_isSome_iff _).1 ⟨instruction, hparties⟩
  · rintro ⟨hresolved, request, hrequest, hcount⟩
    have htexts : ∀ position ∈ List.range context.numAccounts,
        ∃ text, accountText context position = .ok text := by
      intro position hposition
      obtain ⟨key, hkey⟩ := hresolved position (List.mem_range.1 hposition)
      exact ⟨key.text, accountText_eq_ok.2 ⟨key, hkey, rfl⟩⟩
    obtain ⟨accounts, haccounts⟩ := exists_forall₂_iff.2 htexts
    obtain ⟨keys, hkeys, rfl⟩ := mapM_accountText_eq_ok.1 (mapM_eq_ok.2 haccounts)
    have hlength := length_keys hkeys
    obtain ⟨instruction, hinstruction⟩ := (request.forParties_isSome_iff
      (keys.map Pubkey.text)).2 (by rwa [List.length_map, hlength])
    exact ⟨_, keys, request, instruction, hkeys, hrequest, hinstruction, rfl⟩

/-! ## What tells previews apart -/

/-- The accounts that an instruction names. -/
def shownParties (unpack : Bytes → Option TokenInstruction) (context : VisualizerContext) :
    List (Option AccountRef) :=
  match Request.ofData unpack context.data with
  | some request => (List.range request.partyCount).map context.account
  | none => []

/-- The parties that are shown are the addresses of the accounts at the positions
that the kind of the instruction assigns to its roles. -/
theorem shownParties_eq {unpack : Bytes → Option TokenInstruction} {context : VisualizerContext}
    {keys : List Pubkey} {request : Request} {instruction : Token2022Instruction}
    (hkeys : (List.range context.numAccounts).map context.account =
      keys.map fun key => some (.resolved key))
    (hrequest : Request.ofData unpack context.data = some request)
    (hparties : request.forParties (keys.map Pubkey.text) = some instruction) :
    shownParties unpack context =
      (keys.take request.partyCount).map fun key => some (.resolved key) := by
  have hcount : request.partyCount ≤ context.numAccounts := by
    rw [← length_keys hkeys, ← List.length_map (f := Pubkey.text)]
    exact (request.forParties_isSome_iff _).1 ⟨instruction, hparties⟩
  rw [shownParties, hrequest, List.map_take, ← hkeys, ← List.map_take, List.take_range,
    min_eq_left hcount]

/-- The rows name every party of the instruction. -/
theorem parties_of_expanded {request : Request} {left right : List String}
    {leftInstruction rightInstruction : Token2022Instruction}
    (hleft : request.forParties left = some leftInstruction)
    (hright : request.forParties right = some rightInstruction)
    (hsame : (tokenLayout leftInstruction).expanded = (tokenLayout rightInstruction).expanded) :
    left.take request.partyCount = right.take request.partyCount := by
  rcases left with _ | ⟨first, _ | ⟨second, _ | ⟨third, rest⟩⟩⟩ <;>
    rcases right with _ | ⟨first', _ | ⟨second', _ | ⟨third', rest'⟩⟩⟩ <;>
      cases request <;> simp only [Request.forParties, reduceCtorEq, Option.some.injEq] at hleft hright <;>
        subst hleft hright <;>
          simp [tokenLayout, checkedLayout, partiesLayout] at hsame <;>
            simp [Request.partyCount, hsame]

theorem text_injective : Function.Injective Pubkey.text :=
  Base58.encode_injective.comp Subtype.val_injective

/-- Two instructions have one display exactly if they agree in the place, the
program, the data and every account with a role; an account without a role is not
shown. -/
theorem token2022_display_eq_iff {unpack : Bytes → Option TokenInstruction}
    {left right : VisualizerContext} {leftField rightField : AnnotatedPayloadField}
    (hleft : visualizeTxCommands unpack left = .ok leftField)
    (hright : visualizeTxCommands unpack right = .ok rightField) :
    leftField = rightField ↔
      (left.instructionIndex = right.instructionIndex ∧
        resolveProgramIdStr left = resolveProgramIdStr right ∧ left.data = right.data) ∧
      shownParties unpack left = shownParties unpack right := by
  obtain ⟨keys, request, instruction, hkeys, hrequest, hparties, hfield⟩ :=
    visualizeTxCommands_eq_ok.1 hleft
  obtain ⟨otherKeys, otherRequest, otherInstruction, hotherKeys, hotherRequest, hotherParties,
    hotherField⟩ := visualizeTxCommands_eq_ok.1 hright
  rw [createPreviewLayout_eq, Except.ok.injEq] at hfield hotherField
  rw [shownParties_eq hkeys hrequest hparties,
    shownParties_eq hotherKeys hotherRequest hotherParties, ← hfield, ← hotherField]
  constructor
  · intro hsame
    simp only [previewField, annotateField, AnnotatedPayloadField.mk.injEq,
      SignablePayloadField.previewLayout.injEq, SignablePayloadFieldPreviewLayout.mk.injEq,
      SignablePayloadFieldCommon.mk.injEq, Option.some.injEq,
      SignablePayloadFieldListLayout.mk.injEq] at hsame
    obtain ⟨⟨⟨-, hlabel⟩, -, -, -, hexpanded⟩, -, -⟩ := hsame
    obtain ⟨hrows, hlast⟩ := List.append_inj' hexpanded rfl
    simp only [List.cons.injEq, createRawDataField, createTextField, annotateField,
      AnnotatedPayloadField.mk.injEq, SignablePayloadField.textV2.injEq,
      SignablePayloadFieldTextV2.mk.injEq, Option.getD_none] at hlast
    have hdata : left.data = right.data := Hex.encode_injective hlast.2.1.1.2
    have hindex := Decimal.toString_injective ((String.append_right_inj _).1 hlabel)
    refine ⟨⟨Nat.succ_injective hindex, hlast.1.1.2, hdata⟩, ?_⟩
    rw [hdata, hotherRequest, Option.some.injEq] at hrequest
    subst hrequest
    have htake := parties_of_expanded hparties hotherParties
      (List.map_injective_iff.2 Row.rendered_injective hrows)
    rw [← List.map_take, ← List.map_take] at htake
    rw [List.map_injective_iff.2 text_injective htake]
  · rintro ⟨⟨hindex, hprogram, hdata⟩, hshown⟩
    rw [hdata, hotherRequest, Option.some.injEq] at hrequest
    subst hrequest
    have hresolved : Function.Injective fun key : Pubkey => some (AccountRef.resolved key) :=
      fun _ _ hsame => AccountRef.resolved.inj (Option.some.inj hsame)
    have htake := List.map_injective_iff.2 hresolved hshown
    rw [← otherRequest.forParties_take, ← List.map_take, htake, List.map_take,
      otherRequest.forParties_take, hotherParties, Option.some.injEq] at hparties
    rw [hindex, hprogram, hdata, hparties]

/-! ## A cosigner of a pause -/

def pauseWith (cosigner : UInt8) : VisualizerContext where
  sender := ⟨"", true, true⟩
  compiledInstruction := ⟨4, [0, 1, cosigner], [44, 1]⟩
  accountKeys := [repeatedByte 1, repeatedByte 2, repeatedByte 3, repeatedByte 4, repeatedByte 5]
  idlRegistry := ⟨BTreeMap.empty, BTreeMap.empty, BTreeMap.empty⟩
  instructionIndex := 0
  callDepth := 0

/-- The third account of a pause signs for the authority, and is not shown. -/
theorem token2022_display_eq_cosigners :
    ∃ field, visualizeTxCommands (fun _ => none) (pauseWith 2) = .ok field ∧
      visualizeTxCommands (fun _ => none) (pauseWith 3) = .ok field ∧
      (pauseWith 2).account 2 ≠ (pauseWith 3).account 2 := by
  have hsame := (@token2022_display_eq_iff (fun _ => none) (pauseWith 2) (pauseWith 3)
    _ _ rfl rfl).2 ⟨⟨rfl, rfl, rfl⟩, rfl⟩
  exact ⟨_, rfl, congrArg Except.ok hsame.symm, by decide⟩

end VisualSignParser.Solana.Token2022
