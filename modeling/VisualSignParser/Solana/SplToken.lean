import VisualSignParser.Solana.SwigWallet

/-!
# The token visualizer

A token instruction names its parties by the positions of its accounts.  Two
tables say which position has which role: the fields of this visualizer, and the
summary of an instruction inside of a Swig wallet.
-/

namespace VisualSignParser.Solana.SplToken

open VisualSignParser.Framing
open VisualSignParser.Solana.Swig (InnerAccountMeta summaryLines)
open VisualSignParser.VisualSign

/-! ## Instructions -/

abbrev AuthorityType := Swig.SplAuthorityType

/-- `TokenInstruction` of the token crate, with the data that is shown. -/
inductive TokenInstruction where
  | initializeMint (decimals : UInt8) (mintAuthority : Pubkey) (freezeAuthority : Option Pubkey)
  | initializeAccount
  | initializeMultisig
  | transfer (amount : UInt64)
  | approve (amount : UInt64)
  | revoke
  | setAuthority (authorityType : AuthorityType) (newAuthority : Option Pubkey)
  | mintTo (amount : UInt64)
  | burn (amount : UInt64)
  | closeAccount
  | freezeAccount
  | thawAccount
  | transferChecked (amount : UInt64) (decimals : UInt8)
  | approveChecked (amount : UInt64) (decimals : UInt8)
  | mintToChecked (amount : UInt64) (decimals : UInt8)
  | burnChecked (amount : UInt64) (decimals : UInt8)
  | initializeAccount2 (owner : Pubkey)
  | syncNative
  | initializeAccount3 (owner : Pubkey)
  | initializeMultisig2
  | initializeMint2 (decimals : UInt8) (mintAuthority : Pubkey) (freezeAuthority : Option Pubkey)
  | getAccountDataSize
  | initializeImmutableOwner
  | amountToUiAmount
  | uiAmountToAmount

namespace TokenInstruction

/-- The instruction as the summary of the wallet tells them apart. -/
def toSummarized : TokenInstruction → Swig.TokenInstruction
  | transfer amount => .transfer amount
  | transferChecked amount decimals => .transferChecked amount decimals
  | mintTo amount => .mintTo amount
  | mintToChecked amount decimals => .mintToChecked amount decimals
  | burn amount => .burn amount
  | burnChecked amount decimals => .burnChecked amount decimals
  | approve amount => .approve amount
  | approveChecked amount decimals => .approveChecked amount decimals
  | setAuthority authorityType newAuthority => .setAuthority authorityType newAuthority
  | closeAccount => .closeAccount
  | syncNative => .syncNative
  | _ => .other

end TokenInstruction

/-! ## The fields -/

/-- The texts of the program and of the accounts. -/
structure InstructionView where
  programId : String
  accounts : List String

def accountText (context : VisualizerContext) (index : ℕ) : String :=
  match context.account index with
  | some (.resolved pubkey) => pubkey.text
  | some (.unresolved rawIndex) => "unresolved(" ++ toString rawIndex.toNat ++ ")"
  | none => "unresolved(oob:" ++ toString index ++ ")"

def InstructionView.fromContext (context : VisualizerContext) : InstructionView :=
  ⟨UnknownProgram.resolveProgramIdStr context,
    (List.range context.numAccounts).map (accountText context)⟩

def formatAuthorityType : AuthorityType → String
  | .mintTokens => "Mint Tokens"
  | .freezeAccount => "Freeze Account"
  | .accountOwner => "Account Owner"
  | .closeAccount => "Close Account"

def formatCoptionPubkey (pubkey : Option Pubkey) : String := (pubkey.map Pubkey.text).getD "None"

/-- The layout of an instruction: its title, the name and the data that are shown, and
the labels of the accounts from the first one on. -/
structure TokenLayout where
  title : String
  name : String
  rows : List (String × String)
  accountLabels : List String

/-- The instructions that are shown with their parties. -/
def tokenLayout : TokenInstruction → Option TokenLayout
  | .mintTo amount => some ⟨"Mint To: " ++ toString amount.toNat, "Mint To",
      [("Amount", toString amount.toNat)], ["mint", "account", "mintAuthority"]⟩
  | .mintToChecked amount decimals =>
      some ⟨"Mint To: " ++ toString amount.toNat ++ " (decimals: " ++ toString decimals.toNat ++ ")",
        "Mint To (Checked)",
        [("Amount", toString amount.toNat), ("Decimals", toString decimals.toNat)],
        ["mint", "account", "mintAuthority"]⟩
  | .setAuthority authorityType newAuthority =>
      some ⟨"Set Authority: " ++ formatAuthorityType authorityType, "Set Authority",
        [("Authority Type", formatAuthorityType authorityType),
          ("New Authority", formatCoptionPubkey newAuthority)],
        ["Account", "Current Authority"]⟩
  | .transfer amount => some ⟨"Transfer", "Transfer", [("Amount", toString amount.toNat)],
      ["Source", "Destination", "Owner"]⟩
  | .transferChecked amount decimals => some ⟨"Transfer (Checked)", "Transfer (Checked)",
      [("Amount", toString amount.toNat), ("Decimals", toString decimals.toNat)],
      ["Source", "Token Mint", "Destination", "Owner"]⟩
  | .burn amount => some ⟨"Burn", "Burn", [("Amount", toString amount.toNat)],
      ["Account", "Token Mint", "Owner"]⟩
  | .burnChecked amount decimals => some ⟨"Burn (Checked)", "Burn (Checked)",
      [("Amount", toString amount.toNat), ("Decimals", toString decimals.toNat)],
      ["Account", "Token Mint", "Owner"]⟩
  | .approve amount => some ⟨"Approve", "Approve", [("Amount", toString amount.toNat)],
      ["Source", "Delegate", "Owner"]⟩
  | .approveChecked amount decimals => some ⟨"Approve (Checked)", "Approve (Checked)",
      [("Amount", toString amount.toNat), ("Decimals", toString decimals.toNat)],
      ["Source", "Token Mint", "Delegate", "Owner"]⟩
  | .initializeMint decimals mintAuthority freezeAuthority =>
      some ⟨"Initialize Mint", "Initialize Mint", [("Decimals", toString decimals.toNat),
        ("Mint Authority", mintAuthority.text),
        ("Freeze Authority", formatCoptionPubkey freezeAuthority)], ["Token Mint"]⟩
  | .initializeMint2 decimals mintAuthority freezeAuthority =>
      some ⟨"Initialize Mint (v2)", "Initialize Mint (v2)",
        [("Decimals", toString decimals.toNat), ("Mint Authority", mintAuthority.text),
          ("Freeze Authority", formatCoptionPubkey freezeAuthority)], ["Token Mint"]⟩
  | .initializeAccount => some ⟨"Initialize Token Account", "Initialize Token Account", [],
      ["Account", "Token Mint", "Owner"]⟩
  | .initializeAccount2 owner =>
      some ⟨"Initialize Token Account (v2)", "Initialize Token Account (v2)",
        [("Owner", owner.text)], ["Account", "Token Mint"]⟩
  | .initializeAccount3 owner =>
      some ⟨"Initialize Token Account (v3)", "Initialize Token Account (v3)",
        [("Owner", owner.text)], ["Account", "Token Mint"]⟩
  | .freezeAccount => some ⟨"Freeze Account", "Freeze Account", [],
      ["Account", "Token Mint", "Freeze Authority"]⟩
  | .thawAccount => some ⟨"Thaw Account", "Thaw Account", [],
      ["Account", "Token Mint", "Freeze Authority"]⟩
  | .closeAccount => some ⟨"Close Account", "Close Account", [],
      ["Account", "Destination", "Owner"]⟩
  | .revoke => some ⟨"Revoke", "Revoke", [], ["Source", "Owner"]⟩
  | _ => none

def formatTokenInstruction : TokenInstruction → String
  | .initializeMint .. => "Initialize Mint"
  | .initializeMint2 .. => "Initialize Mint (v2)"
  | .initializeAccount => "Initialize Token Account"
  | .initializeAccount2 _ => "Initialize Token Account (v2)"
  | .initializeAccount3 _ => "Initialize Token Account (v3)"
  | .initializeMultisig => "Initialize Multisig"
  | .initializeMultisig2 => "Initialize Multisig (v2)"
  | .transfer _ => "Transfer"
  | .transferChecked .. => "Transfer (Checked)"
  | .approve _ => "Approve"
  | .approveChecked .. => "Approve (Checked)"
  | .revoke => "Revoke"
  | .setAuthority .. => "Set Authority"
  | .burn _ => "Burn"
  | .burnChecked .. => "Burn (Checked)"
  | .closeAccount => "Close Account"
  | .freezeAccount => "Freeze Account"
  | .thawAccount => "Thaw Account"
  | .syncNative => "Sync Native"
  | .getAccountDataSize => "Get Account Data Size"
  | .initializeImmutableOwner => "Initialize Immutable Owner"
  | .amountToUiAmount => "Amount To UI Amount"
  | .uiAmountToAmount => "UI Amount To Amount"
  -- `unreachable!`: these two always have a layout.
  | .mintTo _ => ""
  | .mintToChecked .. => ""

/-- The expanded rows of an instruction. -/
def expandedRows (instruction : InstructionView) (data : Bytes) (layout : TokenLayout) :
    List (String × String) :=
  [("Program ID", instruction.programId), ("Instruction", layout.name)] ++ layout.rows ++
    layout.accountLabels.zip instruction.accounts ++ [("Raw Data", Hex.encode data)]

def textFields (rows : List (String × String)) : List AnnotatedPayloadField :=
  rows.map fun row => createTextField row.1 row.2

def createPreviewLayoutField (title : String) (condensed expanded : List (String × String))
    (instruction : InstructionView) (context : VisualizerContext) : AnnotatedPayloadField :=
  previewField ("Instruction " ++ toString (context.instructionIndex + 1))
    (UnknownProgram.fallbackText instruction.programId context.data) title "" (textFields condensed)
    (textFields expanded)

/-- The layout of an instruction that shows no parties. -/
def createRawPreviewLayout (title : String) (instruction : InstructionView)
    (context : VisualizerContext) : AnnotatedPayloadField :=
  let condensed := [("Instruction", title), ("Program", "SPL Token")]
  createPreviewLayoutField title condensed
    (condensed ++ [("Program ID", instruction.programId), ("Raw Data", Hex.encode context.data)])
    instruction context

def createTokenPreviewLayout (tokenInstruction : TokenInstruction)
    (instruction : InstructionView) (context : VisualizerContext) : AnnotatedPayloadField :=
  match tokenLayout tokenInstruction with
  | some layout => createPreviewLayoutField layout.title [("Instruction", layout.title)]
      (expandedRows instruction context.data layout) instruction context
  | none => createRawPreviewLayout (formatTokenInstruction tokenInstruction) instruction context

/-- `SplTokenVisualizer::visualize_tx_commands`; the instruction is unpacked in the
token crate. -/
def visualizeTxCommands (unpack : Bytes → Option TokenInstruction)
    (context : VisualizerContext) : AnnotatedPayloadField :=
  let instruction := InstructionView.fromContext context
  match unpack context.data with
  | some tokenInstruction => createTokenPreviewLayout tokenInstruction instruction context
  | none => createRawPreviewLayout "SPL Token (unparsed)" instruction context

/-! ## The summary of the wallet -/

/-- The accounts that an instruction with parties needs. -/
def requiredAccounts : TokenInstruction → Option ℕ
  | .transfer _ => some 3
  | .transferChecked .. => some 4
  | .mintTo _ => some 3
  | .mintToChecked .. => some 3
  | .burn _ => some 3
  | .burnChecked .. => some 3
  | .approve _ => some 3
  | .approveChecked .. => some 4
  | .setAuthority .. => some 2
  | .closeAccount => some 3
  | _ => none

/-! ## Parties -/

/-- What an account is in an instruction: the one that is acted on, or another party. -/
inductive Role where
  | source
  | mint
  | destination
  | delegate
  | owner
  | newAuthority

/-- The role of a line of the summary. -/
def summaryRole : String → Option Role
  | "From" => some .source
  | "Source" => some .source
  | "Account" => some .source
  | "Mint" => some .mint
  | "To" => some .destination
  | "Destination" => some .destination
  | "Delegate" => some .delegate
  | "Owner" => some .owner
  | "Authority" => some .owner
  | "New Authority" => some .newAuthority
  | _ => none

/-- The role of a field of the layout. -/
def layoutRole : String → Option Role
  | "Source" => some .source
  | "Account" => some .source
  | "mint" => some .mint
  | "Token Mint" => some .mint
  | "account" => some .destination
  | "Destination" => some .destination
  | "Delegate" => some .delegate
  | "Owner" => some .owner
  | "mintAuthority" => some .owner
  | "Current Authority" => some .owner
  | "New Authority" => some .newAuthority
  | _ => none

def parties (role : String → Option Role) (rows : List (String × String)) :
    List (Role × String) :=
  rows.filterMap fun row => (role row.1).map fun role => (role, row.2)

def summaryParties (accounts : List InnerAccountMeta) (tokenInstruction : TokenInstruction) :
    List (Role × String) :=
  parties summaryRole (summaryLines accounts tokenInstruction.toSummarized)

def shownRow (field : AnnotatedPayloadField) : Option (String × String) :=
  match field.signablePayloadField with
  | .textV2 common textV2 => some (common.label, textV2.text)
  | _ => none

/-- The labels and texts of the expanded fields. -/
def shownRows (field : AnnotatedPayloadField) : List (String × String) :=
  match field.signablePayloadField with
  | .previewLayout _ layout =>
      (layout.expanded.map fun expanded => expanded.fields.filterMap shownRow).getD []
  | _ => []

/-- The parties that the layout shows for the same accounts. -/
def layoutParties (programId : String) (context : VisualizerContext)
    (accounts : List InnerAccountMeta) (tokenInstruction : TokenInstruction) :
    List (Role × String) :=
  parties layoutRole (shownRows (createTokenPreviewLayout tokenInstruction
    ⟨programId, accounts.map InnerAccountMeta.display⟩ context))

section Parties

variable (programId : String) (context : VisualizerContext) (accounts : List InnerAccountMeta)

/-- A role of the summary is the same account in the layout, and every party of the
layout is in the summary. -/
structure SameParties (tokenInstruction : TokenInstruction) : Prop where
  roles : ∀ role account, (role, account) ∈ summaryParties accounts tokenInstruction →
    (role, account) ∈ layoutParties programId context accounts tokenInstruction
  shown : ∀ role account,
    (role, account) ∈ layoutParties programId context accounts tokenInstruction →
      ∃ other, (other, account) ∈ summaryParties accounts tokenInstruction

def textAt (index : ℕ) : Option String := accounts[index]?.map InnerAccountMeta.display

/-- The owner of an approval is its source, a checked approval never agrees, and the
current authority is shown when it is the account or the new authority. -/
def PartiesKept : TokenInstruction → Prop
  | .approve _ => textAt accounts 2 = textAt accounts 0
  | .approveChecked .. => False
  | .setAuthority _ newAuthority => textAt accounts 1 = textAt accounts 0 ∨
      textAt accounts 1 = some (formatCoptionPubkey newAuthority)
  | _ => True

variable {programId context accounts}

theorem sameParties_of_perm {tokenInstruction : TokenInstruction}
    (hperm : (summaryParties accounts tokenInstruction).Perm
      (layoutParties programId context accounts tokenInstruction)) :
    SameParties programId context accounts tokenInstruction where
  roles _ _ hparty := hperm.mem_iff.1 hparty
  shown role _ hparty := ⟨role, hperm.mem_iff.2 hparty⟩

/-- The summary takes the source for the owner and leaves the owner out. -/
theorem sameParties_approve_iff (amount : UInt64) (haccounts : 3 ≤ accounts.length) :
    SameParties programId context accounts (.approve amount) ↔
      textAt accounts 2 = textAt accounts 0 := by
  match accounts, haccounts with
  | source :: delegate :: owner :: rest, _ =>
      set accounts := source :: delegate :: owner :: rest
      have hsummary : summaryParties accounts (.approve amount) =
          [(.owner, source.display), (.delegate, delegate.display)] := rfl
      have hlayout : layoutParties programId context accounts (.approve amount) =
          [(.source, source.display), (.delegate, delegate.display),
            (.owner, owner.display)] := rfl
      change _ ↔ some owner.display = some source.display
      rw [Option.some.injEq]
      constructor
      · intro hsame
        have howner := hsame.roles .owner source.display (by rw [hsummary]; simp)
        rw [hlayout] at howner
        have hsource : source.display = owner.display := by simpa using howner
        exact hsource.symm
      · intro howner
        constructor
        · rw [hsummary, hlayout, howner]
          simp only [List.mem_cons, Prod.mk.injEq, List.not_mem_nil, or_false]
          rintro role account (howner | hdelegate)
          · exact .inr (.inr howner)
          · exact .inr (.inl hdelegate)
        · rw [hsummary, hlayout, howner]
          simp only [List.mem_cons, Prod.mk.injEq, List.not_mem_nil, or_false]
          rintro role account (⟨-, rfl⟩ | ⟨-, rfl⟩ | ⟨-, rfl⟩)
          · exact ⟨.owner, .inl ⟨rfl, rfl⟩⟩
          · exact ⟨.delegate, .inr ⟨rfl, rfl⟩⟩
          · exact ⟨.owner, .inl ⟨rfl, rfl⟩⟩

/-- The summary leaves the current authority out. -/
theorem sameParties_setAuthority_iff (authorityType : AuthorityType)
    (newAuthority : Option Pubkey) (haccounts : 2 ≤ accounts.length) :
    SameParties programId context accounts (.setAuthority authorityType newAuthority) ↔
      textAt accounts 1 = textAt accounts 0 ∨
        textAt accounts 1 = some (formatCoptionPubkey newAuthority) := by
  match accounts, haccounts with
  | source :: owner :: rest, _ =>
      set accounts := source :: owner :: rest
      have hsummary : summaryParties accounts (.setAuthority authorityType newAuthority) =
          [(.source, source.display), (.newAuthority, formatCoptionPubkey newAuthority)] := rfl
      have hlayout : layoutParties programId context accounts
          (.setAuthority authorityType newAuthority) =
          [(.newAuthority, formatCoptionPubkey newAuthority), (.source, source.display),
            (.owner, owner.display)] := rfl
      change _ ↔ some owner.display = some source.display ∨ some owner.display = some _
      rw [Option.some.injEq, Option.some.injEq]
      constructor
      · intro hsame
        obtain ⟨other, hother⟩ := hsame.shown .owner owner.display (by rw [hlayout]; simp)
        rw [hsummary] at hother
        simp only [List.mem_cons, Prod.mk.injEq, List.not_mem_nil, or_false] at hother
        exact hother.imp And.right And.right
      · intro howner
        constructor
        · rw [hsummary, hlayout]
          simp only [List.mem_cons, Prod.mk.injEq, List.not_mem_nil, or_false]
          rintro role account (hsource | hnew)
          · exact .inr (.inl hsource)
          · exact .inl hnew
        · rw [hsummary, hlayout]
          simp only [List.mem_cons, Prod.mk.injEq, List.not_mem_nil, or_false]
          rintro role account (⟨-, rfl⟩ | ⟨-, rfl⟩ | ⟨-, rfl⟩)
          · exact ⟨.newAuthority, .inr ⟨rfl, rfl⟩⟩
          · exact ⟨.source, .inl ⟨rfl, rfl⟩⟩
          · rcases howner with howner | howner
            · exact ⟨.source, .inl ⟨rfl, howner⟩⟩
            · exact ⟨.newAuthority, .inr ⟨rfl, howner⟩⟩

/-- The summary of a checked approval has no parties at all. -/
theorem not_sameParties_approveChecked (amount : UInt64) (decimals : UInt8)
    (haccounts : 4 ≤ accounts.length) :
    ¬SameParties programId context accounts (.approveChecked amount decimals) := by
  intro hsame
  match accounts, haccounts with
  | source :: mint :: delegate :: owner :: rest, _ =>
      have hlayout : layoutParties programId context (source :: mint :: delegate :: owner :: rest)
          (.approveChecked amount decimals) = [(.source, source.display), (.mint, mint.display),
            (.delegate, delegate.display), (.owner, owner.display)] := rfl
      obtain ⟨other, hother⟩ := hsame.shown .source source.display (by rw [hlayout]; simp)
      exact absurd hother List.not_mem_nil

end Parties

/-- The two tables agree on an instruction exactly if its parties are kept. -/
theorem sameParties_iff {tokenInstruction : TokenInstruction} {required : ℕ}
    (hrequired : requiredAccounts tokenInstruction = some required)
    {accounts : List InnerAccountMeta} (haccounts : required ≤ accounts.length)
    (programId : String) (context : VisualizerContext) :
    SameParties programId context accounts tokenInstruction ↔
      PartiesKept accounts tokenInstruction := by
  cases tokenInstruction with
  | transfer amount =>
      cases hrequired
      match accounts, haccounts with
      | _ :: _ :: _ :: _, _ => exact iff_of_true (sameParties_of_perm (.of_eq rfl)) trivial
  | transferChecked amount decimals =>
      cases hrequired
      match accounts, haccounts with
      | source :: mint :: destination :: owner :: rest, _ =>
          have hperm : [(Role.source, source.display), (.destination, destination.display),
              (.owner, owner.display), (.mint, mint.display)].Perm
              [(.source, source.display), (.mint, mint.display),
                (.destination, destination.display), (.owner, owner.display)] :=
            .cons _ (List.perm_append_singleton (Role.mint, mint.display) [_, _])
          exact iff_of_true (sameParties_of_perm hperm) trivial
  | mintTo amount =>
      cases hrequired
      match accounts, haccounts with
      | _ :: _ :: _ :: _, _ => exact iff_of_true (sameParties_of_perm (.of_eq rfl)) trivial
  | mintToChecked amount decimals =>
      cases hrequired
      match accounts, haccounts with
      | _ :: _ :: _ :: _, _ => exact iff_of_true (sameParties_of_perm (.of_eq rfl)) trivial
  | burn amount =>
      cases hrequired
      match accounts, haccounts with
      | _ :: _ :: _ :: _, _ => exact iff_of_true (sameParties_of_perm (.of_eq rfl)) trivial
  | burnChecked amount decimals =>
      cases hrequired
      match accounts, haccounts with
      | _ :: _ :: _ :: _, _ => exact iff_of_true (sameParties_of_perm (.of_eq rfl)) trivial
  | closeAccount =>
      cases hrequired
      match accounts, haccounts with
      | _ :: _ :: _ :: _, _ => exact iff_of_true (sameParties_of_perm (.of_eq rfl)) trivial
  | approve amount =>
      cases hrequired
      exact sameParties_approve_iff amount haccounts
  | setAuthority authorityType newAuthority =>
      cases hrequired
      exact sameParties_setAuthority_iff authorityType newAuthority haccounts
  | approveChecked amount decimals =>
      cases hrequired
      exact iff_of_false (not_sameParties_approveChecked amount decimals haccounts) not_false
  | _ => cases hrequired

/-- Three accounts, of which the last one owns the first. -/
def approvalAccounts : List InnerAccountMeta :=
  [1, 2, 3].map fun byte =>
    let key : Pubkey := ⟨byte :: List.replicate 31 0, rfl⟩
    ⟨some key, key.text, false, false⟩

def approvalContext : VisualizerContext :=
  VisualizerContext.new ⟨"", false, false⟩ ⟨0, [], []⟩ [] Swig.newIdlRegistry 0

theorem textAt_approvalAccounts : textAt approvalAccounts 2 ≠ textAt approvalAccounts 0 := by
  intro hsame
  have hbytes : (3 : UInt8) :: List.replicate 31 0 = 1 :: List.replicate 31 0 :=
    Base58.encode_injective (Option.some.inj hsame)
  exact absurd hbytes (by decide)

theorem not_sameParties_approval :
    ¬SameParties Swig.splTokenId approvalContext approvalAccounts (.approve 5) := by
  intro hsame
  exact textAt_approvalAccounts ((sameParties_approve_iff 5 (by decide)).1 hsame)

theorem sameParties_iff_approval :
    3 ≤ approvalAccounts.length ∧
    (SameParties Swig.splTokenId approvalContext approvalAccounts (.approve 5) ↔
      PartiesKept approvalAccounts (.approve 5)) :=
  ⟨by decide, sameParties_iff rfl (by decide) Swig.splTokenId approvalContext⟩

end VisualSignParser.Solana.SplToken
