import Mathlib.Data.List.Sort
import VisualSignParser.Solana.Instructions

/-!
# Accounts and lookup tables of a message

The keys of a message are shown in the order of their roles, and the lookup
tables of a v0 message by their addresses.  Both are previews with a summary and a
full list.
-/

namespace VisualSignParser.Solana

open VisualSignParser.VisualSign

structure SolanaAccountInfo where
  address : String
  isSigner : Bool
  isWritable : Bool
  originalIndex : ℕ

/-- The header counts signers from the front and read-only accounts from the end
of either range. -/
def isWritableAt (header : MessageHeader) (accountCount index : ℕ) : Bool :=
  let required := header.numRequiredSignatures.toNat
  if index < required then index < required - header.numReadonlySignedAccounts.toNat
  else index - required < accountCount - required - header.numReadonlyUnsignedAccounts.toNat

def accountInfo (header : MessageHeader) (accountCount : ℕ) (found : Pubkey × ℕ) :
    SolanaAccountInfo where
  address := found.1.text
  isSigner := found.2 < header.numRequiredSignatures.toNat
  isWritable := isWritableAt header accountCount found.2
  originalIndex := found.2

/-- Writable signers, read-only signers, other writable accounts, the rest. -/
def SolanaAccountInfo.category (account : SolanaAccountInfo) : ℕ :=
  if account.isSigner && account.isWritable then 0
  else if account.isSigner && !account.isWritable then 1
  else if !account.isSigner && account.isWritable then 2
  else 3

/-- The comparison of the sort: by category, then by position. -/
def SolanaAccountInfo.le (left right : SolanaAccountInfo) : Bool :=
  if left.category = right.category then left.originalIndex ≤ right.originalIndex
  else left.category < right.category

def sortedAccounts (header : MessageHeader) (accountKeys : List Pubkey) :
    List SolanaAccountInfo :=
  (accountKeys.zipIdx.map (accountInfo header accountKeys.length)).mergeSort SolanaAccountInfo.le

def decodeAccounts (message : Message) : List SolanaAccountInfo :=
  sortedAccounts message.header message.accountKeys

def decodeV0Accounts (message : V0Message) : List SolanaAccountInfo :=
  sortedAccounts message.header message.accountKeys

/-! ## The convention of the header -/

theorem mem_drop_range' {start total kept index : ℕ} :
    index ∈ (List.range' start total).drop kept ↔
      start + kept ≤ index ∧ index < start + total := by
  rw [List.mem_drop_iff_getElem]
  simp only [List.length_range', List.getElem_range', Nat.one_mul]
  constructor
  · rintro ⟨offset, hoffset, rfl⟩
    omega
  · rintro ⟨hlower, hupper⟩
    exact ⟨index - start - kept, by omega, by omega⟩

/-- The read-only positions of `count` keys: the last ones of the signers, and
the last ones of the others. -/
def readonlyPositions (header : MessageHeader) (count : ℕ) : List ℕ :=
  let required := header.numRequiredSignatures.toNat
  (List.range required).drop (required - header.numReadonlySignedAccounts.toNat) ++
    (List.range' required (count - required)).drop
      (count - required - header.numReadonlyUnsignedAccounts.toNat)

theorem isWritableAt_eq_false_iff {header : MessageHeader} {count index : ℕ}
    (hindex : index < count) :
    isWritableAt header count index = false ↔ index ∈ readonlyPositions header count := by
  rw [readonlyPositions, List.mem_append, List.range_eq_range', mem_drop_range', mem_drop_range']
  simp only [isWritableAt]
  split_ifs with hsigner
  · rw [decide_eq_false_iff_not]
    omega
  · rw [decide_eq_false_iff_not]
    omega

/-- In the message the categories never decrease. -/
theorem category_le {header : MessageHeader} {count left right : ℕ} {leftKey rightKey : Pubkey}
    (hle : left ≤ right) :
    (accountInfo header count (leftKey, left)).category ≤
      (accountInfo header count (rightKey, right)).category := by
  simp only [SolanaAccountInfo.category, accountInfo, isWritableAt]
  grind

theorem pairwise_zipIdx (accountKeys : List Pubkey) :
    accountKeys.zipIdx.Pairwise fun left right => left.2 < right.2 := by
  rw [← List.pairwise_map, List.zipIdx_map_snd]
  exact List.pairwise_lt_range'

/-- The accounts of a message are in the order of their categories, and of their
positions within a category. -/
theorem pairwise_accountInfo (header : MessageHeader) (accountKeys : List Pubkey) :
    (accountKeys.zipIdx.map (accountInfo header accountKeys.length)).Pairwise fun left right =>
      left.category < right.category ∨
        left.category = right.category ∧ left.originalIndex ≤ right.originalIndex := by
  rw [List.pairwise_map]
  apply (pairwise_zipIdx accountKeys).imp
  intro left right hlt
  have hcategory : (accountInfo header accountKeys.length left).category ≤
      (accountInfo header accountKeys.length right).category := category_le hlt.le
  exact (lt_or_eq_of_le hcategory).imp_right fun hsame => ⟨hsame, hlt.le⟩

/-- The roles come in ranges of the message already, so the sort moves nothing. -/
theorem sortedAccounts_eq (header : MessageHeader) (accountKeys : List Pubkey) :
    sortedAccounts header accountKeys =
      accountKeys.zipIdx.map (accountInfo header accountKeys.length) := by
  apply List.mergeSort_of_pairwise
  apply (pairwise_accountInfo header accountKeys).imp
  rintro left right (hlt | ⟨hsame, hle⟩)
  · rw [SolanaAccountInfo.le, if_neg hlt.ne]
    exact decide_eq_true hlt
  · rw [SolanaAccountInfo.le, if_pos hsame]
    exact decide_eq_true hle

/-- Every key of the message is there, once and in its place. -/
theorem originalIndex_sortedAccounts (header : MessageHeader) (accountKeys : List Pubkey) :
    (sortedAccounts header accountKeys).map SolanaAccountInfo.originalIndex =
      List.range accountKeys.length := by
  rw [sortedAccounts_eq, List.map_map, List.range_eq_range', ← List.zipIdx_map_snd 0 accountKeys]
  rfl

/-- The accounts of a message with the roles its header gives to their
positions. -/
structure FollowsHeader (header : MessageHeader) (accountKeys : List Pubkey)
    (accounts : List SolanaAccountInfo) : Prop where
  positions : accounts.map SolanaAccountInfo.originalIndex = List.range accountKeys.length
  sorted : accounts.Pairwise fun left right => left.category ≤ right.category
  address : ∀ account ∈ accounts,
    accountKeys[account.originalIndex]?.map Pubkey.text = some account.address
  signer : ∀ account ∈ accounts, account.isSigner = true ↔
    account.originalIndex ∈ List.range header.numRequiredSignatures.toNat
  readonly : ∀ account ∈ accounts, account.isWritable = false ↔
    account.originalIndex ∈ readonlyPositions header accountKeys.length

theorem followsHeader_sortedAccounts (header : MessageHeader) (accountKeys : List Pubkey) :
    FollowsHeader header accountKeys (sortedAccounts header accountKeys) where
  positions := originalIndex_sortedAccounts header accountKeys
  sorted := by
    rw [sortedAccounts_eq]
    apply (pairwise_accountInfo header accountKeys).imp
    intro left right horder
    exact horder.elim le_of_lt fun hsame => hsame.1.le
  address := by
    rw [sortedAccounts_eq, List.forall_mem_map]
    rintro ⟨key, index⟩ hfound
    rw [accountInfo, (List.mem_zipIdx_iff_getElem?.1 hfound)]
    rfl
  signer := by
    rw [sortedAccounts_eq, List.forall_mem_map]
    rintro ⟨key, index⟩ -
    rw [accountInfo, List.mem_range]
    exact decide_eq_true_iff
  readonly := by
    rw [sortedAccounts_eq, List.forall_mem_map]
    rintro ⟨key, index⟩ hfound
    apply isWritableAt_eq_false_iff
    exact (List.getElem?_eq_some_iff.1 (List.mem_zipIdx_iff_getElem?.1 hfound)).1

/-! ## The preview of the accounts -/

/-- A row of the full list. -/
def accountField (account : SolanaAccountInfo) : AnnotatedPayloadField :=
  createTextField "Account" (", ".intercalate
    ([account.address] ++ (if account.isSigner then ["Signer"] else []) ++
      if account.isWritable then ["Writable"] else []))

def accountsToPayloadFields (accounts : List SolanaAccountInfo) : List AnnotatedPayloadField :=
  accounts.map accountField

def plural (count : ℕ) : String := if count = 1 then "" else "s"

/-- A row of the summary, when there is something to count. -/
def countField (label : String) (count : ℕ) (text : String) : List AnnotatedPayloadField :=
  if 0 < count then [createTextField label (toString count ++ " " ++ text)] else []

/-- An account of the fallback text, with its indicators. -/
def accountFallback (account : SolanaAccountInfo) : String :=
  account.address ++ "[" ++ (if account.isSigner then "S" else "") ++
    (if account.isWritable then "W" else "R") ++ "]"

def createAccountsAdvancedPreviewLayout (title : String) (accounts : List SolanaAccountInfo) :
    SignablePayloadField :=
  let signers := accounts.countP SolanaAccountInfo.isSigner
  let writable := accounts.countP fun account => !account.isSigner && account.isWritable
  let readOnly := accounts.countP fun account => !account.isSigner && !account.isWritable
  .previewLayout ⟨", ".intercalate (accounts.map accountFallback), title⟩
    ⟨some ⟨title⟩, some ⟨toString accounts.length ++ " account" ++ plural accounts.length⟩,
      some ⟨countField "Signers" signers ("Signer" ++ plural signers) ++
        countField "Writable" writable "Writable" ++ countField "Read Only" readOnly "Read Only"⟩,
      some ⟨accountsToPayloadFields accounts⟩⟩

/-- Signers, other writable accounts and the rest are all there is to count. -/
theorem countP_roles (accounts : List SolanaAccountInfo) :
    accounts.countP SolanaAccountInfo.isSigner +
        accounts.countP (fun account => !account.isSigner && account.isWritable) +
        accounts.countP (fun account => !account.isSigner && !account.isWritable) =
      accounts.length := by
  induction accounts with
  | nil => rfl
  | cons account accounts ih =>
      simp only [List.countP_cons, List.length_cons]
      cases account.isSigner <;> cases account.isWritable <;> simp <;> omega

/-- The three rows of the summary count every account once. -/
def CountsAccounts (accounts : List SolanaAccountInfo) : SignablePayloadField → Prop
  | .previewLayout _ layout =>
      let signers := accounts.countP SolanaAccountInfo.isSigner
      let writable := accounts.countP fun account => !account.isSigner && account.isWritable
      let readOnly := accounts.countP fun account => !account.isSigner && !account.isWritable
      signers + writable + readOnly = accounts.length ∧
      listedFields layout.condensed = countField "Signers" signers ("Signer" ++ plural signers) ++
        countField "Writable" writable "Writable" ++ countField "Read Only" readOnly "Read Only"
  | _ => False

/-- Both decoders give the keys of the message in their order, with the roles
of the header, and the counts of the summary sum to the accounts. -/
theorem account_roles :
    (∀ message : Message,
      FollowsHeader message.header message.accountKeys (decodeAccounts message)) ∧
    (∀ message : V0Message,
      FollowsHeader message.header message.accountKeys (decodeV0Accounts message)) ∧
    (∀ (message : Message) (v0Message : V0Message), message.header = v0Message.header →
      message.accountKeys = v0Message.accountKeys →
        decodeAccounts message = decodeV0Accounts v0Message) ∧
    ∀ title accounts,
      CountsAccounts accounts (createAccountsAdvancedPreviewLayout title accounts) := by
  refine ⟨fun message => followsHeader_sortedAccounts message.header message.accountKeys,
    fun message => followsHeader_sortedAccounts message.header message.accountKeys, ?_, ?_⟩
  · intro message v0Message hheader hkeys
    rw [decodeAccounts, decodeV0Accounts, hheader, hkeys]
  · intro title accounts
    exact ⟨countP_roles accounts, rfl⟩

/-! ## Lookup tables -/

/-- A label that counts the tables when there are several. -/
def tableLabel (tableCount index : ℕ) (alone numbered : String) : String :=
  if tableCount = 1 then alone else "Table " ++ toString (index + 1) ++ " " ++ numbered

/-- The accounts taken from a table, when there are any. -/
def tableAccounts (label access : String) (indexes : List UInt8) : List AnnotatedPayloadField :=
  if indexes.isEmpty then []
  else [annotateField (.textV2 ⟨toString indexes.length ++ " accounts", label⟩
    ⟨toString indexes.length ++ " " ++ access ++ " accounts (indices: " ++ debugIndices indexes ++
      ")"⟩)]

/-- The rows of one table in the full list. -/
def tableRows (tableCount : ℕ) (found : MessageAddressTableLookup × ℕ) :
    List AnnotatedPayloadField :=
  createTextField (tableLabel tableCount found.2 "Table Address" "Address")
      found.1.accountKey.text ::
    tableAccounts (tableLabel tableCount found.2 "Writable Accounts" "Writable") "writable"
      found.1.writableIndexes ++
    tableAccounts (tableLabel tableCount found.2 "Readonly Accounts" "Readonly") "readonly"
      found.1.readonlyIndexes

def createAddressLookupTableField (message : V0Message) : SignablePayloadField :=
  let tables := message.addressTableLookups
  let count := toString tables.length
  .previewLayout
    ⟨", ".intercalate (tables.map fun lookup => lookup.accountKey.text), "Address Lookup Tables"⟩
    ⟨some ⟨"Address Lookup Tables"⟩, some ⟨count ++ " table" ++ plural tables.length⟩,
      some ⟨createTextField "Total Tables" (count ++ " Tables") ::
        tables.map fun lookup => createTextField "Table" lookup.accountKey.text⟩,
      some ⟨createTextField "Total Tables" count ::
        tables.zipIdx.flatMap (tableRows tables.length)⟩⟩

end VisualSignParser.Solana
