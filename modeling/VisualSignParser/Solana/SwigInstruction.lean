import VisualSignParser.Solana.SwigWallet

/-!
# Instructions of the Swig program

The first two bytes choose the kind of an instruction.  Every kind has a header of
fixed length, which says how long the parts behind it are.  The parts of a decoded
instruction are the bytes behind the header, each byte in one part.
-/

namespace VisualSignParser.Solana.Swig.Wire

open VisualSignParser.Framing
open VisualSignParser.Cursor
open VisualSignParser.VisualSign

/-! ## Decoded instructions -/

inductive AuthorityUpdateDetails where
  | replaceAll (actions : Bytes)
  | addActions (actions : Bytes)
  | removeActionsByType (types : Bytes)
  | removeActionsByIndex (indices : List ℕ)
  | legacy (bytes : Bytes)
  deriving DecidableEq

inductive SwigInstructionDecoded where
  | createV1 (authorityType : ℕ) (bump walletAddressBump : UInt8) (walletId : ByteArr 32)
      (authorityData actions : Bytes)
  | addAuthorityV1 (actingRoleId newAuthorityType : ℕ) (numActions : UInt8)
      (authorityData actions authorityPayload : Bytes)
  | removeAuthorityV1 (actingRoleId authorityToRemoveId : ℕ) (authorityPayload : Bytes)
  | updateAuthorityV1 (actingRoleId authorityToUpdateId : ℕ)
      (operation : AuthorityUpdateDetails) (authorityPayload : Bytes)
  | signed (kind : SignKind) (sign : SignInstructionDecoded)
  | createSessionV1 (roleId sessionDuration : ℕ) (sessionKey : ByteArr 32)
      (authorityPayload : Bytes)
  | createSubAccountV1 (roleId : ℕ) (subAccountBump : UInt8) (authorityPayload : Bytes)
  | withdrawFromSubAccountV1 (roleId amount : ℕ) (authorityPayload : Bytes)
  | toggleSubAccountV1 (targetRoleId authorityRoleId : ℕ) (enabled : Bool)
      (authorityPayload : Bytes)
  | migrateToWalletAddressV1 (walletAddressBump : UInt8)
  | transferAssetsV1 (roleId : ℕ) (authorityPayload : Bytes)
  | unknown (discriminator : ℕ) (rawData : Bytes)

/-- The signing kinds are those of `SignKind`. -/
inductive SwigInstructionKind where
  | createV1
  | addAuthorityV1
  | removeAuthorityV1
  | updateAuthorityV1
  | signed (kind : SignKind)
  | createSessionV1
  | createSubAccountV1
  | withdrawFromSubAccountV1
  | toggleSubAccountV1
  | migrateToWalletAddressV1
  | transferAssetsV1

def SwigInstructionKind.tryFrom : ℕ → Option SwigInstructionKind
  | 0 => some createV1
  | 1 => some addAuthorityV1
  | 2 => some removeAuthorityV1
  | 3 => some updateAuthorityV1
  | 4 => some (signed .signV1)
  | 5 => some createSessionV1
  | 6 => some createSubAccountV1
  | 7 => some withdrawFromSubAccountV1
  | 9 => some (signed .subAccountSignV1)
  | 10 => some toggleSubAccountV1
  | 11 => some (signed .signV2)
  | 12 => some migrateToWalletAddressV1
  | 13 => some transferAssetsV1
  | _ => none

/-! ## The parsers of the kinds -/

section Parsers

variable (data : Bytes)

abbrev Parsed (A : Type) := Except (Fault SwigParseError) A

def parseCreateV1 : Parsed SwigInstructionDecoded := do
  check (40 ≤ data.length) (.dataTooShort "create_v1 header")
  let authorityType ← leAt data [2, 3]
  let authorityDataLen ← leAt data [4, 5]
  let bump ← byteAt data 6
  let walletAddressBump ← byteAt data 7
  let walletId ← slice data 8 40 >>= toArray 32
  check (40 + authorityDataLen ≤ data.length) (.dataTooShort "create_v1 authority data")
  let authorityData ← slice data 40 (40 + authorityDataLen)
  let actions ← sliceFrom data (40 + authorityDataLen)
  return .createV1 authorityType bump walletAddressBump walletId authorityData actions

def parseAddAuthorityV1 : Parsed SwigInstructionDecoded := do
  check (16 ≤ data.length) (.dataTooShort "add_authority_v1 header")
  let authorityDataLen ← leAt data [2, 3]
  let actionsDataLen ← leAt data [4, 5]
  let newAuthorityType ← leAt data [6, 7]
  let numActions ← byteAt data 8
  let actingRoleId ← leAt data [12, 13, 14, 15]
  check (16 + authorityDataLen + actionsDataLen ≤ data.length)
    (.dataTooShort "add_authority_v1 payload")
  let authorityData ← slice data 16 (16 + authorityDataLen)
  let actions ← slice data (16 + authorityDataLen) (16 + authorityDataLen + actionsDataLen)
  let authorityPayload ← sliceFrom data (16 + authorityDataLen + actionsDataLen)
  return .addAuthorityV1 actingRoleId newAuthorityType numActions authorityData actions
    authorityPayload

def parseRemoveAuthorityV1 : Parsed SwigInstructionDecoded := do
  check (16 ≤ data.length) (.dataTooShort "remove_authority_v1 header")
  let actingRoleId ← leAt data [8, 9, 10, 11]
  let authorityToRemoveId ← leAt data [12, 13, 14, 15]
  let authorityPayload ← sliceFrom data 16
  return .removeAuthorityV1 actingRoleId authorityToRemoveId authorityPayload

/-- `chunks_exact(2)`, with every chunk read as a number. -/
def readIndices : Bytes → List ℕ
  | low :: high :: rest => ofLeBytes [low, high] :: readIndices rest
  | _ => []

def parseUpdateOperation (numActions : UInt8) (operationBytes : Bytes) :
    Parsed AuthorityUpdateDetails :=
  if numActions = 0 then do
    check (¬operationBytes.isEmpty) (.invalidFormat "update_authority missing operation byte")
    let op ← byteAt operationBytes 0
    let payload ← sliceFrom operationBytes 1
    match op.toNat with
    | 0 => return .replaceAll payload
    | 1 => return .addActions payload
    | 2 => return .removeActionsByType payload
    | 3 => do
        check (payload.length % 2 = 0)
          (.invalidFormat "remove_actions_by_index payload must be even")
        return .removeActionsByIndex (readIndices payload)
    | _ => return .legacy operationBytes
  else return .legacy operationBytes

def parseUpdateAuthorityV1 : Parsed SwigInstructionDecoded := do
  check (16 ≤ data.length) (.dataTooShort "update_authority_v1 header")
  let actionsDataLen ← leAt data [2, 3]
  let numActions ← byteAt data 4
  let actingRoleId ← leAt data [8, 9, 10, 11]
  let authorityToUpdateId ← leAt data [12, 13, 14, 15]
  check (16 + actionsDataLen ≤ data.length) (.dataTooShort "update_authority_v1 payload")
  let operationBytes ← slice data 16 (16 + actionsDataLen)
  let authorityPayload ← sliceFrom data (16 + actionsDataLen)
  let operation ← parseUpdateOperation numActions operationBytes
  return .updateAuthorityV1 actingRoleId authorityToUpdateId operation authorityPayload

def parseCreateSessionV1 : Parsed SwigInstructionDecoded := do
  check (48 ≤ data.length) (.dataTooShort "create_session header")
  let roleId ← leAt data [4, 5, 6, 7]
  let sessionDuration ← leAt data [8, 9, 10, 11, 12, 13, 14, 15]
  let sessionKey ← slice data 16 48 >>= toArray 32
  let authorityPayload ← sliceFrom data 48
  return .createSessionV1 roleId sessionDuration sessionKey authorityPayload

def parseCreateSubAccountV1 : Parsed SwigInstructionDecoded := do
  check (16 ≤ data.length) (.dataTooShort "create_sub_account header")
  let roleId ← leAt data [4, 5, 6, 7]
  let subAccountBump ← byteAt data 8
  let authorityPayload ← sliceFrom data 16
  return .createSubAccountV1 roleId subAccountBump authorityPayload

def parseWithdrawFromSubAccount : Parsed SwigInstructionDecoded := do
  check (16 ≤ data.length) (.dataTooShort "withdraw_sub_account header")
  let roleId ← leAt data [4, 5, 6, 7]
  let amount ← leAt data [8, 9, 10, 11, 12, 13, 14, 15]
  let authorityPayload ← sliceFrom data 16
  return .withdrawFromSubAccountV1 roleId amount authorityPayload

def parseToggleSubAccount : Parsed SwigInstructionDecoded := do
  check (16 ≤ data.length) (.dataTooShort "toggle_sub_account header")
  let enabled ← byteAt data 2
  let targetRoleId ← leAt data [8, 9, 10, 11]
  let authorityRoleId ← leAt data [12, 13, 14, 15]
  let authorityPayload ← sliceFrom data 16
  return .toggleSubAccountV1 targetRoleId authorityRoleId (enabled ≠ 0) authorityPayload

def parseMigrate : Parsed SwigInstructionDecoded := do
  check (8 ≤ data.length) (.dataTooShort "migrate header")
  let walletAddressBump ← byteAt data 2
  return .migrateToWalletAddressV1 walletAddressBump

def parseTransferAssets : Parsed SwigInstructionDecoded := do
  check (8 ≤ data.length) (.dataTooShort "transfer_assets header")
  let roleId ← leAt data [4, 5, 6, 7]
  let authorityPayload ← sliceFrom data 8
  return .transferAssetsV1 roleId authorityPayload

end Parsers

section Effects

variable {m : Type → Type} [Monad m] (describe : Describe m)

def parseKind (data : Bytes) (accounts : List AccountMeta) (depth : ℕ) :
    SwigInstructionKind → ExceptT (Fault SwigParseError) m SwigInstructionDecoded
  | .createV1 => parsing (parseCreateV1 data)
  | .addAuthorityV1 => parsing (parseAddAuthorityV1 data)
  | .removeAuthorityV1 => parsing (parseRemoveAuthorityV1 data)
  | .updateAuthorityV1 => parsing (parseUpdateAuthorityV1 data)
  | .signed kind => do
      let sign ← parseSignInstruction describe data kind.headerLen accounts depth
      return .signed kind sign
  | .createSessionV1 => parsing (parseCreateSessionV1 data)
  | .createSubAccountV1 => parsing (parseCreateSubAccountV1 data)
  | .withdrawFromSubAccountV1 => parsing (parseWithdrawFromSubAccount data)
  | .toggleSubAccountV1 => parsing (parseToggleSubAccount data)
  | .migrateToWalletAddressV1 => parsing (parseMigrate data)
  | .transferAssetsV1 => parsing (parseTransferAssets data)

/-- `parse_swig_instruction`; a discriminator that is not known keeps the data. -/
def parseSwigInstruction (data : Bytes) (accounts : List AccountMeta) (depth : ℕ) :
    ExceptT (Fault SwigParseError) m SwigInstructionDecoded := do
  parsing (check (2 ≤ data.length) (.dataTooShort "missing discriminator"))
  let discriminator ← parsing (leAt data [0, 1])
  match SwigInstructionKind.tryFrom discriminator with
  | none => return .unknown discriminator data
  | some kind => parseKind describe data accounts depth kind

end Effects

/-! ## Parts of an instruction -/

/-- The operation of an update, written back. -/
def AuthorityUpdateDetails.encode : AuthorityUpdateDetails → Bytes
  | replaceAll actions => 0 :: actions
  | addActions actions => 1 :: actions
  | removeActionsByType types => 2 :: types
  | removeActionsByIndex indices => 3 :: indices.flatMap (leBytes 2)
  | legacy bytes => bytes

def SwigInstructionKind.headerLen : SwigInstructionKind → ℕ
  | createV1 => 40
  | addAuthorityV1 => 16
  | removeAuthorityV1 => 16
  | updateAuthorityV1 => 16
  | signed kind => kind.headerLen
  | createSessionV1 => 48
  | createSubAccountV1 => 16
  | withdrawFromSubAccountV1 => 16
  | toggleSubAccountV1 => 16
  | migrateToWalletAddressV1 => 8
  | transferAssetsV1 => 8

namespace SwigInstructionDecoded

def kind : SwigInstructionDecoded → Option SwigInstructionKind
  | createV1 .. => some .createV1
  | addAuthorityV1 .. => some .addAuthorityV1
  | removeAuthorityV1 .. => some .removeAuthorityV1
  | updateAuthorityV1 .. => some .updateAuthorityV1
  | signed kind _ => some (.signed kind)
  | createSessionV1 .. => some .createSessionV1
  | createSubAccountV1 .. => some .createSubAccountV1
  | withdrawFromSubAccountV1 .. => some .withdrawFromSubAccountV1
  | toggleSubAccountV1 .. => some .toggleSubAccountV1
  | migrateToWalletAddressV1 _ => some .migrateToWalletAddressV1
  | transferAssetsV1 .. => some .transferAssetsV1
  | unknown .. => none

/-- Data of an unknown kind has no header. -/
def headerLen (decoded : SwigInstructionDecoded) : ℕ :=
  (decoded.kind.map SwigInstructionKind.headerLen).getD 0

/-- The parts of variable length, in order.  Of the payload of a sign instruction
only the length and what it decodes to are kept. -/
def sections (instructionPayload : Bytes) : SwigInstructionDecoded → List Bytes
  | createV1 _ _ _ _ authorityData actions => [authorityData, actions]
  | addAuthorityV1 _ _ _ authorityData actions authorityPayload =>
      [authorityData, actions, authorityPayload]
  | removeAuthorityV1 _ _ authorityPayload => [authorityPayload]
  | updateAuthorityV1 _ _ operation authorityPayload => [operation.encode, authorityPayload]
  | signed _ sign => [instructionPayload, sign.authorityPayload]
  | createSessionV1 _ _ _ authorityPayload => [authorityPayload]
  | createSubAccountV1 _ _ authorityPayload => [authorityPayload]
  | withdrawFromSubAccountV1 _ _ authorityPayload => [authorityPayload]
  | toggleSubAccountV1 _ _ _ authorityPayload => [authorityPayload]
  | migrateToWalletAddressV1 _ => []
  | transferAssetsV1 _ authorityPayload => [authorityPayload]
  | unknown _ rawData => [rawData]

end SwigInstructionDecoded

/-- The instruction is of the kind, and its parts are the bytes behind the header. -/
structure Tiles (describe : Describe Id) (accounts : List AccountMeta) (depth : ℕ) (data : Bytes)
    (kind : Option SwigInstructionKind) (decoded : SwigInstructionDecoded) : Prop where
  sameKind : decoded.kind = kind
  header : decoded.headerLen ≤ data.length
  sections : kind ≠ some .migrateToWalletAddressV1 → ∃ instructionPayload,
    data.drop decoded.headerLen = (decoded.sections instructionPayload).flatten ∧
      ∀ signKind sign, decoded = .signed signKind sign →
        instructionPayload.length = sign.instructionPayloadLen ∧
        (decodeCompactInstructions describe instructionPayload accounts depth).run.run =
          .ok sign.innerInstructions

/-! ## What the parsers of the kinds return -/

/-- The parts of an instruction that signs nothing. -/
structure Fills (data : Bytes) (kind : SwigInstructionKind) (decoded : SwigInstructionDecoded) :
    Prop where
  sameKind : decoded.kind = some kind
  header : kind.headerLen ≤ data.length
  sections : data.drop kind.headerLen = (decoded.sections []).flatten

section Kinds

variable (data : Bytes)

theorem meets_array {E : Type} {start stop length : ℕ} (hstop : stop ≤ data.length)
    (hlength : stop = start + length) :
    Meets (slice data start stop >>= toArray length : Except (Fault E) (ByteArr length))
      fun _ => True := by
  subst hlength
  apply (meets_slice (Nat.le_add_right ..) hstop).bind
  intro bytes hbytes
  apply (meets_toArray (by omega)).imp
  intro _ _
  trivial

/-- A creation is read without a panic, and its parts fill the data up to the end. -/
theorem meets_parseCreateV1 : Meets (parseCreateV1 data) (Fills data .createV1) := by
  apply (meets_check _).bind
  intro _ hheader
  apply (meets_leAt (by simp; omega)).bind
  intro authorityType _
  apply (meets_leAt (by simp; omega)).bind
  intro authorityDataLen _
  apply (meets_byteAt (by omega)).bind
  intro bump _
  apply (meets_byteAt (by omega)).bind
  intro walletAddressBump _
  apply (meets_array data hheader rfl).bind
  intro walletId _
  apply (meets_check _).bind
  intro _ hlength
  apply (meets_slice (Nat.le_add_right ..) hlength).bind
  intro authorityData hauthority
  apply (meets_sliceFrom hlength).bind
  intro actions hactions
  apply meets_pure
  refine ⟨rfl, hheader, ?_⟩
  calc
    data.drop 40 = authorityData ++ data.drop (40 + authorityDataLen) := hauthority.1
    _ = authorityData ++ actions := by rw [hactions]
    _ = [authorityData, actions].flatten := by simp

/-- An added authority is read without a panic: its header states the lengths of its
two parts, which fill the data. -/
theorem meets_parseAddAuthorityV1 :
    Meets (parseAddAuthorityV1 data) (Fills data .addAuthorityV1) := by
  apply (meets_check _).bind
  intro _ hheader
  apply (meets_leAt (by simp; omega)).bind
  intro authorityDataLen _
  apply (meets_leAt (by simp; omega)).bind
  intro actionsDataLen _
  apply (meets_leAt (by simp; omega)).bind
  intro newAuthorityType _
  apply (meets_byteAt (by omega)).bind
  intro numActions _
  apply (meets_leAt (by simp; omega)).bind
  intro actingRoleId _
  apply (meets_check _).bind
  intro _ hlength
  apply (meets_slice (Nat.le_add_right ..) (by omega)).bind
  intro authorityData hauthority
  apply (meets_slice (Nat.le_add_right ..) hlength).bind
  intro actions hactions
  apply (meets_sliceFrom hlength).bind
  intro authorityPayload hpayload
  apply meets_pure
  refine ⟨rfl, hheader, ?_⟩
  calc
    data.drop 16 = authorityData ++ data.drop (16 + authorityDataLen) := hauthority.1
    _ = authorityData ++ (actions ++ data.drop (16 + authorityDataLen + actionsDataLen)) := by
        rw [hactions.1]
    _ = authorityData ++ (actions ++ authorityPayload) := by rw [hpayload]
    _ = [authorityData, actions, authorityPayload].flatten := by simp

/-- Data of even length is a list of indexes of two bytes each, with nothing left
over. -/
theorem flatMap_readIndices {payload : Bytes} (heven : payload.length % 2 = 0) :
    (readIndices payload).flatMap (leBytes 2) = payload := by
  induction payload using readIndices.induct with
  | case1 low high rest ih =>
      have hrest : rest.length % 2 = 0 := by
        simp only [List.length_cons] at heven
        omega
      rw [readIndices, List.flatMap_cons, ih hrest]
      exact congrArg (· ++ rest) (leBytes_ofLeBytes [low, high])
  | case2 payload hshort =>
      cases payload with
      | nil => rfl
      | cons low tail =>
          cases tail with
          | nil => simp at heven
          | cons high rest => exact absurd rfl (hshort low high rest)

/-- The operation is written back to the bytes it was read from. -/
theorem meets_parseUpdateOperation (numActions : UInt8) (operationBytes : Bytes) :
    Meets (parseUpdateOperation numActions operationBytes) fun operation =>
      operation.encode = operationBytes := by
  unfold parseUpdateOperation
  split_ifs
  · apply (meets_check _).bind
    intro _ hsome
    obtain ⟨op, payload, rfl⟩ := List.exists_cons_of_ne_nil (mt List.isEmpty_iff.2 hsome)
    apply (meets_byteAt (Nat.succ_pos _)).bind
    intro found hfound
    obtain rfl : op = found := Option.some.inj hfound
    apply (meets_sliceFrom (Nat.succ_le_succ (Nat.zero_le _))).bind
    intro tail htail
    obtain rfl : payload = tail := htail
    split
    · rename_i hop
      exact meets_pure (congrArg (· :: payload) (UInt8.toNat_inj.1 hop).symm)
    · rename_i hop
      exact meets_pure (congrArg (· :: payload) (UInt8.toNat_inj.1 hop).symm)
    · rename_i hop
      exact meets_pure (congrArg (· :: payload) (UInt8.toNat_inj.1 hop).symm)
    · rename_i hop
      apply (meets_check _).bind
      intro _ heven
      apply meets_pure
      rw [AuthorityUpdateDetails.encode, flatMap_readIndices heven]
      exact congrArg (· :: payload) (UInt8.toNat_inj.1 hop).symm
    · exact meets_pure rfl
  · exact meets_pure rfl

/-- An update is read without a panic, and its parts fill the data, whatever
operation it states. -/
theorem meets_parseUpdateAuthorityV1 :
    Meets (parseUpdateAuthorityV1 data) (Fills data .updateAuthorityV1) := by
  apply (meets_check _).bind
  intro _ hheader
  apply (meets_leAt (by simp; omega)).bind
  intro actionsDataLen _
  apply (meets_byteAt (by omega)).bind
  intro numActions _
  apply (meets_leAt (by simp; omega)).bind
  intro actingRoleId _
  apply (meets_leAt (by simp; omega)).bind
  intro authorityToUpdateId _
  apply (meets_check _).bind
  intro _ hlength
  apply (meets_slice (Nat.le_add_right ..) hlength).bind
  intro operationBytes hbytes
  apply (meets_sliceFrom hlength).bind
  intro authorityPayload hpayload
  apply (meets_parseUpdateOperation numActions operationBytes).bind
  intro operation hoperation
  apply meets_pure
  refine ⟨rfl, hheader, ?_⟩
  calc
    data.drop 16 = operationBytes ++ data.drop (16 + actionsDataLen) := hbytes.1
    _ = operation.encode ++ authorityPayload := by rw [hoperation, hpayload]
    _ = [operation.encode, authorityPayload].flatten := by simp

/-- The kinds that have nothing but the payload of the authority behind the header. -/
theorem meets_authorityPayload (kind : SwigInstructionKind)
    {build : Bytes → SwigInstructionDecoded} (hkind : ∀ payload, (build payload).kind = some kind)
    (hsections : ∀ payload, (build payload).sections [] = [payload])
    (hheader : kind.headerLen ≤ data.length) :
    Meets (do
      let authorityPayload ← sliceFrom data kind.headerLen
      return build authorityPayload : Parsed SwigInstructionDecoded) (Fills data kind) := by
  apply (meets_sliceFrom hheader).bind
  intro authorityPayload hpayload
  apply meets_pure
  refine ⟨hkind authorityPayload, hheader, ?_⟩
  rw [hsections, List.flatten_singleton]
  exact hpayload

theorem meets_parseRemoveAuthorityV1 :
    Meets (parseRemoveAuthorityV1 data) (Fills data .removeAuthorityV1) := by
  apply (meets_check _).bind
  intro _ hheader
  apply (meets_leAt (by simp; omega)).bind
  intro actingRoleId _
  apply (meets_leAt (by simp; omega)).bind
  intro authorityToRemoveId _
  exact meets_authorityPayload data .removeAuthorityV1 (fun _ => rfl) (fun _ => rfl) hheader

theorem meets_parseCreateSessionV1 :
    Meets (parseCreateSessionV1 data) (Fills data .createSessionV1) := by
  apply (meets_check _).bind
  intro _ hheader
  apply (meets_leAt (by simp; omega)).bind
  intro roleId _
  apply (meets_leAt (by simp; omega)).bind
  intro sessionDuration _
  apply (meets_array data hheader rfl).bind
  intro sessionKey _
  exact meets_authorityPayload data .createSessionV1 (fun _ => rfl) (fun _ => rfl) hheader

theorem meets_parseCreateSubAccountV1 :
    Meets (parseCreateSubAccountV1 data) (Fills data .createSubAccountV1) := by
  apply (meets_check _).bind
  intro _ hheader
  apply (meets_leAt (by simp; omega)).bind
  intro roleId _
  apply (meets_byteAt (by omega)).bind
  intro subAccountBump _
  exact meets_authorityPayload data .createSubAccountV1 (fun _ => rfl) (fun _ => rfl) hheader

theorem meets_parseWithdrawFromSubAccount :
    Meets (parseWithdrawFromSubAccount data) (Fills data .withdrawFromSubAccountV1) := by
  apply (meets_check _).bind
  intro _ hheader
  apply (meets_leAt (by simp; omega)).bind
  intro roleId _
  apply (meets_leAt (by simp; omega)).bind
  intro amount _
  exact meets_authorityPayload data .withdrawFromSubAccountV1 (fun _ => rfl) (fun _ => rfl) hheader

theorem meets_parseToggleSubAccount :
    Meets (parseToggleSubAccount data) (Fills data .toggleSubAccountV1) := by
  apply (meets_check _).bind
  intro _ hheader
  apply (meets_byteAt (by omega)).bind
  intro enabled _
  apply (meets_leAt (by simp; omega)).bind
  intro targetRoleId _
  apply (meets_leAt (by simp; omega)).bind
  intro authorityRoleId _
  exact meets_authorityPayload data .toggleSubAccountV1 (fun _ => rfl) (fun _ => rfl) hheader

theorem meets_parseTransferAssets :
    Meets (parseTransferAssets data) (Fills data .transferAssetsV1) := by
  apply (meets_check _).bind
  intro _ hheader
  apply (meets_leAt (by simp; omega)).bind
  intro roleId _
  exact meets_authorityPayload data .transferAssetsV1 (fun _ => rfl) (fun _ => rfl) hheader

/-- The bytes behind the fields of this kind are not read. -/
theorem meets_parseMigrate : Meets (parseMigrate data) fun decoded =>
    decoded.kind = some .migrateToWalletAddressV1 ∧ 8 ≤ data.length := by
  apply (meets_check _).bind
  intro _ hheader
  apply (meets_byteAt (by omega)).bind
  intro walletAddressBump _
  exact meets_pure ⟨rfl, hheader⟩

end Kinds

/-! ## The parser -/

/-- Parts that fill the data of an instruction which signs nothing tile it: no byte
is read twice and none is left out. -/
theorem Fills.tiles {data : Bytes} {kind : SwigInstructionKind} {decoded : SwigInstructionDecoded}
    (hfills : Fills data kind decoded) (hsigned : ∀ signKind, kind ≠ .signed signKind)
    (describe : Describe Id) (accounts : List AccountMeta) (depth : ℕ) :
    Tiles describe accounts depth data (some kind) decoded := by
  have hheaderLen : decoded.headerLen = kind.headerLen := by
    rw [SwigInstructionDecoded.headerLen, hfills.sameKind]
    rfl
  refine ⟨hfills.sameKind, hheaderLen ▸ hfills.header, fun _ => ⟨[], ?_, ?_⟩⟩
  · rw [hheaderLen]
    exact hfills.sections
  · rintro signKind sign rfl
    exact absurd (Option.some.inj hfills.sameKind).symm (hsigned signKind)

theorem meets_discriminator {data : Bytes} (hlength : 2 ≤ data.length) :
    Meets (leAt data [0, 1] : Parsed ℕ) fun value => value = ofLeBytes (data.take 2) := by
  match data, hlength with
  | first :: second :: rest, _ => exact meets_ok rfl

section Parser

variable (describe : Describe Id) (data : Bytes) (accounts : List AccountMeta) (depth : ℕ)

theorem meets_parseSigned (kind : SignKind) :
    Meets (parseKind describe data accounts depth (.signed kind)).run.run
      (Tiles describe accounts depth data (some (.signed kind))) := by
  have hheader : 8 ≤ kind.headerLen := by cases kind <;> decide
  rw [parseKind, run_bind_id]
  apply (meets_parseSignInstruction describe accounts depth data hheader).bind
  rintro sign ⟨instructionPayload, hread⟩
  apply meets_ok
  refine ⟨rfl, hread.header, fun _ => ⟨instructionPayload, ?_, ?_⟩⟩
  · calc
      data.drop kind.headerLen = instructionPayload ++ sign.authorityPayload := hread.payloads
      _ = [instructionPayload, sign.authorityPayload].flatten := by simp
  · rintro _ _ hsign
    cases hsign
    exact ⟨hread.length, hread.inner⟩

/-- Every kind of instruction is parsed without a panic, and the parts of what is
decoded tile the data. -/
theorem meets_parseKind (kind : SwigInstructionKind) :
    Meets (parseKind describe data accounts depth kind).run.run
      (Tiles describe accounts depth data (some kind)) := by
  have hfilled {step : Parsed SwigInstructionDecoded} (hstep : Meets step (Fills data kind))
      (hsigned : ∀ signKind, kind ≠ .signed signKind) :
      Meets step (Tiles describe accounts depth data (some kind)) :=
    hstep.imp fun _ hfills => hfills.tiles hsigned describe accounts depth
  cases kind with
  | createV1 => exact hfilled (meets_parseCreateV1 data) (by rintro _ ⟨⟩)
  | addAuthorityV1 => exact hfilled (meets_parseAddAuthorityV1 data) (by rintro _ ⟨⟩)
  | removeAuthorityV1 => exact hfilled (meets_parseRemoveAuthorityV1 data) (by rintro _ ⟨⟩)
  | updateAuthorityV1 => exact hfilled (meets_parseUpdateAuthorityV1 data) (by rintro _ ⟨⟩)
  | signed kind => exact meets_parseSigned describe data accounts depth kind
  | createSessionV1 => exact hfilled (meets_parseCreateSessionV1 data) (by rintro _ ⟨⟩)
  | createSubAccountV1 => exact hfilled (meets_parseCreateSubAccountV1 data) (by rintro _ ⟨⟩)
  | withdrawFromSubAccountV1 =>
      exact hfilled (meets_parseWithdrawFromSubAccount data) (by rintro _ ⟨⟩)
  | toggleSubAccountV1 => exact hfilled (meets_parseToggleSubAccount data) (by rintro _ ⟨⟩)
  | migrateToWalletAddressV1 =>
      apply (meets_parseMigrate data).imp
      rintro decoded ⟨hmigrate, hheader⟩
      refine ⟨hmigrate, ?_, fun hother => absurd rfl hother⟩
      rw [SwigInstructionDecoded.headerLen, hmigrate]
      exact hheader
  | transferAssetsV1 => exact hfilled (meets_parseTransferAssets data) (by rintro _ ⟨⟩)

theorem meets_parseSwigInstruction :
    Meets (parseSwigInstruction describe data accounts depth).run.run
      (Tiles describe accounts depth data
        (SwigInstructionKind.tryFrom (ofLeBytes (data.take 2)))) := by
  rw [parseSwigInstruction, run_bind_id]
  apply (meets_check _).bind
  intro _ hlength
  rw [run_bind_id]
  apply (meets_discriminator hlength).bind
  rintro _ rfl
  cases SwigInstructionKind.tryFrom (ofLeBytes (data.take 2)) with
  | none =>
      apply meets_ok
      refine ⟨rfl, Nat.zero_le _, fun _ => ⟨[], List.flatten_singleton.symm, ?_⟩⟩
      rintro _ _ ⟨⟩
  | some kind => exact meets_parseKind describe data accounts depth kind

end Parser

/-- Every byte string is answered without an access out of bounds, and the parts of
a decoded instruction are the bytes behind the header of its kind. -/
theorem parseSwigInstruction_tiles (describe : Describe Id) (data : Bytes)
    (accounts : List AccountMeta) (depth : ℕ) :
    (parseSwigInstruction describe data accounts depth).run.run ≠ .error .panicked ∧
    ∀ decoded, (parseSwigInstruction describe data accounts depth).run.run = .ok decoded →
      Tiles describe accounts depth data
        (SwigInstructionKind.tryFrom (ofLeBytes (data.take 2))) decoded :=
  meets_parseSwigInstruction describe data accounts depth

/-! ## What is shown -/

def authorityTypeName : ℕ → String
  | 1 => "Ed25519"
  | 2 => "Ed25519 Session"
  | 3 => "Secp256k1"
  | 4 => "Secp256k1 Session"
  | 5 => "Secp256r1"
  | 6 => "Secp256r1 Session"
  | _ => "Unknown"

namespace SwigInstructionDecoded

def name : SwigInstructionDecoded → String
  | createV1 .. => "Create Wallet"
  | addAuthorityV1 .. => "Add Authority"
  | removeAuthorityV1 .. => "Remove Authority"
  | updateAuthorityV1 .. => "Update Authority"
  | signed kind _ => kind.name
  | createSessionV1 .. => "Create Session"
  | createSubAccountV1 .. => "Create Sub-Account"
  | withdrawFromSubAccountV1 .. => "Withdraw From Sub-Account"
  | toggleSubAccountV1 .. => "Toggle Sub-Account"
  | migrateToWalletAddressV1 _ => "Migrate Wallet"
  | transferAssetsV1 .. => "Transfer Assets"
  | unknown .. => "Unknown"

def summary : SwigInstructionDecoded → String
  | createV1 authorityType .. =>
      "Swig: Create wallet (" ++ authorityTypeName authorityType ++ ")"
  | addAuthorityV1 actingRoleId newAuthorityType .. =>
      "Swig: Add authority role #" ++ toString actingRoleId ++ " (" ++
        authorityTypeName newAuthorityType ++ ")"
  | removeAuthorityV1 actingRoleId authorityToRemoveId _ =>
      "Swig: Remove authority #" ++ toString authorityToRemoveId ++ " (by role #" ++
        toString actingRoleId ++ ")"
  | updateAuthorityV1 actingRoleId authorityToUpdateId .. =>
      "Swig: Update authority #" ++ toString authorityToUpdateId ++ " (by role #" ++
        toString actingRoleId ++ ")"
  | signed kind sign => kind.summary sign
  | createSessionV1 roleId .. => "Swig: Create session (role #" ++ toString roleId ++ ")"
  | createSubAccountV1 roleId .. =>
      "Swig: Create sub-account (role #" ++ toString roleId ++ ")"
  | withdrawFromSubAccountV1 roleId amount _ =>
      "Swig: Withdraw " ++ toString amount ++ " lamports from sub-account (role #" ++
        toString roleId ++ ")"
  | toggleSubAccountV1 targetRoleId _ enabled _ =>
      "Swig: " ++ (if enabled then "enable" else "disable") ++ " sub-account role #" ++
        toString targetRoleId
  | migrateToWalletAddressV1 _ => "Swig: Migrate wallet"
  | transferAssetsV1 roleId _ => "Swig: Transfer assets (role #" ++ toString roleId ++ ")"
  | unknown discriminator _ => "Swig: Unknown instruction (" ++ toString discriminator ++ ")"

end SwigInstructionDecoded

/-- `build_variant_fields`, which is the same for the kinds that sign. -/
structure VariantFields where
  build : SwigInstructionDecoded → Except VisualSignError (List AnnotatedPayloadField)
  buildSignFields : SignInstructionDecoded → Except VisualSignError (List AnnotatedPayloadField)
  build_signed : ∀ kind sign, build (.signed kind sign) = buildSignFields sign

section Display

variable (fields : VariantFields)

def shown (decoded : SwigInstructionDecoded) : Swig.SwigInstructionDecoded :=
  ⟨decoded.name, decoded.summary, fields.build decoded⟩

/-- The kinds that do not sign describe nothing. -/
def parseOther (discriminator : ℕ) (data : Bytes) : Parsed SwigInstructionDecoded :=
  match SwigInstructionKind.tryFrom discriminator with
  | none => .ok (.unknown discriminator data)
  | some kind => (parseKind (m := Id) (fun _ _ _ _ _ => "") data [] 0 kind).run.run

theorem parseOther_ne_panicked (discriminator : ℕ) (data : Bytes) :
    parseOther discriminator data ≠ .error .panicked := by
  unfold parseOther
  cases SwigInstructionKind.tryFrom discriminator with
  | none => rintro ⟨⟩
  | some kind => exact (meets_parseKind _ data [] 0 kind).1

/-- The display of the visualizer, with the instructions that do not sign read from
their bytes. -/
def display : SwigDisplay where
  parseOther discriminator data :=
    (checked (parseOther discriminator data) (parseOther_ne_panicked discriminator data)).map
      (shown fields)
  buildSignFields := fields.buildSignFields

variable {m : Type → Type} [Monad m] [LawfulMonad m]

theorem parsing_ok_bind {A B : Type} (value : A)
    (next : A → ExceptT (Fault SwigParseError) m B) :
    (parsing (.ok value) >>= next) = next value :=
  pure_bind (m := ExceptT (Fault SwigParseError) m) value next

theorem parsing_error_bind {A B : Type} (fault : Fault SwigParseError)
    (next : A → ExceptT (Fault SwigParseError) m B) :
    (parsing (.error fault) >>= next) = parsing (.error fault) := by
  apply ExceptT.ext
  exact pure_bind (m := m) (Except.error fault) _

theorem map_parsing {A B : Type} (convert : A → B) (step : Parsed A) :
    convert <$> (parsing step : ExceptT (Fault SwigParseError) m A) =
      parsing (step.map convert) := by
  rw [map_eq_pure_bind]
  cases step with
  | ok value => exact parsing_ok_bind value _
  | error fault => exact parsing_error_bind fault _

/-- Parsing with a display is parsing followed by the display, so the display cannot
change what is accepted. -/
theorem parsing_display (discriminator : ℕ) (data : Bytes) :
    (parsing (((display fields).parseOther discriminator data).mapError .failed) :
        ExceptT (Fault SwigParseError) m Swig.SwigInstructionDecoded) =
      shown fields <$> parsing (parseOther discriminator data) := by
  have hchecked := mapError_checked (parseOther discriminator data)
    (parseOther_ne_panicked discriminator data)
  rw [map_parsing]
  exact congrArg parsing ((Outcome.mapError_map _ _ _).trans (congrArg _ hchecked))

def SwigInstructionKind.signKind : SwigInstructionKind → Option SignKind
  | signed kind => some kind
  | _ => none

theorem ofDiscriminator_eq (discriminator : ℕ) : SignKind.ofDiscriminator discriminator =
    (SwigInstructionKind.tryFrom discriminator).bind SwigInstructionKind.signKind := by
  by_cases hknown : discriminator < 14
  · interval_cases discriminator <;> rfl
  · obtain ⟨above, rfl⟩ := Nat.exists_eq_add_of_le (not_lt.1 hknown)
    rw [Nat.add_comm]
    rfl

omit [LawfulMonad m] in
/-- An instruction that signs nothing is parsed in the same way whatever describes
inner instructions, as it has none. -/
theorem parseKind_eq (describe : Describe m) (data : Bytes) (accounts : List AccountMeta)
    (depth : ℕ) {kind : SwigInstructionKind} (hkind : kind.signKind = none) :
    parseKind describe data accounts depth kind =
      parsing (parseKind (m := Id) (fun _ _ _ _ _ => "") data [] 0 kind).run.run := by
  cases kind with
  | signed kind => cases hkind
  | _ => rfl

/-- The visualizer shows what is read from the bytes. -/
theorem parseSwigInstruction_display (crates : NativeCrates)
    (visualizeAny : VisualizerContext → m (Option (Except VisualSignError VisualizeResult)))
    (data : Bytes) (accounts : List AccountMeta) (depth : ℕ) :
    Swig.parseSwigInstruction crates (display fields) visualizeAny data accounts depth =
      shown fields <$>
        parseSwigInstruction (describeInnerInstruction visualizeAny crates) data accounts
          depth := by
  by_cases hshort : data.length < 2
  · have hread : parseSwigInstruction (describeInnerInstruction visualizeAny crates) data accounts
        depth = parsing (.error (.failed (.dataTooShort "missing discriminator"))) := by
      rw [parseSwigInstruction, check, Outcome.require, if_neg (not_le.2 hshort)]
      exact parsing_error_bind _ _
    rw [hread, map_parsing, Swig.parseSwigInstruction, if_pos hshort]
    rfl
  · obtain ⟨discriminator, hread⟩ := mapM_byteAt (E := SwigParseError) data [0, 1] (by
      simp
      omega)
    rw [Swig.parseSwigInstruction, if_neg hshort, hread, parsing_ok_bind,
      parseSwigInstruction, check, Outcome.require, if_pos (not_lt.1 hshort), parsing_ok_bind,
      leAt, hread, ofDiscriminator_eq]
    change _ = _ <$> (parsing (.ok (ofLeBytes discriminator)) >>= _)
    rw [parsing_ok_bind]
    have hother := parsing_display fields (m := m) (ofLeBytes discriminator) data
    rw [parseOther] at hother
    cases htry : SwigInstructionKind.tryFrom (ofLeBytes discriminator) with
    | none =>
        rw [htry] at hother
        exact hother
    | some kind =>
        rw [htry] at hother
        cases hkind : kind.signKind with
        | none =>
            simp only [Option.bind_some, hkind]
            rw [hother, parseKind_eq _ data accounts depth hkind]
        | some signKind =>
            obtain rfl : kind = .signed signKind := by
              cases kind <;> cases hkind
              rfl
            simp only [Option.bind_some, hkind]
            rw [parseKind, map_bind]
            congr 1
            funext sign
            rw [map_pure, shown, fields.build_signed]
            rfl

end Display

end VisualSignParser.Solana.Swig.Wire
