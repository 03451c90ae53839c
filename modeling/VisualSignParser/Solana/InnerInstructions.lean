import VisualSignParser.Solana.SquadsMultisig
import VisualSignParser.Solana.SwigWallet

/-!
# Inner instructions of the wrappers

An instruction inside of a wrapper names its program and its accounts by
position.  Both wrappers look the positions up, put the keys behind the program
and hand a context with positions of its own to the visualizers.  What the
visualizers find there is what the bytes of the wrapper name.
-/

namespace VisualSignParser.Solana

open VisualSignParser.Framing
open VisualSignParser.Cursor
open VisualSignParser.VisualSign

/-! ## Sign instructions of a Swig wallet -/

namespace Swig

/-- The key behind a position in the accounts of an instruction. -/
def keyAt (context : VisualizerContext) (index : UInt8) : Option Pubkey :=
  context.compiledInstruction.accounts[index.toNat]?.bind fun position =>
    context.accountKeys[position.toNat]?

/-- All positions of the signed instruction have keys. -/
structure Names (context : VisualizerContext) (compact : CompactInstruction) (program : Pubkey)
    (keys : List Pubkey) : Prop where
  program : keyAt context compact.programIndex = some program
  accounts : List.Forall₂ (fun index key => keyAt context index = some key)
    compact.accountIndexes keys

theorem getElem?_resolved {context : VisualizerContext} {accounts : List AccountMeta}
    (haccounts : (List.range context.numAccounts).mapM (resolveSwigAccount context) =
      .ok accounts) (index : UInt8) :
    accounts[index.toNat]? = (keyAt context index).map fun key => ⟨key, false, false⟩ := by
  have hall := Outcome.mapM_eq_ok.1 haccounts
  have hlength := hall.length_eq
  rw [List.length_range] at hlength
  cases hposition : context.compiledInstruction.accounts[index.toNat]? with
  | none =>
      have hbound := List.getElem?_eq_none_iff.1 hposition
      rw [keyAt, hposition, List.getElem?_eq_none]
      · rfl
      · exact hlength ▸ hbound
  | some position =>
      have hbound : index.toNat < context.numAccounts :=
        (List.getElem?_eq_some_iff.1 hposition).1
      have hresolved := (List.forall₂_iff_get.1 hall).2 index.toNat (by rwa [List.length_range])
        (hlength ▸ hbound)
      rw [List.get_eq_getElem, List.getElem_range, resolveSwigAccount,
        VisualizerContext.account, hposition, Option.map_some] at hresolved
      rw [keyAt, hposition, Option.bind_some, List.getElem?_eq_getElem (hlength ▸ hbound)]
      cases hkey : context.accountKeys[position.toNat]? with
      | none =>
          rw [hkey] at hresolved
          cases hresolved
      | some key =>
          rw [hkey] at hresolved
          rw [Option.map_some]
          exact congrArg some (Except.ok.inj hresolved).symm

theorem innerAccountMeta_of_keyAt {context : VisualizerContext} {accounts : List AccountMeta}
    (haccounts : (List.range context.numAccounts).mapM (resolveSwigAccount context) =
      .ok accounts) {index : UInt8} {key : Pubkey} (hkey : keyAt context index = some key) :
    innerAccountMeta accounts index = ⟨some key, key.text, false, false⟩ := by
  rw [innerAccountMeta, resolveAccountMeta, getElem?_resolved haccounts, hkey]
  rfl

/-- An instruction of keys only is built as it is. -/
theorem buildInnerInstruction_keys (program : Pubkey) (keys : List Pubkey) (data : Bytes) :
    buildInnerInstruction program (keys.map fun key => ⟨some key, key.text, false, false⟩) data =
      some ⟨program, keys.map fun key => ⟨key, false, false⟩, data⟩ := by
  have hmetas : (keys.map fun key => (⟨some key, key.text, false, false⟩ : InnerAccountMeta)).mapM
      (fun account => account.pubkey.map fun pubkey =>
        (⟨pubkey, account.isSigner, account.isWritable⟩ : AccountMeta)) =
      some (keys.map fun key => ⟨key, false, false⟩) := by
    induction keys with
    | nil => rfl
    | cons key keys ih =>
        rw [List.map_cons, List.mapM_cons, ih]
        rfl
  rw [buildInnerInstruction, hmetas]
  rfl

/-- What is signed is shown through the context: every monad and every list of
visualizers is asked for it. -/
def ShownThrough (inner : DecodedInnerInstruction) (depth : ℕ) (nested : VisualizerContext) :
    Prop :=
  ∃ program, inner.programId = some program ∧
    ∀ (m : Type → Type) [Monad m]
      (visualizeAny : VisualizerContext → m (Option (Except VisualSignError VisualizeResult))),
      visualizeBuilt visualizeAny program inner.accounts inner.data depth = (do
        let result ← visualizeAny nested
        return shownSummary result)

theorem exists_nested {context : VisualizerContext} {accounts : List AccountMeta}
    (haccounts : (List.range context.numAccounts).mapM (resolveSwigAccount context) =
      .ok accounts) {compact : CompactInstruction} (hfits : compact.Fits) {program : Pubkey}
    {keys : List Pubkey} (hnames : Names context compact program keys) (describe : Describe Id)
    (depth : ℕ) :
    ∃ nested : VisualizerContext, nested.StandsFor program keys compact.data ∧
      ShownThrough (decodedInner describe accounts depth compact) depth nested := by
  have hinner : compact.accountIndexes.map (innerAccountMeta accounts) =
      keys.map fun key => ⟨some key, key.text, false, false⟩ := by
    apply (congrFun₂ List.forall₂_eq_eq_eq _ _).mp
    rw [List.forall₂_map_left_iff, List.forall₂_map_right_iff]
    exact hnames.accounts.imp fun index key hkey => innerAccountMeta_of_keyAt haccounts hkey
  have hprogram : (resolveAccountMeta accounts compact.programIndex.toNat).pubkey =
      some program :=
    congrArg InnerAccountMeta.pubkey (innerAccountMeta_of_keyAt haccounts hnames.program)
  have hlength : keys.length < 2 ^ 8 := hnames.accounts.length_eq ▸ hfits.accountIndexes
  obtain ⟨rebuilt, hrebuilt⟩ : ∃ rebuilt, rebuildCompiled
      ⟨program, keys.map fun key => ⟨key, false, false⟩, compact.data⟩ = some rebuilt :=
    ⟨_, if_pos (by rwa [List.length_map])⟩
  refine ⟨innerContext rebuilt depth, ?_, program, hprogram, fun m _ visualizeAny => ?_⟩
  · have hstands := standsFor_rebuildCompiled hrebuilt
      ⟨(((rebuilt.1[1]?).or rebuilt.1.head?).map Pubkey.text).getD "", false, false⟩
      newIdlRegistry 0 (saturatingAdd depth 1)
    rw [List.map_map] at hstands
    have hid : (AccountMeta.pubkey ∘ fun key : Pubkey => ⟨key, false, false⟩) = id := rfl
    rwa [hid, List.map_id] at hstands
  · have hbuilt : buildInnerInstruction program
        (decodedInner describe accounts depth compact).accounts
        (decodedInner describe accounts depth compact).data =
          some ⟨program, keys.map fun key => ⟨key, false, false⟩, compact.data⟩ := by
      change buildInnerInstruction program
        (compact.accountIndexes.map (innerAccountMeta accounts)) compact.data = _
      rw [hinner, buildInnerInstruction_keys]
    rw [visualizeBuilt, hbuilt]
    change visualizeInnerInstruction visualizeAny _ depth = _
    rw [visualizeInnerInstruction, hrebuilt]

end Swig

/-! ## Instructions of a vault transaction -/

namespace Squads

/-- The counts of the header describe the keys of the message. -/
structure HeaderConsistent (vaultMsg : VaultTransactionMessage) : Prop where
  writableSigners : vaultMsg.numWritableSigners.toNat ≤ vaultMsg.numSigners.toNat
  nonSigners : vaultMsg.numSigners.toNat + vaultMsg.numWritableNonSigners.toNat ≤
    vaultMsg.accountKeys.length

/-- The positions an instruction refers to have keys in the message. -/
structure InRange (vaultMsg : VaultTransactionMessage) (ci : MultisigCompiledInstruction) :
    Prop where
  program : ci.programIdIndex.toNat < vaultMsg.accountKeys.length
  accounts : ∀ index ∈ ci.accountIndexes, index.toNat < vaultMsg.accountKeys.length

/-- The key at a position, with the flags of the ranges the header counts. -/
structure HasRole (vaultMsg : VaultTransactionMessage) (index : ℕ) (account : AccountMeta) :
    Prop where
  key : vaultMsg.accountKeys[index]? = some account.pubkey
  signer : account.isSigner = true ↔ index < vaultMsg.numSigners.toNat
  writable : account.isWritable = true ↔ index < vaultMsg.numWritableSigners.toNat ∨
    vaultMsg.numSigners.toNat ≤ index ∧
      index < vaultMsg.numSigners.toNat + vaultMsg.numWritableNonSigners.toNat

/-- What a compiled instruction of the message stands for. -/
structure Assigns (vaultMsg : VaultTransactionMessage) (ci : MultisigCompiledInstruction)
    (instruction : Instruction) : Prop where
  program : vaultMsg.accountKeys[ci.programIdIndex.toNat]? = some instruction.programId
  accounts : List.Forall₂ (fun index account => HasRole vaultMsg index.toNat account)
    ci.accountIndexes instruction.accounts
  data : instruction.data = ci.data

section Reconstruct

variable {vaultMsg : VaultTransactionMessage}

theorem HasRole.unique {index : ℕ} {left right : AccountMeta}
    (hleft : HasRole vaultMsg index left) (hright : HasRole vaultMsg index right) :
    left = right := by
  obtain ⟨leftKey, leftSigner, leftWritable⟩ := left
  obtain ⟨rightKey, rightSigner, rightWritable⟩ := right
  have hkey : leftKey = rightKey := Option.some.inj (hleft.key.symm.trans hright.key)
  have hsigner : leftSigner = rightSigner :=
    Bool.eq_iff_iff.2 (hleft.signer.trans hright.signer.symm)
  have hwritable : leftWritable = rightWritable :=
    Bool.eq_iff_iff.2 (hleft.writable.trans hright.writable.symm)
  rw [hkey, hsigner, hwritable]

theorem hasRole_of_accountMetaForIndex (hheader : HeaderConsistent vaultMsg) {index : ℕ}
    {account : AccountMeta} (haccount : accountMetaForIndex vaultMsg index = some account) :
    HasRole vaultMsg index account := by
  have hwritable := hheader.writableSigners
  obtain ⟨pubkey, hkey, rfl⟩ := Option.map_eq_some_iff.1 haccount
  refine ⟨hkey, decide_eq_true_iff, ?_⟩
  by_cases hsigner : index < vaultMsg.numSigners.toNat
  · simp only [hsigner, decide_true, if_true, decide_eq_true_iff]
    omega
  · simp only [hsigner, decide_false, Bool.false_eq_true, if_false, decide_eq_true_iff]
    omega

theorem accountMetaForIndex_eq_some (hheader : HeaderConsistent vaultMsg) {index : ℕ}
    {account : AccountMeta} :
    accountMetaForIndex vaultMsg index = some account ↔ HasRole vaultMsg index account := by
  constructor
  · exact hasRole_of_accountMetaForIndex hheader
  · intro hrole
    obtain ⟨found, hfound⟩ : ∃ found, accountMetaForIndex vaultMsg index = some found := by
      rw [accountMetaForIndex, hrole.key]
      exact ⟨_, rfl⟩
    rw [hfound, (hasRole_of_accountMetaForIndex hheader hfound).unique hrole]

theorem reconstructInstruction_eq_ok (hheader : HeaderConsistent vaultMsg)
    {ci : MultisigCompiledInstruction} {instruction : Instruction} :
    reconstructInstruction vaultMsg ci = .ok instruction ↔ Assigns vaultMsg ci instruction := by
  unfold reconstructInstruction
  cases hprogram : vaultMsg.accountKeys[ci.programIdIndex.toNat]? with
  | none =>
      apply iff_of_false (by rintro ⟨⟩)
      intro hassigns
      have hkey := hassigns.program
      rw [hprogram] at hkey
      cases hkey
  | some programId =>
      simp only [Outcome.bind_eq_ok, Outcome.pure_eq_ok, Outcome.mapM_eq_ok, Outcome.okOr_eq_ok,
        accountMetaForIndex_eq_some hheader]
      constructor
      · rintro ⟨accounts, haccounts, rfl⟩
        exact ⟨hprogram, haccounts, rfl⟩
      · rintro ⟨hkey, haccounts, hdata⟩
        rw [hprogram] at hkey
        refine ⟨instruction.accounts, haccounts, ?_⟩
        rw [Option.some.inj hkey, ← hdata]

/-- The checks of the header come first, and then one instruction after the
other. -/
theorem reconstructInstructions_eq_ok {instructions : List Instruction} :
    reconstructInstructions vaultMsg = .ok instructions ↔
      HeaderConsistent vaultMsg ∧
        List.Forall₂ (Assigns vaultMsg) vaultMsg.instructions instructions := by
  unfold reconstructInstructions
  split_ifs with hwritable hsigners hnonSigners
  · refine iff_of_false (by rintro ⟨⟩) fun hok => ?_
    exact absurd (UInt8.lt_iff_toNat_lt.1 hwritable) (not_lt.2 hok.1.writableSigners)
  · refine iff_of_false (by rintro ⟨⟩) fun hok => ?_
    have hcount := hok.1.nonSigners
    omega
  · refine iff_of_false (by rintro ⟨⟩) fun hok => ?_
    have hcount := hok.1.nonSigners
    omega
  · have hheader : HeaderConsistent vaultMsg :=
      ⟨not_lt.1 fun hlt => hwritable (UInt8.lt_iff_toNat_lt.2 hlt), by omega⟩
    simp only [Outcome.mapM_eq_ok, reconstructInstruction_eq_ok hheader]
    exact (and_iff_right hheader).symm

theorem exists_hasRole_iff (hheader : HeaderConsistent vaultMsg) {index : ℕ} :
    (∃ account, HasRole vaultMsg index account) ↔ index < vaultMsg.accountKeys.length := by
  simp only [← accountMetaForIndex_eq_some hheader, accountMetaForIndex,
    Option.map_eq_some_iff]
  constructor
  · rintro ⟨account, pubkey, hkey, -⟩
    exact (List.getElem?_eq_some_iff.1 hkey).1
  · intro hindex
    exact ⟨_, _, List.getElem?_eq_getElem hindex, rfl⟩

theorem exists_assigns_iff (hheader : HeaderConsistent vaultMsg)
    {ci : MultisigCompiledInstruction} :
    (∃ instruction, Assigns vaultMsg ci instruction) ↔ InRange vaultMsg ci := by
  constructor
  · rintro ⟨instruction, hprogram, haccounts, -⟩
    refine ⟨(List.getElem?_eq_some_iff.1 hprogram).1, fun index hindex => ?_⟩
    exact (exists_hasRole_iff hheader).1
      (Outcome.exists_forall₂_iff.1 ⟨_, haccounts⟩ index hindex)
  · rintro ⟨hprogram, hindexes⟩
    obtain ⟨accounts, haccounts⟩ := Outcome.exists_forall₂_iff.2
      fun index hindex => (exists_hasRole_iff hheader).2 (hindexes index hindex)
    exact ⟨⟨_, accounts, ci.data⟩, List.getElem?_eq_getElem hprogram, haccounts, rfl⟩

/-- Nothing but the header and the positions stands in the way. -/
theorem exists_reconstructInstructions_iff :
    (∃ instructions, reconstructInstructions vaultMsg = .ok instructions) ↔
      HeaderConsistent vaultMsg ∧ ∀ ci ∈ vaultMsg.instructions, InRange vaultMsg ci := by
  simp only [reconstructInstructions_eq_ok, exists_and_left, Outcome.exists_forall₂_iff]
  exact and_congr_right fun hheader =>
    forall₂_congr fun ci _ => exists_assigns_iff hheader

end Reconstruct

/-- Instructions are rebuilt exactly when the header is consistent and every
position has a key, and then with the roles of the header. -/
theorem vault_instructions_reconstructed :
    (∀ vaultMsg, (∃ instructions, reconstructInstructions vaultMsg = .ok instructions) ↔
      HeaderConsistent vaultMsg ∧ ∀ ci ∈ vaultMsg.instructions, InRange vaultMsg ci) ∧
    ∀ vaultMsg instructions, reconstructInstructions vaultMsg = .ok instructions ↔
      HeaderConsistent vaultMsg ∧
        List.Forall₂ (Assigns vaultMsg) vaultMsg.instructions instructions :=
  ⟨fun _ => exists_reconstructInstructions_iff, fun _ _ => reconstructInstructions_eq_ok⟩

/-- The keys a compiled instruction of the message refers to. -/
structure Names (vaultMsg : VaultTransactionMessage) (ci : MultisigCompiledInstruction)
    (program : Pubkey) (keys : List Pubkey) : Prop where
  program : vaultMsg.accountKeys[ci.programIdIndex.toNat]? = some program
  accounts : List.Forall₂ (fun index key => vaultMsg.accountKeys[index.toNat]? = some key)
    ci.accountIndexes keys

/-- The turn of the loop for an instruction goes through the context. -/
def ShownThrough (context : VisualizerContext) (sender : SolanaAccount)
    (found : Instruction × ℕ) (nested : VisualizerContext) : Prop :=
  ∀ (m : Type → Type) [Monad m]
    (visualizeAny : VisualizerContext → m (Option (Except VisualSignError VisualizeResult)))
    (unknownProgram : VisualizerContext → m AnnotatedPayloadField),
    visualizeInnerInstruction visualizeAny unknownProgram context sender found = (do
      match ← visualizeAny nested with
      | some (.ok result) => pure result.field
      | _ => unknownProgram nested)

theorem exists_nested {vaultMsg : VaultTransactionMessage} {ci : MultisigCompiledInstruction}
    (hfits : ci.Fits) {instruction : Instruction} (hassigns : Assigns vaultMsg ci instruction) :
    ∃ program keys, Names vaultMsg ci program keys ∧ ∀ context sender index,
      ∃ nested : VisualizerContext, nested.StandsFor program keys ci.data ∧
        ShownThrough context sender (instruction, index) nested := by
  have hlength : instruction.accounts.length < 2 ^ 8 :=
    hassigns.accounts.length_eq ▸ hfits.accountIndexes
  obtain ⟨rebuilt, hrebuilt⟩ : ∃ rebuilt, rebuildCompiled instruction = some rebuilt :=
    ⟨_, if_pos hlength⟩
  refine ⟨instruction.programId, instruction.accounts.map AccountMeta.pubkey,
    ⟨hassigns.program, ?_⟩, fun context sender index =>
      ⟨innerContext context sender rebuilt index, ?_, fun m _ visualizeAny unknownProgram => ?_⟩⟩
  · rw [List.forall₂_map_right_iff]
    exact hassigns.accounts.imp fun _ _ hrole => hrole.key
  · rw [← hassigns.data]
    exact standsFor_rebuildCompiled hrebuilt sender context.idlRegistry index _
  · unfold visualizeInnerInstruction
    split
    · next hnone => exact absurd (hrebuilt.symm.trans hnone) (Option.some_ne_none _)
    · next other hother =>
        obtain rfl := Option.some.inj (hrebuilt.symm.trans hother)
        rfl

end Squads

/-! ## Both wrappers -/

/-- An instruction that is shown inside of another one is shown with the program,
the accounts and the data that the bytes of the wrapper name. -/
theorem innerInstructions_faithful :
    (∀ context accounts,
      (List.range context.numAccounts).mapM (Swig.resolveSwigAccount context) = .ok accounts →
      ∀ (describe : Swig.Describe Id) payload depth decoded,
      (Swig.decodeCompactInstructions describe payload accounts depth).run.run = .ok decoded →
      ∃ list, (payload = [] ∧ list = [] ∨
          ∃ (instructions : Swig.CompactInstructions) (rest : Bytes),
            payload = instructions.encode ++ rest ∧ list = instructions.list) ∧
        List.Forall₂ (fun compact inner => ∀ program keys,
          Swig.Names context compact program keys →
            ∃ nested : VisualizerContext, nested.StandsFor program keys compact.data ∧
              Swig.ShownThrough inner depth nested) list decoded) ∧
    ∀ data vaultMsg instructions, VaultTransactionMessage.deserialize data = .ok vaultMsg →
      Squads.reconstructInstructions vaultMsg = .ok instructions →
      (∃ wire : WireMessage, wire.encode = data ∧ wire.message = vaultMsg) ∧
        List.Forall₂ (fun ci instruction => ∃ program keys,
          Squads.Names vaultMsg ci program keys ∧ ∀ context sender index,
            ∃ nested : VisualizerContext, nested.StandsFor program keys ci.data ∧
              Squads.ShownThrough context sender (instruction, index) nested)
          vaultMsg.instructions instructions := by
  constructor
  · intro context accounts haccounts describe payload depth decoded hdecoded
    rcases (Swig.decodeCompactInstructions_eq_ok_iff describe accounts depth).1 hdecoded with
      ⟨rfl, rfl⟩ | ⟨instructions, rest, hpayload, rfl⟩
    · exact ⟨[], .inl ⟨rfl, rfl⟩, .nil⟩
    · refine ⟨instructions.list, .inr ⟨instructions, rest, hpayload, rfl⟩, ?_⟩
      rw [List.forall₂_map_right_iff, List.forall₂_same]
      intro compact hcompact program keys hnames
      exact Swig.exists_nested haccounts (instructions.fits compact hcompact) hnames describe depth
  · intro data vaultMsg instructions hdata hinstructions
    obtain ⟨wire, hencode, rfl⟩ := VaultTransactionMessage.deserialize_eq_ok_iff.1 hdata
    refine ⟨⟨wire, hencode, rfl⟩, ?_⟩
    have hassigns := (Squads.reconstructInstructions_eq_ok.1 hinstructions).2
    have hfitting := (List.forall₂_and_left _ _).2 ⟨wire.instructions_fit, hassigns⟩
    exact hfitting.imp fun ci instruction hboth => Squads.exists_nested hboth.1 hboth.2

/-- A wallet that signs a call of its first account with its second one. -/
def signingContext : VisualizerContext :=
  .new ⟨"payer", true, true⟩ ⟨2, [0, 1], []⟩ [repeatedByte 9, repeatedByte 8, repeatedByte 7]
    Swig.newIdlRegistry 0

def signedCall : Swig.CompactInstruction := ⟨0, [1], [5]⟩

theorem innerInstructions_faithful_call :
    ∃ list, (1 :: signedCall.encode = [] ∧ list = [] ∨
        ∃ (instructions : Swig.CompactInstructions) (rest : Bytes),
          1 :: signedCall.encode = instructions.encode ++ rest ∧ list = instructions.list) ∧
      List.Forall₂ (fun compact inner => ∀ program keys,
        Swig.Names signingContext compact program keys →
          ∃ nested : VisualizerContext, nested.StandsFor program keys compact.data ∧
            Swig.ShownThrough inner 0 nested) list
        [⟨some (repeatedByte 9), Pubkey.text (repeatedByte 9),
          [⟨some (repeatedByte 8), Pubkey.text (repeatedByte 8), false, false⟩], [5], "call"⟩] :=
  innerInstructions_faithful.1 signingContext
    [⟨repeatedByte 9, false, false⟩, ⟨repeatedByte 8, false, false⟩] rfl
    (fun _ _ _ _ _ => "call") (1 :: signedCall.encode) 0 _ rfl

end VisualSignParser.Solana
