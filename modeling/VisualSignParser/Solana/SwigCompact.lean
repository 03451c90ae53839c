import VisualSignParser.Codec.Checked
import VisualSignParser.Solana.Context

/-!
# Compact instructions of a Swig wallet

A wallet signs a list of instructions that refer to the accounts of the outer
instruction by position.  The list is read with a cursor, and every instruction
is described as soon as it has been read, so the parser runs in the monad the
descriptions are made in.  A position without an account stays unresolved.
-/

namespace VisualSignParser.Solana.Swig

open VisualSignParser.Framing
open VisualSignParser.Cursor

inductive SwigParseError where
  | dataTooShort (context : String)
  | invalidFormat (context : String)
  | unknownInstruction (code : ℕ)
  deriving DecidableEq

def SwigParseError.display : SwigParseError → String
  | dataTooShort context => "Instruction data too short: " ++ context
  | invalidFormat context => "Invalid instruction format: " ++ context
  | unknownInstruction code => "Unknown Swig instruction discriminator " ++ toString code

/-! ## Accounts -/

structure ResolvedAccountMeta where
  pubkey : Option Pubkey
  display : String
  isSigner : Bool
  isWritable : Bool
  deriving DecidableEq

def resolveAccountMeta (accounts : List AccountMeta) (index : ℕ) : ResolvedAccountMeta :=
  match accounts[index]? with
  | some account =>
      ⟨some account.pubkey, account.pubkey.text, account.isSigner, account.isWritable⟩
  | none => ⟨none, "Unresolved account #" ++ toString index ++ " (lookup table)", false, false⟩

structure InnerAccountMeta where
  pubkey : Option Pubkey
  display : String
  isSigner : Bool
  isWritable : Bool
  deriving DecidableEq

def innerAccountMeta (accounts : List AccountMeta) (index : UInt8) : InnerAccountMeta :=
  let resolved := resolveAccountMeta accounts index.toNat
  ⟨resolved.pubkey, resolved.display, resolved.isSigner, resolved.isWritable⟩

structure DecodedInnerInstruction where
  programId : Option Pubkey
  programDisplay : String
  accounts : List InnerAccountMeta
  data : Bytes
  description : String
  deriving DecidableEq

/-! ## The parser -/

/-- One instruction of the list, before anything is resolved. -/
structure CompactInstruction where
  programIndex : UInt8
  accountIndexes : Bytes
  data : Bytes
  deriving DecidableEq

def readCompactInstruction : Parser SwigParseError CompactInstruction := do
  let programIndex ← readU8 (.invalidFormat "compact instruction truncated")
  let accountIndexes ← readVecU8 (.invalidFormat "missing account count")
    (.invalidFormat "account list exceeds payload")
  let data ← readVecU16Le (.invalidFormat "missing data length")
    (.invalidFormat "data slice out of range")
  return ⟨programIndex, accountIndexes, data⟩

section Effects

/-- `describe_inner_instruction`, which shows an instruction through the
visualizers: program, display name of the program, data, accounts and depth. -/
abbrev Describe (m : Type → Type) :=
  Option Pubkey → String → Bytes → List InnerAccountMeta → ℕ → m String

/-- A step of the parser that has no effect. -/
def parsing {m : Type → Type} [Monad m] {A : Type} (step : Except (Fault SwigParseError) A) :
    ExceptT (Fault SwigParseError) m A :=
  ExceptT.mk (pure step)

variable {m : Type → Type} [Monad m] (describe : Describe m)

/-- What is pushed for one instruction. -/
def decodedInstruction (accounts : List AccountMeta) (parentDepth : ℕ)
    (compact : CompactInstruction) : m DecodedInnerInstruction := do
  let programMeta := resolveAccountMeta accounts compact.programIndex.toNat
  let innerAccounts := compact.accountIndexes.map (innerAccountMeta accounts)
  let description ← describe programMeta.pubkey programMeta.display compact.data innerAccounts
    parentDepth
  return ⟨programMeta.pubkey, programMeta.display, innerAccounts, compact.data, description⟩

/-- The loop over the announced number of instructions. -/
def decodeInstructionsFrom (payload : Bytes) (accounts : List AccountMeta) (parentDepth : ℕ) :
    (remaining cursor : ℕ) → ExceptT (Fault SwigParseError) m (List DecodedInnerInstruction)
  | 0, _ => pure []
  | remaining + 1, cursor => do
      let (compact, cursor) ← parsing (readCompactInstruction payload cursor)
      let instruction ← ExceptT.lift (decodedInstruction describe accounts parentDepth compact)
      let instructions ← decodeInstructionsFrom payload accounts parentDepth remaining cursor
      return instruction :: instructions

def decodeCompactInstructions (payload : Bytes) (accounts : List AccountMeta) (parentDepth : ℕ) :
    ExceptT (Fault SwigParseError) m (List DecodedInnerInstruction) :=
  if payload.isEmpty then pure []
  else do
    let total ← parsing (byteAt payload 0)
    decodeInstructionsFrom describe payload accounts parentDepth total.toNat 1

structure SignHeader where
  roleId : ℕ
  instructionPayload : Bytes
  authorityPayload : Bytes

/-- The parts of a sign instruction in front of the inner instructions. -/
def readSignHeader (data : Bytes) (headerLen : ℕ) :
    Except (Fault SwigParseError) SignHeader :=
  if data.length < headerLen then .error (.failed (.dataTooShort "sign header"))
  else do
    let payloadLen ← [2, 3].mapM (byteAt data)
    let roleId ← [4, 5, 6, 7].mapM (byteAt data)
    let payloadEnd := headerLen + ofLeBytes payloadLen
    if data.length < payloadEnd then .error (.failed (.dataTooShort "sign instruction payload"))
    else do
      let instructionPayload ← slice data headerLen payloadEnd
      let authorityPayload ← slice data payloadEnd data.length
      return ⟨ofLeBytes roleId, instructionPayload, authorityPayload⟩

structure SignInstructionDecoded where
  roleId : ℕ
  instructionPayloadLen : ℕ
  authorityPayload : Bytes
  innerInstructions : List DecodedInnerInstruction

def parseSignInstruction (data : Bytes) (headerLen : ℕ) (accounts : List AccountMeta)
    (depth : ℕ) : ExceptT (Fault SwigParseError) m SignInstructionDecoded := do
  let header ← parsing (readSignHeader data headerLen)
  let innerInstructions ←
    decodeCompactInstructions describe header.instructionPayload accounts depth
  return ⟨header.roleId, header.instructionPayload.length, header.authorityPayload,
    innerInstructions⟩

end Effects

/-! ## The wire format -/

structure CompactInstruction.Fits (compact : CompactInstruction) : Prop where
  accountIndexes : compact.accountIndexes.length < 2 ^ 8
  data : compact.data.length < 2 ^ 16

def CompactInstruction.encode (compact : CompactInstruction) : Bytes :=
  compact.programIndex :: (lenPrefixed 1 compact.accountIndexes ++ lenPrefixed 2 compact.data)

/-- A list that has an encoding: every count fits its length field. -/
structure CompactInstructions where
  list : List CompactInstruction
  length_list : list.length < 2 ^ 8
  fits : ∀ compact ∈ list, compact.Fits

def CompactInstructions.encode (instructions : CompactInstructions) : Bytes :=
  leBytes 1 instructions.list.length ++ instructions.list.flatMap CompactInstruction.encode

theorem reads_readCompactInstruction : Reads readCompactInstruction
    (Format.of CompactInstruction.Fits CompactInstruction.encode) := by
  have hparts := (reads_byte (SwigParseError.invalidFormat "compact instruction truncated")).bind
    fun programIndex =>
    (reads_readVecU8 (SwigParseError.invalidFormat "missing account count")
      (.invalidFormat "account list exceeds payload")).bind fun accountIndexes =>
    (reads_readVecU16Le (SwigParseError.invalidFormat "missing data length")
      (.invalidFormat "data slice out of range")).bind fun data =>
    reads_pure (⟨programIndex, accountIndexes, data⟩ : CompactInstruction)
  refine hparts.congr fun compact bytes => ?_
  simp only [Format.bind_of]
  constructor
  · rintro ⟨_, _, -, rfl, _, _, haccounts, rfl, _, _, hdata, rfl, rfl, rfl⟩
    refine ⟨⟨haccounts, hdata⟩, ?_⟩
    rw [List.append_nil]
    rfl
  · rintro ⟨hfits, rfl⟩
    refine ⟨_, _, trivial, rfl, _, _, hfits.accountIndexes, rfl, _, [], hfits.data, ?_, rfl, rfl⟩
    rw [List.append_nil]

/-- The count and the instructions behind it, as one parser. -/
def readCompactInstructions : Parser SwigParseError (List CompactInstruction) :=
  readVec (.invalidFormat "compact instruction truncated") readCompactInstruction

theorem readCompactInstructions_eq_ok {payload : Bytes} {list : List CompactInstruction}
    {stop : ℕ} :
    readCompactInstructions payload 0 = .ok (list, stop) ↔
      ∃ (instructions : CompactInstructions) (rest : Bytes),
        payload = instructions.encode ++ rest ∧ instructions.list = list ∧
          stop = instructions.encode.length := by
  have hread := (reads_readVec (.invalidFormat "compact instruction truncated")
    reads_readCompactInstruction).ok_iff [] payload list stop
  rw [List.nil_append, List.length_nil] at hread
  rw [readCompactInstructions, hread]
  simp only [Nat.zero_add]
  constructor
  · rintro ⟨_, rest, rfl, ⟨⟨hlength, hfits⟩, rfl⟩, rfl⟩
    exact ⟨⟨list, hlength, hfits⟩, rest, rfl, rfl, rfl⟩
  · rintro ⟨instructions, rest, rfl, rfl, rfl⟩
    exact ⟨instructions.encode, rest, rfl,
      ⟨⟨instructions.length_list, instructions.fits⟩, rfl⟩, rfl⟩

theorem CompactInstructions.encode_append_inj {left right : CompactInstructions}
    {leftRest rightRest : Bytes}
    (heq : left.encode ++ leftRest = right.encode ++ rightRest) :
    left = right ∧ leftRest = rightRest := by
  have hleft := readCompactInstructions_eq_ok.2 ⟨left, leftRest, rfl, rfl, rfl⟩
  have hright := readCompactInstructions_eq_ok.2 ⟨right, rightRest, rfl, rfl, rfl⟩
  rw [heq, hright, Except.ok.injEq, Prod.mk.injEq] at hleft
  obtain ⟨hlist, hlength⟩ := hleft
  have hsame : left = right := by
    cases left
    cases right
    cases hlist
    rfl
  subst hsame
  exact ⟨rfl, List.append_cancel_left heq⟩

/-! ## Decoding with given descriptions -/

theorem run_bind_id {E A B : Type} (step : ExceptT E Id A) (next : A → ExceptT E Id B) :
    (step >>= next).run.run = (step.run.run >>= fun value => (next value).run.run) := by
  have hbind (result : Except E A) : (ExceptT.mk (pure result : Id _) >>= next).run.run =
      (result >>= fun value => (next value).run.run) := by
    cases result <;> rfl
  exact hbind step.run.run

section Codec

variable (describe : Describe Id) (accounts : List AccountMeta) (parentDepth : ℕ)

/-- An instruction with everything resolved. -/
def decodedInner (compact : CompactInstruction) : DecodedInnerInstruction :=
  (decodedInstruction describe accounts parentDepth compact).run

/-- The loop reads the announced instructions and resolves each of them. -/
theorem decodeInstructionsFrom_eq (payload : Bytes) (remaining cursor : ℕ) :
    (decodeInstructionsFrom describe payload accounts parentDepth remaining cursor).run.run =
      (readMany readCompactInstruction remaining payload cursor).map fun read =>
        read.1.map (decodedInner describe accounts parentDepth) := by
  induction remaining generalizing cursor with
  | zero => rfl
  | succ remaining ih =>
      have hmany : readMany readCompactInstruction (remaining + 1) payload cursor =
          (readCompactInstruction payload cursor >>= fun first =>
            (readMany readCompactInstruction remaining payload first.2).map fun rest =>
              (first.1 :: rest.1, rest.2)) := by
        change (readCompactInstruction payload cursor >>= fun first =>
          readMany readCompactInstruction remaining payload first.2 >>= fun rest =>
            Except.ok (first.1 :: rest.1, rest.2)) = _
        congr 1
      rw [decodeInstructionsFrom, run_bind_id, hmany]
      change (readCompactInstruction payload cursor >>= fun _ => _) = _
      cases readCompactInstruction payload cursor with
      | error fault => rfl
      | ok first =>
          change Id.run (ExceptT.run (decodeInstructionsFrom describe payload accounts parentDepth
            remaining first.2 >>= fun rest =>
              pure (decodedInner describe accounts parentDepth first.1 :: rest))) = _
          rw [run_bind_id, ih]
          change _ = Except.map _ (Except.map _ _)
          cases readMany readCompactInstruction remaining payload first.2 <;> rfl

theorem decodeCompactInstructions_cons (first : UInt8) (rest : Bytes) :
    (decodeCompactInstructions describe (first :: rest) accounts parentDepth).run.run =
      (readCompactInstructions (first :: rest) 0).map fun read =>
        read.1.map (decodedInner describe accounts parentDepth) := by
  have hcount : readCompactInstructions (first :: rest) 0 =
      readMany readCompactInstruction first.toNat (first :: rest) 1 := rfl
  rw [hcount, ← decodeInstructionsFrom_eq describe accounts parentDepth]
  rfl

theorem decodeCompactInstructions_eq_ok_iff {payload : Bytes}
    {decoded : List DecodedInnerInstruction} :
    (decodeCompactInstructions describe payload accounts parentDepth).run.run =
        .ok decoded ↔
      (payload = [] ∧ decoded = []) ∨
      ∃ (instructions : CompactInstructions) (suffix : Bytes),
        payload = instructions.encode ++ suffix ∧
        decoded = instructions.list.map (decodedInner describe accounts parentDepth) := by
  cases payload with
  | nil =>
      have hempty : (decodeCompactInstructions describe [] accounts parentDepth).run.run =
          .ok [] := rfl
      rw [hempty, Except.ok.injEq]
      constructor
      · intro hdecoded
        exact .inl ⟨rfl, hdecoded.symm⟩
      · rintro (⟨-, rfl⟩ | ⟨instructions, suffix, hpayload, -⟩)
        · rfl
        · cases hpayload
  | cons first rest =>
      rw [decodeCompactInstructions_cons, Outcome.map_eq_ok]
      constructor
      · rintro ⟨⟨list, stop⟩, hread, rfl⟩
        obtain ⟨instructions, suffix, hpayload, rfl, -⟩ := readCompactInstructions_eq_ok.1 hread
        exact .inr ⟨instructions, suffix, hpayload, rfl⟩
      · rintro (⟨hpayload, -⟩ | ⟨instructions, suffix, hpayload, rfl⟩)
        · cases hpayload
        · exact ⟨(instructions.list, instructions.encode.length),
            readCompactInstructions_eq_ok.2 ⟨instructions, suffix, hpayload, rfl, rfl⟩, rfl⟩

theorem decodeCompactInstructions_ne_panicked (payload : Bytes) :
    (decodeCompactInstructions describe payload accounts parentDepth).run.run ≠
      .error .panicked := by
  cases payload with
  | nil =>
      intro hpanicked
      cases hpanicked
  | cons first rest =>
      have hread := (reads_readVec (.invalidFormat "compact instruction truncated")
        reads_readCompactInstruction).ne_panicked [] (first :: rest)
      change readCompactInstructions (first :: rest) 0 ≠ .error .panicked at hread
      rw [decodeCompactInstructions_cons]
      intro hpanicked
      cases hparsed : readCompactInstructions (first :: rest) 0 with
      | ok parsed =>
          rw [hparsed] at hpanicked
          cases hpanicked
      | error fault =>
          rw [hparsed] at hpanicked
          apply hread
          rw [hparsed]
          cases hpanicked
          rfl

end Codec

/-! ## Sign instructions -/

/-- The header is as long as the fields that are read from it, and the payloads
are what stands behind it. -/
theorem meets_readSignHeader (data : Bytes) {headerLen : ℕ} (hheader : 8 ≤ headerLen) :
    Meets (readSignHeader data headerLen) fun header => headerLen ≤ data.length ∧
      data.drop headerLen = header.instructionPayload ++ header.authorityPayload := by
  unfold readSignHeader
  split_ifs with hshort
  · exact meets_failed _
  · apply (meets_mapM_byteAt (by simp; omega)).bind
    intro payloadLen _
    apply (meets_mapM_byteAt (by simp; omega)).bind
    intro roleId _
    simp only
    split_ifs with hpayload
    · exact meets_failed _
    · apply (meets_slice (Nat.le_add_right ..) (by omega)).bind
      intro instructionPayload hinstruction
      apply (meets_sliceFrom (by omega)).bind
      intro authorityPayload hauthority
      exact meets_pure ⟨by omega, hinstruction.1.trans (congrArg _ hauthority)⟩

/-- What a sign instruction is read from: the inner instructions stand in the
payload of the announced length. -/
structure SignInstructionDecoded.ReadFrom (sign : SignInstructionDecoded)
    (describe : Describe Id) (accounts : List AccountMeta) (depth : ℕ) (data : Bytes)
    (headerLen : ℕ) (instructionPayload : Bytes) : Prop where
  header : headerLen ≤ data.length
  payloads : data.drop headerLen = instructionPayload ++ sign.authorityPayload
  length : instructionPayload.length = sign.instructionPayloadLen
  inner : (decodeCompactInstructions describe instructionPayload accounts depth).run.run =
    .ok sign.innerInstructions

theorem meets_parseSignInstruction (describe : Describe Id) (accounts : List AccountMeta)
    (depth : ℕ) (data : Bytes) {headerLen : ℕ} (hheader : 8 ≤ headerLen) :
    Meets (parseSignInstruction describe data headerLen accounts depth).run.run fun sign =>
      ∃ instructionPayload,
        sign.ReadFrom describe accounts depth data headerLen instructionPayload := by
  rw [parseSignInstruction, run_bind_id]
  apply (meets_readSignHeader data hheader).bind
  intro header hpayloads
  rw [run_bind_id]
  apply (meets_self (decodeCompactInstructions_ne_panicked describe accounts depth
    header.instructionPayload)).bind
  intro innerInstructions hinner
  exact meets_ok ⟨header.instructionPayload, hpayloads.1, hpayloads.2, rfl, hinner⟩

/-! ## The codec -/

/-- What a position is shown as: the key of the account that stands there, or no key and
a text that names the position. -/
structure ShownAs (accounts : List AccountMeta) (index : ℕ) (pubkey : Option Pubkey)
    (display : String) : Prop where
  resolved : ∀ account, accounts[index]? = some account →
    pubkey = some account.pubkey ∧ display = account.pubkey.text
  unresolved : accounts.length ≤ index →
    pubkey = none ∧ display = "Unresolved account #" ++ toString index ++ " (lookup table)"

/-- An account of a decoded instruction has the flags of the account at its position,
and none of them where there is no account. -/
structure Resolves (accounts : List AccountMeta) (index : UInt8) (shown : InnerAccountMeta) :
    Prop where
  account : ShownAs accounts index.toNat shown.pubkey shown.display
  isSigner : shown.isSigner = true ↔
    ∃ account, accounts[index.toNat]? = some account ∧ account.isSigner = true
  isWritable : shown.isWritable = true ↔
    ∃ account, accounts[index.toNat]? = some account ∧ account.isWritable = true

/-- A decoded instruction is made of the program, the accounts in order and the data of
the compact one.  Its description is the answer for exactly these. -/
structure Decodes (describe : Describe Id) (accounts : List AccountMeta) (parentDepth : ℕ)
    (compact : CompactInstruction) (decoded : DecodedInnerInstruction) : Prop where
  program : ShownAs accounts compact.programIndex.toNat decoded.programId decoded.programDisplay
  accounts : List.Forall₂ (Resolves accounts) compact.accountIndexes decoded.accounts
  data : decoded.data = compact.data
  description : decoded.description = (describe decoded.programId decoded.programDisplay
    decoded.data decoded.accounts parentDepth).run

section Decodes

variable {accounts : List AccountMeta}

theorem shownAs_iff {index : ℕ} {pubkey : Option Pubkey} {display : String} :
    ShownAs accounts index pubkey display ↔
      pubkey = (resolveAccountMeta accounts index).pubkey ∧
        display = (resolveAccountMeta accounts index).display := by
  rw [resolveAccountMeta]
  cases haccount : accounts[index]? with
  | some account =>
      have hindex := (List.getElem?_eq_some_iff.1 haccount).1
      constructor
      · intro hshown
        exact hshown.resolved account haccount
      · intro hboth
        refine ⟨fun other hother => ?_, fun hmissing => absurd hmissing (not_le.2 hindex)⟩
        rwa [← Option.some.inj (haccount.symm.trans hother)]
  | none =>
      have hindex := List.getElem?_eq_none_iff.1 haccount
      constructor
      · intro hshown
        exact hshown.unresolved hindex
      · intro hboth
        refine ⟨fun other hother => ?_, fun _ => hboth⟩
        rw [haccount] at hother
        cases hother

theorem resolves_iff {index : UInt8} {shown : InnerAccountMeta} :
    Resolves accounts index shown ↔ innerAccountMeta accounts index = shown := by
  obtain ⟨pubkey, display, isSigner, isWritable⟩ := shown
  have hfields : Resolves accounts index ⟨pubkey, display, isSigner, isWritable⟩ ↔
      ShownAs accounts index.toNat pubkey display ∧
        (isSigner = true ↔
          ∃ account, accounts[index.toNat]? = some account ∧ account.isSigner = true) ∧
        (isWritable = true ↔
          ∃ account, accounts[index.toNat]? = some account ∧ account.isWritable = true) :=
    ⟨fun hall => ⟨hall.account, hall.isSigner, hall.isWritable⟩,
      fun hall => ⟨hall.1, hall.2.1, hall.2.2⟩⟩
  rw [hfields, shownAs_iff, innerAccountMeta, resolveAccountMeta]
  cases accounts[index.toNat]? with
  | some account =>
      simp only [Option.some.injEq, exists_eq_left', ← Bool.eq_iff_iff, InnerAccountMeta.mk.injEq,
        and_assoc]
      simp only [@eq_comm _ _ pubkey, @eq_comm _ _ display, @eq_comm _ _ isSigner,
        @eq_comm _ _ isWritable]
  | none =>
      simp only [reduceCtorEq, false_and, exists_false, iff_false, Bool.not_eq_true,
        InnerAccountMeta.mk.injEq, and_assoc]
      simp only [@eq_comm _ _ pubkey, @eq_comm _ _ display, @eq_comm _ _ isSigner,
        @eq_comm _ _ isWritable]

theorem decodes_iff {describe : Describe Id} {parentDepth : ℕ} {compact : CompactInstruction}
    {decoded : DecodedInnerInstruction} :
    Decodes describe accounts parentDepth compact decoded ↔
      decodedInner describe accounts parentDepth compact = decoded := by
  have haccounts (shown : List InnerAccountMeta) :
      List.Forall₂ (Resolves accounts) compact.accountIndexes shown ↔
        compact.accountIndexes.map (innerAccountMeta accounts) = shown := by
    have hequal : Resolves accounts = fun index inner => innerAccountMeta accounts index = inner := by
      funext index inner
      exact propext resolves_iff
    rw [hequal, ← List.forall₂_map_left_iff, List.forall₂_eq_eq_eq]
  obtain ⟨programId, programDisplay, shown, data, description⟩ := decoded
  constructor
  · rintro ⟨hprogram, hshown, hdata, hdescription⟩
    obtain ⟨rfl, rfl⟩ := shownAs_iff.1 hprogram
    obtain rfl := (haccounts _).1 hshown
    dsimp only at hdata hdescription
    rw [hdescription, hdata]
    rfl
  · intro hdecoded
    rw [← hdecoded]
    exact ⟨shownAs_iff.2 ⟨rfl, rfl⟩, (haccounts _).2 rfl, rfl, rfl⟩

/-- Instructions are decoded one by one, and each of them in one way only. -/
theorem forall₂_decodes {describe : Describe Id} {parentDepth : ℕ}
    {list : List CompactInstruction} {decoded : List DecodedInnerInstruction} :
    List.Forall₂ (Decodes describe accounts parentDepth) list decoded ↔
      decoded = list.map (decodedInner describe accounts parentDepth) := by
  have hequal : Decodes describe accounts parentDepth = fun compact inner =>
      decodedInner describe accounts parentDepth compact = inner := by
    funext compact inner
    exact propext decodes_iff
  rw [hequal, ← List.forall₂_map_left_iff, List.forall₂_eq_eq_eq, eq_comm]

end Decodes

/-- Exactly the encoded lists are accepted, with anything behind them.  What comes out
are the program, the accounts with their flags and the data of each instruction of the
list, in order, and nothing is read beyond the end. -/
theorem compactInstructions_codec (describe : Describe Id) (accounts : List AccountMeta)
    (parentDepth : ℕ) :
    (∀ payload decoded,
      (decodeCompactInstructions describe payload accounts parentDepth).run.run = .ok decoded ↔
        (payload = [] ∧ decoded = []) ∨
        ∃ (instructions : CompactInstructions) (suffix : Bytes),
          payload = instructions.encode ++ suffix ∧
          List.Forall₂ (Decodes describe accounts parentDepth) instructions.list decoded) ∧
    (∀ instructions : CompactInstructions, ∃ decoded,
      (decodeCompactInstructions describe instructions.encode accounts parentDepth).run.run =
          .ok decoded ∧
        List.Forall₂ (Decodes describe accounts parentDepth) instructions.list decoded) ∧
    (∀ (left right : CompactInstructions) (leftRest rightRest : Bytes),
      left.encode ++ leftRest = right.encode ++ rightRest →
        left = right ∧ leftRest = rightRest) ∧
    (∀ payload, (decodeCompactInstructions describe payload accounts parentDepth).run.run ≠
      .error .panicked) ∧
    ∀ data, ∀ headerLen ∈ [8, 16],
      (parseSignInstruction describe data headerLen accounts parentDepth).run.run ≠
        .error .panicked := by
  refine ⟨fun payload decoded => ?_, fun instructions => ?_,
    fun _ _ _ _ => CompactInstructions.encode_append_inj,
    decodeCompactInstructions_ne_panicked describe accounts parentDepth, ?_⟩
  · simp only [forall₂_decodes]
    exact decodeCompactInstructions_eq_ok_iff describe accounts parentDepth
  · refine ⟨_, ?_, forall₂_decodes.2 rfl⟩
    apply (decodeCompactInstructions_eq_ok_iff describe accounts parentDepth).2
    exact .inr ⟨instructions, [], (List.append_nil _).symm, rfl⟩
  · intro data headerLen hheader
    have hlength : 8 ≤ headerLen := by
      simp only [List.mem_cons, List.not_mem_nil, or_false] at hheader
      omega
    exact (meets_parseSignInstruction describe accounts parentDepth data hlength).1

/-- One instruction of the only account, with a second account that is missing. -/
def missingAccountCall : CompactInstruction := ⟨0, [0, 5], [7, 8]⟩

theorem missingAccountCall_fits : ∀ compact ∈ [missingAccountCall], compact.Fits := by
  intro compact hcompact
  obtain rfl := List.mem_singleton.1 hcompact
  exact ⟨by decide, by decide⟩

def missingAccountCalls : CompactInstructions :=
  ⟨[missingAccountCall], by decide, missingAccountCall_fits⟩

def onlyAccount : AccountMeta := ⟨repeatedByte 9, true, false⟩

/-- The account at position 0 keeps its flags, the one at position 5 is marked as
missing, and a byte behind the list changes nothing. -/
theorem compactInstructions_codec_missingAccount :
    missingAccountCalls.encode = [1, 0, 2, 0, 5, 2, 0, 7, 8] ∧
    (decodeCompactInstructions (m := Id) (fun _ _ _ _ _ => "") [1, 0, 2, 0, 5, 2, 0, 7, 8, 3]
        [onlyAccount] 0).run.run =
      .ok [⟨some onlyAccount.pubkey, onlyAccount.pubkey.text,
        [⟨some onlyAccount.pubkey, onlyAccount.pubkey.text, true, false⟩,
          ⟨none, "Unresolved account #5 (lookup table)", false, false⟩], [7, 8], ""⟩] := by
  refine ⟨by decide, ?_⟩
  apply ((compactInstructions_codec _ [onlyAccount] 0).1 _ _).2
  exact .inr ⟨missingAccountCalls, [3], by decide, .cons (decodes_iff.2 rfl) .nil⟩

end VisualSignParser.Solana.Swig
