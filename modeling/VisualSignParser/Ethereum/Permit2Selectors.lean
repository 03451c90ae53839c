import VisualSignParser.Codec.Decimal
import VisualSignParser.Ethereum.Permit2
import VisualSignParser.VisualSign.Strings

/-!
# Selectors and arguments of Permit2 calls

The arguments of a call are the words behind its selector.  A display shows one
of them if its text stands in one of the texts of the field, behind the words
that introduce it, and if no call that differs in this argument alone has the
same field.  An approval and a transfer show all of their arguments, a permit
does not: owner, nonce and signature are left out.
-/

namespace VisualSignParser.Ethereum.Permit2

open VisualSignParser.Abi
open VisualSignParser.Framing
open VisualSignParser.VisualSign

/-! ## The arguments of a call -/

def argumentWord (input : Bytes) (index : ℕ) : BitVec 256 := wordAt (input.drop 4) (32 * index)

/-- The last twenty bytes of a word. -/
def addressAt (input : Bytes) (index : ℕ) : Address :=
  ⟨beBytes 20 (argumentWord input index).toNat, length_beBytes ..⟩

def uintAt (width : ℕ) (input : Bytes) (index : ℕ) : ℕ :=
  (argumentWord input index).toNat % 2 ^ width

/-- The bytes behind the offset that a word holds. -/
def bytesAt (input : Bytes) (index : ℕ) : Bytes :=
  let start := (argumentWord input index).toNat
  ((input.drop 4).drop (start + 32)).take (wordAt (input.drop 4) start).toNat

/-- An argument: its text in a call, and the words in front of the text in a display. -/
structure Argument where
  name : String
  front : String
  text : Bytes → String

/-- A function of the contract, with the label of its display. -/
structure Function where
  label : String
  selector : Bytes
  Complete : Bytes → Prop
  arguments : List Argument

section Functions

variable (formats : Formats) (chainId : ChainId) (registry : Option ContractRegistry)

/-- The text of a time argument. -/
def timeText (seconds : ℕ) : String :=
  formatUnixTimestampSecondsU64 formats (UInt64.ofNat seconds)

def approveFunction : Function where
  label := "Permit2 Approve"
  selector := ApproveCall.selector
  Complete := IsApprove
  arguments := [
    ⟨"token", " to spend ", fun input => tokenSymbol formats registry chainId (addressAt input 0)⟩,
    ⟨"spender", "Approve ", fun input => formats.displayAddress (addressAt input 1)⟩,
    ⟨"amount", " ", fun input =>
      tokenAmount formats registry chainId (addressAt input 0) (uintAt 160 input 2)⟩,
    ⟨"expiration", " (expires: ", fun input => timeText formats (uintAt 48 input 3)⟩]

def transferFromFunction : Function where
  label := "Permit2 Transfer"
  selector := TransferFromCall.selector
  Complete := IsTransferFrom
  arguments := [
    ⟨"from", " from ", fun input => formats.displayAddress (addressAt input 0)⟩,
    ⟨"to", " to ", fun input => formats.displayAddress (addressAt input 1)⟩,
    ⟨"amount", "Transfer ", fun input =>
      tokenAmount formats registry chainId (addressAt input 3) (uintAt 160 input 2)⟩,
    ⟨"token", " ", fun input => tokenSymbol formats registry chainId (addressAt input 3)⟩]

def permitFunction : Function where
  label := "Permit2 Permit"
  selector := PermitCall.selector
  Complete := CompletePermit
  arguments := [
    ⟨"owner", "", fun input => formats.displayAddress (addressAt input 0)⟩,
    ⟨"token", "", fun input => (formats.displayAddress (addressAt input 1)).toLower⟩,
    ⟨"amount", "", fun input => toString (uintAt 160 input 2)⟩,
    ⟨"expiration", "", fun input => timeText formats (uintAt 48 input 3)⟩,
    ⟨"nonce", "", fun input => toString (uintAt 48 input 4)⟩,
    ⟨"spender", "", fun input => (formats.displayAddress (addressAt input 5)).toLower⟩,
    ⟨"sigDeadline", "", fun input => sigDeadlineText formats (argumentWord input 6)⟩,
    ⟨"signature", "", fun input => hexText (bytesAt input 7)⟩]

/-- The field shows the argument that the calldata encodes. -/
structure Function.Shows (function : Function) (argument : Argument) (input : Bytes)
    (field : SignablePayloadField) : Prop where
  named : ∃ shown ∈ field.strings,
    (argument.front ++ argument.text input).toList <:+: shown.toList
  told : ∀ other, function.Complete other →
    visualizeTxCommands formats chainId registry other = some field →
    (∀ same ∈ function.arguments, same.name ≠ argument.name → same.text other = same.text input) →
    argument.text other = argument.text input

/-- A field with the label of the function is shown only for calldata that starts with its
selector and holds its arguments, and it shows each of them. -/
def Function.ShownOnlyFor (function : Function) (input : Bytes) : Prop :=
  ∀ field, visualizeTxCommands formats chainId registry input = some field →
    field.common.label = function.label →
    function.selector <+: input ∧ function.Complete input ∧
      ∀ argument ∈ function.arguments,
        function.Shows formats chainId registry argument input field

structure SelectorFaithful (input : Bytes) : Prop where
  approve : (approveFunction formats chainId registry).ShownOnlyFor formats chainId registry input
  permit : (permitFunction formats).ShownOnlyFor formats chainId registry input
  transfer :
    (transferFromFunction formats chainId registry).ShownOnlyFor formats chainId registry input
  other : ¬ ApproveCall.selector <+: input → ¬ PermitCall.selector <+: input →
    ¬ TransferFromCall.selector <+: input →
    visualizeTxCommands formats chainId registry input = none
  appended : ∀ head extra, input = head ++ extra → IsTransferFrom head →
    ∃ field, visualizeTxCommands formats chainId registry input = some field ∧
      field.common.label = "Permit2 Transfer"

end Functions

/-- No decoder of a permit is reached. -/
def ReadBySelector (input : Bytes) : Prop :=
  input.length < 192 ∨ ApproveCall.selector <+: input

instance (input : Bytes) : Decidable (ReadBySelector input) :=
  inferInstanceAs (Decidable (_ ∨ _))

/-! ## The decoded calls -/

theorem run_bind {A B : Type} {read : Read A} {rest : A → Read B} {cursor next : Cursor}
    {value : A} (hread : read cursor = some (value, next)) :
    (read >>= rest) cursor = rest value next := by
  change (read cursor).bind _ = _
  rw [hread]
  rfl

/-- Four words are decoded as the arguments that stand in them. -/
theorem abiDecode_approve_eq {input : Bytes} (hcomplete : IsApprove input) :
    ApproveCall.abiDecode input = some ⟨addressAt input 0, addressAt input 1,
      (argumentWord input 2).setWidth 160, (argumentWord input 3).setWidth 48⟩ := by
  obtain ⟨hselector, hlength⟩ := hcomplete
  have hwords : 128 ≤ (input.drop 4).length := by
    rw [List.length_drop]
    omega
  rw [ApproveCall.abiDecode, decodeCall, if_pos hselector]
  change decodeSequence ApproveCall.read (input.drop 4) = _
  rw [decodeSequence, ApproveCall.read, run_bind (address_eq (by omega)),
    run_bind (address_eq (by omega)), run_bind (uint_eq (by omega)),
    run_bind (uint_eq (by omega))]
  rfl

/-- A complete transfer is read word by word: two addresses, an amount that is cut
to 160 bits, and the address of the token. -/
theorem abiDecode_transferFrom_eq {input : Bytes} (hcomplete : IsTransferFrom input) :
    TransferFromCall.abiDecode input = some ⟨addressAt input 0, addressAt input 1,
      (argumentWord input 2).setWidth 160, addressAt input 3⟩ := by
  obtain ⟨hselector, hlength⟩ := hcomplete
  have hwords : 128 ≤ (input.drop 4).length := by
    rw [List.length_drop]
    omega
  rw [TransferFromCall.abiDecode, decodeCall, if_pos hselector]
  change decodeSequence TransferFromCall.read (input.drop 4) = _
  rw [decodeSequence, TransferFromCall.read, run_bind (address_eq (by omega)),
    run_bind (address_eq (by omega)), run_bind (uint_eq (by omega)),
    run_bind (address_eq (by omega))]
  rfl

/-- A byte string is the slice behind its length word. -/
theorem bytes_eq {buffer : Bytes} {offset : ℕ} (hholds : HoldsBytes buffer offset) :
    bytes ⟨buffer, offset⟩ =
      some (((buffer.drop ((wordAt buffer offset).toNat + 32)).take
        (wordAt buffer (wordAt buffer offset).toNat).toNat), ⟨buffer, offset + 32⟩) := by
  obtain ⟨hoffset, hstart, hlength, hslice⟩ := hholds
  generalize hword : (wordAt buffer offset).toNat = start at hstart hlength hslice ⊢
  have hinside : start ≤ buffer.length := by omega
  have hbehind : 0 + 32 ≤ (buffer.drop start).length := by
    rw [List.length_drop]
    omega
  have hchild : wordAt (buffer.drop start) 0 = wordAt buffer start := by
    rw [wordAt_drop, Nat.add_zero]
  rw [bytes_apply, takeIndirection_apply, takeOffset_apply]
  dsimp only
  rw [hword, if_pos ⟨hoffset, hstart⟩, Option.bind_some]
  dsimp only
  rw [if_pos hinside, Option.bind_some, takeOffset_apply]
  dsimp only
  rw [hchild, if_pos ⟨hbehind, hlength⟩, Option.bind_some, takeSlice]
  dsimp only
  rw [if_pos (by rw [List.length_drop]; omega), Option.map_some, List.drop_drop, Nat.zero_add]

/-- A complete permit is decoded as the words and the signature that stand in it. -/
theorem abiDecode_permit_eq {input : Bytes} (hcomplete : CompletePermit input) :
    PermitCall.abiDecode input = some ⟨addressAt input 0,
      ⟨⟨addressAt input 1, (argumentWord input 2).setWidth 160, (argumentWord input 3).setWidth 48,
        (argumentWord input 4).setWidth 48⟩, addressAt input 5, (argumentWord input 6).setWidth 256⟩,
      bytesAt input 7⟩ := by
  obtain ⟨hselector, hsignature⟩ := hcomplete
  have hwords : 256 ≤ (input.drop 4).length := hsignature.1
  have hdetails : PermitDetails.read ⟨input.drop 4, 32⟩ =
      some (⟨addressAt input 1, (argumentWord input 2).setWidth 160,
        (argumentWord input 3).setWidth 48, (argumentWord input 4).setWidth 48⟩,
        ⟨input.drop 4, 160⟩) := by
    rw [PermitDetails.read, run_bind (address_eq (by omega)), run_bind (uint_eq (by omega)),
      run_bind (uint_eq (by omega)), run_bind (uint_eq (by omega))]
    rfl
  have hsingle : PermitSingle.read ⟨input.drop 4, 32⟩ =
      some (⟨⟨addressAt input 1, (argumentWord input 2).setWidth 160,
        (argumentWord input 3).setWidth 48, (argumentWord input 4).setWidth 48⟩,
        addressAt input 5, (argumentWord input 6).setWidth 256⟩, ⟨input.drop 4, 224⟩) := by
    rw [PermitSingle.read, run_bind hdetails, run_bind (address_eq (by omega)),
      run_bind (uint_eq (by omega))]
    rfl
  rw [PermitCall.abiDecode, decodeCall, if_pos hselector]
  change decodeSequence PermitCall.read (input.drop 4) = _
  rw [decodeSequence, PermitCall.read, run_bind (address_eq (by omega)), run_bind hsingle,
    run_bind (bytes_eq hsignature)]
  rfl

/-! ## What approvals and transfers show -/

theorem infix_of_eq {before middle after whole : String} (hwhole : whole = before ++ middle ++ after) :
    middle.toList <:+: whole.toList :=
  ⟨before.toList, after.toList, by rw [hwhole, String.toList_append, String.toList_append]⟩

/-- A text that stands twice around a fixed one is determined by the whole. -/
theorem doubled_inj {middle left right : String}
    (heq : left ++ middle ++ left = right ++ middle ++ right) : left = right := by
  have hlists := congrArg String.toList heq
  simp only [String.toList_append, List.append_assoc] at hlists
  have hlengths := congrArg List.length hlists
  simp only [List.length_append] at hlengths
  exact String.toList_inj.1 (List.append_inj hlists (by omega)).1

section Shown

variable {formats : Formats} {chainId : ChainId} {registry : Option ContractRegistry}

/-- A function whose complete calls are shown by no other text than their sentence shows
an argument that has its place in the sentence and changes it. -/
theorem shows_of_sentence (function : Function) {sentence : Bytes → String}
    (hsentence : ∀ input text, function.Complete input →
      visualizeTxCommands formats chainId registry input =
        some (textField function.label text) → text = sentence input)
    {argument : Argument} {input : Bytes}
    (hplace : ∃ before after,
      sentence input = before ++ (argument.front ++ argument.text input) ++ after)
    (hchange : ∀ other, sentence other = sentence input →
      (∀ same ∈ function.arguments, same.name ≠ argument.name →
        same.text other = same.text input) → argument.text other = argument.text input) :
    function.Shows formats chainId registry argument input
      (textField function.label (sentence input)) where
  named := by
    obtain ⟨before, after, hwhole⟩ := hplace
    refine ⟨sentence input, ?_, infix_of_eq hwhole⟩
    exact List.mem_cons_self
  told other hother halike hsame :=
    hchange other (hsentence other _ hother halike).symm hsame

/-- The sentence of an approval. -/
def approveSentence (spender amount symbol expiration : String) : String :=
  "Approve " ++ spender ++ " " ++ amount ++ " " ++ symbol ++ " to spend " ++ symbol ++
    " (expires: " ++ expiration ++ ")"

/-- A complete approval is shown as a sentence with its spender, amount, token and
expiration, each of them taken from the word it is encoded in. -/
theorem visualizeTxCommands_approve (input : Bytes) (hcomplete : IsApprove input) :
    visualizeTxCommands formats chainId registry input = some (textField "Permit2 Approve"
      (approveSentence (formats.displayAddress (addressAt input 1))
        (tokenAmount formats registry chainId (addressAt input 0) (uintAt 160 input 2))
        (tokenSymbol formats registry chainId (addressAt input 0))
        (timeText formats (uintAt 48 input 3)))) := by
  have hfour : ¬ input.length < 4 := by
    have hlength := hcomplete.2
    omega
  rw [visualizeTxCommands, if_neg hfour, abiDecode_approve_eq hcomplete]
  dsimp only
  rw [decodeApprove]
  simp only [BitVec.toNat_setWidth]
  rfl

/-- The text of a field with the label of an approval is the sentence for the
arguments in the input, so the arguments can be recovered from it. -/
theorem sentence_of_approve (input : Bytes) (text : String) (hcomplete : IsApprove input)
    (hfield : visualizeTxCommands formats chainId registry input =
      some (textField "Permit2 Approve" text)) :
    text = approveSentence (formats.displayAddress (addressAt input 1))
      (tokenAmount formats registry chainId (addressAt input 0) (uintAt 160 input 2))
      (tokenSymbol formats registry chainId (addressAt input 0))
      (timeText formats (uintAt 48 input 3)) := by
  rw [visualizeTxCommands_approve input hcomplete] at hfield
  exact (textField_inj.1 (Option.some.inj hfield)).2.symm

section Approve

variable (spender amount symbol expiration : String)

/-- The symbol of the token stands in the sentence behind the words for the
spending. -/
theorem approveSentence_symbol : ∃ before after,
    approveSentence spender amount symbol expiration =
      before ++ (" to spend " ++ symbol) ++ after := by
  refine ⟨"Approve " ++ spender ++ " " ++ amount ++ " " ++ symbol,
    " (expires: " ++ expiration ++ ")", ?_⟩
  unfold approveSentence
  simp only [String.append_assoc]

/-- The spender stands in the sentence right behind its first word, whatever the
other three texts are. -/
theorem approveSentence_spender : ∃ before after,
    approveSentence spender amount symbol expiration =
      before ++ ("Approve " ++ spender) ++ after := by
  refine ⟨"", " " ++ amount ++ " " ++ symbol ++ " to spend " ++ symbol ++ " (expires: " ++
    expiration ++ ")", ?_⟩
  unfold approveSentence
  simp only [String.append_assoc, String.empty_append]

/-- The amount stands in the sentence, behind the spender and a blank. -/
theorem approveSentence_amount : ∃ before after,
    approveSentence spender amount symbol expiration = before ++ (" " ++ amount) ++ after := by
  refine ⟨"Approve " ++ spender, " " ++ symbol ++ " to spend " ++ symbol ++ " (expires: " ++
    expiration ++ ")", ?_⟩
  unfold approveSentence
  simp only [String.append_assoc]

/-- The expiration stands in the brackets at the end of the sentence, whatever the
other three texts are. -/
theorem approveSentence_expiration : ∃ before after,
    approveSentence spender amount symbol expiration =
      before ++ (" (expires: " ++ expiration) ++ after := by
  refine ⟨"Approve " ++ spender ++ " " ++ amount ++ " " ++ symbol ++ " to spend " ++ symbol,
    ")", ?_⟩
  unfold approveSentence
  simp only [String.append_assoc]

variable {spender amount symbol expiration}

theorem spender_of_approveSentence {other : String}
    (heq : approveSentence other amount symbol expiration =
      approveSentence spender amount symbol expiration) : other = spender := by
  unfold approveSentence at heq
  simpa only [String.append_assoc, String.append_right_inj, String.append_left_inj] using heq

theorem amount_of_approveSentence {other : String}
    (heq : approveSentence spender other symbol expiration =
      approveSentence spender amount symbol expiration) : other = amount := by
  unfold approveSentence at heq
  simpa only [String.append_assoc, String.append_right_inj, String.append_left_inj] using heq

theorem expiration_of_approveSentence {other : String}
    (heq : approveSentence spender amount symbol other =
      approveSentence spender amount symbol expiration) : other = expiration := by
  unfold approveSentence at heq
  simpa only [String.append_assoc, String.append_right_inj, String.append_left_inj] using heq

theorem symbol_of_approveSentence {other : String}
    (heq : approveSentence spender amount other expiration =
      approveSentence spender amount symbol expiration) : other = symbol := by
  unfold approveSentence at heq
  simp only [String.append_left_inj] at heq
  simp only [String.append_assoc, String.append_right_inj] at heq
  apply doubled_inj
  simpa only [String.append_assoc] using heq

end Approve

/-- Every argument of an approval has its place in the sentence, and the sentence changes
with each of them. -/
theorem shows_approve {input : Bytes} (hcomplete : IsApprove input)
    {field : SignablePayloadField}
    (hfield : visualizeTxCommands formats chainId registry input = some field) :
    ∀ argument ∈ (approveFunction formats chainId registry).arguments,
      (approveFunction formats chainId registry).Shows formats chainId registry argument input
        field := by
  rw [visualizeTxCommands_approve input hcomplete] at hfield
  obtain rfl := Option.some.inj hfield
  intro argument hargument
  simp only [approveFunction, List.mem_cons, List.not_mem_nil, or_false] at hargument
  obtain rfl | rfl | rfl | rfl := hargument
  · refine shows_of_sentence (approveFunction formats chainId registry)
      sentence_of_approve (approveSentence_symbol ..) ?_
    intro other heq hsame
    simp only [approveFunction, List.forall_mem_cons] at heq hsame
    obtain ⟨-, hspender, hamount, hexpiration, -⟩ := hsame
    rw [hspender (by decide), hamount (by decide), hexpiration (by decide)] at heq
    exact symbol_of_approveSentence heq
  · refine shows_of_sentence (approveFunction formats chainId registry)
      sentence_of_approve (approveSentence_spender ..) ?_
    intro other heq hsame
    simp only [approveFunction, List.forall_mem_cons] at heq hsame
    obtain ⟨hsymbol, -, hamount, hexpiration, -⟩ := hsame
    rw [hsymbol (by decide), hamount (by decide), hexpiration (by decide)] at heq
    exact spender_of_approveSentence heq
  · refine shows_of_sentence (approveFunction formats chainId registry)
      sentence_of_approve (approveSentence_amount ..) ?_
    intro other heq hsame
    simp only [approveFunction, List.forall_mem_cons] at heq hsame
    obtain ⟨hsymbol, hspender, -, hexpiration, -⟩ := hsame
    rw [hsymbol (by decide), hspender (by decide), hexpiration (by decide)] at heq
    exact amount_of_approveSentence heq
  · refine shows_of_sentence (approveFunction formats chainId registry)
      sentence_of_approve (approveSentence_expiration ..) ?_
    intro other heq hsame
    simp only [approveFunction, List.forall_mem_cons] at heq hsame
    obtain ⟨hsymbol, hspender, hamount, -, -⟩ := hsame
    rw [hsymbol (by decide), hspender (by decide), hamount (by decide)] at heq
    exact expiration_of_approveSentence heq

/-- The sentence of a transfer. -/
def transferSentence (sender recipient amount symbol : String) : String :=
  "Transfer " ++ amount ++ " " ++ symbol ++ " from " ++ sender ++ " to " ++ recipient

section Transfer

variable (sender recipient amount symbol : String)

/-- The sender stands in the sentence behind the word from. -/
theorem transferSentence_sender : ∃ before after,
    transferSentence sender recipient amount symbol =
      before ++ (" from " ++ sender) ++ after := by
  refine ⟨"Transfer " ++ amount ++ " " ++ symbol, " to " ++ recipient, ?_⟩
  unfold transferSentence
  simp only [String.append_assoc]

/-- The recipient stands in the sentence behind the word to. -/
theorem transferSentence_recipient : ∃ before after,
    transferSentence sender recipient amount symbol =
      before ++ (" to " ++ recipient) ++ after := by
  refine ⟨"Transfer " ++ amount ++ " " ++ symbol ++ " from " ++ sender, "", ?_⟩
  unfold transferSentence
  simp only [String.append_assoc, String.append_empty]

/-- The amount stands in the sentence right behind its first word. -/
theorem transferSentence_amount : ∃ before after,
    transferSentence sender recipient amount symbol =
      before ++ ("Transfer " ++ amount) ++ after := by
  refine ⟨"", " " ++ symbol ++ " from " ++ sender ++ " to " ++ recipient, ?_⟩
  unfold transferSentence
  simp only [String.append_assoc, String.empty_append]

theorem transferSentence_symbol : ∃ before after,
    transferSentence sender recipient amount symbol = before ++ (" " ++ symbol) ++ after := by
  refine ⟨"Transfer " ++ amount, " from " ++ sender ++ " to " ++ recipient, ?_⟩
  unfold transferSentence
  simp only [String.append_assoc]

variable {sender recipient amount symbol}

theorem sender_of_transferSentence {other : String}
    (heq : transferSentence other recipient amount symbol =
      transferSentence sender recipient amount symbol) : other = sender := by
  unfold transferSentence at heq
  simpa only [String.append_assoc, String.append_right_inj, String.append_left_inj] using heq

theorem recipient_of_transferSentence {other : String}
    (heq : transferSentence sender other amount symbol =
      transferSentence sender recipient amount symbol) : other = recipient := by
  unfold transferSentence at heq
  simpa only [String.append_assoc, String.append_right_inj, String.append_left_inj] using heq

theorem amount_of_transferSentence {other : String}
    (heq : transferSentence sender recipient other symbol =
      transferSentence sender recipient amount symbol) : other = amount := by
  unfold transferSentence at heq
  simpa only [String.append_assoc, String.append_right_inj, String.append_left_inj] using heq

theorem symbol_of_transferSentence {other : String}
    (heq : transferSentence sender recipient amount other =
      transferSentence sender recipient amount symbol) : other = symbol := by
  unfold transferSentence at heq
  simpa only [String.append_assoc, String.append_right_inj, String.append_left_inj] using heq

end Transfer

/-- A longer calldata is not shown as a text at all. -/
theorem sentence_of_transferFrom (input : Bytes) (text : String)
    (hcomplete : IsTransferFrom input)
    (hfield : visualizeTxCommands formats chainId registry input =
      some (textField "Permit2 Transfer" text)) :
    text = transferSentence (formats.displayAddress (addressAt input 0))
      (formats.displayAddress (addressAt input 1))
      (tokenAmount formats registry chainId (addressAt input 3) (uintAt 160 input 2))
      (tokenSymbol formats registry chainId (addressAt input 3)) := by
  obtain ⟨call, hcall, -⟩ | ⟨call, -, hshown⟩ | ⟨params, -, -, -, hshown⟩ | ⟨call, hcall, hshown⟩ :=
    visualizeTxCommands_cases formats chainId registry hfield
  · exact absurd (selector_of_decodeCall hcall) (not_starts_of_ne hcomplete.1 rfl (by decide))
  · cases hshown
  · cases hshown
  · rw [abiDecode_transferFrom_eq hcomplete] at hcall
    obtain rfl := Option.some.inj hcall
    rw [decodeTransferFrom] at hshown
    simp only [BitVec.toNat_setWidth] at hshown
    exact (textField_inj.1 hshown).2

/-- Every argument of a transfer has its place in the sentence, and the sentence changes
with each of them. -/
theorem shows_transferFrom {input : Bytes} (hcomplete : IsTransferFrom input) {text : String}
    (hfield : visualizeTxCommands formats chainId registry input =
      some (textField "Permit2 Transfer" text)) :
    ∀ argument ∈ (transferFromFunction formats chainId registry).arguments,
      (transferFromFunction formats chainId registry).Shows formats chainId registry argument input
        (textField "Permit2 Transfer" text) := by
  obtain rfl := sentence_of_transferFrom input text hcomplete hfield
  intro argument hargument
  simp only [transferFromFunction, List.mem_cons, List.not_mem_nil, or_false] at hargument
  obtain rfl | rfl | rfl | rfl := hargument
  · refine shows_of_sentence (transferFromFunction formats chainId registry)
      sentence_of_transferFrom (transferSentence_sender ..) ?_
    intro other heq hsame
    simp only [transferFromFunction, List.forall_mem_cons] at heq hsame
    obtain ⟨-, hrecipient, hamount, hsymbol, -⟩ := hsame
    rw [hrecipient (by decide), hamount (by decide), hsymbol (by decide)] at heq
    exact sender_of_transferSentence heq
  · refine shows_of_sentence (transferFromFunction formats chainId registry)
      sentence_of_transferFrom (transferSentence_recipient ..) ?_
    intro other heq hsame
    simp only [transferFromFunction, List.forall_mem_cons] at heq hsame
    obtain ⟨hsender, -, hamount, hsymbol, -⟩ := hsame
    rw [hsender (by decide), hamount (by decide), hsymbol (by decide)] at heq
    exact recipient_of_transferSentence heq
  · refine shows_of_sentence (transferFromFunction formats chainId registry)
      sentence_of_transferFrom (transferSentence_amount ..) ?_
    intro other heq hsame
    simp only [transferFromFunction, List.forall_mem_cons] at heq hsame
    obtain ⟨hsender, hrecipient, -, hsymbol, -⟩ := hsame
    rw [hsender (by decide), hrecipient (by decide), hsymbol (by decide)] at heq
    exact amount_of_transferSentence heq
  · refine shows_of_sentence (transferFromFunction formats chainId registry)
      sentence_of_transferFrom (transferSentence_symbol ..) ?_
    intro other heq hsame
    simp only [transferFromFunction, List.forall_mem_cons] at heq hsame
    obtain ⟨hsender, hrecipient, hamount, -, -⟩ := hsame
    rw [hsender (by decide), hrecipient (by decide), hamount (by decide)] at heq
    exact symbol_of_transferSentence heq

end Shown

/-! ## What permits leave out -/

theorem wordAt_take {buffer : Bytes} {count offset : ℕ} (hcount : offset + 32 ≤ count) :
    wordAt (buffer.take count) offset = wordAt buffer offset := by
  rw [wordAt, wordAt, List.drop_take, List.take_take, Nat.min_eq_left (by omega)]

theorem wordAt_left {front back : Bytes} {offset : ℕ} (hoffset : offset + 32 ≤ front.length) :
    wordAt (front ++ back) offset = wordAt front offset := by
  rw [wordAt, wordAt, List.drop_append_of_le_length (by omega),
    List.take_append_of_le_length (by rw [List.length_drop]; omega)]

theorem wordAt_right {front back : Bytes} {start offset : ℕ} (hstart : front.length = start) :
    wordAt (front ++ back) (start + offset) = wordAt back offset := by
  rw [wordAt, wordAt, ← hstart, ← List.drop_drop, List.drop_left]

theorem wordAt_beBytes {value : ℕ} (hvalue : value < 2 ^ 256) (back : Bytes) :
    wordAt (beBytes 32 value ++ back) 0 = BitVec.ofNat 256 value := by
  rw [wordAt, List.drop_zero, List.take_left' (length_beBytes 32 value),
    ofBeBytes_beBytes (by norm_num at hvalue ⊢; exact hvalue)]

def nextNonceArguments (input : Bytes) : Bytes :=
  (input.drop 4).take 128 ++ (beBytes 32 ((uintAt 48 input 4 + 1) % 2 ^ 48) ++
    (((input.drop 4).drop 160).take 64 ++
      (beBytes 32 256 ++ (beBytes 32 (bytesAt input 7).length ++ bytesAt input 7))))

/-- The permit of the calldata with the next nonce, the signature right behind the head. -/
def withNextNonce (input : Bytes) : Bytes := PermitCall.selector ++ nextNonceArguments input

theorem drop_withNextNonce (input : Bytes) :
    (withNextNonce input).drop 4 = nextNonceArguments input :=
  rfl

section NextNonce

variable {input : Bytes} (hcomplete : CompletePermit input)

include hcomplete

theorem length_headWords : ((input.drop 4).take 128).length = 128 := by
  have hwords : 224 + 32 ≤ (input.drop 4).length := hcomplete.2.1
  rw [List.length_take]
  omega

theorem length_tailWords : (((input.drop 4).drop 160).take 64).length = 64 := by
  have hwords : 224 + 32 ≤ (input.drop 4).length := hcomplete.2.1
  rw [List.length_take, List.length_drop]
  omega

theorem length_signature : (bytesAt input 7).length < 2 ^ 64 := by
  have hlength := hcomplete.2.2.2.1
  rw [bytesAt, List.length_take]
  exact lt_of_le_of_lt (Nat.min_le_left ..) hlength

/-- Raising the nonce leaves every other word of the permit in its place: the owner,
the token, the amount, the expiration, the spender and the deadline. -/
theorem argumentWord_withNextNonce {index : ℕ} (hindex : index < 4 ∨ index = 5 ∨ index = 6) :
    argumentWord (withNextNonce input) index = argumentWord input index := by
  have hhead := length_headWords hcomplete
  have htail := length_tailWords hcomplete
  have hnonce := length_beBytes 32 ((uintAt 48 input 4 + 1) % 2 ^ 48)
  rw [argumentWord, argumentWord, drop_withNextNonce, nextNonceArguments]
  obtain hlow | hhigh : index < 4 ∨ index = 5 ∨ index = 6 := hindex
  · rw [wordAt_left (by omega), wordAt_take (by omega)]
  · obtain ⟨offset, hoffset, hbound⟩ : ∃ offset, 32 * index = 128 + (32 + offset) ∧
        offset + 32 ≤ 64 := ⟨32 * index - 160, by omega, by omega⟩
    rw [hoffset, wordAt_right hhead, wordAt_right hnonce, wordAt_left (by omega),
      wordAt_take hbound, wordAt_drop]
    congr 1
    omega

/-- The nonce itself is raised by one, modulo its 48 bits, so two permits that
differ in it alone are really two permits. -/
theorem uintAt_withNextNonce :
    uintAt 48 (withNextNonce input) 4 = (uintAt 48 input 4 + 1) % 2 ^ 48 := by
  have hnonce : (uintAt 48 input 4 + 1) % 2 ^ 48 < 2 ^ 48 := Nat.mod_lt _ (by decide)
  have hword : argumentWord (withNextNonce input) 4 =
      BitVec.ofNat 256 ((uintAt 48 input 4 + 1) % 2 ^ 48) := by
    rw [argumentWord, drop_withNextNonce, nextNonceArguments]
    change wordAt _ (128 + 0) = _
    rw [wordAt_right (length_headWords hcomplete), wordAt_beBytes (by omega)]
  rw [uintAt, hword, BitVec.toNat_ofNat]
  generalize (uintAt 48 input 4 + 1) % 2 ^ 48 = nonce at hnonce ⊢
  omega

/-- The offset of the signature, and the signature behind it. -/
theorem signature_withNextNonce :
    argumentWord (withNextNonce input) 7 = BitVec.ofNat 256 256 ∧
      wordAt ((withNextNonce input).drop 4) 256 = BitVec.ofNat 256 (bytesAt input 7).length ∧
      ((withNextNonce input).drop 4).drop 288 = bytesAt input 7 := by
  have hhead := length_headWords hcomplete
  have htail := length_tailWords hcomplete
  have hnonce := length_beBytes 32 ((uintAt 48 input 4 + 1) % 2 ^ 48)
  have hoffset := length_beBytes 32 256
  rw [argumentWord, drop_withNextNonce, nextNonceArguments]
  refine ⟨?_, ?_, ?_⟩
  · change wordAt _ (128 + (32 + (64 + 0))) = _
    rw [wordAt_right hhead, wordAt_right hnonce, wordAt_right htail, wordAt_beBytes (by decide)]
  · change wordAt _ (128 + (32 + (64 + (32 + 0)))) = _
    have hlength := length_signature hcomplete
    rw [wordAt_right hhead, wordAt_right hnonce, wordAt_right htail, wordAt_right hoffset,
      wordAt_beBytes (by omega)]
  · rw [← List.append_assoc, ← List.append_assoc, ← List.append_assoc, ← List.append_assoc]
    apply List.drop_left'
    simp only [List.length_append, hhead, htail, hnonce, hoffset, length_beBytes]

/-- A permit with a raised nonce is complete as well: its head has all words, and
its signature stands where the offset says. -/
theorem completePermit_withNextNonce : CompletePermit (withNextNonce input) := by
  obtain ⟨hstart, hlength, hbehind⟩ := signature_withNextNonce hcomplete
  have hsignature := length_signature hcomplete
  have hstartNat : (argumentWord (withNextNonce input) 7).toNat = 256 := by
    rw [hstart]
    rfl
  have hlengthNat : (wordAt ((withNextNonce input).drop 4) 256).toNat =
      (bytesAt input 7).length := by
    rw [hlength, BitVec.toNat_ofNat, Nat.mod_eq_of_lt (by omega)]
  have htotal : ((withNextNonce input).drop 4).length = 288 + (bytesAt input 7).length := by
    rw [drop_withNextNonce, nextNonceArguments]
    simp only [List.length_append, length_headWords hcomplete, length_tailWords hcomplete,
      length_beBytes]
    omega
  refine ⟨List.prefix_append _ _, ?_⟩
  change 224 + 32 ≤ _ ∧ (argumentWord (withNextNonce input) 7).toNat < 2 ^ 64 ∧
    (wordAt _ (argumentWord (withNextNonce input) 7).toNat).toNat < 2 ^ 64 ∧
    (argumentWord (withNextNonce input) 7).toNat + 32 +
      (wordAt _ (argumentWord (withNextNonce input) 7).toNat).toNat ≤ _
  rw [hstartNat, hlengthNat, htotal]
  omega

/-- The signature is the same in both permits, as the offset and the bytes behind it
are copied. -/
theorem bytesAt_withNextNonce : bytesAt (withNextNonce input) 7 = bytesAt input 7 := by
  obtain ⟨hstart, hlength, hbehind⟩ := signature_withNextNonce hcomplete
  have hsignature := length_signature hcomplete
  have hstartNat : (argumentWord (withNextNonce input) 7).toNat = 256 := by
    rw [hstart]
    rfl
  change (((withNextNonce input).drop 4).drop
    ((argumentWord (withNextNonce input) 7).toNat + 32)).take
      (wordAt ((withNextNonce input).drop 4)
        (argumentWord (withNextNonce input) 7).toNat).toNat = _
  rw [hstartNat, hlength, hbehind, BitVec.toNat_ofNat, Nat.mod_eq_of_lt (by omega),
    List.take_length]

theorem addressAt_withNextNonce {index : ℕ} (hindex : index < 4 ∨ index = 5 ∨ index = 6) :
    addressAt (withNextNonce input) index = addressAt input index := by
  rw [addressAt, addressAt]
  simp only [argumentWord_withNextNonce hcomplete hindex]

end NextNonce

section Permits

variable {formats : Formats} {chainId : ChainId} {registry : Option ContractRegistry}

/-- A complete permit is rendered by the decoder of permits, from the owner, the
details, the spender and the deadline that its words encode. -/
theorem visualizeTxCommands_permit {input : Bytes} (hcomplete : CompletePermit input) :
    visualizeTxCommands formats chainId registry input = some (decodePermit formats chainId registry
      ⟨addressAt input 0, ⟨⟨addressAt input 1, (argumentWord input 2).setWidth 160,
        (argumentWord input 3).setWidth 48, (argumentWord input 4).setWidth 48⟩,
        addressAt input 5, (argumentWord input 6).setWidth 256⟩, bytesAt input 7⟩) := by
  have hfour : ¬ input.length < 4 := not_lt.2 hcomplete.1.length_le
  have happrove : ApproveCall.abiDecode input = none :=
    decodeCall_of_other hcomplete.1 rfl (by decide)
  rw [visualizeTxCommands, if_neg hfour, happrove, abiDecode_permit_eq hcomplete]

/-- The permit with the next nonce has the same field. -/
theorem visualizeTxCommands_withNextNonce {input : Bytes} (hcomplete : CompletePermit input) :
    visualizeTxCommands formats chainId registry (withNextNonce input) =
      visualizeTxCommands formats chainId registry input := by
  have hword (index : ℕ) (hindex : index < 4 ∨ index = 5 ∨ index = 6) :=
    argumentWord_withNextNonce hcomplete hindex
  have haddress (index : ℕ) (hindex : index < 4 ∨ index = 5 ∨ index = 6) :=
    addressAt_withNextNonce hcomplete hindex
  rw [visualizeTxCommands_permit hcomplete,
    visualizeTxCommands_permit (completePermit_withNextNonce hcomplete), haddress 0 (by decide),
    haddress 1 (by decide), haddress 5 (by decide), hword 2 (by decide), hword 3 (by decide),
    hword 6 (by decide)]
  -- the nonce is the only argument left, and the field is built without it
  rfl

/-- No permit shows its nonce. -/
theorem not_shows_nonce {input : Bytes} (hcomplete : CompletePermit input)
    {field : SignablePayloadField}
    (hfield : visualizeTxCommands formats chainId registry input = some field) :
    ¬ ∀ argument ∈ (permitFunction formats).arguments,
      (permitFunction formats).Shows formats chainId registry argument input field := by
  intro hshows
  have hnonce := hshows ⟨"nonce", "", fun input => toString (uintAt 48 input 4)⟩
    (by simp [permitFunction])
  have hsame := hnonce.told (withNextNonce input) (completePermit_withNextNonce hcomplete)
    ((visualizeTxCommands_withNextNonce hcomplete).trans hfield)
  have hbound : uintAt 48 input 4 < 2 ^ 48 := Nat.mod_lt _ (by decide)
  have hword (index : ℕ) (hindex : index < 4 ∨ index = 5 ∨ index = 6) :=
    argumentWord_withNextNonce hcomplete hindex
  have haddress (index : ℕ) (hindex : index < 4 ∨ index = 5 ∨ index = 6) :=
    addressAt_withNextNonce hcomplete hindex
  have huint (width index : ℕ) (hindex : index < 4 ∨ index = 5 ∨ index = 6) :
      uintAt width (withNextNonce input) index = uintAt width input index := by
    rw [uintAt, uintAt, hword index hindex]
  have hnumbers := Decimal.toString_injective (hsame ?_)
  · rw [uintAt_withNextNonce hcomplete] at hnumbers
    omega
  · intro same hmem hname
    simp only [permitFunction, List.mem_cons, List.not_mem_nil, or_false] at hmem
    obtain rfl | rfl | rfl | rfl | rfl | rfl | rfl | rfl := hmem
    · dsimp only
      rw [haddress 0 (by decide)]
    · dsimp only
      rw [haddress 1 (by decide)]
    · dsimp only
      rw [huint 160 2 (by decide)]
    · dsimp only
      rw [huint 48 3 (by decide)]
    · exact absurd rfl hname
    · dsimp only
      rw [haddress 5 (by decide)]
    · dsimp only
      rw [hword 6 (by decide)]
    · dsimp only
      rw [bytesAt_withNextNonce hcomplete]

end Permits

/-! ## The selector and the display -/

section Selectors

variable {formats : Formats} {chainId : ChainId} {registry : Option ContractRegistry}

/-- Approvals meet the condition for every input: the display of one appears behind
its selector only, for complete arguments, and shows each of them. -/
theorem shownOnlyFor_approve (input : Bytes) :
    (approveFunction formats chainId registry).ShownOnlyFor formats chainId registry input := by
  intro field hfield hlabel
  obtain ⟨call, hcall, rfl⟩ | ⟨call, -, rfl⟩ | ⟨params, -, -, -, rfl⟩ | ⟨call, -, rfl⟩ :=
    visualizeTxCommands_cases formats chainId registry hfield
  · have hcomplete : IsApprove input := (abiDecode_approve_isSome input).1 (by rw [hcall]; rfl)
    exact ⟨hcomplete.1, hcomplete, shows_approve hcomplete hfield⟩
  · simp [approveFunction] at hlabel
  · simp [approveFunction] at hlabel
  · simp [approveFunction] at hlabel

/-- Transfers meet the condition for every input, as the fallback that takes a long
input for something else has the label of permits. -/
theorem shownOnlyFor_transfer (input : Bytes) :
    (transferFromFunction formats chainId registry).ShownOnlyFor formats chainId registry
      input := by
  intro field hfield hlabel
  obtain ⟨call, -, rfl⟩ | ⟨call, -, rfl⟩ | ⟨params, -, -, -, rfl⟩ | ⟨call, hcall, rfl⟩ :=
    visualizeTxCommands_cases formats chainId registry hfield
  · simp [transferFromFunction] at hlabel
  · simp [transferFromFunction] at hlabel
  · simp [transferFromFunction] at hlabel
  · have hcomplete : IsTransferFrom input :=
      (abiDecode_transferFrom_isSome input).1 (by rw [hcall]; rfl)
    exact ⟨hcomplete.1, hcomplete, shows_transferFrom hcomplete hfield⟩

/-- Neither a complete permit nor the selector-free layout is reached. -/
theorem label_ne_permit {input : Bytes} (hread : ReadBySelector input)
    {field : SignablePayloadField}
    (hfield : visualizeTxCommands formats chainId registry input = some field) :
    field.common.label ≠ "Permit2 Permit" := by
  obtain ⟨call, -, rfl⟩ | ⟨call, hcall, rfl⟩ | ⟨params, happrove, -, hcustom, rfl⟩ |
      ⟨call, -, rfl⟩ := visualizeTxCommands_cases formats chainId registry hfield
  · simp
  · have hcomplete := (abiDecode_permit_isSome input).1 (by rw [hcall]; rfl)
    have hlong : 224 + 32 ≤ (input.drop 4).length := hcomplete.2.1
    rw [List.length_drop] at hlong
    obtain hshort | hselector := hread
    · omega
    · exact absurd hcomplete.1 (not_starts_of_ne hselector rfl (by decide))
  · have hlong := (decodeCustomPermitParams_isSome input).1 (by rw [hcustom]; rfl)
    obtain hshort | hselector := hread
    · omega
    · have hsome := (abiDecode_approve_isSome input).2 ⟨hselector, by omega⟩
      rw [happrove] at hsome
      cases hsome
  · simp

/-- An input that is read by its selector, which is neither the one of approvals nor
that of transfers, has no display. -/
theorem visualizeTxCommands_of_other {input : Bytes} (hread : ReadBySelector input)
    (happrove : ¬ ApproveCall.selector <+: input)
    (htransfer : ¬ TransferFromCall.selector <+: input) :
    visualizeTxCommands formats chainId registry input = none := by
  rw [Option.eq_none_iff_forall_ne_some]
  intro field hfield
  have hlabel := label_ne_permit hread hfield
  obtain ⟨call, hcall, -⟩ | ⟨call, -, rfl⟩ | ⟨params, -, -, -, rfl⟩ | ⟨call, hcall, -⟩ :=
    visualizeTxCommands_cases formats chainId registry hfield
  · exact happrove (selector_of_decodeCall hcall)
  · exact hlabel rfl
  · exact hlabel rfl
  · exact htransfer (selector_of_decodeCall hcall)

/-- If what is shown names the function that is called, the input was not read
through the fallback, which takes any long input for a permit. -/
theorem readBySelector_of_faithful {input : Bytes}
    (hfaithful : SelectorFaithful formats chainId registry input) : ReadBySelector input := by
  by_contra hread
  rw [ReadBySelector, not_or, not_lt] at hread
  obtain ⟨hlength, happrove⟩ := hread
  by_cases hcomplete : CompletePermit input
  · have hfield : visualizeTxCommands formats chainId registry input = _ :=
      visualizeTxCommands_permit hcomplete
    exact not_shows_nonce hcomplete hfield (hfaithful.permit _ hfield rfl).2.2
  · have hpermit : PermitCall.abiDecode input = none := by
      rw [← Option.not_isSome_iff_eq_none, abiDecode_permit_isSome]
      exact hcomplete
    obtain ⟨params, -, hshown⟩ :=
      visualizeTxCommands_of_long formats chainId registry hlength (if_neg happrove) hpermit
    exact hcomplete (hfaithful.permit _ hshown rfl).2.1

end Selectors

/-- The visualizer keeps to the selector and shows all arguments exactly where neither
the selector-free decoder nor that of a permit is reached. -/
theorem selectorFaithful_iff (formats : Formats) (chainId : ChainId)
    (registry : Option ContractRegistry) (input : Bytes) :
    SelectorFaithful formats chainId registry input ↔ ReadBySelector input := by
  constructor
  · exact readBySelector_of_faithful
  · intro hread
    refine ⟨shownOnlyFor_approve input, ?_, shownOnlyFor_transfer input,
      fun happrove _ htransfer => visualizeTxCommands_of_other hread happrove htransfer, ?_⟩
    · intro field hfield hlabel
      exact absurd hlabel (label_ne_permit hread hfield)
    · rintro head extra rfl hhead
      obtain ⟨call, hcall⟩ :=
        Option.isSome_iff_exists.1 ((abiDecode_transferFrom_isSome head).2 hhead)
      have happended := words_transferFromCall.decodeCall_append hcall extra
      have hlength : (head ++ extra).length < 192 := by
        obtain hshort | happrove := hread
        · exact hshort
        · exact absurd happrove
            (not_starts_of_ne (selector_of_decodeCall happended) rfl (by decide))
      exact ⟨_, visualizeTxCommands_of_transferFrom formats chainId registry hlength happended,
        rfl⟩

/-- Sixty zero bytes behind a transfer turn what is shown into a permit. -/
theorem transfer_shown_as_permit :
    (visualizeTxCommands plainFormats 1 none transferCalldata).map (·.common.label) =
        some "Permit2 Transfer" ∧
      (visualizeTxCommands plainFormats 1 none (transferCalldata ++ List.replicate 60 0)).map
          (·.common.label) = some "Permit2 Permit" ∧
      ¬ SelectorFaithful plainFormats 1 none (transferCalldata ++ List.replicate 60 0) := by
  refine ⟨by decide +kernel, by decide +kernel, fun hfaithful => ?_⟩
  have hread : ¬ ReadBySelector (transferCalldata ++ List.replicate 60 0) := by decide +kernel
  exact hread (readBySelector_of_faithful hfaithful)

end VisualSignParser.Ethereum.Permit2
