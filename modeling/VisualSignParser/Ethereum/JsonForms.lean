import VisualSignParser.Ethereum.EthJson

/-!
# JSON forms of a transaction

A JSON form spells the fields of a transaction and may leave out the ones that have
their default.  Such a form is read as the transaction it stands for, unless its
calldata is over the limit.  One form is written out as text, which reads back and
is hardly longer than the calldata.
-/

namespace VisualSignParser.Ethereum

open VisualSignParser.Framing
open VisualSignParser.Json
open VisualSignParser.Outcome
open VisualSignParser.VisualSign

/-! ## Texts of fields -/

/-- A number behind a marker, in digits of either case and with any number of
zeros in front. -/
def SpellsNumber (value : ℕ) (text : String) : Prop :=
  ∃ hex, Hex.splitHexMarker text = some hex ∧ hex ≠ "" ∧
    Radix.digitsValue 16 0 hex.toList = some value

def SpellsBytes (bytes : Bytes) (text : String) : Prop :=
  ∃ hex, Hex.splitHexMarker text = some hex ∧ Hex.decode (utf8Bytes hex) = .ok bytes

/-- A field may be left out when it has its default. -/
def Spelled (isDefault : Prop) (spells : String → Prop) : Option String → Prop
  | none => isDefault
  | some text => spells text

/-- What is relied on in other crates: an address is read from its digits, and a
number below the bound of the type is read from its digits. -/
structure JsonCrates.Reads (crates : JsonCrates) (formats : Formats) : Prop where
  parseAddress_encode : ∀ address : Address,
    formats.parseAddress ("0x" ++ Hex.encode address.val) = some address
  parseU256_of_value : ∀ hex value, hex ≠ "" →
    Radix.digitsValue 16 0 hex.toList = some value → value < 2 ^ 256 →
      crates.parseU256 hex = .ok (BitVec.ofNat 256 value)

section Fields

variable {A : Type}

theorem requireHexMarker_of_split {text hex : String} (hsplit : Hex.splitHexMarker text = some hex) :
    requireHexMarker text = .ok hex := by
  rw [requireHexMarker, hsplit]
  rfl

/-- A text that spells a number, with leading zeros or without, is read as that
number if the digits behind the marker are. -/
theorem parseHexInt_of_spells {label : String} {read : String → Except String A} {value : ℕ}
    {result : A} {text : String} (hspells : SpellsNumber value text)
    (hread : ∀ hex, hex ≠ "" → Radix.digitsValue 16 0 hex.toList = some value →
      read hex = .ok result) :
    parseHexInt label read text = .ok result := by
  obtain ⟨hex, hsplit, hnonempty, hvalue⟩ := hspells
  have hempty : ¬ hex.isEmpty = true := by rwa [String.isEmpty_iff]
  rw [parseHexInt, requireHexMarker_of_split hsplit]
  change (if hex.isEmpty = true then _ else _) = _
  rw [if_neg hempty, hread hex hnonempty hvalue]
  rfl

/-- Digits of a number below the bound are read as that number; the reader counts
the value and not the digits, so zeros in front do no harm. -/
theorem fromHexDigits_of_value {bits value : ℕ} {hex : String} (hnonempty : hex ≠ "")
    (hvalue : Radix.digitsValue 16 0 hex.toList = some value) (hfits : value < 2 ^ bits) :
    fromHexDigits bits hex = .ok value := by
  have htext : hex.toList ≠ [] := by
    intro hnil
    exact hnonempty (String.toList_eq_nil_iff.1 hnil)
  rw [fromHexDigits, Radix.fromStrRadix_of_value (by omega) htext hvalue hfits]
  rfl

theorem parseHexU64_of_spells {value : UInt64} {text : String}
    (hspells : SpellsNumber value.toNat text) : parseHexU64 text = .ok value := by
  apply parseHexInt_of_spells hspells
  intro hex hnonempty hvalue
  rw [fromHexDigits_of_value hnonempty hvalue (UInt64.toNat_lt value)]
  exact congrArg Except.ok UInt64.ofNat_toNat

theorem parseHexU128_of_spells {value : BitVec 128} {text : String}
    (hspells : SpellsNumber value.toNat text) : parseHexU128 text = .ok value := by
  apply parseHexInt_of_spells hspells
  intro hex hnonempty hvalue
  rw [fromHexDigits_of_value hnonempty hvalue value.isLt]
  exact congrArg Except.ok (BitVec.ofNat_toNat 128 value)

theorem parseHexU256_of_spells {crates : JsonCrates} {formats : Formats}
    (hreads : crates.Reads formats) {value : BitVec 256} {text : String}
    (hspells : SpellsNumber value.toNat text) : parseHexU256 crates text = .ok value := by
  apply parseHexInt_of_spells hspells
  intro hex hnonempty hvalue
  rw [hreads.parseU256_of_value hex _ hnonempty hvalue value.isLt, BitVec.ofNat_toNat]
  rfl

/-- The size limit is the only way in which digits are refused. -/
theorem parseHexBytes_of_spells {rlp : AlloyRlp} {bytes : Bytes} {text : String}
    (hspells : SpellsBytes bytes text) :
    if bytes.length * 2 ≤ maxHexDataLen then parseHexBytes rlp text = .ok bytes
    else ∃ error, parseHexBytes rlp text = .error error := by
  obtain ⟨hex, hsplit, hdecode⟩ := hspells
  have hlength := Hex.length_of_decode hdecode
  rw [parseHexBytes, requireHexMarker_of_split hsplit]
  by_cases hempty : hex = ""
  · subst hempty
    cases hdecode
    rfl
  · have hnot : ¬ hex.isEmpty = true := by rwa [String.isEmpty_iff]
    split_ifs with hsize
    · have hfits : ¬ maxHexDataLen < (utf8Bytes hex).length := by omega
      change (if hex.isEmpty = true then _ else if _ then _ else _) = _
      rw [if_neg hnot, if_neg hfits, hdecode]
      rfl
    · have hlarge : maxHexDataLen < (utf8Bytes hex).length := by omega
      exact ⟨_, (if_neg hnot).trans (if_pos hlarge)⟩

theorem fieldContext_ok (field : String) (value : A) : fieldContext field (.ok value) = .ok value :=
  rfl

/-- An absent text stands for the default, and a text that spells the value is read
as the value, so both forms give one result. -/
theorem readOrDefault_of_spelled {field : String} {parse : String → Except EthereumParserError A}
    {default value : A} {spells : String → Prop} {text : Option String}
    (hspelled : Spelled (value = default) spells text)
    (hparse : ∀ text, spells text → parse text = .ok value) :
    readOrDefault field parse default text = .ok value := by
  cases text with
  | none => exact congrArg Except.ok hspelled.symm
  | some text =>
      rw [readOrDefault, Option.mapM_some, hparse text hspelled]
      rfl

end Fields

/-! ## Transactions that JSON can express -/

/-- No access list, a chain and gas that are not zero, and a priority fee within
the maximum. -/
structure SupportedTransaction.Expressible (tx : SupportedTransaction) : Prop where
  chainId : ∃ chainId, tx.chainId = some chainId ∧ chainId ≠ 0
  gasLimit : tx.gasLimit ≠ 0
  accessList : ∀ own, tx = .eip1559 own → own.accessList = []
  priorityFee : ∀ own, tx = .eip1559 own → own.maxPriorityFeePerGas ≤ own.maxFeePerGas

section Accepted

variable {formats : Formats} {crates : JsonCrates} {rlp : AlloyRlp} {form : EthJsonTransaction}

/-- A gas limit of zero is refused, so a gas limit that is read off a form is never
zero. -/
theorem ne_zero_of_readGasLimit {text : Option String} {gasLimit : UInt64}
    (hread : readGasLimit text = .ok gasLimit) : gasLimit ≠ 0 := by
  cases text with
  | none =>
      rw [← Except.ok.inj hread]
      decide
  | some text =>
      obtain ⟨parsed, -, hparsed⟩ := bind_eq_ok.1 hread
      split_ifs at hparsed with hzero
      rw [← pure_eq_ok.1 hparsed]
      exact hzero

/-- A form needs a chain, and one that is zero is refused, so a chain id that is
read is never zero. -/
theorem ne_zero_of_readChainId {text : Option String} {chainId : ChainId}
    (hread : readChainId text = .ok chainId) : chainId ≠ 0 := by
  cases text with
  | none => cases hread
  | some text =>
      obtain ⟨parsed, -, hparsed⟩ := bind_eq_ok.1 hread
      split_ifs at hparsed with hzero
      rw [← pure_eq_ok.1 hparsed]
      exact hzero

/-- What is built from the fees of a form is a transaction that some form expresses:
it has a chain, a gas limit and the fees of its kind. -/
theorem expressible_of_buildWithFees {destination : TxKind} {value : BitVec 256}
    {nonce gasLimit : UInt64} {chainId : ChainId} {input : Bytes} {tx : TypedTransaction}
    (hgas : gasLimit ≠ 0) (hchain : chainId ≠ 0)
    (hbuild : buildWithFees form destination value nonce gasLimit chainId input = .ok tx) :
    ∃ supported, tx = .supported supported ∧ supported.Expressible := by
  unfold buildWithFees at hbuild
  cases hfee : form.maxFeePerGas with
  | none =>
      rw [hfee] at hbuild
      obtain ⟨gasPrice, -, hbuild⟩ := bind_eq_ok.1 hbuild
      refine ⟨_, (pure_eq_ok.1 hbuild).symm, ⟨chainId, rfl, hchain⟩, hgas, ?_, ?_⟩
      · intro own hown
        cases hown
      · intro own hown
        cases hown
  | some fee =>
      rw [hfee] at hbuild
      obtain ⟨maxFee, -, hbuild⟩ := bind_eq_ok.1 hbuild
      obtain ⟨priorityFee, -, hbuild⟩ := bind_eq_ok.1 hbuild
      split_ifs at hbuild with hover
      refine ⟨_, (pure_eq_ok.1 hbuild).symm, ⟨chainId, rfl, hchain⟩, hgas, ?_, ?_⟩
      · intro own hown
        cases hown
        rfl
      · intro own hown
        cases hown
        exact BitVec.not_lt.1 hover

/-- Nothing else is ever read from JSON. -/
theorem expressible_of_buildTransaction {tx : TypedTransaction}
    (hbuild : buildTransaction formats crates rlp form = .ok tx) :
    ∃ supported, tx = .supported supported ∧ supported.Expressible := by
  unfold buildTransaction at hbuild
  obtain ⟨-, -, hbuild⟩ := bind_eq_ok.1 hbuild
  obtain ⟨-, -, hbuild⟩ := bind_eq_ok.1 hbuild
  obtain ⟨destination, -, hbuild⟩ := bind_eq_ok.1 hbuild
  obtain ⟨value, -, hbuild⟩ := bind_eq_ok.1 hbuild
  obtain ⟨nonce, -, hbuild⟩ := bind_eq_ok.1 hbuild
  obtain ⟨gasLimit, hgas, hbuild⟩ := bind_eq_ok.1 hbuild
  obtain ⟨chainId, hchain, hbuild⟩ := bind_eq_ok.1 hbuild
  obtain ⟨input, -, hbuild⟩ := bind_eq_ok.1 hbuild
  exact expressible_of_buildWithFees (ne_zero_of_readGasLimit hgas)
    (ne_zero_of_readChainId hchain) hbuild

end Accepted

/-- The fee fields that choose the type of a transaction. -/
def SpellsFees (form : EthJsonTransaction) : SupportedTransaction → Prop
  | .legacy tx => form.maxFeePerGas = none ∧ form.maxPriorityFeePerGas = none ∧
      Spelled (tx.gasPrice = 0) (SpellsNumber tx.gasPrice.toNat) form.gasPrice
  | .eip1559 tx => form.gasPrice = none ∧
      (∃ text, form.maxFeePerGas = some text ∧ SpellsNumber tx.maxFeePerGas.toNat text) ∧
      Spelled (tx.maxPriorityFeePerGas = 0) (SpellsNumber tx.maxPriorityFeePerGas.toNat)
        form.maxPriorityFeePerGas

/-- The JSON fields stand for the transaction.  The sender is not part of it. -/
structure Spells (formats : Formats) (form : EthJsonTransaction) (tx : SupportedTransaction) :
    Prop where
  sender : ∀ text, form.sender = some text → ∃ address, formats.parseAddress text = some address
  destination : Spelled (tx.destination = .create)
    (fun text => ∃ address, formats.parseAddress text = some address ∧
      tx.destination = .call address) form.destination
  value : Spelled (tx.value = 0) (SpellsNumber tx.value.toNat) form.value
  nonce : Spelled (tx.nonce = 0) (SpellsNumber tx.nonce.toNat) form.nonce
  gas : Spelled (tx.gasLimit = defaultGasLimit) (SpellsNumber tx.gasLimit.toNat) form.gas
  chainId : ∃ text chainId, form.chainId = some text ∧ tx.chainId = some chainId ∧
    SpellsNumber chainId.toNat text
  data : Spelled (tx.input = []) (SpellsBytes tx.input) form.data
  fees : SpellsFees form tx

section Build

variable {formats : Formats} {crates : JsonCrates} {rlp : AlloyRlp} {form : EthJsonTransaction}
  {tx : SupportedTransaction}

theorem checkSender_of_spells (hspells : Spells formats form tx) :
    checkSender formats crates form.sender = .ok () := by
  cases hsender : form.sender with
  | none => rfl
  | some text =>
      obtain ⟨address, haddress⟩ := hspells.sender text hsender
      rw [checkSender, parseAddress, haddress]
      rfl

theorem checkFeeFields_of_spells (hspells : Spells formats form tx) : checkFeeFields form = .ok () := by
  have hfees := hspells.fees
  cases tx with
  | legacy tx =>
      obtain ⟨hmax, hpriority, -⟩ := hfees
      simp [checkFeeFields, hmax, hpriority]
  | eip1559 tx =>
      obtain ⟨hprice, ⟨text, hmax, -⟩, -⟩ := hfees
      simp [checkFeeFields, hprice, hmax]

/-- A form that spells a transaction has its destination: an address in any casing
for a call, and none at all for a creation. -/
theorem readDestination_of_spells (hspells : Spells formats form tx) :
    readDestination formats crates form.destination = .ok tx.destination := by
  have hdestination := hspells.destination
  cases htext : form.destination with
  | none =>
      rw [htext] at hdestination
      exact congrArg Except.ok hdestination.symm
  | some text =>
      rw [htext] at hdestination
      obtain ⟨address, haddress, hcall⟩ := hdestination
      rw [readDestination, parseAddress, haddress, hcall]
      rfl

theorem readGasLimit_of_spells (hspells : Spells formats form tx) (hgas : tx.gasLimit ≠ 0) :
    readGasLimit form.gas = .ok tx.gasLimit := by
  have hlimit := hspells.gas
  cases htext : form.gas with
  | none =>
      rw [htext] at hlimit
      exact congrArg Except.ok hlimit.symm
  | some text =>
      rw [htext] at hlimit
      rw [readGasLimit, parseHexU64_of_spells hlimit]
      exact if_neg hgas

theorem readChainId_of_spells {chainId : ChainId} (hspells : Spells formats form tx)
    (hchain : tx.chainId = some chainId) (hnonzero : chainId ≠ 0) :
    readChainId form.chainId = .ok chainId := by
  obtain ⟨text, spelled, htext, hspelled, hnumber⟩ := hspells.chainId
  have hsame : spelled = chainId := Option.some.inj (hspelled.symm.trans hchain)
  subst hsame
  rw [htext, readChainId, parseHexU64_of_spells hnumber]
  exact if_neg hnonzero

/-- The fees that a form spells select the kind of the transaction, and the
transaction that is built is the one that was spelled. -/
theorem buildWithFees_of_spells {chainId : ChainId} (hspells : Spells formats form tx)
    (hexpressible : tx.Expressible) (hchain : tx.chainId = some chainId) :
    buildWithFees form tx.destination tx.value tx.nonce tx.gasLimit chainId tx.input =
      .ok (.supported tx) := by
  have hfees := hspells.fees
  cases tx with
  | legacy tx =>
      obtain ⟨hmax, -, hprice⟩ := hfees
      have hread : readOrDefault "gasPrice" parseHexU128 0 form.gasPrice = .ok tx.gasPrice :=
        readOrDefault_of_spelled hprice fun text => parseHexU128_of_spells
      have hown : tx.chainId = some chainId := hchain
      simp only [buildWithFees, hmax, hread]
      rw [← hown]
      rfl
  | eip1559 tx =>
      obtain ⟨-, ⟨text, hmax, hnumber⟩, hpriority⟩ := hfees
      have hread : readOrDefault "maxPriorityFeePerGas" parseHexU128 0
          form.maxPriorityFeePerGas = .ok tx.maxPriorityFeePerGas :=
        readOrDefault_of_spelled hpriority fun text => parseHexU128_of_spells
      have hown : tx.chainId = chainId := Option.some.inj hchain
      have hle : ¬ tx.maxFeePerGas < tx.maxPriorityFeePerGas := by
        rw [BitVec.not_lt]
        exact hexpressible.priorityFee tx rfl
      have haccess := hexpressible.accessList tx rfl
      simp only [buildWithFees, hmax, parseHexU128_of_spells hnumber, hread, fieldContext_ok]
      change (if _ then _ else _) = _
      rw [if_neg hle, ← hown, ← haccess]
      rfl

/-- Only the calldata is left to fail. -/
theorem buildTransaction_eq_of_spells (hreads : crates.Reads formats)
    (hexpressible : tx.Expressible) (hspells : Spells formats form tx) :
    ∃ chainId, tx.chainId = some chainId ∧
      buildTransaction formats crates rlp form =
        (readOrDefault "data" (parseHexBytes rlp) [] form.data >>=
          buildWithFees form tx.destination tx.value tx.nonce tx.gasLimit chainId) := by
  obtain ⟨chainId, hchain, hnonzero⟩ := hexpressible.chainId
  have hvalue : readOrDefault "value" (parseHexU256 crates) 0 form.value = .ok tx.value :=
    readOrDefault_of_spelled hspells.value fun text => parseHexU256_of_spells hreads
  have hnonce : readOrDefault "nonce" parseHexU64 0 form.nonce = .ok tx.nonce :=
    readOrDefault_of_spelled hspells.nonce fun text => parseHexU64_of_spells
  refine ⟨chainId, hchain, ?_⟩
  rw [buildTransaction, checkSender_of_spells hspells, checkFeeFields_of_spells hspells,
    readDestination_of_spells hspells, hvalue, hnonce,
    readGasLimit_of_spells hspells hexpressible.gasLimit,
    readChainId_of_spells hspells hchain hnonzero]
  rfl

/-- A form is read as the transaction it stands for unless its calldata is over
the limit. -/
theorem buildTransaction_of_spells (hreads : crates.Reads formats) (hexpressible : tx.Expressible)
    (hspells : Spells formats form tx) :
    if tx.input.length * 2 ≤ maxHexDataLen then
      buildTransaction formats crates rlp form = .ok (.supported tx)
    else ∃ error, buildTransaction formats crates rlp form = .error error := by
  obtain ⟨chainId, hchain, hbuild⟩ := @buildTransaction_eq_of_spells _ _ rlp _ _ hreads hexpressible
    hspells
  have hbuilt := buildWithFees_of_spells hspells hexpressible hchain
  have hdata := hspells.data
  rw [hbuild]
  cases htext : form.data with
  | none =>
      rw [htext] at hdata
      have hinput : tx.input = [] := hdata
      rw [if_pos (by simp [hinput]), ← hbuilt, hinput]
      rfl
  | some text =>
      rw [htext] at hdata
      have hbytes := @parseHexBytes_of_spells rlp _ _ hdata
      split_ifs at hbytes ⊢ with hsize
      · rw [readOrDefault, Option.mapM_some, hbytes]
        exact hbuilt
      · obtain ⟨error, herror⟩ := hbytes
        rw [readOrDefault, Option.mapM_some, herror]
        exact ⟨_, rfl⟩

end Build

/-! ## The JSON text of a transaction -/

def hexNumber (value : ℕ) : String := "0x" ++ String.ofList (Nat.toDigits 16 value)

/-- The fields as they are written by default. -/
def SupportedTransaction.jsonForm (tx : SupportedTransaction) : EthJsonTransaction where
  sender := none
  destination := tx.toAddress.map fun address => "0x" ++ Hex.encode address.val
  data := some ("0x" ++ Hex.encode tx.input)
  value := some (hexNumber tx.value.toNat)
  nonce := some (hexNumber tx.nonce.toNat)
  gas := some (hexNumber tx.gasLimit.toNat)
  gasPrice := match tx with
    | .legacy tx => some (hexNumber tx.gasPrice.toNat)
    | .eip1559 _ => none
  maxFeePerGas := match tx with
    | .legacy _ => none
    | .eip1559 tx => some (hexNumber tx.maxFeePerGas.toNat)
  maxPriorityFeePerGas := match tx with
    | .legacy _ => none
    | .eip1559 tx => some (hexNumber tx.maxPriorityFeePerGas.toNat)
  chainId := tx.chainId.map fun chainId => hexNumber chainId.toNat

/-- A field that is there. -/
def fieldMember (key : String) (text : Option String) : List (String × Value) :=
  (text.map fun text => (key, Value.string text)).toList

def EthJsonTransaction.members (form : EthJsonTransaction) : List (String × Value) :=
  fieldMember "from" form.sender ++ fieldMember "to" form.destination ++
    fieldMember "data" form.data ++ fieldMember "value" form.value ++
    fieldMember "nonce" form.nonce ++ fieldMember "gas" form.gas ++
    fieldMember "gasPrice" form.gasPrice ++ fieldMember "maxFeePerGas" form.maxFeePerGas ++
    fieldMember "maxPriorityFeePerGas" form.maxPriorityFeePerGas ++
    fieldMember "chainId" form.chainId

def EthJsonTransaction.toJson (form : EthJsonTransaction) : String :=
  String.ofList (Value.object (("type", .string "transaction") :: form.members)).render

theorem spellsNumber_hexNumber (value : ℕ) : SpellsNumber value (hexNumber value) := by
  refine ⟨_, Hex.splitHexMarker_append _, ?_, ?_⟩
  · intro hempty
    have hnil := congrArg String.toList hempty
    rw [String.toList_ofList] at hnil
    exact absurd hnil (List.ne_nil_of_length_pos Nat.length_toDigits_pos)
  · rw [String.toList_ofList]
    exact Radix.digitsValue_toDigits value

/-- The form that is written for an expressible transaction spells it, so at least
one form leads to every such transaction. -/
theorem spells_jsonForm {formats : Formats} {crates : JsonCrates} (hreads : crates.Reads formats)
    {tx : SupportedTransaction} (hexpressible : tx.Expressible) :
    Spells formats tx.jsonForm tx where
  sender text hsender := by cases hsender
  destination := by
    simp only [SupportedTransaction.jsonForm, SupportedTransaction.toAddress]
    cases hdestination : tx.destination with
    | create => rfl
    | call address => exact ⟨address, hreads.parseAddress_encode address, rfl⟩
  value := spellsNumber_hexNumber _
  nonce := spellsNumber_hexNumber _
  gas := spellsNumber_hexNumber _
  chainId := by
    obtain ⟨chainId, hchain, -⟩ := hexpressible.chainId
    refine ⟨_, chainId, ?_, hchain, spellsNumber_hexNumber _⟩
    simp only [SupportedTransaction.jsonForm, hchain]
    rfl
  data := ⟨_, Hex.splitHexMarker_append _, Hex.decode_encode _⟩
  fees := by
    cases tx with
    | legacy tx => exact ⟨rfl, rfl, spellsNumber_hexNumber _⟩
    | eip1559 tx => exact ⟨rfl, ⟨_, rfl, spellsNumber_hexNumber _⟩, spellsNumber_hexNumber _⟩

/-! ### Reading it back -/

theorem filter_fieldMember (key other : String) (text : Option String) :
    ((fieldMember key text).filter fun member => member.1 = other) =
      if key = other then fieldMember key text else [] := by
  cases text with
  | none => simp [fieldMember]
  | some text =>
      by_cases hkey : key = other
      · simp [fieldMember, hkey]
      · simp [fieldMember, hkey]

/-- The reader of a member sees only the entries under its key, which are none for
an absent text and one for a text. -/
theorem optionalMember_of_filter {members : List (String × Value)} {key : String}
    {text : Option String}
    (hfilter : (members.filter fun member => member.1 = key) = fieldMember key text) :
    optionalMember key readString members = some text := by
  rw [optionalMember, OrderedMap.uniqueEntry, hfilter]
  cases text with
  | none => rfl
  | some text => rfl

theorem mem_fieldMember {key : String} {text : Option String} {member : String × Value} :
    member ∈ fieldMember key text ↔ ∃ own, text = some own ∧ member = (key, .string own) := by
  cases text with
  | none => simp [fieldMember]
  | some text => simp [fieldMember]

/-- The members of a form have the keys of the format, and each of their values is a
text. -/
theorem key_of_mem_members {form : EthJsonTransaction} {member : String × Value}
    (hmember : member ∈ form.members) :
    member.1 ∈ EthJsonTransaction.keys ∧ ∃ text, member.2 = .string text := by
  have hfield {key : String} {text : Option String} (hkey : key ∈ EthJsonTransaction.keys)
      (hmem : member ∈ fieldMember key text) :
      member.1 ∈ EthJsonTransaction.keys ∧ ∃ text, member.2 = .string text := by
    obtain ⟨own, -, rfl⟩ := mem_fieldMember.1 hmem
    exact ⟨hkey, own, rfl⟩
  simp only [EthJsonTransaction.members, List.mem_append, or_assoc] at hmember
  rcases hmember with hmem | hmem | hmem | hmem | hmem | hmem | hmem | hmem | hmem | hmem
  all_goals exact hfield (by decide) hmem

/-- The members that a form is written with are read back as the form; absent
members stay absent. -/
theorem deserialize_members (form : EthJsonTransaction) :
    EthJsonTransaction.deserialize form.members = some form := by
  have hkeys : form.members.all (fun member => EthJsonTransaction.keys.contains member.1) = true := by
    rw [List.all_eq_true]
    intro member hmember
    exact List.contains_iff_mem.2 (key_of_mem_members hmember).1
  have hread (key : String) (text : Option String)
      (hfilter : (form.members.filter fun member => member.1 = key) = fieldMember key text) :
      optionalMember key readString form.members = some text := optionalMember_of_filter hfilter
  rw [EthJsonTransaction.deserialize, if_pos hkeys]
  rw [hread "from" form.sender (by simp [EthJsonTransaction.members, filter_fieldMember]),
    hread "to" form.destination (by simp [EthJsonTransaction.members, filter_fieldMember]),
    hread "data" form.data (by simp [EthJsonTransaction.members, filter_fieldMember]),
    hread "value" form.value (by simp [EthJsonTransaction.members, filter_fieldMember]),
    hread "nonce" form.nonce (by simp [EthJsonTransaction.members, filter_fieldMember]),
    hread "gas" form.gas (by simp [EthJsonTransaction.members, filter_fieldMember]),
    hread "gasPrice" form.gasPrice (by simp [EthJsonTransaction.members, filter_fieldMember]),
    hread "maxFeePerGas" form.maxFeePerGas
      (by simp [EthJsonTransaction.members, filter_fieldMember]),
    hread "maxPriorityFeePerGas" form.maxPriorityFeePerGas
      (by simp [EthJsonTransaction.members, filter_fieldMember]),
    hread "chainId" form.chainId (by simp [EthJsonTransaction.members, filter_fieldMember])]
  rfl

/-- A form that is written as JSON is recognised and parsed as the same form,
whatever texts its members hold. -/
theorem fromStr_toJson (form : EthJsonTransaction) :
    EthJsonInput.fromStr form.toJson = some (.transaction form) := by
  have hdepth : (Value.object (("type", .string "transaction") :: form.members)).depth < 128 := by
    have hmembers : membersDepth form.members ≤ 0 := by
      rw [membersDepth_le_iff]
      intro member hmember
      obtain ⟨-, text, htext⟩ := key_of_mem_members hmember
      rw [htext]
      exact le_rfl
    rw [Value.depth, membersDepth, Value.depth]
    omega
  have htype : ∀ member ∈ form.members, member.1 ≠ "type" := by
    intro member hmember heq
    have hkey := (key_of_mem_members hmember).1
    rw [heq] at hkey
    exact absurd hkey (by decide)
  have hnone : (form.members.filter fun member => member.1 = "type") = [] := by
    rw [List.filter_eq_nil_iff]
    intro member hmember
    simpa using htype member hmember
  have hall : (form.members.filter fun member => member.1 ≠ "type") = form.members := by
    rw [List.filter_eq_self]
    intro member hmember
    simpa using htype member hmember
  have htag : requiredMember "type" readString (("type", .string "transaction") :: form.members) =
      some "transaction" := by
    rw [requiredMember, OrderedMap.uniqueEntry, List.filter_cons, if_pos (by rfl), hnone]
    rfl
  rw [EthJsonInput.fromStr, EthJsonTransaction.toJson, String.toList_ofList,
    parseDocument_render _ (by omega), if_pos hdepth, Option.bind_some, EthJsonInput.deserialize,
    structMembers]
  simp only [Option.bind_eq_bind, Option.bind_some, htag, if_true, List.filter_cons]
  rw [hall, if_neg (by decide), deserialize_members]
  rfl

/-! ### Its size -/

/-- The number of bytes of a text. -/
def byteLength (chars : List Char) : ℕ := (utf8Bytes (String.ofList chars)).length

theorem byteLength_append (left right : List Char) :
    byteLength (left ++ right) = byteLength left + byteLength right := by
  rw [byteLength, utf8Bytes_ofList, List.flatMap_append, List.length_append, byteLength,
    utf8Bytes_ofList, byteLength, utf8Bytes_ofList]

theorem byteLength_cons (char : Char) (rest : List Char) :
    byteLength (char :: rest) = char.utf8Size + byteLength rest := by
  rw [byteLength, utf8Bytes_ofList, List.flatMap_cons, List.length_append,
    String.length_utf8EncodeChar, byteLength, utf8Bytes_ofList]

def memberSize (member : String × Value) : ℕ :=
  byteLength (renderString member.1) + byteLength member.2.render + 2

/-- The size of a rendered object is at most the sum of the sizes of its members and
one more byte. -/
theorem byteLength_renderMembers_le (members : List (String × Value)) :
    byteLength (renderMembers members) ≤ (members.map memberSize).sum + 1 := by
  have hcolon : ':'.utf8Size = 1 := rfl
  have hcomma : byteLength [','] = 1 := rfl
  induction members with
  | nil => exact le_rfl
  | cons member members ih =>
      have hseparator : byteLength (if members.isEmpty then [] else [',']) ≤ 1 := by
        split_ifs
        · exact Nat.zero_le 1
        · exact hcomma.le
      rw [renderMembers, byteLength_append, byteLength_append, byteLength_append, byteLength_cons,
        hcolon, List.map_cons, List.sum_cons, memberSize]
      omega

/-- A text whose characters stand in JSON as themselves, one byte each. -/
def IsPlain (text : List Char) : Prop :=
  ∀ char ∈ text, char.utf8Size = 1 ∧ escapeChar char = [char]

/-- A text without characters that need an escape is rendered as it is between two
quotes. -/
theorem byteLength_renderString_of_plain {text : List Char} (hplain : IsPlain text) :
    byteLength (renderString (String.ofList text)) = text.length + 2 := by
  have hbody : byteLength (text.flatMap escapeChar) = text.length := by
    induction text with
    | nil => rfl
    | cons char rest ih =>
        obtain ⟨hchar, hrest⟩ := List.forall_mem_cons.1 hplain
        rw [List.flatMap_cons, hchar.2, List.singleton_append, byteLength_cons, hchar.1,
          ih hrest, List.length_cons, Nat.add_comm]
  have hquote : '"'.utf8Size = 1 := rfl
  rw [renderString, String.toList_ofList, List.cons_append, byteLength_cons, byteLength_append,
    hbody, hquote]
  change 1 + (text.length + 1) = _
  omega

theorem isPlain_marked {digits : List Char} (hplain : IsPlain digits) :
    IsPlain ('0' :: 'x' :: digits) := by
  intro char hchar
  rcases List.mem_cons.1 hchar with rfl | hchar
  · exact ⟨rfl, rfl⟩
  · rcases List.mem_cons.1 hchar with rfl | hchar
    · exact ⟨rfl, rfl⟩
    · exact hplain char hchar

theorem byteLength_marked {digits : String} (hplain : IsPlain digits.toList) :
    byteLength (renderString ("0x" ++ digits)) = digits.toList.length + 4 := by
  have htext : "0x" ++ digits = String.ofList ('0' :: 'x' :: digits.toList) := by
    apply String.toList_inj.1
    rw [String.toList_append]
    exact String.toList_ofList.symm
  rw [htext, byteLength_renderString_of_plain (isPlain_marked hplain)]
  rfl

theorem isPlain_encode (bytes : Bytes) : IsPlain (Hex.encode bytes).toList := by
  have hdigit : ∀ value < 16, (Hex.digit value).utf8Size = 1 ∧
      escapeChar (Hex.digit value) = [Hex.digit value] := by decide
  intro char hchar
  rw [Hex.encode, String.toList_ofList, List.mem_flatMap] at hchar
  obtain ⟨byte, -, hchar⟩ := hchar
  have hbyte := UInt8.toNat_lt byte
  rcases List.mem_cons.1 hchar with rfl | hchar
  · exact hdigit _ (by omega)
  · rw [List.mem_singleton.1 hchar]
    exact hdigit _ (by omega)

theorem byteLength_hexBytes (bytes : Bytes) :
    byteLength (renderString ("0x" ++ Hex.encode bytes)) = bytes.length * 2 + 4 := by
  rw [byteLength_marked (isPlain_encode bytes), Hex.length_toList_encode]

/-- No number takes more digits than 256 bits do. -/
theorem byteLength_hexNumber_le {value bits : ℕ} (hvalue : value < 2 ^ bits) (hbits : bits ≤ 256) :
    byteLength (renderString (hexNumber value)) ≤ 68 := by
  have hplain : IsPlain (String.ofList (Nat.toDigits 16 value)).toList := by
    have hdigit : ∀ digit < 16, (Nat.digitChar digit).utf8Size = 1 ∧
        escapeChar (Nat.digitChar digit) = [Nat.digitChar digit] := by decide
    intro char hchar
    rw [String.toList_ofList] at hchar
    obtain ⟨digit, hlt, rfl⟩ := Radix.exists_digit_of_mem_toDigits hchar
    exact hdigit digit hlt
  have hwide : value < 16 ^ 64 :=
    calc
      value < 2 ^ bits := hvalue
      _ ≤ 2 ^ 256 := Nat.pow_le_pow_right (by omega) hbits
      _ = 16 ^ 64 := by norm_num
  have hlength : (Nat.toDigits 16 value).length ≤ 64 :=
    (Nat.length_toDigits_le_iff (by omega) (by omega)).2 hwide
  rw [hexNumber, byteLength_marked hplain, String.toList_ofList]
  omega

/-- A member is at most its text and twenty-four more bytes long, as no key of the
format is longer than its bound. -/
theorem sum_fieldMember_le {key : String} {text : Option String} {bound : ℕ}
    (hkey : key ∈ EthJsonTransaction.keys)
    (htext : ∀ own, text = some own → byteLength (renderString own) ≤ bound) :
    ((fieldMember key text).map memberSize).sum ≤ bound + 24 := by
  have hkeys : ∀ key ∈ EthJsonTransaction.keys, byteLength (renderString key) ≤ 22 := by
    decide +kernel
  cases text with
  | none => exact Nat.zero_le _
  | some text =>
      have hown := htext text rfl
      have hname := hkeys key hkey
      change memberSize (key, .string text) + 0 ≤ _
      rw [memberSize, Value.render]
      dsimp only
      omega

/-- A number of at most 256 bits takes at most ninety-two bytes together with its
key, the marker and the quotes. -/
theorem sum_numberMember_le {key : String} (hkey : key ∈ EthJsonTransaction.keys)
    {value bits : ℕ} (hvalue : value < 2 ^ bits) (hbits : bits ≤ 256) :
    ((fieldMember key (some (hexNumber value))).map memberSize).sum ≤ 92 := by
  apply sum_fieldMember_le hkey
  intro own hown
  cases hown
  exact byteLength_hexNumber_le hvalue hbits

theorem sum_absentMember_le (key : String) :
    ((fieldMember key none).map memberSize).sum ≤ 92 :=
  Nat.zero_le 92

/-- Everything but the calldata takes less than a kilobyte. -/
theorem length_toJson_jsonForm_le (tx : SupportedTransaction) :
    (utf8Bytes tx.jsonForm.toJson).length ≤ tx.input.length * 2 + 1000 := by
  have hsender : ((fieldMember "from" tx.jsonForm.sender).map memberSize).sum ≤ 92 :=
    sum_absentMember_le _
  have hdestination : ((fieldMember "to" tx.jsonForm.destination).map memberSize).sum ≤ 68 := by
    apply sum_fieldMember_le (by decide)
    intro own hown
    obtain ⟨address, -, rfl⟩ := Option.map_eq_some_iff.1 hown
    rw [byteLength_hexBytes, address.2]
  have hdata : ((fieldMember "data" tx.jsonForm.data).map memberSize).sum ≤
      tx.input.length * 2 + 4 + 24 := by
    apply sum_fieldMember_le (by decide)
    intro own hown
    cases hown
    exact (byteLength_hexBytes tx.input).le
  have hvalue : ((fieldMember "value" tx.jsonForm.value).map memberSize).sum ≤ 92 :=
    sum_numberMember_le (by decide) tx.value.isLt (by decide)
  have hnonce : ((fieldMember "nonce" tx.jsonForm.nonce).map memberSize).sum ≤ 92 :=
    sum_numberMember_le (by decide) (UInt64.toNat_lt tx.nonce) (by decide)
  have hgas : ((fieldMember "gas" tx.jsonForm.gas).map memberSize).sum ≤ 92 :=
    sum_numberMember_le (by decide) (UInt64.toNat_lt tx.gasLimit) (by decide)
  have hprice : ((fieldMember "gasPrice" tx.jsonForm.gasPrice).map memberSize).sum ≤ 92 := by
    cases tx with
    | legacy tx => exact sum_numberMember_le (by decide) tx.gasPrice.isLt (by decide)
    | eip1559 tx => exact sum_absentMember_le _
  have hmaxFee : ((fieldMember "maxFeePerGas" tx.jsonForm.maxFeePerGas).map memberSize).sum ≤
      92 := by
    cases tx with
    | legacy tx => exact sum_absentMember_le _
    | eip1559 tx => exact sum_numberMember_le (by decide) tx.maxFeePerGas.isLt (by decide)
  have hpriorityFee : ((fieldMember "maxPriorityFeePerGas"
      tx.jsonForm.maxPriorityFeePerGas).map memberSize).sum ≤ 92 := by
    cases tx with
    | legacy tx => exact sum_absentMember_le _
    | eip1559 tx => exact sum_numberMember_le (by decide) tx.maxPriorityFeePerGas.isLt (by decide)
  have hchainId : ((fieldMember "chainId" tx.jsonForm.chainId).map memberSize).sum ≤ 92 := by
    simp only [SupportedTransaction.jsonForm]
    cases tx.chainId with
    | none => exact sum_absentMember_le _
    | some chainId => exact sum_numberMember_le (by decide) (UInt64.toNat_lt chainId) (by decide)
  have hmembers := byteLength_renderMembers_le
    (("type", .string "transaction") :: tx.jsonForm.members)
  have htype : memberSize ("type", .string "transaction") = 21 := by decide +kernel
  have hbrace : '\x7b'.utf8Size = 1 := rfl
  simp only [List.map_cons, List.sum_cons, EthJsonTransaction.members, List.map_append,
    List.sum_append, htype] at hmembers
  change byteLength ('\x7b' :: renderMembers _) ≤ _
  rw [byteLength_cons, hbrace, EthJsonTransaction.members]
  omega

theorem isJsonInput_toJson (form : EthJsonTransaction) : isJsonInput form.toJson = true := by
  rw [isJsonInput, Text.trimStart, EthJsonTransaction.toJson, String.toList_ofList,
    String.toList_ofList, Value.render]
  rfl

end VisualSignParser.Ethereum
