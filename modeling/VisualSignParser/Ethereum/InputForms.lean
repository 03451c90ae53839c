import VisualSignParser.Ethereum.EnvelopeDisplay
import VisualSignParser.Ethereum.JsonForms

/-!
# Two forms of a transaction

A transaction may be written as bytes or as JSON.  The two forms are read by
different code and have different defaults; both are read as the transaction they
were written from, as long as the calldata is not longer than the JSON reader
takes.
-/

namespace VisualSignParser.Ethereum

open VisualSignParser.Framing
open VisualSignParser.Outcome
open VisualSignParser.VisualSign

/-! ## The bytes of a transaction -/

/-- The encoders of the other crate. -/
structure AlloyEncoders where
  encodeLegacy : TxLegacy → Bytes
  encodeEip1559 : TxEip1559 → Bytes

/-- An EIP-1559 transaction has its type in front. -/
def AlloyEncoders.encode (encoders : AlloyEncoders) : SupportedTransaction → Bytes
  | .legacy tx => encoders.encodeLegacy tx
  | .eip1559 tx => 2 :: encoders.encodeEip1559 tx

/-- The decoder inverts the encoder, and the first byte of a legacy transaction is
that of an RLP list. -/
def AlloyRlp.Inverts (rlp : AlloyRlp) (encoders : AlloyEncoders) : SupportedTransaction → Prop
  | .legacy tx => rlp.decodeLegacy (encoders.encodeLegacy tx) = .ok (tx, []) ∧
      ∃ flag rest, encoders.encodeLegacy tx = flag :: rest ∧ 0xc0 ≤ flag
  | .eip1559 tx => rlp.decodeEip1559 (encoders.encodeEip1559 tx) = .ok (tx, [])

section Bytes

variable {formats : Formats} {crates : JsonCrates} {rlp : AlloyRlp} {encoders : AlloyEncoders}
  {tx : SupportedTransaction}

theorem decodeUnsigned_encode (hinverts : rlp.Inverts encoders tx) :
    decodeUnsignedTransactionBytes rlp (encoders.encode tx) = .ok (.supported tx) := by
  cases tx with
  | legacy tx =>
      obtain ⟨hdecode, flag, rest, hbytes, hflag⟩ := hinverts
      have htyped : ¬ (flag = 0 ∨ (0x7f < flag ∧ flag < 0xc0)) := by
        rintro (rfl | ⟨-, hlt⟩)
        · exact absurd hflag (by decide)
        · exact UInt8.not_lt.2 hflag hlt
      have hlist : ¬ flag ≤ 0x7f := by
        intro hle
        exact absurd (UInt8.le_trans hflag hle) (by decide)
      rw [hbytes] at hdecode
      rw [AlloyEncoders.encode, hbytes, decodeUnsignedTransactionBytes, if_neg htyped,
        if_neg hlist, hdecode]
      rfl
  | eip1559 tx =>
      have hdecode : rlp.decodeEip1559 (encoders.encodeEip1559 tx) = .ok (tx, []) := hinverts
      rw [AlloyEncoders.encode, decodeUnsignedTransactionBytes, if_neg (by decide),
        if_pos (by decide)]
      simp only [TxType.ofByte, hdecode]
      rfl

theorem mem_of_isJsonInput {data : String} (hjson : isJsonInput data = true) :
    '\x7b' ∈ data.toList := by
  have hhead : (Text.trimStart data).toList.head? = some '\x7b' := by
    simpa [isJsonInput] using hjson
  rw [Text.trimStart, String.toList_ofList] at hhead
  exact (List.dropWhile_sublist _).subset (List.mem_of_head? hhead)

/-- A brace stands in no text of bytes. -/
theorem isJsonInput_eq_false_of_rawBytes {raw : String} {bytes : Bytes}
    (hraw : rawBytes rlp raw = .ok bytes) : isJsonInput raw = false := by
  apply Bool.eq_false_of_not_eq_true
  intro hjson
  have hbrace := mem_of_isJsonInput hjson
  unfold rawBytes at hraw
  cases hdetect : Hex.SupportedEncodings.detect raw with
  | hex =>
      have hdigits : (Hex.stripHexMarker raw).toList.all Hex.isHexDigit = true := by
        unfold Hex.SupportedEncodings.detect at hdetect
        split_ifs at hdetect with hall
        exact hall
      rcases Hex.mem_stripHexMarker hbrace with hmem | hmem
      · exact absurd (List.all_eq_true.1 hdigits _ hmem) (by decide)
      · exact absurd hmem (by decide)
  | base64 =>
      rw [hdetect] at hraw
      have hdecode := okOr_eq_ok.1 hraw
      have hsymbol := Base64.isSymbol_of_decode hdecode _ hbrace
      exact absurd hsymbol (by unfold Base64.IsSymbol; decide)

theorem decodeTransaction_of_rawBytes (hinverts : rlp.Inverts encoders tx) {raw : String}
    (hraw : rawBytes rlp raw = .ok (encoders.encode tx)) (allowSigned : Bool) :
    decodeTransaction rlp raw allowSigned = .ok (.supported tx) := by
  rw [decodeTransaction, hraw]
  change decodeTransactionBytes rlp (encoders.encode tx) allowSigned = _
  rw [decodeTransactionBytes, decodeUnsigned_encode hinverts]

theorem fromString_of_rawBytes (hinverts : rlp.Inverts encoders tx) {raw : String}
    (hraw : rawBytes rlp raw = .ok (encoders.encode tx)) (config : Option DeveloperConfig) :
    fromStringWithOptions formats crates rlp raw config = .ok (.supported tx) := by
  have hjson : ¬ isJsonInput raw = true := by
    rw [isJsonInput_eq_false_of_rawBytes hraw]
    exact Bool.false_ne_true
  rw [fromStringWithOptions, if_neg hjson, decodeTransaction_of_rawBytes hinverts hraw]
  rfl

theorem rawBytes_encode {raw : String} {bytes : Bytes}
    (hraw : Hex.stripHexMarker raw = Hex.encode bytes) : rawBytes rlp raw = .ok bytes := by
  obtain ⟨hdetect, hdecode⟩ := Hex.detect_encode hraw
  rw [rawBytes, hdetect]
  dsimp only
  rw [hdecode]
  rfl

end Bytes

/-! ## Both forms -/

/-- A JSON text that stands for the transaction, within the limit on documents. -/
structure JsonFormOf (formats : Formats) (tx : SupportedTransaction) (text : String) : Prop where
  isJson : isJsonInput text = true
  size : (utf8Bytes text).length ≤ maxJsonInputLen
  form : ∃ form, EthJsonInput.fromStr text = some (.transaction form) ∧ Spells formats form tx

section Agreement

variable {formats : Formats} {crates : JsonCrates} {rlp : AlloyRlp} {encoders : AlloyEncoders}
  {tx : SupportedTransaction}

theorem fromString_of_jsonForm (hreads : crates.Reads formats) (hexpressible : tx.Expressible)
    {text : String} (hform : JsonFormOf formats tx text) (config : Option DeveloperConfig) :
    if tx.input.length * 2 ≤ maxHexDataLen then
      fromStringWithOptions formats crates rlp text config = .ok (.supported tx)
    else ∃ error, fromStringWithOptions formats crates rlp text config = .error error := by
  obtain ⟨form, hread, hspells⟩ := hform.form
  have hdecode : decodeJsonTransaction formats crates rlp text =
      buildTransaction formats crates rlp form := by
    rw [decodeJsonTransaction, if_neg (not_lt.2 hform.size), hread]
  have hbuild := @buildTransaction_of_spells _ _ rlp _ _ hreads hexpressible hspells
  rw [fromStringWithOptions, if_pos hform.isJson, hdecode]
  split_ifs at hbuild ⊢ with hsize
  · rw [hbuild]
    rfl
  · obtain ⟨error, herror⟩ := hbuild
    rw [herror]
    exact ⟨_, rfl⟩

theorem refused_of_jsonForm (hreads : crates.Reads formats) (hexpressible : tx.Expressible)
    {text : String} (hform : JsonFormOf formats tx text)
    (hover : ¬ tx.input.length * 2 ≤ maxHexDataLen) (config : Option DeveloperConfig) :
    ∃ error, fromStringWithOptions formats crates rlp text config = .error error := by
  have hread := @fromString_of_jsonForm _ _ rlp _ hreads hexpressible _ hform config
  rwa [if_neg hover] at hread

/-- The default text of a transaction whose calldata is not much over the limit. -/
theorem jsonFormOf_toJson (hreads : crates.Reads formats) (hexpressible : tx.Expressible)
    (hsize : tx.input.length * 2 ≤ maxHexDataLen + 2) :
    JsonFormOf formats tx tx.jsonForm.toJson where
  isJson := isJsonInput_toJson _
  size := by
    have hlimit : maxHexDataLen + 2 + 1000 ≤ maxJsonInputLen := by decide
    have hlength := length_toJson_jsonForm_le tx
    omega
  form := ⟨_, fromStr_toJson _, spells_jsonForm hreads hexpressible⟩

/-- The JSON forms and the byte forms of a transaction are read as that
transaction, and shown alike, unless its calldata is over the limit of the JSON
reader. -/
theorem json_rlp_agree (hreads : crates.Reads formats) (tx : SupportedTransaction)
    (hexpressible : tx.Expressible) (hinverts : rlp.Inverts encoders tx)
    (hsize : tx.input.length * 2 ≤ maxHexDataLen) :
    JsonFormOf formats tx tx.jsonForm.toJson ∧
      (∀ raw, Hex.stripHexMarker raw = Hex.encode (encoders.encode tx) →
        rawBytes rlp raw = .ok (encoders.encode tx)) ∧
      ∀ text raw, JsonFormOf formats tx text → rawBytes rlp raw = .ok (encoders.encode tx) →
        (∀ config,
          fromStringWithOptions formats crates rlp text config = .ok (.supported tx) ∧
          fromStringWithOptions formats crates rlp raw config = .ok (.supported tx)) ∧
        ∀ dyn k256 backing (converter : EthereumVisualSignConverter) options,
          converter.toVisualSignPayloadFromString formats crates rlp dyn k256 backing text
              options =
            converter.toVisualSignPayloadFromString formats crates rlp dyn k256 backing raw
              options := by
  refine ⟨jsonFormOf_toJson hreads hexpressible (by omega), fun raw hraw => rawBytes_encode hraw, ?_⟩
  intro text raw hform hraw
  have htext (config : Option DeveloperConfig) :
      fromStringWithOptions formats crates rlp text config = .ok (.supported tx) := by
    have hread := @fromString_of_jsonForm _ _ rlp _ hreads hexpressible _ hform config
    rwa [if_pos hsize] at hread
  have hbytes (config : Option DeveloperConfig) :
      fromStringWithOptions formats crates rlp raw config = .ok (.supported tx) :=
    fromString_of_rawBytes hinverts hraw config
  constructor
  · intro config
    exact ⟨htext config, hbytes config⟩
  · intro dyn k256 backing converter options
    unfold EthereumVisualSignConverter.toVisualSignPayloadFromString
    rw [htext, hbytes]

end Agreement

/-- Reads numbers of 256 bits as the narrower types are read. -/
def plainCrates : JsonCrates where
  serdeError _ := "not read"
  parseU256 hex := (fromHexDigits 256 hex).map (BitVec.ofNat 256)
  addressError _ := "not read"

theorem reads_plainCrates : plainCrates.Reads plainFormats where
  parseAddress_encode address := by
    have hdecode := (Hex.detect_encode (Hex.stripHexMarker_append (Hex.encode address.val))).2
    simp only [plainFormats, hdecode]
    exact dif_pos address.2
  parseU256_of_value hex value hnonempty hvalue hfits := by
    simp only [plainCrates, fromHexDigits_of_value hnonempty hvalue hfits]
    rfl

/-- Writes the creation of an empty contract. -/
def creationEncoders : AlloyEncoders where
  encodeLegacy _ := mainnetCreationRlp
  encodeEip1559 _ := creationRlp

theorem expressible_creation (input : Bytes) :
    (SupportedTransaction.eip1559 { creation [] with input := input }).Expressible where
  chainId := ⟨1, rfl, by decide⟩
  gasLimit := by
    change (21000 : UInt64) ≠ 0
    decide
  accessList own hown := by
    cases hown
    rfl
  priorityFee own hown := by
    cases hown
    change (1 : BitVec 128) ≤ 2
    decide

theorem inverts_creationEncoders :
    creationsRlp.Inverts creationEncoders (.eip1559 (creation [])) := by
  simp only [AlloyRlp.Inverts, creationEncoders, creationsRlp, if_true]

theorem json_rlp_agree_creation :
    ∃ payload,
      wethConverter.toVisualSignPayloadFromString plainFormats plainCrates creationsRlp emptyAbi
        noSignatures .insertion (SupportedTransaction.eip1559 (creation [])).jsonForm.toJson
        bareOptions = payload ∧
      wethConverter.toVisualSignPayloadFromString plainFormats plainCrates creationsRlp emptyAbi
        noSignatures .insertion ("0x" ++ Hex.encode (2 :: creationRlp)) bareOptions = payload := by
  obtain ⟨hform, hraw, hagree⟩ := json_rlp_agree reads_plainCrates (.eip1559 (creation []))
    (expressible_creation []) inverts_creationEncoders (by decide)
  have hbytes := hraw _ (Hex.stripHexMarker_append _)
  exact ⟨_, (hagree _ _ hform hbytes).2 _ _ _ _ _, rfl⟩

/-! ## Calldata over the limit -/

/-- The creation of a contract from one byte more than the JSON reader takes. -/
def largeCreation : TxEip1559 := { creation [] with input := List.replicate 262145 0 }

def largeCreationRlp : Bytes :=
  [250, 4, 0, 15, 1, 128, 1, 2, 130, 82, 8, 128, 128, 186, 4, 0, 1] ++ List.replicate 262145 0 ++
    [192]

def largeRlp : AlloyRlp where
  __ := creationsRlp
  decodeEip1559 bytes :=
    if bytes = largeCreationRlp then .ok (largeCreation, []) else .error "not read"

def largeEncoders : AlloyEncoders where
  encodeLegacy _ := mainnetCreationRlp
  encodeEip1559 _ := largeCreationRlp

/-- The bytes are read, the JSON text is not. -/
theorem json_rlp_differ_large :
    (SupportedTransaction.eip1559 largeCreation).Expressible ∧
    largeRlp.Inverts largeEncoders (.eip1559 largeCreation) ∧
    JsonFormOf plainFormats (.eip1559 largeCreation)
      (SupportedTransaction.eip1559 largeCreation).jsonForm.toJson ∧
    fromStringWithOptions plainFormats plainCrates largeRlp
      ("0x" ++ Hex.encode (2 :: largeCreationRlp)) none =
        .ok (.supported (.eip1559 largeCreation)) ∧
    ∃ error, fromStringWithOptions plainFormats plainCrates largeRlp
      (SupportedTransaction.eip1559 largeCreation).jsonForm.toJson none = .error error := by
  have hexpressible : (SupportedTransaction.eip1559 largeCreation).Expressible :=
    expressible_creation (List.replicate 262145 0)
  have hinverts : largeRlp.Inverts largeEncoders (.eip1559 largeCreation) := by
    simp only [AlloyRlp.Inverts, largeEncoders, largeRlp, if_true]
  have hlength : (SupportedTransaction.eip1559 largeCreation).input.length = 262145 :=
    List.length_replicate
  have hform : JsonFormOf plainFormats (.eip1559 largeCreation)
      (SupportedTransaction.eip1559 largeCreation).jsonForm.toJson := by
    apply jsonFormOf_toJson reads_plainCrates hexpressible
    rw [hlength]
    decide
  have hover :
      ¬ (SupportedTransaction.eip1559 largeCreation).input.length * 2 ≤ maxHexDataLen := by
    rw [hlength]
    decide
  exact ⟨hexpressible, hinverts, hform,
    fromString_of_rawBytes hinverts (rawBytes_encode (Hex.stripHexMarker_append _)) none,
    refused_of_jsonForm reads_plainCrates hexpressible hform hover none⟩

end VisualSignParser.Ethereum
