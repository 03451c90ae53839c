import VisualSignParser.Codec.Protobuf

/-!
# The two envelopes of a Tron transaction

Tooling hands over the bare `Raw` message or the `Transaction` around it.  Both
are read from the same bytes, field 1 of either being length-delimited, and the
contracts that came out decide which of the two is the transaction.
-/

namespace VisualSignParser.Tron

open VisualSignParser.Framing
open VisualSignParser.Protobuf

/-- A generated message: how it is read, how one field is taken up, and the fields it
writes. -/
structure Message (Body : Type) where
  parseFromBytes : Bytes → Option Body
  empty : Body
  merge : Body → WireField → Option Body
  write : Body → List WireField

namespace Message

variable {Body : Type}

def writeToBytes (message : Message Body) (body : Body) : Option Bytes :=
  Protobuf.writeToBytes (message.write body)

/-- An encoding of fields is read by taking them up one after the other.  Nothing is
said of bytes that encode no list of fields. -/
def ReadsFields (message : Message Body) : Prop :=
  ∀ fields bytes, Protobuf.writeToBytes fields = some bytes →
    message.parseFromBytes bytes = fields.foldlM message.merge message.empty

/-- The fields a message writes build it again. -/
def ReadsBack (message : Message Body) : Prop :=
  ∀ body, (message.write body).foldlM message.merge message.empty = some body

/-- A message that is written can be read back as a whole, because each of its
fields is merged in the order it was written. -/
theorem parseFromBytes_of_write {message : Message Body} (hfields : message.ReadsFields)
    (hreads : message.ReadsBack) {body : Body} {bytes : Bytes}
    (hbytes : message.writeToBytes body = some bytes) :
    message.parseFromBytes bytes = some body := by
  rw [hfields _ _ hbytes]
  exact hreads body

end Message

/-- A field of the transaction envelope that holds bytes. -/
def delimitedField (number : ℕ) (payload : Bytes) (hpos : 0 < number) (hlt : number < 2 ^ 29) :
    WireField :=
  ⟨number, .delimited payload, hpos, hlt⟩

structure Transaction (Raw Ret : Type) where
  rawData : Option Raw
  signature : List Bytes
  ret : List Ret
  unknown : List WireField

/-- The messages of the protocol crate. -/
structure Protocol (Raw Contract Ret : Type) where
  raw : Message Raw
  ret : Message Ret
  transaction : Message (Transaction Raw Ret)
  contract : Raw → List Contract
  /-- Why the bytes are no `Raw`. -/
  rawError : Bytes → String

inductive TronParserError where
  | failedToDecodeTransaction (message : String)
  deriving DecidableEq

variable {Raw Contract Ret : Type}

namespace Protocol

/-- The envelope of a transaction around a raw message, with any signatures and results. -/
def writeTransaction (protocol : Protocol Raw Contract Ret) (raw : Raw) (signature : List Bytes)
    (ret : List Ret) : Option Bytes := do
  let rawBytes ← protocol.raw.writeToBytes raw
  let retBytes ← ret.mapM protocol.ret.writeToBytes
  Protobuf.writeToBytes <|
    delimitedField 1 rawBytes (by decide) (by decide) ::
      (signature.map fun bytes => delimitedField 2 bytes (by decide) (by decide)) ++
      retBytes.map fun bytes => delimitedField 5 bytes (by decide) (by decide)

def parseTronBytes (protocol : Protocol Raw Contract Ret) (bytes : Bytes) :
    Except TronParserError Raw :=
  let bareResult := protocol.raw.parseFromBytes bytes
  let wrappedRaw :=
    (protocol.transaction.parseFromBytes bytes).bind fun wrapped => wrapped.rawData
  match bareResult, wrappedRaw with
  | some bare, some wrapped =>
      if (protocol.contract bare).isEmpty = false then .ok bare
      else if (protocol.contract wrapped).isEmpty = false then .ok wrapped
      else .ok bare
  | some bare, none => .ok bare
  | none, some wrapped => .ok wrapped
  | none, none => .error (.failedToDecodeTransaction
      ("Failed to parse Tron transaction: " ++ protocol.rawError bytes))

/-- What the generated code of the messages does: fields are taken up in order, contracts
of a `Raw` come from field 11 only, and fields 1, 2 and 5 of a transaction are its raw
message, the last of which stands, its signatures and its results.  An inner message that
was written is read as what it was. -/
structure Lawful (protocol : Protocol Raw Contract Ret) : Prop where
  raw_fields : protocol.raw.ReadsFields
  raw_reads : protocol.raw.ReadsBack
  empty_contract : protocol.contract protocol.raw.empty = []
  merge_contract : ∀ {raw merged : Raw} {field : WireField},
    protocol.raw.merge raw field = some merged → field.number ≠ 11 →
    protocol.contract merged = protocol.contract raw
  transaction_fields : protocol.transaction.ReadsFields
  empty_transaction : protocol.transaction.empty = ⟨none, [], [], []⟩
  merge_rawData : ∀ {raw : Raw} {payload : Bytes} (transaction : Transaction Raw Ret),
    protocol.raw.writeToBytes raw = some payload →
    protocol.transaction.merge transaction
        (delimitedField 1 payload (by decide) (by decide)) =
      some { transaction with rawData := some raw }
  merge_signature : ∀ (transaction : Transaction Raw Ret) (payload : Bytes),
    protocol.transaction.merge transaction
        (delimitedField 2 payload (by decide) (by decide)) =
      some { transaction with signature := transaction.signature ++ [payload] }
  merge_ret : ∀ {ret : Ret} {payload : Bytes} (transaction : Transaction Raw Ret),
    protocol.ret.writeToBytes ret = some payload →
    protocol.transaction.merge transaction
        (delimitedField 5 payload (by decide) (by decide)) =
      some { transaction with ret := transaction.ret ++ [ret] }

variable {protocol : Protocol Raw Contract Ret}

/-- No contract comes out of fields that are not contracts. -/
theorem contract_of_foldlM (hlawful : protocol.Lawful) {fields : List WireField} {raw merged : Raw}
    (hnumbers : ∀ field ∈ fields, field.number ≠ 11)
    (hmerge : fields.foldlM protocol.raw.merge raw = some merged) :
    protocol.contract merged = protocol.contract raw := by
  induction fields generalizing raw with
  | nil =>
      rw [List.foldlM_nil] at hmerge
      rw [Option.some.inj hmerge]
  | cons field fields ih =>
      rw [List.foldlM_cons] at hmerge
      obtain ⟨next, hnext, hrest⟩ := Option.bind_eq_some_iff.1 hmerge
      calc protocol.contract merged
          = protocol.contract next :=
            ih (fun other hother => hnumbers other (List.mem_cons_of_mem _ hother)) hrest
        _ = protocol.contract raw :=
            hlawful.merge_contract hnext (hnumbers field (List.mem_cons_self ..))

/-- The bare reading of an envelope has no contract. -/
theorem bare_of_envelope (hlawful : protocol.Lawful) {fields : List WireField} {bytes : Bytes}
    (hfields : Protobuf.writeToBytes fields = some bytes)
    (hnumbers : ∀ field ∈ fields, field.number ≠ 11) {bare : Raw}
    (hbare : protocol.raw.parseFromBytes bytes = some bare) : protocol.contract bare = [] := by
  rw [hlawful.raw_fields _ _ hfields] at hbare
  rw [contract_of_foldlM hlawful hnumbers hbare, hlawful.empty_contract]

theorem foldlM_signature (hlawful : protocol.Lawful) (transaction : Transaction Raw Ret)
    (signature : List Bytes) :
    (signature.map fun bytes => delimitedField 2 bytes (by decide) (by decide)).foldlM
        protocol.transaction.merge transaction =
      some { transaction with signature := transaction.signature ++ signature } := by
  induction signature generalizing transaction with
  | nil =>
      rw [List.append_nil]
      rfl
  | cons bytes signature ih =>
      rw [List.map_cons, List.foldlM_cons, hlawful.merge_signature]
      refine (ih { transaction with signature := transaction.signature ++ [bytes] }).trans ?_
      rw [List.append_assoc, List.singleton_append]

theorem foldlM_ret (hlawful : protocol.Lawful) (transaction : Transaction Raw Ret)
    {ret : List Ret} {encoded : List Bytes}
    (hencoded : ret.mapM protocol.ret.writeToBytes = some encoded) :
    (encoded.map fun bytes => delimitedField 5 bytes (by decide) (by decide)).foldlM
        protocol.transaction.merge transaction =
      some { transaction with ret := transaction.ret ++ ret } := by
  induction ret generalizing transaction encoded with
  | nil =>
      rw [List.mapM_nil] at hencoded
      rw [← Option.some.inj hencoded, List.append_nil]
      rfl
  | cons result ret ih =>
      rw [List.mapM_cons] at hencoded
      obtain ⟨bytes, hbytes, hencoded⟩ := Option.bind_eq_some_iff.1 hencoded
      obtain ⟨others, hothers, hencoded⟩ := Option.bind_eq_some_iff.1 hencoded
      rw [← Option.some.inj hencoded, List.map_cons, List.foldlM_cons,
        hlawful.merge_ret transaction hbytes]
      refine (ih { transaction with ret := transaction.ret ++ [result] } hothers).trans ?_
      rw [List.append_assoc, List.singleton_append]

/-- The envelope reads back, and no other field of it is taken for a contract. -/
theorem parseTransaction_of_write (hlawful : protocol.Lawful) {raw : Raw} {signature : List Bytes}
    {ret : List Ret} {bytes : Bytes}
    (hbytes : protocol.writeTransaction raw signature ret = some bytes) :
    protocol.transaction.parseFromBytes bytes = some ⟨some raw, signature, ret, []⟩ ∧
      ∀ bare, protocol.raw.parseFromBytes bytes = some bare → protocol.contract bare = [] := by
  obtain ⟨rawBytes, hraw, hbytes⟩ := Option.bind_eq_some_iff.1 hbytes
  obtain ⟨retBytes, hret, hbytes⟩ := Option.bind_eq_some_iff.1 hbytes
  constructor
  · rw [hlawful.transaction_fields _ _ hbytes, hlawful.empty_transaction, List.cons_append,
      List.foldlM_cons, hlawful.merge_rawData _ hraw]
    change List.foldlM _ _ (_ ++ _) = _
    rw [List.foldlM_append, foldlM_signature hlawful]
    exact foldlM_ret hlawful _ hret
  · intro bare hbare
    apply bare_of_envelope hlawful hbytes _ hbare
    intro field hfield
    rw [List.cons_append, List.mem_cons, List.mem_append, List.mem_map, List.mem_map] at hfield
    obtain rfl | ⟨payload, -, rfl⟩ | ⟨payload, -, rfl⟩ := hfield
    · exact (by decide : 1 ≠ 11)
    · exact (by decide : 2 ≠ 11)
    · exact (by decide : 5 ≠ 11)

/-- A bare reading with a contract is returned. -/
theorem parseTronBytes_of_bare {bytes : Bytes} {bare : Raw}
    (hbare : protocol.raw.parseFromBytes bytes = some bare) (hcontract : protocol.contract bare ≠ []) :
    protocol.parseTronBytes bytes = .ok bare := by
  have hempty : (protocol.contract bare).isEmpty = false := List.isEmpty_eq_false_iff.2 hcontract
  rw [parseTronBytes, hbare]
  cases hwrapped : (protocol.transaction.parseFromBytes bytes).bind fun wrapped =>
      wrapped.rawData with
  | none => rfl
  | some wrapped =>
      dsimp only
      rw [if_pos hempty]

/-- A wrapped reading with a contract is returned when the bare one has none. -/
theorem parseTronBytes_of_wrapped {bytes : Bytes} {wrapped : Raw}
    (hwrapped : ((protocol.transaction.parseFromBytes bytes).bind fun wrapped =>
      wrapped.rawData) = some wrapped)
    (hcontract : protocol.contract wrapped ≠ [])
    (hbare : ∀ bare, protocol.raw.parseFromBytes bytes = some bare → protocol.contract bare = []) :
    protocol.parseTronBytes bytes = .ok wrapped := by
  have hempty : (protocol.contract wrapped).isEmpty = false :=
    List.isEmpty_eq_false_iff.2 hcontract
  rw [parseTronBytes, hwrapped]
  cases hparse : protocol.raw.parseFromBytes bytes with
  | none => rfl
  | some bare =>
      dsimp only
      rw [hbare bare hparse, if_neg (by simp), if_pos hempty]

/-- Either envelope of a transaction gives the transaction.  Bytes that are a
transaction in both readings are taken as the bare one. -/
theorem envelope_disambiguated (protocol : Protocol Raw Contract Ret) (hlawful : protocol.Lawful) :
    (∀ raw bytes, protocol.contract raw ≠ [] → protocol.raw.writeToBytes raw = some bytes →
      protocol.parseTronBytes bytes = .ok raw) ∧
    (∀ raw signature ret bytes, protocol.contract raw ≠ [] →
      protocol.writeTransaction raw signature ret = some bytes →
      protocol.parseTronBytes bytes = .ok raw) ∧
    ∀ bytes bare transaction wrapped, protocol.raw.parseFromBytes bytes = some bare →
      protocol.transaction.parseFromBytes bytes = some transaction → transaction.rawData = some wrapped →
      protocol.contract bare ≠ [] → protocol.contract wrapped ≠ [] →
      protocol.parseTronBytes bytes = .ok bare := by
  refine ⟨?_, ?_, ?_⟩
  · intro raw bytes hcontract hbytes
    have hbare : protocol.raw.parseFromBytes bytes = some raw :=
      Message.parseFromBytes_of_write hlawful.raw_fields hlawful.raw_reads hbytes
    exact parseTronBytes_of_bare hbare hcontract
  · intro raw signature ret bytes hcontract hbytes
    obtain ⟨hparse, hbare⟩ := parseTransaction_of_write hlawful hbytes
    apply parseTronBytes_of_wrapped _ hcontract hbare
    rw [hparse, Option.bind_some]
  · intro bytes bare transaction wrapped hbare _ _ hcontract _
    exact parseTronBytes_of_bare hbare hcontract

end Protocol

/-! ## A message with two readings -/

/-- A message that is read field by field, for encodings without a cut field. -/
def strictMessage {Body : Type} (empty : Body) (merge : Body → WireField → Option Body)
    (write : Body → List WireField) : Message Body where
  parseFromBytes bytes := (readFields bytes).bind fun fields => fields.foldlM merge empty
  empty := empty
  merge := merge
  write := write

theorem readsFields_strictMessage {Body : Type} (empty : Body)
    (merge : Body → WireField → Option Body) (write : Body → List WireField) :
    (strictMessage empty merge write).ReadsFields := by
  intro fields bytes hbytes
  change (readFields bytes).bind _ = _
  rw [readFields_of_write hbytes, Option.bind_some]
  rfl


/-- The two fields at stake: `ref_block_bytes` and `contract`. -/
def isPlainField (field : WireField) : Bool :=
  (field.number == 1 || field.number == 11) && field.value.wireType == 2

/-- A raw message whose contracts and other fields stay encoded. -/
structure PlainRaw where
  refBlockBytes : Bytes
  contract : List {bytes : Bytes // (readFields bytes).isSome = true}
  others : List {field : WireField // isPlainField field = false}
  deriving DecidableEq

namespace PlainRaw

def merge (raw : PlainRaw) (field : WireField) : Option PlainRaw :=
  if hplain : isPlainField field = false then
    some { raw with others := raw.others ++ [⟨field, hplain⟩] }
  else
    match field.number, field.value with
    | 1, .delimited payload => some { raw with refBlockBytes := payload }
    | 11, .delimited payload =>
        if hreads : (readFields payload).isSome = true then
          some { raw with contract := raw.contract ++ [⟨payload, hreads⟩] }
        else none
    | _, _ => none

def write (raw : PlainRaw) : List WireField :=
  (if raw.refBlockBytes = [] then []
    else [delimitedField 1 raw.refBlockBytes (by decide) (by decide)]) ++
  ((raw.contract.map fun contract => delimitedField 11 contract.val (by decide) (by decide)) ++
    raw.others.map fun field => field.val)

def message : Message PlainRaw := strictMessage ⟨[], [], []⟩ merge write

theorem message_readsFields : message.ReadsFields :=
  readsFields_strictMessage _ _ _

theorem merge_of_not_plain {raw : PlainRaw} {field : WireField}
    (hplain : isPlainField field = false) :
    merge raw field = some { raw with others := raw.others ++ [⟨field, hplain⟩] } := by
  rw [merge, dif_pos hplain]

theorem foldlM_contract (raw : PlainRaw)
    (contract : List {bytes : Bytes // (readFields bytes).isSome = true}) :
    (contract.map fun bytes => delimitedField 11 bytes.val (by decide) (by decide)).foldlM
        merge raw = some { raw with contract := raw.contract ++ contract } := by
  induction contract generalizing raw with
  | nil =>
      rw [List.append_nil]
      rfl
  | cons bytes contract ih =>
      have hmerge : merge raw (delimitedField 11 bytes.val (by decide) (by decide)) =
          some { raw with contract := raw.contract ++ [bytes] } := by
        change (if hreads : (readFields bytes.val).isSome = true then _ else none) = _
        rw [dif_pos bytes.2]
      rw [List.map_cons, List.foldlM_cons, hmerge]
      refine (ih { raw with contract := raw.contract ++ [bytes] }).trans ?_
      rw [List.append_assoc, List.singleton_append]

theorem foldlM_others (raw : PlainRaw)
    (others : List {field : WireField // isPlainField field = false}) :
    (others.map fun field => field.val).foldlM merge raw =
      some { raw with others := raw.others ++ others } := by
  induction others generalizing raw with
  | nil =>
      rw [List.append_nil]
      rfl
  | cons field others ih =>
      rw [List.map_cons, List.foldlM_cons, merge_of_not_plain field.2]
      refine (ih { raw with others := raw.others ++ [field] }).trans ?_
      rw [List.append_assoc, List.singleton_append]

/-- The message of the plain protocol is read back from its fields, the contracts
among them and all others in their order. -/
theorem message_readsBack : message.ReadsBack := by
  intro raw
  have href : (if raw.refBlockBytes = [] then []
      else [delimitedField 1 raw.refBlockBytes (by decide) (by decide)]).foldlM merge ⟨[], [], []⟩ =
      some ⟨raw.refBlockBytes, [], []⟩ := by
    split_ifs with hempty
    · rw [hempty]
      rfl
    · rfl
  change (write raw).foldlM merge ⟨[], [], []⟩ = _
  rw [write, List.foldlM_append, href]
  change List.foldlM _ _ (_ ++ _) = _
  rw [List.foldlM_append, foldlM_contract]
  exact foldlM_others ⟨raw.refBlockBytes, raw.contract, []⟩ raw.others

theorem merge_contract {raw merged : PlainRaw} {field : WireField}
    (hmerge : merge raw field = some merged) (hnumber : field.number ≠ 11) :
    merged.contract = raw.contract := by
  rw [merge] at hmerge
  split_ifs at hmerge with hplain
  · rw [← Option.some.inj hmerge]
  · split at hmerge
    · rw [← Option.some.inj hmerge]
    · contradiction
    · cases hmerge

end PlainRaw

/-- Results that keep the fields they came with. -/
def retMessage : Message (List WireField) :=
  strictMessage [] (fun ret field => some (ret ++ [field])) id

theorem retMessage_readsFields : retMessage.ReadsFields :=
  readsFields_strictMessage _ _ _

theorem retMessage_readsBack : retMessage.ReadsBack := by
  have hfold : ∀ ret fields : List WireField,
      fields.foldlM (fun ret field => some (ret ++ [field])) ret = some (ret ++ fields) := by
    intro ret fields
    induction fields generalizing ret with
    | nil =>
        rw [List.append_nil]
        rfl
    | cons field fields ih =>
        rw [List.foldlM_cons]
        refine (ih (ret ++ [field])).trans ?_
        rw [List.append_assoc, List.singleton_append]
  intro ret
  exact hfold [] ret

/-- The last `raw_data` stands. -/
def mergeTransaction (transaction : Transaction PlainRaw (List WireField)) (field : WireField) :
    Option (Transaction PlainRaw (List WireField)) :=
  match field.number, field.value with
  | 1, .delimited payload => (PlainRaw.message.parseFromBytes payload).map fun raw =>
      { transaction with rawData := some raw }
  | 2, .delimited payload =>
      some { transaction with signature := transaction.signature ++ [payload] }
  | 5, .delimited payload => (retMessage.parseFromBytes payload).map fun ret =>
      { transaction with ret := transaction.ret ++ [ret] }
  | _, _ => some { transaction with unknown := transaction.unknown ++ [field] }

def transactionFields (transaction : Transaction PlainRaw (List WireField)) : List WireField :=
  ((transaction.rawData.bind PlainRaw.message.writeToBytes).toList.map fun bytes =>
    delimitedField 1 bytes (by decide) (by decide)) ++
  (transaction.signature.map fun bytes => delimitedField 2 bytes (by decide) (by decide)) ++
  ((transaction.ret.filterMap retMessage.writeToBytes).map fun bytes =>
    delimitedField 5 bytes (by decide) (by decide)) ++ transaction.unknown

def plainProtocol :
    Protocol PlainRaw {bytes : Bytes // (readFields bytes).isSome = true} (List WireField) where
  raw := PlainRaw.message
  ret := retMessage
  transaction := strictMessage ⟨none, [], [], []⟩ mergeTransaction transactionFields
  contract := PlainRaw.contract
  rawError _ := "incomplete message"

/-- The plain protocol has the properties that are asked of the generated code, so
these can be met together. -/
theorem plainProtocol_lawful : plainProtocol.Lawful where
  raw_fields := PlainRaw.message_readsFields
  raw_reads := PlainRaw.message_readsBack
  empty_contract := rfl
  merge_contract := PlainRaw.merge_contract
  transaction_fields := readsFields_strictMessage _ _ _
  empty_transaction := rfl
  merge_rawData _ hwritten := by
    have hread := Message.parseFromBytes_of_write PlainRaw.message_readsFields
      PlainRaw.message_readsBack hwritten
    change Option.map _ (PlainRaw.message.parseFromBytes _) = _
    rw [hread, Option.map_some]
  merge_signature _ _ := rfl
  merge_ret _ hwritten := by
    have hread := Message.parseFromBytes_of_write retMessage_readsFields retMessage_readsBack
      hwritten
    change Option.map _ (retMessage.parseFromBytes _) = _
    rw [hread, Option.map_some]

/-- A transfer, the shortest there is. -/
def transferRaw : PlainRaw := ⟨[0x12, 0x34], [⟨[0x08, 0x01], rfl⟩], []⟩

theorem envelope_disambiguated_transfer :
    plainProtocol.parseTronBytes [0x0A, 0x02, 0x12, 0x34, 0x5A, 0x02, 0x08, 0x01] =
        .ok transferRaw ∧
      plainProtocol.parseTronBytes [0x0A, 0x08, 0x0A, 0x02, 0x12, 0x34, 0x5A, 0x02, 0x08, 0x01,
        0x12, 0x01, 0xFF, 0x2A, 0x02, 0x18, 0x01] = .ok transferRaw := by
  obtain ⟨hbare, hwrapped, -⟩ :=
    Protocol.envelope_disambiguated plainProtocol plainProtocol_lawful
  constructor
  · exact hbare transferRaw _ (by decide) (by decide)
  · exact hwrapped transferRaw [[0xFF]]
      [[⟨3, .varint 1, by decide, by decide⟩]] _ (by decide) (by decide)

/-- A contract in the raw message, and another one inside of its `ref_block_bytes`. -/
def twoFacedBytes : Bytes := [0x0A, 0x04, 0x5A, 0x02, 0x08, 0x01, 0x5A, 0x02, 0x08, 0x36]

theorem bare_reading_silently_chosen :
    plainProtocol.Lawful ∧
      ∃ bare wrapped : PlainRaw, ∃ transaction : Transaction PlainRaw (List WireField),
        plainProtocol.raw.parseFromBytes twoFacedBytes = some bare ∧
        plainProtocol.transaction.parseFromBytes twoFacedBytes = some transaction ∧
        transaction.rawData = some wrapped ∧
        plainProtocol.contract bare ≠ [] ∧ plainProtocol.contract wrapped ≠ [] ∧
        bare ≠ wrapped ∧ plainProtocol.contract bare ≠ plainProtocol.contract wrapped ∧
        plainProtocol.parseTronBytes twoFacedBytes = .ok bare := by
  refine ⟨plainProtocol_lawful, ⟨[0x5A, 0x02, 0x08, 0x01], [⟨[0x08, 0x36], rfl⟩], []⟩,
    ⟨[], [⟨[0x08, 0x01], rfl⟩], []⟩, ⟨some ⟨[], [⟨[0x08, 0x01], rfl⟩], []⟩, [], [],
    [⟨11, .delimited [0x08, 0x36], by decide, by decide⟩]⟩, ?_⟩
  refine ⟨by decide, rfl, rfl, by decide, by decide, by decide, by decide, rfl⟩

end VisualSignParser.Tron
