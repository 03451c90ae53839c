import VisualSignParser.Codec.Checked
import VisualSignParser.Codec.Decimal
import VisualSignParser.Solana.Context

/-!
# Action lists of a Swig wallet

A role is a list of permission records.  The header of a record names the
permission, the length of its data and the position where the record ends.  The
summary counts records by their lengths, the list that is shown goes from one end
to the next.  The two agree on the lists whose records end behind their data.
-/

namespace VisualSignParser.Solana.Swig.Actions

open VisualSignParser.Framing
open VisualSignParser.Cursor

/-- `Option` of a function that slices; `None` is a failure. -/
abbrev Decoded (A : Type) := Except (Fault Unit) A

/-! ## Descriptions -/

def programScopeTypeName : ℕ → String
  | 0 => "basic"
  | 1 => "fixed limit"
  | 2 => "recurring limit"
  | _ => "unknown"

def numericTypeName : ℕ → String
  | 0 => "u8"
  | 1 => "u32"
  | 2 => "u64"
  | 3 => "u128"
  | _ => "unknown"

def pubkeyAt (data : Bytes) (start : ℕ) : Decoded Pubkey :=
  slice data start (start + 32) >>= toArray 32

section Descriptions

-- The text of `lamports_as_sol` with nine decimals.
variable (nineDecimals : ℕ → String)

/-- The zeros at the end and then the point are popped. -/
def trimSol (sol : List Char) : List Char :=
  let kept := Decimal.trimZeros sol
  if kept.getLast? = some '.' then kept.dropLast else kept

def formatLamportsWithSol (lamports : ℕ) : String :=
  let sol := (nineDecimals lamports).toList
  let shown := if '.' ∈ sol then trimSol sol else sol
  toString lamports ++ " lamports (~" ++ String.ofList shown ++ " SOL)"

def describeAction (permission : ℕ) (data : Bytes) : Decoded String :=
  match permission with
  | 1 => do
      check (data.length = 8) ()
      let amount ← uintAt data 0 8
      return "SOL limit: " ++ formatLamportsWithSol nineDecimals amount
  | 2 => do
      check (data.length = 32) ()
      let amount ← uintAt data 0 8
      let window ← uintAt data 8 8
      let lastReset ← uintAt data 16 8
      let current ← uintAt data 24 8
      return "SOL recurring limit: " ++ formatLamportsWithSol nineDecimals amount ++ " per " ++
        toString window ++ " slot(s); current " ++ formatLamportsWithSol nineDecimals current ++
        " (last reset " ++ toString lastReset ++ ")"
  | 3 => do
      check (data.length = 32) ()
      let program ← pubkeyAt data 0
      return "Program access: " ++ program.text
  | 4 => do
      check (144 ≤ data.length) ()
      let currentAmount ← uintAt data 0 16
      let limit ← uintAt data 16 16
      let window ← uintAt data 32 8
      let lastReset ← uintAt data 40 8
      let program ← pubkeyAt data 48
      let target ← pubkeyAt data 80
      let scopeType ← uintAt data 112 8
      let numericType ← uintAt data 120 8
      let balanceStart ← uintAt data 128 8
      let balanceEnd ← uintAt data 136 8
      return "Program scope (" ++ programScopeTypeName scopeType ++ ") for program " ++
        program.text ++ " target " ++ target.text ++ "; limit " ++ toString limit ++
        " (current " ++ toString currentAmount ++ "), window " ++ toString window ++
        " slot(s), last reset " ++ toString lastReset ++ ", numeric " ++
        numericTypeName numericType ++ ", balance field bytes " ++ toString balanceStart ++
        ".." ++ toString balanceEnd
  | 5 => do
      check (data.length = 40) ()
      let mint ← pubkeyAt data 0
      let amount ← uintAt data 32 8
      return "Token limit: mint " ++ mint.text ++ " remaining " ++ toString amount
  | 6 => do
      check (data.length = 64) ()
      let mint ← pubkeyAt data 0
      let window ← uintAt data 32 8
      let limit ← uintAt data 40 8
      let current ← uintAt data 48 8
      let lastReset ← uintAt data 56 8
      return "Token recurring limit: mint " ++ mint.text ++ " limit " ++ toString limit ++
        " per " ++ toString window ++ " slot(s); current " ++ toString current ++
        " (last reset " ++ toString lastReset ++ ")"
  | 7 => return "All permissions (full access)"
  | 8 => return "Manage authority (add/remove/update authorities)"
  | 9 => do
      check (data.length = 72) ()
      let targetKey ← pubkeyAt data 0
      let bump ← byteAt data 32
      let enabled ← byteAt data 33
      let roleId ← uintAt data 36 4
      let swigId ← pubkeyAt data 40
      let target := if targetKey.1.all (· = 0) then "Uninitialized (assigned on creation)"
        else targetKey.text
      return "Sub-account permission: target " ++ target ++ ", role " ++ toString roleId ++
        ", bump " ++ toString bump.toNat ++ ", enabled " ++ toString (decide (enabled ≠ 0)) ++
        ", swig id " ++ swigId.text
  | 10 => do
      check (data.length = 72) ()
      let mint ← pubkeyAt data 0
      let destination ← pubkeyAt data 32
      let amount ← uintAt data 64 8
      return "Token destination limit: mint " ++ mint.text ++ " destination " ++
        destination.text ++ " remaining " ++ toString amount
  | 11 => do
      check (data.length = 96) ()
      let mint ← pubkeyAt data 0
      let destination ← pubkeyAt data 32
      let recurringAmount ← uintAt data 64 8
      let window ← uintAt data 72 8
      let lastReset ← uintAt data 80 8
      let current ← uintAt data 88 8
      return "Token recurring destination limit: mint " ++ mint.text ++ " destination " ++
        destination.text ++ " limit " ++ toString recurringAmount ++ " per " ++
        toString window ++ " slot(s); current " ++ toString current ++ " (last reset " ++
        toString lastReset ++ ")"
  | 12 => do
      check (data.length = 40) ()
      let destination ← pubkeyAt data 0
      let amount ← uintAt data 32 8
      return "SOL destination limit: destination " ++ destination.text ++ " remaining " ++
        formatLamportsWithSol nineDecimals amount
  | 13 => do
      check (data.length = 64) ()
      let destination ← pubkeyAt data 0
      let recurringAmount ← uintAt data 32 8
      let window ← uintAt data 40 8
      let lastReset ← uintAt data 48 8
      let current ← uintAt data 56 8
      return "SOL recurring destination limit: destination " ++ destination.text ++ " limit " ++
        formatLamportsWithSol nineDecimals recurringAmount ++ " per " ++ toString window ++
        " slot(s); current " ++ formatLamportsWithSol nineDecimals current ++
        " (last reset " ++ toString lastReset ++ ")"
  | 14 => do
      check (data.length = 8) ()
      let amount ← uintAt data 0 8
      return "Stake limit: " ++ formatLamportsWithSol nineDecimals amount
  | 15 => do
      check (data.length = 32) ()
      let amount ← uintAt data 0 8
      let window ← uintAt data 8 8
      let lastReset ← uintAt data 16 8
      let current ← uintAt data 24 8
      return "Stake recurring limit: " ++ formatLamportsWithSol nineDecimals amount ++ " per " ++
        toString window ++ " slot(s); current " ++ formatLamportsWithSol nineDecimals current ++
        " (last reset " ++ toString lastReset ++ ")"
  | 16 => return "Stake all permissions (unrestricted staking)"
  | 17 => return "Program access: all programs (unrestricted CPI)"
  | 18 => return "Program access: curated set of well-known programs"
  | 19 => return "All operations except authority management"
  | _ => return "Unknown permission " ++ toString permission ++ " (" ++ toString data.length ++
      " bytes)"

end Descriptions

/-! ## The two walks -/

/-- The loop of `count_actions`. -/
def countFrom (bytes : Bytes) (cursor count : ℕ) : Decoded ℕ :=
  if cursor + 8 ≤ bytes.length then do
    let length ← leAt bytes [cursor + 2, cursor + 3]
    if bytes.length < cursor + (8 + length) then return count
    else countFrom bytes (cursor + (8 + length)) (count + 1)
  else return count
termination_by bytes.length - cursor

def countActions (bytes : Bytes) : Decoded ℕ := countFrom bytes 0 0

/-- The loop of `decode_actions`; the next record starts where this one says that it
ends. -/
def decodeFrom (nineDecimals : ℕ → String) (bytes : Bytes) (cursor index : ℕ) :
    Decoded (List String) :=
  if cursor + 8 ≤ bytes.length then do
    let permission ← uintAt bytes cursor 2
    let length ← uintAt bytes (cursor + 2) 2
    let boundary ← uintAt bytes (cursor + 4) 4
    check (cursor + 8 + length ≤ bytes.length) ()
    let data ← slice bytes (cursor + 8) (cursor + 8 + length)
    let description ← describeAction nineDecimals permission data
    if bytes.length < boundary ∨ boundary < cursor + 8 + length then .error (.failed ())
    else do
      let lines ← decodeFrom nineDecimals bytes boundary (index + 1)
      return ("Action " ++ toString index ++ ": " ++ description) :: lines
  else if cursor ≠ bytes.length then .error (.failed ())
  else return []
termination_by bytes.length - cursor

def decodeActions (nineDecimals : ℕ → String) (bytes : Bytes) : Decoded (List String) :=
  if bytes.isEmpty then return [] else decodeFrom nineDecimals bytes 0 1

/-! ## Records -/

/-- A permission record, with the bytes between its data and its end. -/
structure ActionRecord where
  permission : ℕ
  data : Bytes
  gap : Bytes

namespace ActionRecord

/-- Where a record ends that starts at the position. -/
def boundary (start : ℕ) (record : ActionRecord) : ℕ :=
  start + 8 + record.data.length + record.gap.length

structure Fits (start : ℕ) (record : ActionRecord) : Prop where
  permission : record.permission < 256 ^ 2
  length : record.data.length < 256 ^ 2
  boundary : record.boundary start < 256 ^ 4

def header (start : ℕ) (record : ActionRecord) : Bytes :=
  leBytes 2 record.permission ++ (leBytes 2 record.data.length ++
    leBytes 4 (record.boundary start))

def encode (start : ℕ) (record : ActionRecord) : Bytes :=
  record.header start ++ (record.data ++ record.gap)

@[simp]
theorem length_header (start : ℕ) (record : ActionRecord) : (record.header start).length = 8 := by
  simp [header]

theorem boundary_eq (start : ℕ) (record : ActionRecord) :
    record.boundary start = start + (record.encode start).length := by
  rw [encode, List.length_append, List.length_append, length_header, boundary]
  omega

end ActionRecord

/-- The bytes of the record are found at the position. -/
structure StandsAt (bytes : Bytes) (start : ℕ) (record : ActionRecord) : Prop where
  fits : record.Fits start
  bytes : bytes.drop start = record.encode start ++ bytes.drop (record.boundary start)

/-- The records stand one behind the other, from the position to the end. -/
def Chain (bytes : Bytes) : ℕ → List ActionRecord → Prop
  | start, [] => start = bytes.length
  | start, record :: records =>
      StandsAt bytes start record ∧ Chain bytes (record.boundary start) records

/-- A line for every record, with the numbers counted up. -/
def Lines (nineDecimals : ℕ → String) : ℕ → List ActionRecord → List String → Prop
  | _, [], lines => lines = []
  | index, record :: records, lines => ∃ description rest,
      describeAction nineDecimals record.permission record.data = .ok description ∧
      lines = ("Action " ++ toString index ++ ": " ++ description) :: rest ∧
      Lines nineDecimals (index + 1) records rest

theorem Lines.length_eq {nineDecimals : ℕ → String} {index : ℕ} {records : List ActionRecord}
    {lines : List String} (hlines : Lines nineDecimals index records lines) :
    lines.length = records.length := by
  induction records generalizing index lines with
  | nil =>
      have hnil : lines = [] := hlines
      rw [hnil]
      rfl
  | cons record records ih =>
      obtain ⟨description, rest, -, rfl, hrest⟩ := hlines
      rw [List.length_cons, List.length_cons, ih hrest]

namespace StandsAt

variable {bytes : Bytes} {start : ℕ} {record : ActionRecord}

theorem drop_length (hstands : StandsAt bytes start record) :
    bytes.drop (start + 2) = leBytes 2 record.data.length ++
      (leBytes 4 (record.boundary start) ++ (record.data ++ (record.gap ++
        bytes.drop (record.boundary start)))) := by
  have hdrop := hstands.bytes
  simp only [ActionRecord.encode, ActionRecord.header, List.append_assoc] at hdrop
  exact drop_add hdrop (length_leBytes 2 record.permission)

theorem drop_boundary (hstands : StandsAt bytes start record) :
    bytes.drop (start + 4) = leBytes 4 (record.boundary start) ++ (record.data ++ (record.gap ++
        bytes.drop (record.boundary start))) :=
  (drop_add hstands.drop_length (length_leBytes 2 record.data.length) :)

theorem drop_data (hstands : StandsAt bytes start record) :
    bytes.drop (start + 8) = record.data ++ (record.gap ++
      bytes.drop (record.boundary start)) :=
  (drop_add hstands.drop_boundary (length_leBytes 4 (record.boundary start)) :)

theorem permission (hstands : StandsAt bytes start record) :
    (uintAt bytes start 2 : Decoded ℕ) = .ok record.permission := by
  have hdrop := hstands.bytes
  simp only [ActionRecord.encode, ActionRecord.header, List.append_assoc] at hdrop
  exact uintAt_eq_ok.2 ⟨hstands.fits.permission, _, hdrop⟩

theorem length (hstands : StandsAt bytes start record) :
    (uintAt bytes (start + 2) 2 : Decoded ℕ) = .ok record.data.length :=
  uintAt_eq_ok.2 ⟨hstands.fits.length, _, hstands.drop_length⟩

theorem boundary (hstands : StandsAt bytes start record) :
    (uintAt bytes (start + 4) 4 : Decoded ℕ) = .ok (record.boundary start) :=
  uintAt_eq_ok.2 ⟨hstands.fits.boundary, _, hstands.drop_boundary⟩

theorem boundary_le (hstands : StandsAt bytes start record) :
    record.boundary start ≤ bytes.length := by
  have hlength := congrArg List.length hstands.bytes
  simp only [ActionRecord.encode, List.length_append, ActionRecord.length_header,
    List.length_drop] at hlength
  unfold ActionRecord.boundary at hlength ⊢
  omega

theorem data (hstands : StandsAt bytes start record) :
    (slice bytes (start + 8) (start + 8 + record.data.length) : Decoded Bytes) =
      .ok record.data := by
  have hle := hstands.boundary_le
  unfold ActionRecord.boundary at hle
  exact (slice_eq_ok_iff (by omega)).2 ⟨rfl, _, hstands.drop_data⟩

/-- A position holds one record only. -/
theorem unique {other : ActionRecord} (hstands : StandsAt bytes start record)
    (hother : StandsAt bytes start other) : record = other := by
  have hpermission := hstands.permission.symm.trans hother.permission
  have hlength := hstands.length.symm.trans hother.length
  have hboundary := hstands.boundary.symm.trans hother.boundary
  rw [Except.ok.injEq] at hpermission hlength hboundary
  have hdata := hstands.drop_data.symm.trans hother.drop_data
  rw [hboundary] at hdata
  obtain ⟨hsame, hrest⟩ := List.append_inj hdata hlength
  have hgap := List.append_cancel_right hrest
  obtain ⟨_, _, _⟩ := record
  obtain ⟨_, _, _⟩ := other
  simp only at hpermission hsame hgap
  rw [hpermission, hsame, hgap]

end StandsAt

/-- The record that the reads of one turn have found. -/
theorem standsAt_of_reads {bytes data : Bytes} {start permission length boundary : ℕ}
    (hpermission : (uintAt bytes start 2 : Decoded ℕ) = .ok permission)
    (hlength : (uintAt bytes (start + 2) 2 : Decoded ℕ) = .ok length)
    (hboundary : (uintAt bytes (start + 4) 4 : Decoded ℕ) = .ok boundary)
    (hdata : (slice bytes (start + 8) (start + 8 + length) : Decoded Bytes) = .ok data)
    (hbounds : start + 8 + length ≤ boundary) (hstop : boundary ≤ bytes.length) :
    ∃ gap, (⟨permission, data, gap⟩ : ActionRecord).boundary start = boundary ∧
      StandsAt bytes start ⟨permission, data, gap⟩ := by
  obtain ⟨hlengthEq, rest, hdropData⟩ := (slice_eq_ok_iff (by omega)).1 hdata
  obtain rfl : data.length = length := by omega
  obtain rfl : bytes.drop (start + 8 + data.length) = rest := drop_add hdropData rfl
  set gap := (bytes.drop (start + 8 + data.length)).take (boundary - (start + 8 + data.length))
  have hgap : gap ++ bytes.drop boundary = bytes.drop (start + 8 + data.length) :=
    take_append_drop_of_le bytes hbounds
  have hlast : (⟨permission, data, gap⟩ : ActionRecord).boundary start = boundary := by
    have hlengthGap := congrArg List.length hgap
    rw [List.length_append, List.length_drop, List.length_drop] at hlengthGap
    change start + 8 + data.length + gap.length = boundary
    omega
  refine ⟨gap, hlast, ⟨(uintAt_eq_ok.1 hpermission).1, (uintAt_eq_ok.1 hlength).1, ?_⟩, ?_⟩
  · rw [hlast]
    exact (uintAt_eq_ok.1 hboundary).1
  · rw [ActionRecord.encode, ActionRecord.header, hlast]
    calc
      bytes.drop start = leBytes 2 permission ++ bytes.drop (start + 2) :=
        drop_of_uintAt hpermission
      _ = leBytes 2 permission ++ (leBytes 2 data.length ++ bytes.drop (start + 4)) := by
        rw [drop_of_uintAt hlength]
      _ = leBytes 2 permission ++ (leBytes 2 data.length ++
          (leBytes 4 boundary ++ bytes.drop (start + 8))) := by
        rw [drop_of_uintAt hboundary]
      _ = leBytes 2 permission ++ (leBytes 2 data.length ++
          (leBytes 4 boundary ++ (data ++ (gap ++ bytes.drop boundary)))) := by
        rw [hdropData, hgap]
      _ = _ := by simp only [List.append_assoc]

/-! ## What the walks return -/

section Walks

variable {nineDecimals : ℕ → String} {bytes : Bytes}

/-- The records that are decoded reach the end of the bytes. -/
theorem chain_of_decodeFrom {start index : ℕ} {lines : List String}
    (hdecode : decodeFrom nineDecimals bytes start index = .ok lines) :
    ∃ records, Chain bytes start records ∧ Lines nineDecimals index records lines := by
  induction hsize : bytes.length - start using Nat.strong_induction_on
    generalizing start index lines with
  | h size ih =>
      rw [decodeFrom] at hdecode
      split_ifs at hdecode with hheader hend
      · simp only [Outcome.bind_eq_ok] at hdecode
        obtain ⟨permission, hpermission, length, hlength, boundary, hboundary, _, _, data, hdata,
          description, hdescription, hnext⟩ := hdecode
        split_ifs at hnext with hbounds
        obtain ⟨rest, hrest, hlines⟩ := Outcome.bind_eq_ok.1 hnext
        obtain ⟨gap, hlast, hstands⟩ := standsAt_of_reads hpermission hlength hboundary hdata
          (by omega) (by omega)
        obtain ⟨records, hchain, hrestLines⟩ := ih (bytes.length - boundary) (by omega) hrest rfl
        refine ⟨⟨permission, data, gap⟩ :: records, ⟨hstands, ?_⟩, description, rest,
          hdescription, (Except.ok.inj hlines).symm, hrestLines⟩
        rw [hlast]
        exact hchain
      · exact ⟨[], not_not.1 hend, (Except.ok.inj hdecode).symm⟩

/-- A chain of records with a line for each is decoded to those lines, by induction
on the chain; each record says where the next one begins. -/
theorem decodeFrom_of_chain {start index : ℕ} {records : List ActionRecord} {lines : List String}
    (hchain : Chain bytes start records) (hlines : Lines nineDecimals index records lines) :
    decodeFrom nineDecimals bytes start index = .ok lines := by
  induction records generalizing start index lines with
  | nil =>
      have hstart : start = bytes.length := hchain
      have hnil : lines = [] := hlines
      rw [decodeFrom, if_neg (by omega), if_neg (not_not.2 hstart), hnil]
      rfl
  | cons record records ih =>
      obtain ⟨hstands, hrest⟩ := hchain
      obtain ⟨description, rest, hdescription, rfl, hrestLines⟩ := hlines
      have hstop := hstands.boundary_le
      have hboundary : start + 8 + record.data.length ≤ record.boundary start :=
        Nat.le_add_right ..
      rw [decodeFrom, if_pos (by omega)]
      refine Outcome.bind_eq_ok.2 ⟨_, hstands.permission, Outcome.bind_eq_ok.2 ⟨_, hstands.length,
        Outcome.bind_eq_ok.2 ⟨_, hstands.boundary, Outcome.bind_eq_ok.2 ⟨(), ?_,
        Outcome.bind_eq_ok.2 ⟨_, hstands.data, Outcome.bind_eq_ok.2 ⟨_, hdescription, ?_⟩⟩⟩⟩⟩⟩
      · exact Outcome.require_eq_ok.2 (by omega)
      · rw [if_neg (by omega)]
        exact Outcome.bind_eq_ok.2 ⟨rest, ih hrest hrestLines, rfl⟩

/-- The decoder succeeds exactly on the chains of records all of which can be
described, and returns one line for each. -/
theorem decodeActions_eq_ok_iff {lines : List String} :
    decodeActions nineDecimals bytes = .ok lines ↔
      ∃ records, Chain bytes 0 records ∧ Lines nineDecimals 1 records lines := by
  have hdecode : decodeActions nineDecimals bytes = decodeFrom nineDecimals bytes 0 1 := by
    cases bytes with
    | nil => simp [decodeActions, decodeFrom]
    | cons byte bytes => rfl
  rw [hdecode]
  constructor
  · exact chain_of_decodeFrom
  · rintro ⟨records, hchain, hlines⟩
    exact decodeFrom_of_chain hchain hlines

/-- Bytes are a chain in one way only, since every record states its length and its
end. -/
theorem Chain.unique {start : ℕ} {left right : List ActionRecord} (hleft : Chain bytes start left)
    (hright : Chain bytes start right) : left = right := by
  have hnonempty {start : ℕ} {record : ActionRecord} (hstands : StandsAt bytes start record) :
      start ≠ bytes.length := by
    have hstop := hstands.boundary_le
    unfold ActionRecord.boundary at hstop
    omega
  induction left generalizing start right with
  | nil =>
      cases right with
      | nil => rfl
      | cons record records => exact absurd hleft (hnonempty hright.1)
  | cons record records ih =>
      cases right with
      | nil => exact absurd hright (hnonempty hleft.1)
      | cons other others =>
          obtain rfl := hleft.1.unique hright.1
          rw [ih hleft.2 hright.2]

/-- The counting walk steps over the header and the data, and not to the end that
the record states; here the two walks can part. -/
theorem countFrom_record {start count : ℕ} (length : ℕ)
    (hlength : (leAt bytes [start + 2, start + 3] : Decoded ℕ) = .ok length)
    (hstop : start + (8 + length) ≤ bytes.length) :
    countFrom bytes start count = countFrom bytes (start + (8 + length)) (count + 1) := by
  rw [countFrom, if_pos (by omega), hlength]
  exact if_neg (not_lt.2 hstop)

theorem countFrom_end {start count : ℕ} (hend : bytes.length < start + 8) :
    countFrom bytes start count = .ok count := by
  rw [countFrom, if_neg (not_le.2 hend)]
  rfl

/-- Records that end behind their data are counted one by one. -/
theorem countFrom_of_chain {start count : ℕ} {records : List ActionRecord}
    (hchain : Chain bytes start records) (hgaps : ∀ record ∈ records, record.gap = []) :
    countFrom bytes start count = .ok (count + records.length) := by
  induction records generalizing start count with
  | nil =>
      have hstart : start = bytes.length := hchain
      exact countFrom_end (by omega)
  | cons record records ih =>
      obtain ⟨hstands, hrest⟩ := hchain
      have hstop := hstands.boundary_le
      have hboundary : record.boundary start = start + (8 + record.data.length) := by
        rw [ActionRecord.boundary, hgaps record List.mem_cons_self, List.length_nil]
        omega
      rw [countFrom_record _ hstands.length (by omega), ← hboundary, ih hrest fun other hother =>
        hgaps other (List.mem_cons_of_mem record hother), List.length_cons]
      congr 1
      omega

end Walks

/-! ## Termination -/

theorem meets_pubkeyAt {data : Bytes} {start : ℕ} (hstop : start + 32 ≤ data.length) :
    Meets (pubkeyAt data start) fun _ => True := by
  apply (meets_slice (Nat.le_add_right ..) hstop).bind
  intro bytes hbytes
  apply (meets_toArray (by omega)).imp
  intro _ _
  trivial

/-- Every field that is read lies within the length that is checked. -/
theorem meets_describeAction (nineDecimals : ℕ → String) (permission : ℕ) (data : Bytes) :
    Meets (describeAction nineDecimals permission data) fun _ => True := by
  unfold describeAction
  split
  all_goals
    first
    | exact meets_pure trivial
    | apply (meets_check _).bind
      intro _ hlength
      repeat
        first
        | exact meets_pure trivial
        | apply (meets_uintAt (by omega)).bind
          intro _ _
        | apply (meets_pubkeyAt (by omega)).bind
          intro _ _
        | apply (meets_byteAt (by omega)).bind
          intro _ _

section Termination

variable (bytes : Bytes)

/-- Every turn of the loop moves the cursor by a header at least. -/
theorem countFrom_isOk (start count : ℕ) : ∃ total, countFrom bytes start count = .ok total ∧
    total * 8 ≤ count * 8 + (bytes.length - start) := by
  induction hsize : bytes.length - start using Nat.strong_induction_on generalizing start count with
  | h size ih =>
      rw [countFrom]
      split_ifs with hheader
      · have hindexes : ∀ index ∈ [start + 2, start + 3], index < bytes.length := by
          simp
          omega
        obtain ⟨length, hlength⟩ := leAt_isOk (E := Unit) hindexes
        by_cases hlast : bytes.length < start + (8 + length)
        · rw [hlength]
          exact ⟨count, if_pos hlast, Nat.le_add_right ..⟩
        · rw [hlength]
          obtain ⟨total, htotal, hle⟩ := ih (bytes.length - (start + (8 + length))) (by omega)
            (start + (8 + length)) (count + 1) rfl
          exact ⟨total, (if_neg hlast).trans htotal, by omega⟩
      · exact ⟨count, rfl, Nat.le_add_right ..⟩

/-- The decoder never reads beyond the end of the bytes, whatever ends and lengths
the records state. -/
theorem meets_decodeFrom (nineDecimals : ℕ → String) (start index : ℕ) :
    Meets (decodeFrom nineDecimals bytes start index) fun _ => True := by
  induction hsize : bytes.length - start using Nat.strong_induction_on generalizing start index with
  | h size ih =>
      rw [decodeFrom]
      split_ifs with hheader hend
      · apply (meets_uintAt (by omega)).bind
        intro permission _
        apply (meets_uintAt (by omega)).bind
        intro length _
        apply (meets_uintAt (by omega)).bind
        intro boundary _
        apply (meets_check _).bind
        intro _ hlength
        apply (meets_slice (Nat.le_add_right ..) hlength).bind
        intro data _
        apply (meets_describeAction nineDecimals permission data).bind
        intro description _
        split_ifs with hbounds
        · exact meets_failed ()
        · apply (ih (bytes.length - boundary) (by omega) boundary (index + 1) rfl).bind
          intro lines _
          exact meets_pure trivial
      · exact meets_failed ()
      · exact meets_pure trivial

/-- A chain of records is at least as long as all of their headers, so the decoder
ends. -/
theorem Chain.length_le {bytes : Bytes} {start : ℕ} {records : List ActionRecord}
    (hchain : Chain bytes start records) : start + records.length * 8 ≤ bytes.length := by
  induction records generalizing start with
  | nil =>
      have hstart : start = bytes.length := hchain
      simp [hstart]
  | cons record records ih =>
      have hrest := ih hchain.2
      rw [ActionRecord.boundary] at hrest
      rw [List.length_cons]
      omega

end Termination

/-! ## Agreement -/

/-- Both walks see the same records, one directly behind the other. -/
def WalksAgree (nineDecimals : ℕ → String) (bytes : Bytes) : Prop :=
  ∀ lines, decodeActions nineDecimals bytes = .ok lines →
    countActions bytes = .ok lines.length ∧
    ∃ records, Chain bytes 0 records ∧ Lines nineDecimals 1 records lines ∧
      ∀ record ∈ records, record.gap = []

/-- Records written from a position on. -/
def encodeFrom : ℕ → List ActionRecord → Bytes
  | _, [] => []
  | start, record :: records => record.encode start ++ encodeFrom (record.boundary start) records

def FitFrom : ℕ → List ActionRecord → Prop
  | _, [] => True
  | start, record :: records => record.Fits start ∧ FitFrom (record.boundary start) records

/-- Bytes are a chain from a position on exactly if what follows is the encoding of
records that fit their fields. -/
theorem chain_iff {bytes : Bytes} {start : ℕ} {records : List ActionRecord} :
    Chain bytes start records ↔ start ≤ bytes.length ∧ FitFrom start records ∧
      bytes.drop start = encodeFrom start records := by
  induction records generalizing start with
  | nil =>
      rw [Chain, FitFrom, encodeFrom, List.drop_eq_nil_iff, true_and]
      exact le_antisymm_iff
  | cons record records ih =>
      rw [Chain, FitFrom, encodeFrom, ih]
      constructor
      · rintro ⟨hstands, -, hfits, hdrop⟩
        have hstop := hstands.boundary_le
        rw [ActionRecord.boundary] at hstop
        exact ⟨by omega, ⟨hstands.fits, hfits⟩, hdrop ▸ hstands.bytes⟩
      · rintro ⟨-, ⟨hfit, hfits⟩, hdrop⟩
        have hrest := drop_add hdrop rfl
        rw [← ActionRecord.boundary_eq] at hrest
        have hstop : record.boundary start ≤ bytes.length := by
          have hlength := congrArg List.length hdrop
          have hpos : 8 ≤ (record.encode start).length := by simp [ActionRecord.encode]
          rw [List.length_drop, List.length_append] at hlength
          rw [ActionRecord.boundary_eq]
          omega
        exact ⟨⟨hfit, hrest ▸ hdrop⟩, hstop, hfits, hrest⟩

/-- The bytes are records that can be described, and one of them ends later than its
data does. -/
structure Padded (nineDecimals : ℕ → String) (bytes : Bytes) (records : List ActionRecord) :
    Prop where
  bytes : bytes = encodeFrom 0 records
  fits : FitFrom 0 records
  described : ∀ record ∈ records, ∃ description,
    describeAction nineDecimals record.permission record.data = .ok description
  gap : ∃ record ∈ records, record.gap ≠ []

section Agreement

variable {nineDecimals : ℕ → String} {bytes : Bytes}

theorem chain_zero_iff {records : List ActionRecord} :
    Chain bytes 0 records ↔ FitFrom 0 records ∧ bytes = encodeFrom 0 records := by
  rw [chain_iff, List.drop_zero]
  exact and_iff_right (Nat.zero_le _)

/-- Records have lines exactly if each of them can be described, and the number of a
record does not matter for that. -/
theorem exists_lines_iff (index : ℕ) {records : List ActionRecord} :
    (∃ lines, Lines nineDecimals index records lines) ↔ ∀ record ∈ records, ∃ description,
      describeAction nineDecimals record.permission record.data = .ok description := by
  induction records generalizing index with
  | nil => exact ⟨fun _ _ hrecord => absurd hrecord List.not_mem_nil, fun _ => ⟨[], rfl⟩⟩
  | cons record records ih =>
      rw [List.forall_mem_cons, ← ih (index + 1)]
      constructor
      · rintro ⟨_, description, rest, hdescription, -, hrest⟩
        exact ⟨⟨description, hdescription⟩, rest, hrest⟩
      · rintro ⟨⟨description, hdescription⟩, rest, hrest⟩
        exact ⟨_, description, rest, hdescription, rfl, hrest⟩

/-- Decoding and counting agree on the number of actions exactly if no record is
padded, where padding shifts the second walk into another record. -/
theorem walksAgree_iff :
    WalksAgree nineDecimals bytes ↔ ¬∃ records, Padded nineDecimals bytes records := by
  constructor
  · rintro hagree ⟨records, hbytes, hfits, hdescribed, record, hrecord, hgap⟩
    have hchain := chain_zero_iff.2 ⟨hfits, hbytes⟩
    obtain ⟨lines, hlines⟩ := (exists_lines_iff 1).2 hdescribed
    obtain ⟨-, others, hothers, -, hgaps⟩ :=
      hagree lines (decodeActions_eq_ok_iff.2 ⟨records, hchain, hlines⟩)
    obtain rfl := hchain.unique hothers
    exact hgap (hgaps record hrecord)
  · intro hpadded lines hdecode
    obtain ⟨records, hchain, hlines⟩ := decodeActions_eq_ok_iff.1 hdecode
    have hgaps : ∀ record ∈ records, record.gap = [] := by
      by_contra hgap
      push Not at hgap
      obtain ⟨hfits, hbytes⟩ := chain_zero_iff.1 hchain
      exact hpadded ⟨records, hbytes, hfits, (exists_lines_iff 1).1 ⟨lines, hlines⟩, hgap⟩
    refine ⟨?_, records, hchain, hlines, hgaps⟩
    rw [hlines.length_eq, countActions, countFrom_of_chain hchain hgaps, Nat.zero_add]

end Agreement

/-- Both walks end, and they agree exactly on the lists without padded records. -/
theorem walks_agree_iff (nineDecimals : ℕ → String) (bytes : Bytes) :
    (∃ total, countActions bytes = .ok total ∧ total * 8 ≤ bytes.length) ∧
    decodeActions nineDecimals bytes ≠ .error .panicked ∧
    (∀ lines, decodeActions nineDecimals bytes = .ok lines → lines.length * 8 ≤ bytes.length) ∧
    (WalksAgree nineDecimals bytes ↔ ¬∃ records, Padded nineDecimals bytes records) := by
  refine ⟨?_, ?_, ?_, walksAgree_iff⟩
  · simpa [countActions] using countFrom_isOk bytes 0 0
  · unfold decodeActions
    split_ifs
    · rintro ⟨⟩
    · exact (meets_decodeFrom bytes nineDecimals 0 1).1
  · intro lines hdecode
    obtain ⟨records, hchain, hlines⟩ := decodeActions_eq_ok_iff.1 hdecode
    have hle := hchain.length_le
    rw [hlines.length_eq]
    omega

/-- A record for managing authorities that ends behind a record for everything. -/
def hiddenPermission : Bytes := [8, 0, 0, 0, 16, 0, 0, 0, 7, 0, 0, 0, 16, 0, 0, 0]

theorem decodeActions_hiddenPermission (nineDecimals : ℕ → String) :
    decodeActions nineDecimals hiddenPermission =
      .ok ["Action 1: Manage authority (add/remove/update authorities)"] := by
  apply decodeActions_eq_ok_iff.2
  refine ⟨[⟨8, [], [7, 0, 0, 0, 16, 0, 0, 0]⟩], chain_zero_iff.2 ⟨⟨⟨?_, ?_, ?_⟩, trivial⟩, ?_⟩,
    _, [], rfl, ?_, rfl⟩
  all_goals decide

theorem countActions_hiddenPermission : countActions hiddenPermission = .ok 2 := by
  calc
    countFrom hiddenPermission 0 0 = countFrom hiddenPermission 8 1 :=
      countFrom_record 0 rfl (by decide)
    _ = countFrom hiddenPermission 16 2 := countFrom_record 0 rfl (by decide)
    _ = .ok 2 := countFrom_end (by decide)

/-- The permission in between is counted, and not shown. -/
theorem not_walksAgree_hiddenPermission : ¬WalksAgree toString hiddenPermission := by
  intro hagree
  have hcount := (hagree _ (decodeActions_hiddenPermission toString)).1
  rw [countActions_hiddenPermission] at hcount
  cases hcount

end VisualSignParser.Solana.Swig.Actions
