import VisualSignParser.Codec.Cursor
import VisualSignParser.Codec.Outcome

/-!
# Checked accesses

A function that takes fixed positions of a byte string checks the length first
and reads then.  It meets a postcondition when no access is out of bounds and
every value it returns satisfies it; the property follows the text of the
function step by step.
-/

namespace VisualSignParser.Cursor

open VisualSignParser.Framing

variable {E A B : Type}

/-! ## Accesses at given positions -/

/-- A check that leaves with the error when it fails. -/
def check (condition : Prop) [Decidable condition] (error : E) : Except (Fault E) Unit :=
  Outcome.require condition (.failed error)

/-- `from_le_bytes` of the bytes at the positions. -/
def leAt (data : Bytes) (indexes : List ℕ) : Except (Fault E) ℕ := do
  let bytes ← indexes.mapM (byteAt data)
  return ofLeBytes bytes

/-- `from_le_bytes` of the bytes behind the position. -/
def uintAt (data : Bytes) (start width : ℕ) : Except (Fault E) ℕ :=
  leAt data (List.range' start width)

/-- `&data[start..]` -/
def sliceFrom (data : Bytes) (start : ℕ) : Except (Fault E) Bytes :=
  slice data start data.length

/-- `copy_from_slice` into an array, or `try_into` that is unwrapped. -/
def toArray (length : ℕ) (bytes : Bytes) : Except (Fault E) (ByteArr length) :=
  if hlength : bytes.length = length then .ok ⟨bytes, hlength⟩ else .error .panicked

theorem byteAt_eq_ok {data : Bytes} {index : ℕ} (hindex : index < data.length) :
    (byteAt data index : Except (Fault E) UInt8) = .ok (data.get ⟨index, hindex⟩) := by
  rw [byteAt, List.getElem?_eq_getElem hindex]
  rfl

theorem slice_eq_ok {data : Bytes} {start stop : ℕ} (hstart : start ≤ stop)
    (hstop : stop ≤ data.length) :
    (slice data start stop : Except (Fault E) Bytes) = .ok ((data.take stop).drop start) :=
  if_pos ⟨hstart, hstop⟩

theorem mapM_byteAt (data : Bytes) (indexes : List ℕ)
    (hindexes : ∀ index ∈ indexes, index < data.length) :
    ∃ bytes, (indexes.mapM (byteAt data) : Except (Fault E) Bytes) = .ok bytes := by
  apply Outcome.mapM_isOk_iff.2
  intro index hindex
  exact ⟨_, byteAt_eq_ok (hindexes index hindex)⟩

theorem lt_of_byteAt {data : Bytes} {index : ℕ} {byte : UInt8}
    (hbyte : (byteAt data index : Except (Fault E) UInt8) = .ok byte) : index < data.length := by
  by_contra hindex
  rw [byteAt, List.getElem?_eq_none (not_lt.1 hindex)] at hbyte
  cases hbyte

theorem leAt_isOk {data : Bytes} {indexes : List ℕ}
    (hindexes : ∀ index ∈ indexes, index < data.length) :
    ∃ value, (leAt data indexes : Except (Fault E) ℕ) = .ok value := by
  obtain ⟨bytes, hbytes⟩ := mapM_byteAt (E := E) data indexes hindexes
  rw [leAt, hbytes]
  exact ⟨_, rfl⟩

/-- What stands behind a field is cut off with it. -/
theorem drop_add {data field rest : Bytes} {start length : ℕ}
    (hdata : data.drop start = field ++ rest) (hlength : field.length = length) :
    data.drop (start + length) = rest := by
  rw [← List.drop_drop, hdata, List.drop_left' hlength]

theorem take_append_drop_of_le (data : Bytes) {start stop : ℕ} (hstart : start ≤ stop) :
    (data.drop start).take (stop - start) ++ data.drop stop = data.drop start := by
  have hsplit := List.take_append_drop (stop - start) (data.drop start)
  rwa [List.drop_drop, Nat.add_sub_cancel' hstart] at hsplit

/-- Reading the positions of a field one by one gives the field, wherever in the
data it stands. -/
theorem mapM_byteAt_range' {data field rest : Bytes} {start : ℕ}
    (hdata : data.drop start = field ++ rest) :
    ((List.range' start field.length).mapM (byteAt data) : Except (Fault E) Bytes) =
      .ok field := by
  apply Outcome.mapM_eq_ok.2
  apply List.forall₂_iff_get.2
  refine ⟨List.length_range', fun index hrange hfield => ?_⟩
  have hget : data[start + index]? = some (field.get ⟨index, hfield⟩) := by
    rw [← List.getElem?_drop, hdata, List.getElem?_append_left hfield]
    exact List.getElem?_eq_getElem hfield
  rw [List.get_eq_getElem, List.getElem_range', Nat.one_mul, byteAt, hget]

/-- A number is read where its bytes stand. -/
theorem uintAt_eq_ok {data : Bytes} {start width value : ℕ} :
    (uintAt data start width : Except (Fault E) ℕ) = .ok value ↔
      value < 256 ^ width ∧ ∃ rest, data.drop start = leBytes width value ++ rest := by
  constructor
  · intro hread
    obtain ⟨bytes, hbytes, hvalue⟩ := Outcome.bind_eq_ok.1 hread
    have hlength : ((data.drop start).take width).length = width := by
      rw [List.length_take, List.length_drop, min_eq_left_iff]
      cases width with
      | zero => exact Nat.zero_le _
      | succ width =>
          obtain ⟨byte, hbyte⟩ := Outcome.mapM_isOk_iff.1 ⟨bytes, hbytes⟩ (start + width) (by simp)
          have hlast := lt_of_byteAt hbyte
          omega
    have hdata := (List.take_append_drop width (data.drop start)).symm
    generalize (data.drop start).take width = field at hlength hdata
    subst hlength
    rw [mapM_byteAt_range' hdata, Except.ok.injEq] at hbytes
    subst hbytes
    obtain rfl : ofLeBytes field = value := Except.ok.inj hvalue
    refine ⟨ofLeBytes_lt field, _, hdata.trans (congrArg (· ++ _) ?_)⟩
    exact (leBytes_ofLeBytes field).symm
  · rintro ⟨hvalue, rest, hdata⟩
    have hfield := mapM_byteAt_range' (E := E) hdata
    rw [length_leBytes] at hfield
    rw [uintAt, leAt, hfield]
    exact congrArg Except.ok (ofLeBytes_leBytes hvalue)

/-- A number that is read at a position stands there in little-endian bytes, in
front of the rest. -/
theorem drop_of_uintAt {data : Bytes} {start width value : ℕ}
    (hread : (uintAt data start width : Except (Fault E) ℕ) = .ok value) :
    data.drop start = leBytes width value ++ data.drop (start + width) := by
  obtain ⟨-, rest, hdata⟩ := uintAt_eq_ok.1 hread
  rw [drop_add hdata (length_leBytes width value)]
  exact hdata

/-- A slice succeeds with some bytes exactly if they stand at its start and its end
is right behind them. -/
theorem slice_eq_ok_iff {data field : Bytes} {start stop : ℕ} (hstart : start ≤ data.length) :
    (slice data start stop : Except (Fault E) Bytes) = .ok field ↔
      stop = start + field.length ∧ ∃ rest, data.drop start = field ++ rest := by
  constructor
  · intro hslice
    unfold slice at hslice
    split_ifs at hslice with hbounds
    obtain rfl := Except.ok.inj hslice
    constructor
    · rw [List.length_drop, List.length_take_of_le hbounds.2]
      omega
    · refine ⟨(data.drop start).drop (stop - start), ?_⟩
      rw [List.drop_take, List.take_append_drop]
  · rintro ⟨rfl, rest, hdata⟩
    have hlength := congrArg List.length hdata
    rw [List.length_drop, List.length_append] at hlength
    rw [slice_eq_ok (Nat.le_add_right ..) (by omega), List.drop_take, hdata,
      Nat.add_sub_cancel_left, List.take_left]

/-! ## Postconditions -/

/-- No access is out of bounds, and a returned value satisfies the postcondition. -/
def Meets (step : Except (Fault E) A) (post : A → Prop) : Prop :=
  step ≠ .error .panicked ∧ ∀ value, step = .ok value → post value

section Rules

variable {step : Except (Fault E) A} {post mid : A → Prop}

theorem meets_ok {value : A} (hvalue : post value) :
    Meets (.ok value : Except (Fault E) A) post := by
  constructor
  · rintro ⟨⟩
  · intro result hresult
    cases hresult
    exact hvalue

theorem meets_failed (error : E) : Meets (.error (.failed error) : Except (Fault E) A) post := by
  constructor
  · rintro ⟨⟩
  · rintro result ⟨⟩

theorem meets_pure {value : A} (hvalue : post value) :
    Meets (pure value : Except (Fault E) A) post :=
  meets_ok hvalue

theorem meets_self (hstep : step ≠ .error .panicked) :
    Meets step fun value => step = .ok value :=
  ⟨hstep, fun _ hvalue => hvalue⟩

/-- The value is kept beside what holds of it. -/
theorem Meets.attach (hstep : Meets step post) :
    Meets step fun value => step = .ok value ∧ post value :=
  ⟨hstep.1, fun value hvalue => ⟨hvalue, hstep.2 value hvalue⟩⟩

theorem Meets.imp (hstep : Meets step mid) (himp : ∀ value, mid value → post value) :
    Meets step post :=
  ⟨hstep.1, fun value hvalue => himp value (hstep.2 value hvalue)⟩

/-- Two steps in a row meet a condition if the second does for each value that the
first can give; a panic of either is excluded on the way. -/
theorem Meets.bind {next : A → Except (Fault E) B} {last : B → Prop} (hstep : Meets step mid)
    (hnext : ∀ value, mid value → Meets (next value) last) : Meets (step >>= next) last := by
  cases step with
  | error fault =>
      cases fault with
      | failed error => exact meets_failed error
      | panicked => exact absurd rfl hstep.1
  | ok value => exact hnext value (hstep.2 value rfl)

theorem Meets.map {convert : A → B} {last : B → Prop}
    (hstep : Meets step fun value => last (convert value)) : Meets (convert <$> step) last := by
  rw [map_eq_pure_bind]
  exact hstep.bind fun value hvalue => meets_pure hvalue

/-- Behind a check its condition holds; a check that fails is an ordinary failure
and no panic. -/
theorem meets_check {condition : Prop} [Decidable condition] (error : E) :
    Meets (check condition error) fun _ => condition := by
  unfold check Outcome.require
  split_ifs with hcondition
  · exact meets_ok hcondition
  · exact meets_failed error

/-- A byte within the data is read without a panic, and is the one at the position. -/
theorem meets_byteAt {data : Bytes} {index : ℕ} (hindex : index < data.length) :
    Meets (byteAt data index : Except (Fault E) UInt8) fun byte => data[index]? = some byte := by
  rw [byteAt_eq_ok hindex]
  exact meets_ok (List.getElem?_eq_getElem hindex)

/-- Bytes within the data are read without a panic, and there are as many as there
are positions. -/
theorem meets_mapM_byteAt {data : Bytes} {indexes : List ℕ}
    (hindexes : ∀ index ∈ indexes, index < data.length) :
    Meets (indexes.mapM (byteAt data) : Except (Fault E) Bytes) fun bytes =>
      bytes.length = indexes.length := by
  obtain ⟨bytes, hbytes⟩ := mapM_byteAt (E := E) data indexes hindexes
  rw [hbytes]
  exact meets_ok (Outcome.mapM_eq_ok.1 hbytes).length_eq.symm

/-- A number is read off bytes within the data without a panic, and is below the
bound for that many bytes. -/
theorem meets_leAt {data : Bytes} {indexes : List ℕ}
    (hindexes : ∀ index ∈ indexes, index < data.length) :
    Meets (leAt data indexes : Except (Fault E) ℕ) fun value => value < 256 ^ indexes.length := by
  apply (meets_mapM_byteAt hindexes).bind
  intro bytes hlength
  apply meets_pure
  rw [← hlength]
  exact ofLeBytes_lt bytes

/-- A number of a certain width within the data is read without a panic, and fits
the width. -/
theorem meets_uintAt {data : Bytes} {start width : ℕ} (hstop : start + width ≤ data.length) :
    Meets (uintAt data start width : Except (Fault E) ℕ) fun value => value < 256 ^ width := by
  have hindexes : ∀ index ∈ List.range' start width, index < data.length := by
    simp only [List.mem_range'_1]
    omega
  have hread := meets_leAt (E := E) hindexes
  rwa [List.length_range'] at hread

/-- A slice is cut off in front of what follows it. -/
theorem meets_slice {data : Bytes} {start stop : ℕ} (hstart : start ≤ stop)
    (hstop : stop ≤ data.length) :
    Meets (slice data start stop : Except (Fault E) Bytes) fun bytes =>
      data.drop start = bytes ++ data.drop stop ∧ bytes.length = stop - start := by
  rw [slice_eq_ok hstart hstop]
  apply meets_ok
  constructor
  · rw [List.drop_take]
    exact (take_append_drop_of_le data hstart).symm
  · rw [List.length_drop, List.length_take_of_le hstop]

theorem meets_sliceFrom {data : Bytes} {start : ℕ} (hstart : start ≤ data.length) :
    Meets (sliceFrom data start : Except (Fault E) Bytes) fun bytes => data.drop start = bytes := by
  apply (meets_slice hstart le_rfl).imp
  intro bytes hbytes
  rw [hbytes.1, List.drop_length, List.append_nil]

/-- Bytes of the right length become an array without a panic, and the array holds
these bytes. -/
theorem meets_toArray {length : ℕ} {bytes : Bytes} (hlength : bytes.length = length) :
    Meets (toArray length bytes : Except (Fault E) (ByteArr length)) fun array =>
      array.1 = bytes := by
  rw [toArray, dif_pos hlength]
  exact meets_ok rfl

end Rules

/-! ## Steps without panics -/

/-- The outcome of a step that does not panic. -/
def checked : (step : Except (Fault E) A) → step ≠ .error .panicked → Except E A
  | .ok value, _ => .ok value
  | .error (.failed error), _ => .error error
  | .error .panicked, hstep => absurd rfl hstep

/-- A step that does not panic is the same step with its ordinary failures alone. -/
theorem mapError_checked (step : Except (Fault E) A) (hstep : step ≠ .error .panicked) :
    (checked step hstep).mapError .failed = step := by
  match step, hstep with
  | .ok _, _ => rfl
  | .error (.failed _), _ => rfl
  | .error .panicked, hstep => exact absurd rfl hstep

end VisualSignParser.Cursor
