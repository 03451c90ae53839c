import Mathlib.Data.List.Forall2
import VisualSignParser.Codec.Framing

/-!
# Cursors

A hand-written parser moves a position over fixed bytes, checks the bounds in
front of every access and leaves on the first check that fails.  An access whose
check is missing does not fail: it panics.  A format says which bytes stand for
a value.  A parser reads a format when it accepts exactly the encodings, stops
behind them and never panics, and this property follows the text of the parser
step by step.
-/

namespace VisualSignParser.Cursor

open VisualSignParser.Framing

/-- How a parser ends without a value: on a check of its own, or on an access
out of bounds. -/
inductive Fault (E : Type) where
  | failed (error : E)
  | panicked
  deriving DecidableEq

/-- A parser over the bytes, from a position. -/
abbrev Parser (E : Type) := ReaderT Bytes (StateT ℕ (Except (Fault E)))

variable {E A B : Type}

/-! ## Accesses and reads -/

/-- `data[index]`. -/
def byteAt (data : Bytes) (index : ℕ) : Except (Fault E) UInt8 :=
  match data[index]? with
  | some byte => .ok byte
  | none => .error .panicked

/-- `&data[start..stop]`. -/
def slice (data : Bytes) (start stop : ℕ) : Except (Fault E) Bytes :=
  if start ≤ stop ∧ stop ≤ data.length then .ok ((data.take stop).drop start)
  else .error .panicked

/-- One byte behind the check `pos >= data.len()`. -/
def readU8 (error : E) : Parser E UInt8 := fun data pos =>
  if data.length ≤ pos then .error (.failed error)
  else do
    let byte ← byteAt data pos
    return (byte, pos + 1)

/-- A little-endian `u16` behind the check `pos + 2 > data.len()`. -/
def readU16Le (error : E) : Parser E ℕ := fun data pos =>
  if data.length < pos + 2 then .error (.failed error)
  else do
    let low ← byteAt data pos
    let high ← byteAt data (pos + 1)
    return (ofLeBytes [low, high], pos + 2)

/-- A slice behind the check `pos + length > data.len()`. -/
def readBytes (error : E) (length : ℕ) : Parser E Bytes := fun data pos =>
  if data.length < pos + length then .error (.failed error)
  else do
    let bytes ← slice data pos (pos + length)
    return (bytes, pos + length)

/-- `for _ in 0..count`, with the values pushed onto a vector. -/
def readMany (read : Parser E A) : (count : ℕ) → Parser E (List A)
  | 0 => pure []
  | count + 1 => do
      let value ← read
      let values ← readMany read count
      return value :: values

/-! ## Formats -/

/-- Which bytes stand for which value. -/
abbrev Format (A : Type) := A → Bytes → Prop

/-- One value and no bytes. -/
def Format.only (value : A) : Format A := fun read bytes => read = value ∧ bytes = []

/-- A first part, then a second one whose format depends on the first. -/
def Format.bind (first : Format A) (second : A → Format B) : Format B := fun value bytes =>
  ∃ head front back, bytes = front ++ back ∧ first head front ∧ second head value back

def Format.u8 : Format UInt8 := fun byte bytes => bytes = [byte]

def Format.u16Le : Format ℕ := fun value bytes => value < 2 ^ 16 ∧ bytes = leBytes 2 value

def Format.exact (length : ℕ) : Format Bytes := fun value bytes =>
  bytes = value ∧ value.length = length

/-- A number of values, one behind the other. -/
def Format.many (format : Format A) (count : ℕ) : Format (List A) := fun values bytes =>
  values.length = count ∧ ∃ parts, List.Forall₂ format values parts ∧ bytes = parts.flatten

/-- The parser accepts exactly the encodings of the format, wherever they stand,
and stays inside of the data. -/
structure Reads (read : Parser E A) (format : Format A) : Prop where
  ok_iff : ∀ front tail value stop, read (front ++ tail) front.length = .ok (value, stop) ↔
    ∃ field rest, tail = field ++ rest ∧ format value field ∧ stop = front.length + field.length
  ne_panicked : ∀ front tail, read (front ++ tail) front.length ≠ .error .panicked

/-- From inside of the data a parser goes no further than to its end. -/
theorem Reads.inBounds {read : Parser E A} {format : Format A} (hreads : Reads read format)
    {data : Bytes} {pos : ℕ} (hpos : pos ≤ data.length) :
    read data pos ≠ .error .panicked ∧
      ∀ value stop, read data pos = .ok (value, stop) → stop ≤ data.length := by
  have hfront : (data.take pos).length = pos := List.length_take_of_le hpos
  constructor
  · have hpanicked := hreads.ne_panicked (data.take pos) (data.drop pos)
    rwa [List.take_append_drop, hfront] at hpanicked
  · intro value stop hread
    have hstop := hreads.ok_iff (data.take pos) (data.drop pos) value stop
    rw [List.take_append_drop, hfront] at hstop
    obtain ⟨field, rest, htail, -, rfl⟩ := hstop.1 hread
    have hlength := congrArg List.length htail
    rw [List.length_drop, List.length_append] at hlength
    omega

theorem Reads.congr {read : Parser E A} {format other : Format A} (hreads : Reads read format)
    (hformat : ∀ value bytes, format value bytes ↔ other value bytes) : Reads read other where
  ok_iff front tail value stop := by
    rw [hreads.ok_iff]
    simp only [hformat]
  ne_panicked := hreads.ne_panicked

theorem reads_pure (value : A) : Reads (pure value : Parser E A) (Format.only value) where
  ok_iff front tail read stop := by
    have hpure : (pure value : Parser E A) (front ++ tail) front.length =
        .ok (value, front.length) := rfl
    rw [hpure, Except.ok.injEq, Prod.mk.injEq]
    constructor
    · rintro ⟨rfl, rfl⟩
      exact ⟨[], tail, rfl, ⟨rfl, rfl⟩, rfl⟩
    · rintro ⟨field, rest, -, ⟨rfl, rfl⟩, rfl⟩
      exact ⟨rfl, rfl⟩
  ne_panicked front tail hpanicked := by cases hpanicked

/-- A check that fails reads nothing. -/
theorem reads_throw (error : E) :
    Reads (throw (.failed error) : Parser E A) fun _ _ => False where
  ok_iff front tail value stop := by
    constructor
    · intro hread
      cases hread
    · rintro ⟨_, _, _, hfalse, _⟩
      exact hfalse.elim
  ne_panicked front tail hpanicked := by cases hpanicked

/-- Two readers in a row succeed exactly if the first stops somewhere and the second
succeeds from there on the same data. -/
theorem bind_eq_ok {read : Parser E A} {next : A → Parser E B} {data : Bytes} {pos stop : ℕ}
    {value : B} :
    (read >>= next) data pos = .ok (value, stop) ↔
      ∃ first middle, read data pos = .ok (first, middle) ∧
        next first data middle = .ok (value, stop) := by
  have hbind : (read >>= next) data pos =
      (read data pos >>= fun step => next step.1 data step.2) := rfl
  rw [hbind]
  cases read data pos with
  | error fault =>
      constructor
      · intro hvalue
        cases hvalue
      · rintro ⟨first, middle, hread, -⟩
        cases hread
  | ok step =>
      constructor
      · intro hvalue
        exact ⟨step.1, step.2, rfl, hvalue⟩
      · rintro ⟨first, middle, hread, hvalue⟩
        cases hread
        exact hvalue

/-- Parts that are read one after the other stand one after the other. -/
theorem Reads.bind {read : Parser E A} {next : A → Parser E B} {first : Format A}
    {second : A → Format B} (hread : Reads read first)
    (hnext : ∀ head, Reads (next head) (second head)) :
    Reads (read >>= next) (first.bind second) where
  ok_iff front tail value stop := by
    rw [bind_eq_ok]
    constructor
    · rintro ⟨head, middle, hhead, hvalue⟩
      obtain ⟨field, rest, rfl, hfirst, rfl⟩ := (hread.ok_iff _ _ _ _).1 hhead
      rw [← List.append_assoc, ← List.length_append] at hvalue
      obtain ⟨back, rest, rfl, hsecond, rfl⟩ := ((hnext head).ok_iff _ _ _ _).1 hvalue
      refine ⟨field ++ back, rest, (List.append_assoc ..).symm,
        ⟨head, field, back, rfl, hfirst, hsecond⟩, ?_⟩
      simp only [List.length_append]
      exact Nat.add_assoc ..
    · rintro ⟨_, rest, rfl, ⟨head, field, back, rfl, hfirst, hsecond⟩, rfl⟩
      refine ⟨head, front.length + field.length, ?_, ?_⟩
      · exact (hread.ok_iff _ _ _ _).2 ⟨field, back ++ rest, List.append_assoc .., hfirst, rfl⟩
      · rw [List.append_assoc, ← List.append_assoc, ← List.length_append]
        refine ((hnext head).ok_iff _ _ _ _).2 ⟨back, rest, rfl, hsecond, ?_⟩
        simp only [List.length_append]
        exact (Nat.add_assoc ..).symm
  ne_panicked front tail hpanicked := by
    have hbind : (read >>= next) (front ++ tail) front.length =
        (read (front ++ tail) front.length >>= fun step =>
          next step.1 (front ++ tail) step.2) := rfl
    rw [hbind] at hpanicked
    cases hstep : read (front ++ tail) front.length with
    | error fault =>
        rw [hstep] at hpanicked
        obtain rfl : fault = .panicked := by cases hpanicked; rfl
        exact hread.ne_panicked front tail hstep
    | ok step =>
        rw [hstep] at hpanicked
        obtain ⟨field, rest, rfl, -, hstop⟩ := (hread.ok_iff _ _ _ _).1 hstep
        change next step.1 (front ++ (field ++ rest)) step.2 = .error .panicked at hpanicked
        rw [hstop, ← List.append_assoc, ← List.length_append] at hpanicked
        exact (hnext step.1).ne_panicked _ _ hpanicked

/-! ## Formats of the reads -/

theorem byteAt_append (front : Bytes) (byte : UInt8) (rest : Bytes) :
    (byteAt (front ++ byte :: rest) front.length : Except (Fault E) UInt8) = .ok byte := by
  rw [byteAt, List.getElem?_append_right le_rfl, Nat.sub_self]
  rfl

theorem slice_append (front field rest : Bytes) :
    (slice (front ++ (field ++ rest)) front.length (front.length + field.length) :
      Except (Fault E) Bytes) = .ok field := by
  have hbounds : front.length ≤ front.length + field.length ∧
      front.length + field.length ≤ (front ++ (field ++ rest)).length := by
    simp only [List.length_append]
    omega
  rw [slice, if_pos hbounds, ← List.append_assoc, ← List.length_append, List.take_left,
    List.drop_left]

/-- The reader of a byte accepts one byte, whatever stands in front of it and behind
it, and fails at the end. -/
theorem reads_readU8 (error : E) : Reads (readU8 error) Format.u8 where
  ok_iff front tail value stop := by
    cases tail with
    | nil => simp [readU8, Format.u8]
    | cons byte rest =>
        have hbound : ¬ (front ++ byte :: rest).length ≤ front.length := by simp
        have hread : readU8 error (front ++ byte :: rest) front.length =
            .ok (byte, front.length + 1) := by
          rw [readU8, if_neg hbound, byteAt_append]
          rfl
        rw [hread, Except.ok.injEq, Prod.mk.injEq]
        constructor
        · rintro ⟨rfl, rfl⟩
          exact ⟨[byte], rest, rfl, rfl, rfl⟩
        · rintro ⟨field, rest, htail, rfl, rfl⟩
          cases htail
          exact ⟨rfl, rfl⟩
  ne_panicked front tail := by
    cases tail with
    | nil => simp [readU8]
    | cons byte rest =>
        have hbound : ¬ (front ++ byte :: rest).length ≤ front.length := by simp
        rw [readU8, if_neg hbound, byteAt_append]
        intro hpanicked
        cases hpanicked

theorem readBytes_append (error : E) (front field rest : Bytes) :
    readBytes error field.length (front ++ (field ++ rest)) front.length =
      .ok (field, front.length + field.length) := by
  have hbound : ¬ (front ++ (field ++ rest)).length < front.length + field.length := by
    simp only [List.length_append]
    omega
  rw [readBytes, if_neg hbound, slice_append]
  rfl

/-- Either there are too few bytes left, or the next ones are read. -/
theorem readBytes_cases (error : E) (length : ℕ) (front tail : Bytes) :
    (tail.length < length ∧
      readBytes error length (front ++ tail) front.length = .error (.failed error)) ∨
    ∃ field rest, tail = field ++ rest ∧ field.length = length := by
  by_cases hlength : tail.length < length
  · refine .inl ⟨hlength, if_pos ?_⟩
    rw [List.length_append]
    omega
  · refine .inr ⟨tail.take length, tail.drop length, (List.take_append_drop ..).symm, ?_⟩
    rw [List.length_take]
    omega

/-- The reader of a number of bytes accepts exactly that many of them, and stops
right behind. -/
theorem reads_readBytes (error : E) (length : ℕ) :
    Reads (readBytes error length) (Format.exact length) where
  ok_iff front tail value stop := by
    constructor
    · intro hread
      obtain ⟨-, hfailed⟩ | ⟨field, rest, rfl, rfl⟩ := readBytes_cases error length front tail
      · rw [hfailed] at hread
        cases hread
      · rw [readBytes_append, Except.ok.injEq, Prod.mk.injEq] at hread
        obtain ⟨rfl, rfl⟩ := hread
        exact ⟨field, rest, rfl, ⟨rfl, rfl⟩, rfl⟩
    · rintro ⟨field, rest, rfl, ⟨rfl, rfl⟩, rfl⟩
      exact readBytes_append error front field rest
  ne_panicked front tail hpanicked := by
    obtain ⟨-, hfailed⟩ | ⟨field, rest, rfl, rfl⟩ := readBytes_cases error length front tail
    · rw [hfailed] at hpanicked
      cases hpanicked
    · rw [readBytes_append] at hpanicked
      cases hpanicked

/-- The two bytes of a `u16` are the slice of length two. -/
theorem readU16Le_eq (error : E) (front tail : Bytes) :
    readU16Le error (front ++ tail) front.length =
      (readBytes error 2 (front ++ tail) front.length).map fun read =>
        (ofLeBytes read.1, read.2) := by
  obtain ⟨hlength, hfailed⟩ | ⟨field, rest, rfl, hfield⟩ := readBytes_cases error 2 front tail
  · rw [hfailed, readU16Le, if_pos (by rw [List.length_append]; omega)]
    rfl
  · obtain ⟨low, high, rfl⟩ : ∃ low high, field = [low, high] := List.length_eq_two.1 hfield
    have hbound : ¬ (front ++ ([low, high] ++ rest)).length < front.length + 2 := by
      simp only [List.length_append, hfield]
      omega
    have hhigh := byteAt_append (E := E) (front ++ [low]) high rest
    rw [List.append_assoc, List.length_append] at hhigh
    have hread := readBytes_append error front [low, high] rest
    rw [hfield] at hread
    rw [hread, readU16Le, if_neg hbound]
    have hlow := byteAt_append (E := E) front low (high :: rest)
    simp only [List.cons_append, List.nil_append, List.length_cons, List.length_nil] at hlow hhigh ⊢
    rw [hlow, hhigh]
    rfl

/-- The reader of two bytes accepts the little-endian numbers below the bound, each
in one way. -/
theorem reads_readU16Le (error : E) : Reads (readU16Le error) Format.u16Le where
  ok_iff front tail value stop := by
    rw [readU16Le_eq]
    constructor
    · intro hread
      obtain ⟨-, hfailed⟩ | ⟨field, rest, rfl, hfield⟩ := readBytes_cases error 2 front tail
      · rw [hfailed] at hread
        cases hread
      · have hbytes := readBytes_append error front field rest
        rw [hfield] at hbytes
        rw [hbytes] at hread
        cases hread
        have hvalue := ofLeBytes_lt field
        have hencoded := leBytes_ofLeBytes field
        rw [hfield] at hvalue hencoded
        refine ⟨field, rest, rfl, ⟨by simpa using hvalue, hencoded.symm⟩, ?_⟩
        rw [hfield]
    · rintro ⟨field, rest, rfl, ⟨hvalue, rfl⟩, rfl⟩
      have hread := readBytes_append error front (leBytes 2 value) rest
      rw [length_leBytes] at hread
      rw [hread, length_leBytes]
      have hdecoded : ofLeBytes (leBytes 2 value) = value := ofLeBytes_leBytes (by simpa using hvalue)
      change Except.ok (ofLeBytes (leBytes 2 value), front.length + 2) = _
      rw [hdecoded]
  ne_panicked front tail hpanicked := by
    rw [readU16Le_eq] at hpanicked
    cases hread : readBytes error 2 (front ++ tail) front.length with
    | ok step =>
        rw [hread] at hpanicked
        cases hpanicked
    | error fault =>
        rw [hread] at hpanicked
        obtain rfl : fault = .panicked := by cases hpanicked; rfl
        exact (reads_readBytes error 2).ne_panicked front tail hread

theorem Format.many_zero (format : Format A) (values : List A) (bytes : Bytes) :
    Format.only [] values bytes ↔ format.many 0 values bytes := by
  constructor
  · rintro ⟨rfl, rfl⟩
    exact ⟨rfl, [], .nil, rfl⟩
  · rintro ⟨hlength, parts, hparts, rfl⟩
    obtain rfl := List.eq_nil_of_length_eq_zero hlength
    cases hparts
    exact ⟨rfl, rfl⟩

/-- One value more is one value in front of the others, which is how the loop of the
reader goes. -/
theorem Format.many_succ (format : Format A) (count : ℕ) (values : List A) (bytes : Bytes) :
    (format.bind fun value => (format.many count).bind fun values =>
      Format.only (value :: values)) values bytes ↔ format.many (count + 1) values bytes := by
  constructor
  · rintro ⟨value, front, _, rfl, hvalue, others, back, _, rfl, ⟨hlength, parts, hparts, rfl⟩,
      rfl, rfl⟩
    refine ⟨by rw [List.length_cons, hlength], front :: parts, .cons hvalue hparts, ?_⟩
    rw [List.append_nil, List.flatten_cons]
  · rintro ⟨hlength, parts, hparts, rfl⟩
    cases hparts with
    | nil => simp at hlength
    | @cons value front values parts hvalue hparts =>
        refine ⟨value, front, parts.flatten, List.flatten_cons, hvalue, values, parts.flatten, [],
          (List.append_nil _).symm, ⟨by simpa using hlength, parts, hparts, rfl⟩, rfl, rfl⟩

/-- Reading a value a number of times accepts the encodings of as many values, one
behind the other. -/
theorem Reads.many {read : Parser E A} {format : Format A} (hread : Reads read format)
    (count : ℕ) : Reads (readMany read count) (format.many count) := by
  induction count with
  | zero => exact (reads_pure []).congr format.many_zero
  | succ count ih =>
      have hstep : Reads (readMany read (count + 1)) (format.bind fun value =>
          (format.many count).bind fun values => Format.only (value :: values)) :=
        hread.bind fun _ => ih.bind fun _ => reads_pure _
      exact hstep.congr (format.many_succ count)

/-! ## Encoders -/

/-- The format of an encoder, for the values that have an encoding. -/
def Format.of (Valid : A → Prop) (encode : A → Bytes) : Format A := fun value bytes =>
  Valid value ∧ bytes = encode value

theorem Format.bind_of {Valid : A → Prop} {encode : A → Bytes} {second : A → Format B} {value : B}
    {bytes : Bytes} :
    (Format.of Valid encode).bind second value bytes ↔
      ∃ head back, Valid head ∧ bytes = encode head ++ back ∧ second head value back := by
  constructor
  · rintro ⟨head, _, back, hbytes, ⟨hvalid, rfl⟩, hsecond⟩
    exact ⟨head, back, hvalid, hbytes, hsecond⟩
  · rintro ⟨head, back, hvalid, hbytes, hsecond⟩
    exact ⟨head, encode head, back, hbytes, ⟨hvalid, rfl⟩, hsecond⟩

/-- As many values as stated are encoded one behind the other, and each of them has
to be valid. -/
theorem Format.many_of {Valid : A → Prop} {encode : A → Bytes} {count : ℕ} {values : List A}
    {bytes : Bytes} :
    (Format.of Valid encode).many count values bytes ↔
      values.length = count ∧ (∀ value ∈ values, Valid value) ∧
        bytes = values.flatMap encode := by
  have hparts (parts : List Bytes) : List.Forall₂ (Format.of Valid encode) values parts ↔
      (∀ value ∈ values, Valid value) ∧ parts = values.map encode := by
    induction values generalizing parts with
    | nil =>
        rw [List.forall₂_nil_left_iff]
        simp
    | cons value values ih =>
        cases parts with
        | nil => simp
        | cons part parts =>
            rw [List.forall₂_cons, ih, List.forall_mem_cons, List.map_cons, List.cons.injEq]
            exact and_and_and_comm
  constructor
  · rintro ⟨hlength, parts, hvalues, rfl⟩
    obtain ⟨hvalid, rfl⟩ := (hparts parts).1 hvalues
    exact ⟨hlength, hvalid, List.flatMap_def.symm⟩
  · rintro ⟨hlength, hvalid, rfl⟩
    exact ⟨hlength, values.map encode, (hparts _).2 ⟨hvalid, rfl⟩, List.flatMap_def⟩

theorem reads_byte (error : E) :
    Reads (readU8 error) (Format.of (fun _ => True) fun byte => [byte]) :=
  (reads_readU8 error).congr fun _ _ => (iff_of_eq (true_and _)).symm

/-! ## Vectors behind their lengths -/

/-- Elements behind a one-byte count. -/
def readVec (countError : E) (read : Parser E A) : Parser E (List A) := do
  let count ← readU8 countError
  readMany read count.toNat

/-- Bytes behind a one-byte length. -/
def readVecU8 (lengthError error : E) : Parser E Bytes := do
  let length ← readU8 lengthError
  readBytes error length.toNat

/-- Bytes behind a two-byte length. -/
def readVecU16Le (lengthError error : E) : Parser E Bytes := do
  let length ← readU16Le lengthError
  readBytes error length

theorem leBytes_one (value : ℕ) : leBytes 1 value = [UInt8.ofNat value] := rfl

/-- A vector is its length in one byte and its elements, so it has at most 255 of
them. -/
theorem reads_readVec (countError : E) {read : Parser E A} {Valid : A → Prop} {encode : A → Bytes}
    (hread : Reads read (Format.of Valid encode)) :
    Reads (readVec countError read)
      (Format.of (fun values => values.length < 2 ^ 8 ∧ ∀ value ∈ values, Valid value)
        fun values => leBytes 1 values.length ++ values.flatMap encode) := by
  have hcounted : Reads (readVec countError read)
      (Format.u8.bind fun count => (Format.of Valid encode).many count.toNat) :=
    (reads_readU8 countError).bind fun count => hread.many count.toNat
  refine hcounted.congr fun values bytes => ?_
  constructor
  · rintro ⟨count, _, back, rfl, rfl, hmany⟩
    obtain ⟨hlength, hvalid, rfl⟩ := Format.many_of.1 hmany
    have hbound : values.length < 2 ^ 8 := hlength ▸ UInt8.toNat_lt count
    refine ⟨⟨hbound, hvalid⟩, ?_⟩
    simp only [leBytes_one, hlength, UInt8.ofNat_toNat]
  · rintro ⟨⟨hlength, hvalid⟩, rfl⟩
    refine ⟨UInt8.ofNat values.length, _, _, rfl, rfl, Format.many_of.2 ⟨?_, hvalid, rfl⟩⟩
    exact (UInt8.toNat_ofNat_of_lt' hlength).symm

theorem reads_readVecU8 (lengthError error : E) :
    Reads (readVecU8 lengthError error)
      (Format.of (fun bytes => bytes.length < 2 ^ 8) (lenPrefixed 1)) := by
  have hcounted : Reads (readVecU8 lengthError error)
      (Format.u8.bind fun length => Format.exact length.toNat) :=
    (reads_readU8 lengthError).bind fun length => reads_readBytes error length.toNat
  refine hcounted.congr fun value bytes => ?_
  constructor
  · rintro ⟨length, _, _, rfl, rfl, rfl, hlength⟩
    have hbound := UInt8.toNat_lt length
    rw [← hlength] at hbound
    refine ⟨hbound, ?_⟩
    rw [lenPrefixed, leBytes_one, hlength, UInt8.ofNat_toNat]
  · rintro ⟨hlength, rfl⟩
    exact ⟨UInt8.ofNat value.length, _, _, rfl, rfl, rfl,
      (UInt8.toNat_ofNat_of_lt' hlength).symm⟩

/-- A vector of bytes with a length of two bytes is read up to the length that is
stated, or refused. -/
theorem reads_readVecU16Le (lengthError error : E) :
    Reads (readVecU16Le lengthError error)
      (Format.of (fun bytes => bytes.length < 2 ^ 16) (lenPrefixed 2)) := by
  have hcounted : Reads (readVecU16Le lengthError error) (Format.u16Le.bind Format.exact) :=
    (reads_readU16Le lengthError).bind fun length => reads_readBytes error length
  refine hcounted.congr fun value bytes => ?_
  constructor
  · rintro ⟨length, _, _, rfl, ⟨hbound, rfl⟩, rfl, rfl⟩
    exact ⟨hbound, rfl⟩
  · rintro ⟨hbound, rfl⟩
    exact ⟨value.length, _, _, rfl, ⟨hbound, rfl⟩, rfl, rfl⟩

end VisualSignParser.Cursor
