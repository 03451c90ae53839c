import VisualSignParser.Codec.Framing

/-!
# Reading ABI-encoded values

The contract ABI lays a sequence of values out in words of 32 bytes.  A static
value stands where it is read; a dynamic one is reached through an offset into
the buffer of its sequence.  The reader bounds every access and checks nothing
else: the bytes of a word above the width of its type are dropped, no padding is
asked for, and the bytes behind the last value are left unread.
-/

namespace VisualSignParser.Abi

open VisualSignParser.Framing

/-- A buffer and the position of the next word in it. -/
structure Cursor where
  buffer : Bytes
  offset : ℕ

abbrev Read := StateT Cursor Option

variable {A B : Type}

def wordAt (buffer : Bytes) (offset : ℕ) : BitVec 256 :=
  BitVec.ofNat 256 (ofBeBytes ((buffer.drop offset).take 32))

def takeWord : Read (BitVec 256) := fun cursor =>
  if cursor.offset + 32 ≤ cursor.buffer.length then
    some (wordAt cursor.buffer cursor.offset, { cursor with offset := cursor.offset + 32 })
  else none

/-- A word that is used as an offset or a length has to fit a `usize`. -/
def takeOffset : Read ℕ := do
  let word ← takeWord
  if word.toNat < 2 ^ 64 then pure word.toNat else failure

def takeSlice (length : ℕ) : Read Bytes := fun cursor =>
  if cursor.offset + length ≤ cursor.buffer.length then
    some ((cursor.buffer.drop cursor.offset).take length,
      { cursor with offset := cursor.offset + length })
  else none

/-- Follow an offset: the child's buffer starts there. -/
def takeIndirection : Read Cursor := do
  let offset ← takeOffset
  let cursor ← get
  if offset ≤ cursor.buffer.length then pure ⟨cursor.buffer.drop offset, 0⟩ else failure

/-- Read in a child and leave the parent's cursor where it is. -/
def within (child : Cursor) (read : Read A) : Read A := fun cursor =>
  (read child).map fun result => (result.1, cursor)

/-! ## Values -/

def uint (width : ℕ) : Read (BitVec width) := do
  let word ← takeWord
  pure (word.setWidth width)

/-- The last twenty bytes of a word. -/
def address : Read (ByteArr 20) := do
  let word ← takeWord
  pure ⟨beBytes 20 word.toNat, length_beBytes 20 word.toNat⟩

def bool : Read Bool := do
  let word ← takeWord
  pure (word != 0)

def bytes : Read Bytes := do
  let child ← takeIndirection
  within child do
    let length ← takeOffset
    takeSlice length

def readMany (element : Read A) : ℕ → Read (List A)
  | 0 => pure []
  | count + 1 => do
      let value ← element
      let values ← readMany element count
      pure (value :: values)

/-- The offsets inside an array are relative to the word after its length. -/
def array (element : Read A) : Read (List A) := do
  let child ← takeIndirection
  within child do
    let length ← takeOffset
    let cursor ← get
    within ⟨cursor.buffer.drop cursor.offset, 0⟩ (readMany element length)

/-! ## Whole buffers -/

def decodeSequence (read : Read A) (data : Bytes) : Option A :=
  (read ⟨data, 0⟩).map Prod.fst

/-- A call is its selector followed by the sequence of its arguments. -/
def decodeCall (selector : Bytes) (read : Read A) (calldata : Bytes) : Option A :=
  if selector <+: calldata then decodeSequence read (calldata.drop selector.length) else none

/-- A call is decoded only from calldata that begins with its selector. -/
theorem selector_of_decodeCall {selector calldata : Bytes} {read : Read A} {call : A}
    (hcall : decodeCall selector read calldata = some call) : selector <+: calldata := by
  rw [decodeCall] at hcall
  split_ifs at hcall with hselector
  exact hselector

/-- Two selectors of the same length cannot both start the calldata. -/
theorem not_starts_of_ne {selector other input : Bytes} (hselector : selector <+: input)
    (hlength : selector.length = other.length) (hne : selector ≠ other) : ¬ other <+: input := by
  intro hother
  have hboth := List.prefix_of_prefix_length_le hselector hother hlength.le
  exact hne (hboth.eq_of_length hlength)

/-- Calldata that begins with one selector is not decoded as a call with another one
of the same length. -/
theorem decodeCall_of_other {selector other calldata : Bytes} {read : Read A}
    (hselector : selector <+: calldata) (hlength : selector.length = other.length)
    (hne : selector ≠ other) : decodeCall other read calldata = none :=
  if_neg (not_starts_of_ne hselector hlength hne)

/-- The word at an offset is the number that its thirty-two bytes write, whatever
stands in front of it and behind it. -/
theorem wordAt_append {before word after : Bytes} (hword : word.length = 32) :
    wordAt (before ++ word ++ after) before.length = BitVec.ofNat 256 (ofBeBytes word) := by
  rw [wordAt, List.append_assoc, List.drop_left, List.take_left' hword]

theorem takeWord_eq {buffer : Bytes} {offset : ℕ} (hoffset : offset + 32 ≤ buffer.length) :
    takeWord ⟨buffer, offset⟩ = some (wordAt buffer offset, ⟨buffer, offset + 32⟩) :=
  if_pos hoffset

/-- An address is read off the low twenty bytes of its word; the high bytes are not
looked at. -/
theorem address_eq {buffer : Bytes} {offset : ℕ} (hoffset : offset + 32 ≤ buffer.length) :
    address ⟨buffer, offset⟩ = some (⟨beBytes 20 (wordAt buffer offset).toNat, length_beBytes ..⟩,
      ⟨buffer, offset + 32⟩) := by
  change (takeWord ⟨buffer, offset⟩).bind _ = _
  rw [takeWord_eq hoffset]
  rfl

/-- A narrow number is read off the low bits of its word, so a word that is too
large is cut and not refused. -/
theorem uint_eq {width : ℕ} {buffer : Bytes} {offset : ℕ} (hoffset : offset + 32 ≤ buffer.length) :
    uint width ⟨buffer, offset⟩ =
      some ((wordAt buffer offset).setWidth width, ⟨buffer, offset + 32⟩) := by
  change (takeWord ⟨buffer, offset⟩).bind _ = _
  rw [takeWord_eq hoffset]
  rfl

/-! ## Static sequences -/

/-- A read of `count` words: it succeeds when they are there, and what it
returns depends on them alone. -/
def Words (count : ℕ) (read : Read A) : Prop :=
  ∃ value : Bytes → A, ∀ cursor : Cursor, cursor.offset ≤ cursor.buffer.length →
    read cursor =
      if cursor.offset + 32 * count ≤ cursor.buffer.length then
        some (value ((cursor.buffer.drop cursor.offset).take (32 * count)),
          { cursor with offset := cursor.offset + 32 * count })
      else none

theorem words_pure (value : A) : Words 0 (pure value) := by
  use fun _ => value
  intro cursor hcursor
  rw [if_pos (by omega)]
  rfl

theorem words_takeWord : Words 1 takeWord := by
  use fun word => BitVec.ofNat 256 (ofBeBytes word)
  intro cursor _
  rw [takeWord, Nat.mul_one, wordAt]

/-- Two readers in a row that read words and nothing else do so together; what the
first one reads does not change how many words follow. -/
theorem Words.bind {first second : ℕ} {read : Read A} {rest : A → Read B}
    (hread : Words first read) (hrest : ∀ value, Words second (rest value)) :
    Words (first + second) (read >>= rest) := by
  obtain ⟨value, hvalue⟩ := hread
  choose restValue hrestValue using hrest
  use fun words => restValue (value (words.take (32 * first))) (words.drop (32 * first))
  intro cursor hcursor
  change (read cursor).bind (fun result => rest result.1 result.2) = _
  rw [hvalue cursor hcursor]
  by_cases hfirst : cursor.offset + 32 * first ≤ cursor.buffer.length
  · rw [if_pos hfirst, Option.bind_some, hrestValue _ _ hfirst]
    dsimp only
    by_cases hboth : cursor.offset + 32 * (first + second) ≤ cursor.buffer.length
    · rw [if_pos (by omega), if_pos hboth]
      have htake : ((cursor.buffer.drop cursor.offset).take (32 * (first + second))).take
          (32 * first) = (cursor.buffer.drop cursor.offset).take (32 * first) := by
        rw [List.take_take, Nat.min_eq_left (by omega)]
      have hdrop : ((cursor.buffer.drop cursor.offset).take (32 * (first + second))).drop
          (32 * first) =
            (cursor.buffer.drop (cursor.offset + 32 * first)).take (32 * second) := by
        rw [List.drop_take, List.drop_drop]
        congr 1
        omega
      rw [htake, hdrop]
      simp only [Nat.mul_add, Nat.add_assoc]
    · rw [if_neg (by omega), if_neg hboth]
  · rw [if_neg hfirst, if_neg (by omega), Option.bind_none]

theorem words_uint (width : ℕ) : Words 1 (uint width) :=
  words_takeWord.bind fun _ => words_pure _

theorem words_address : Words 1 address :=
  words_takeWord.bind fun _ => words_pure _

/-- A reader of words succeeds exactly if there are bytes enough, since any word
stands for a value. -/
theorem Words.decodeSequence_isSome {count : ℕ} {read : Read A} (hread : Words count read)
    (data : Bytes) : (decodeSequence read data).isSome ↔ 32 * count ≤ data.length := by
  obtain ⟨value, hvalue⟩ := hread
  rw [decodeSequence, hvalue ⟨data, 0⟩ (Nat.zero_le _)]
  split_ifs with hlength <;> simp_all

/-- Bytes behind the words that are read change nothing, so longer calldata decodes
to the same call. -/
theorem Words.decodeSequence_append {count : ℕ} {read : Read A} (hread : Words count read)
    {data : Bytes} (hlength : 32 * count ≤ data.length) (extra : Bytes) :
    decodeSequence read (data ++ extra) = decodeSequence read data := by
  obtain ⟨value, hvalue⟩ := hread
  have happended : 32 * count ≤ (data ++ extra).length := by
    rw [List.length_append]
    omega
  simp only [decodeSequence, hvalue ⟨data, 0⟩ (Nat.zero_le _),
    hvalue ⟨data ++ extra, 0⟩ (Nat.zero_le _), Nat.zero_add, if_pos hlength, if_pos happended,
    Option.map_some, List.drop_zero, List.take_append_of_le_length hlength]

/-- A call of words alone is decoded exactly from calldata with its selector and
bytes enough behind it. -/
theorem Words.decodeCall_isSome {count : ℕ} {read : Read A} (hread : Words count read)
    (selector calldata : Bytes) :
    (decodeCall selector read calldata).isSome ↔
      selector <+: calldata ∧ selector.length + 32 * count ≤ calldata.length := by
  rw [decodeCall]
  split_ifs with hselector
  · have hlength := hselector.length_le
    rw [hread.decodeSequence_isSome, List.length_drop]
    constructor
    · intro hwords
      exact ⟨hselector, by omega⟩
    · rintro ⟨-, hwords⟩
      omega
  · exact iff_of_false Bool.false_ne_true fun hboth => hselector hboth.1

/-- Bytes behind the arguments of a call do not change them. -/
theorem Words.decodeCall_append {count : ℕ} {selector calldata : Bytes} {read : Read A} {call : A}
    (hread : Words count read) (hcall : decodeCall selector read calldata = some call)
    (extra : Bytes) : decodeCall selector read (calldata ++ extra) = some call := by
  have hselector := selector_of_decodeCall hcall
  rw [decodeCall, if_pos hselector] at hcall
  have hlength : 32 * count ≤ (calldata.drop selector.length).length :=
    (hread.decodeSequence_isSome _).1 (by rw [hcall]; rfl)
  rw [decodeCall, if_pos (hselector.trans (List.prefix_append ..)),
    List.drop_append_of_le_length hselector.length_le, hread.decodeSequence_append hlength, hcall]

/-- A read that begins with static words succeeds when they are there and the
rest of it succeeds behind them. -/
theorem Words.bind_isSome {count : ℕ} {read : Read A} {rest : A → Read B} {cursor : Cursor}
    {follows : Prop} (hread : Words count read) (hcursor : cursor.offset ≤ cursor.buffer.length)
    (hrest : cursor.offset + 32 * count ≤ cursor.buffer.length → ∀ value,
      (rest value { cursor with offset := cursor.offset + 32 * count }).isSome ↔ follows) :
    ((read >>= rest) cursor).isSome ↔
      cursor.offset + 32 * count ≤ cursor.buffer.length ∧ follows := by
  obtain ⟨value, hvalue⟩ := hread
  change ((read cursor).bind fun result => rest result.1 result.2).isSome ↔ _
  rw [hvalue cursor hcursor]
  split_ifs with hwords
  · rw [Option.bind_some, hrest hwords]
    exact ⟨fun hfollows => ⟨hwords, hfollows⟩, fun hboth => hboth.2⟩
  · rw [Option.bind_none, Option.isSome_none]
    exact iff_of_false Bool.false_ne_true fun hboth => hwords hboth.1

theorem bind_pure_isSome (read : Read A) (convert : A → B) (cursor : Cursor) :
    ((read >>= fun value => pure (convert value)) cursor).isSome ↔ (read cursor).isSome := by
  change ((read cursor).bind fun result => some (convert result.1, result.2)).isSome ↔ _
  cases read cursor <;> rfl

/-! ## Byte strings -/

/-- An offset is read if its word is within the bytes and below the bound of a
machine word. -/
theorem takeOffset_apply (cursor : Cursor) :
    takeOffset cursor =
      if cursor.offset + 32 ≤ cursor.buffer.length ∧
          (wordAt cursor.buffer cursor.offset).toNat < 2 ^ 64 then
        some ((wordAt cursor.buffer cursor.offset).toNat,
          { cursor with offset := cursor.offset + 32 })
      else none := by
  change (takeWord cursor).bind (fun result =>
    (if result.1.toNat < 2 ^ 64 then pure result.1.toNat else failure : Read ℕ) result.2) = _
  rw [takeWord]
  by_cases hword : cursor.offset + 32 ≤ cursor.buffer.length
  · by_cases hoffset : (wordAt cursor.buffer cursor.offset).toNat < 2 ^ 64
    · rw [if_pos hword, if_pos ⟨hword, hoffset⟩, Option.bind_some, if_pos hoffset]
      rfl
    · rw [if_pos hword, if_neg fun hboth => hoffset hboth.2, Option.bind_some, if_neg hoffset]
      rfl
  · rw [if_neg hword, if_neg fun hboth => hword hboth.1, Option.bind_none]

/-- The offset word at `offset` leads to a length word, and that many bytes
follow it. -/
def HoldsBytes (buffer : Bytes) (offset : ℕ) : Prop :=
  let start := (wordAt buffer offset).toNat
  let length := (wordAt buffer start).toNat
  offset + 32 ≤ buffer.length ∧ start < 2 ^ 64 ∧ length < 2 ^ 64 ∧
    start + 32 + length ≤ buffer.length

instance (buffer : Bytes) (offset : ℕ) : Decidable (HoldsBytes buffer offset) :=
  inferInstanceAs (Decidable (_ ∧ _))

theorem wordAt_drop (buffer : Bytes) (start offset : ℕ) :
    wordAt (buffer.drop start) offset = wordAt buffer (start + offset) := by
  rw [wordAt, wordAt, List.drop_drop]

/-- The tail is read at the offset from the start of the sequence, if the offset is
not beyond the end. -/
theorem takeIndirection_apply (cursor : Cursor) :
    takeIndirection cursor = (takeOffset cursor).bind fun result =>
      if result.1 ≤ result.2.buffer.length then
        some (⟨result.2.buffer.drop result.1, 0⟩, result.2)
      else none := by
  change (takeOffset cursor).bind (fun result => (do
    let cursor ← get
    if result.1 ≤ cursor.buffer.length then pure ⟨cursor.buffer.drop result.1, 0⟩ else failure :
      Read Cursor) result.2) = _
  congr 1
  funext result
  change (if result.1 ≤ result.2.buffer.length then
    (pure ⟨result.2.buffer.drop result.1, 0⟩ : Read Cursor) else failure) result.2 = _
  split_ifs <;> rfl

theorem bytes_apply (cursor : Cursor) :
    bytes cursor = (takeIndirection cursor).bind fun child =>
      ((takeOffset child.1).bind fun length => takeSlice length.1 length.2).map
        fun slice => (slice.1, child.2) :=
  rfl

/-- Bytes are read exactly if an offset leads to a length within the data that has
as many bytes behind it, padding not included. -/
theorem bytes_isSome (cursor : Cursor) :
    (bytes cursor).isSome ↔ HoldsBytes cursor.buffer cursor.offset := by
  rw [bytes_apply, takeIndirection_apply, takeOffset_apply, HoldsBytes]
  by_cases hstart : cursor.offset + 32 ≤ cursor.buffer.length ∧
      (wordAt cursor.buffer cursor.offset).toNat < 2 ^ 64
  · rw [if_pos hstart, Option.bind_some]
    dsimp only
    generalize (wordAt cursor.buffer cursor.offset).toNat = start at hstart ⊢
    by_cases hinside : start ≤ cursor.buffer.length
    · rw [if_pos hinside, Option.bind_some, takeOffset_apply]
      simp only [wordAt_drop, Nat.add_zero, Nat.zero_add, List.length_drop]
      generalize (wordAt cursor.buffer start).toNat = length
      by_cases hlength : 32 ≤ cursor.buffer.length - start ∧ length < 2 ^ 64
      · rw [if_pos hlength, Option.bind_some, takeSlice, Option.isSome_map]
        simp only [List.length_drop]
        by_cases hslice : 32 + length ≤ cursor.buffer.length - start
        · rw [if_pos hslice]
          exact iff_of_true rfl ⟨hstart.1, hstart.2, hlength.2, by omega⟩
        · rw [if_neg hslice]
          exact iff_of_false Bool.false_ne_true fun hholds => hslice (by omega)
      · rw [if_neg hlength]
        exact iff_of_false Bool.false_ne_true fun hholds =>
          hlength ⟨by omega, hholds.2.2.1⟩
    · rw [if_neg hinside]
      exact iff_of_false Bool.false_ne_true fun hholds => hinside (by omega)
  · rw [if_neg hstart]
    exact iff_of_false Bool.false_ne_true fun hholds => hstart ⟨hholds.1, hholds.2.1⟩

end VisualSignParser.Abi
