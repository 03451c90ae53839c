import VisualSignParser.Cli.Mappings
import VisualSignParser.Codec.Splits
import VisualSignParser.Codec.Text

/-!
# The transaction on the command line

A transaction is given as it is, or read from a file or the standard input.  Blanks are
dropped from what is read wherever they stand, except within a JSON object, whose
strings may hold them.
-/

namespace VisualSignParser.Cli

open VisualSignParser.Framing
open VisualSignParser.Outcome
open VisualSignParser.Splits
open VisualSignParser.Text

def maxTransactionInputSize : ℕ := 10 * 1024 * 1024

/-- What can be read up to the end, or up to a failure. -/
structure Reader where
  bytes : Bytes
  failure : Option String

/-- Files by their paths, and the standard input. -/
structure Inputs where
  openFile : String → Except String Reader
  stdin : Reader

/-- `read_to_string` of what `take` leaves; a failure behind the limit is not met. -/
def readToString (reader : Reader) (limit : ℕ) : Except String String :=
  match reader.failure with
  | some error =>
      if reader.bytes.length < limit then .error error
      else okOr "stream did not contain valid UTF-8" (ofUtf8Bytes (reader.bytes.take limit))
  | none => okOr "stream did not contain valid UTF-8" (ofUtf8Bytes (reader.bytes.take limit))

/-- At most one byte more than is allowed is read. -/
def readBounded (reader : Reader) (source : String) : Except String String := do
  let buf ← (readToString reader (maxTransactionInputSize + 1)).mapError fun error =>
    "Failed to read transaction from " ++ source ++ ": " ++ error
  require ((utf8Bytes buf).length ≤ maxTransactionInputSize) ("Transaction input from " ++
    source ++ " exceeds maximum size (" ++ toString maxTransactionInputSize ++ " bytes)")
  return buf

def isNotBlank (char : Char) : Bool := !isAsciiWhitespace char

/-- The parts between the blanks, put together. -/
def stripAsciiWhitespace (input : String) : String :=
  String.ofList (input.toList.filter isNotBlank)

def byteOrderMark : Char := Char.ofNat 0xfeff

/-- One byte order mark is dropped before anything else. -/
def unmarked : List Char → List Char
  | first :: rest => if first = byteOrderMark then rest else first :: rest
  | [] => []

def resolveBuffer (raw : String) : String :=
  let body := unmarked raw.toList
  if (body.dropWhile isAsciiWhitespace).head? = some '{' then
    String.ofList (trimBoth isAsciiWhitespace body)
  else stripAsciiWhitespace (String.ofList body)

def resolveTransactionInput (inputs : Inputs) (input : String) : Except String String :=
  match stripStart "@" input with
  | none => .ok input
  | some rest =>
      if rest = "" then
        .error "'@' must be followed by a path, or use '@-' to read from stdin"
      else if rest = "-" then (readBounded inputs.stdin "<stdin>").map resolveBuffer
      else do
        let file ← (inputs.openFile rest).mapError fun error =>
          "Failed to open transaction file '" ++ rest ++ "': " ++ error
        let raw ← readBounded file rest
        return resolveBuffer raw

/-! ## What is read -/

theorem readToString_eq_ok_iff {reader : Reader} {limit : ℕ} {text : String} :
    readToString reader limit = .ok text ↔
      ofUtf8Bytes (reader.bytes.take limit) = some text ∧
        (reader.bytes.length < limit → reader.failure = none) := by
  obtain ⟨bytes, failure⟩ := reader
  cases failure with
  | none => simp [readToString, okOr_eq_ok]
  | some error =>
      simp only [readToString, reduceCtorEq, imp_false]
      split_ifs with hshort
      · simp [hshort]
      · simp [hshort, okOr_eq_ok]

/-- What is read is read whole, and without a failure. -/
theorem readBounded_eq_ok_iff {reader : Reader} {source raw : String} :
    readBounded reader source = .ok raw ↔
      reader = ⟨utf8Bytes raw, none⟩ ∧ (utf8Bytes raw).length ≤ maxTransactionInputSize := by
  simp only [readBounded, bind_eq_ok, mapError_eq_ok, require_eq_ok, pure_eq_ok,
    readToString_eq_ok_iff]
  constructor
  · rintro ⟨content, ⟨hcontent, hfailure⟩, ⟨⟩, hsize, rfl⟩
    have hbounded := hsize
    rw [utf8Bytes_of_ofUtf8Bytes hcontent] at hbounded
    obtain ⟨hwhole, hshort⟩ := read_whole_iff.1 ⟨hcontent, hbounded⟩
    have hread := hfailure (by rw [hwhole]; omega)
    obtain ⟨bytes, failure⟩ := reader
    exact ⟨congrArg₂ Reader.mk hwhole hread, hshort⟩
  · rintro ⟨rfl, hsize⟩
    exact ⟨raw, ⟨(read_whole_iff.2 ⟨rfl, hsize⟩).1, fun _ => rfl⟩, (), hsize, rfl⟩

/-! ## The text of a transaction -/

/-- The first item that is no blank is the first that is kept. -/
theorem head?_dropWhile_eq_head?_filter (chars : List Char) :
    (chars.dropWhile isAsciiWhitespace).head? = (chars.filter isNotBlank).head? := by
  induction chars with
  | nil => rfl
  | cons first chars ih =>
      cases hfirst : isAsciiWhitespace first with
      | true =>
          rw [List.dropWhile_cons_of_pos hfirst, ih, List.filter_cons_of_neg]
          simp [isNotBlank, hfirst]
      | false =>
          rw [List.dropWhile_cons_of_neg (by simp [hfirst]), List.filter_cons_of_pos]
          · rfl
          · simp [isNotBlank, hfirst]

/-- A text that stands in a buffer: an object with blanks around it, or what is left of a
buffer without its blanks. -/
inductive LaidOut : List Char → List Char → Prop where
  | object {before text after : List Char}
      (hbefore : ∀ char ∈ before, isAsciiWhitespace char = true)
      (hafter : ∀ char ∈ after, isAsciiWhitespace char = true)
      (hopens : text.head? = some '{') (htrimmed : Trimmed isAsciiWhitespace text) :
      LaidOut (before ++ text ++ after) text
  | compact {body : List Char} (hbody : (body.filter isNotBlank).head? ≠ some '{') :
      LaidOut body (body.filter isNotBlank)

/-- A list is its trimmed part between blanks. -/
theorem exists_trimBoth (chars : List Char) :
    ∃ before after, (∀ char ∈ before, isAsciiWhitespace char = true) ∧
      (∀ char ∈ after, isAsciiWhitespace char = true) ∧
      chars = before ++ trimBoth isAsciiWhitespace chars ++ after := by
  refine ⟨chars.takeWhile isAsciiWhitespace,
    ((chars.dropWhile isAsciiWhitespace).reverse.takeWhile isAsciiWhitespace).reverse,
    fun char hchar => List.mem_takeWhile_imp hchar,
    fun char hchar => List.mem_takeWhile_imp (List.mem_reverse.1 hchar), ?_⟩
  rw [trimBoth, List.append_assoc, ← List.reverse_append, List.takeWhile_append_dropWhile,
    List.reverse_reverse, List.takeWhile_append_dropWhile]

/-- The first character of what stands between blanks is the first that is no blank. -/
theorem head?_filter_of_trimmed {before text after : List Char}
    (hbefore : ∀ char ∈ before, isAsciiWhitespace char = true)
    (hafter : ∀ char ∈ after, isAsciiWhitespace char = true)
    (htrimmed : Trimmed isAsciiWhitespace text) :
    ((before ++ text ++ after).filter isNotBlank).head? = text.head? := by
  have hblank {ends : List Char} (hends : ∀ char ∈ ends, isAsciiWhitespace char = true) :
      ends.filter isNotBlank = [] := by
    apply List.filter_eq_nil_iff.2
    intro char hchar
    simp [isNotBlank, hends char hchar]
  rw [List.filter_append, List.filter_append, hblank hbefore, hblank hafter, List.nil_append,
    List.append_nil, ← head?_dropWhile_eq_head?_filter]
  congr 1
  apply List.dropWhile_eq_self_iff.2
  intro hlength
  rw [htrimmed.1 _ (List.head?_eq_getElem? ▸ List.getElem?_eq_getElem hlength)]
  exact Bool.false_ne_true

theorem resolveBuffer_eq_iff {raw text : String} :
    resolveBuffer raw = text ↔ LaidOut (unmarked raw.toList) text.toList := by
  unfold resolveBuffer
  dsimp only
  rw [head?_dropWhile_eq_head?_filter]
  generalize unmarked raw.toList = body
  constructor
  · rintro rfl
    split_ifs with hobject
    · obtain ⟨before, after, hbefore, hafter, hbody⟩ := exists_trimBoth body
      have htrimmed : Trimmed isAsciiWhitespace (trimBoth isAsciiWhitespace body) :=
        trimmed_trimBoth body
      rw [hbody, head?_filter_of_trimmed hbefore hafter htrimmed] at hobject
      have hlaid := LaidOut.object hbefore hafter hobject htrimmed
      rw [String.toList_ofList]
      rwa [← hbody] at hlaid
    · rw [stripAsciiWhitespace, String.toList_ofList, String.toList_ofList]
      exact .compact hobject
  · intro hlaid
    apply String.toList_inj.1
    generalize text.toList = chars at hlaid ⊢
    cases hlaid with
    | object hbefore hafter hopens htrimmed =>
        have hnonempty : chars ≠ [] := by
          rintro rfl
          cases hopens
        rw [head?_filter_of_trimmed hbefore hafter htrimmed, if_pos hopens, String.toList_ofList,
          trimBoth_append hbefore htrimmed hafter hnonempty]
    | compact hbody =>
        rw [if_neg hbody, stripAsciiWhitespace, String.toList_ofList, String.toList_ofList]

/-- Where an argument refers to, and what can be read there. -/
def RefersTo (inputs : Inputs) (input : String) (reader : Reader) : Prop :=
  input = "@-" ∧ inputs.stdin = reader ∨
    ∃ path, path ≠ "" ∧ path ≠ "-" ∧ input = "@" ++ path ∧ inputs.openFile path = .ok reader

theorem not_reference_iff {input : String} :
    stripStart "@" input = none ↔ input.toList.head? ≠ some '@' := by
  unfold stripStart
  change (if ['@'] <+: input.toList then _ else _) = none ↔ _
  cases input.toList with
  | nil => simp
  | cons first rest => simp [List.cons_prefix_cons, eq_comm]

theorem readBuffer_eq_ok_iff {reader : Reader} {source transaction : String} :
    (readBounded reader source).map resolveBuffer = .ok transaction ↔
      ∃ raw, reader = ⟨utf8Bytes raw, none⟩ ∧ (utf8Bytes raw).length ≤ maxTransactionInputSize ∧
        LaidOut (unmarked raw.toList) transaction.toList := by
  rw [map_eq_ok]
  simp only [readBounded_eq_ok_iff, resolveBuffer_eq_iff, and_assoc]

/-- The transaction of a reference is what is read where it points. -/
theorem resolve_reference {inputs : Inputs} {rest transaction : String} :
    resolveTransactionInput inputs ("@" ++ rest) = .ok transaction ↔
      ∃ reader source, RefersTo inputs ("@" ++ rest) reader ∧
        (readBounded reader source).map resolveBuffer = .ok transaction := by
  unfold resolveTransactionInput
  rw [stripStart_append]
  dsimp only
  have hpath {path : String} (hsame : "@" ++ rest = "@" ++ path) : path = rest :=
    (String.append_right_inj "@").1 hsame.symm
  split_ifs with hempty hstdin
  · constructor
    · intro hnone
      cases hnone
    · rintro ⟨reader, source, ⟨hinput, -⟩ | ⟨path, hnonempty, -, hinput, -⟩, -⟩
      · have hdash : "-" = rest := hpath hinput
        exact absurd (hdash.trans hempty) (by decide)
      · exact absurd ((hpath hinput).trans hempty) hnonempty
  · subst hstdin
    constructor
    · intro hread
      exact ⟨_, _, .inl ⟨rfl, rfl⟩, hread⟩
    · rintro ⟨reader, source, ⟨-, rfl⟩ | ⟨path, -, hnotStdin, hinput, -⟩, hread⟩
      · exact readBuffer_eq_ok_iff.2 (readBuffer_eq_ok_iff.1 hread)
      · exact absurd (hpath hinput) hnotStdin
  · rw [bind_eq_ok]
    simp only [mapError_eq_ok]
    constructor
    · rintro ⟨reader, hopen, hread⟩
      exact ⟨reader, rest, .inr ⟨rest, hempty, hstdin, rfl, hopen⟩, hread⟩
    · rintro ⟨reader, source, ⟨hinput, -⟩ | ⟨path, -, -, hinput, hopen⟩, hread⟩
      · have hdash : "-" = rest := hpath hinput
        exact absurd hdash.symm hstdin
      · rw [hpath hinput] at hopen
        exact ⟨reader, hopen, readBuffer_eq_ok_iff.2 (readBuffer_eq_ok_iff.1 hread)⟩

/-- A transaction is given as it is, or stands in a text of at most ten megabytes: an
object with all of its blanks, anything else without them. -/
theorem resolved_iff (inputs : Inputs) (input transaction : String) :
    resolveTransactionInput inputs input = .ok transaction ↔
      input = transaction ∧ input.toList.head? ≠ some '@' ∨
        ∃ raw, RefersTo inputs input ⟨utf8Bytes raw, none⟩ ∧
          (utf8Bytes raw).length ≤ maxTransactionInputSize ∧
          LaidOut (unmarked raw.toList) transaction.toList := by
  cases hstrip : stripStart "@" input with
  | none =>
      have hgiven := not_reference_iff.1 hstrip
      have hnowhere (reader : Reader) : ¬RefersTo inputs input reader := by
        rintro (⟨rfl, -⟩ | ⟨path, -, -, rfl, -⟩)
        · exact hgiven rfl
        · exact hgiven (by rw [String.toList_append]; rfl)
      rw [resolveTransactionInput, hstrip]
      constructor
      · intro hsame
        exact .inl ⟨Except.ok.inj hsame, hgiven⟩
      · rintro (⟨rfl, -⟩ | ⟨raw, hrefers, -⟩)
        · rfl
        · exact absurd hrefers (hnowhere _)
  | some rest =>
      obtain rfl := stripStart_eq_some.1 hstrip
      rw [resolve_reference]
      simp only [readBuffer_eq_ok_iff]
      constructor
      · rintro ⟨bytes, -, hrefers, raw, rfl, hsize, hlaid⟩
        exact .inr ⟨raw, hrefers, hsize, hlaid⟩
      · rintro (⟨-, hgiven⟩ | ⟨raw, hrefers, hsize, hlaid⟩)
        · exact absurd (by rw [String.toList_append]; rfl) hgiven
        · exact ⟨_, "", hrefers, raw, rfl, hsize, hlaid⟩

end VisualSignParser.Cli
