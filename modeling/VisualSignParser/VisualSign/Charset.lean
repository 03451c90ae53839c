import VisualSignParser.VisualSign.Errors
import VisualSignParser.VisualSign.KeyOrder

/-!
# The display charset gate

The gate never looks at the payload: it scans the JSON text for forbidden
escape sequences, for characters outside ASCII and for unprintable ones.  Every
character of a string or key stands in that text as itself or as its escape, so
what the scan lets through is what the display will show.
-/

namespace VisualSignParser.VisualSign

open VisualSignParser.Json
open VisualSignParser.Text

def forbiddenJsonEscapes : List String := ["\\u", "\\t", "\\r", "\\b", "\\f", "\\/"]

/-- `char::escape_default`. -/
def escapeDefault (char : Char) : String :=
  if char = '\t' then "\\t"
  else if char = '\r' then "\\r"
  else if char = '\n' then "\\n"
  else if char = '\'' then "\\'"
  else if char = '"' then "\\\""
  else if char = '\\' then "\\\\"
  else if 0x20 ≤ char.toNat ∧ char.toNat ≤ 0x7e then String.ofList [char]
  else "\\u\x7b" ++ String.ofList (Nat.toDigits 16 char.toNat) ++ "\x7d"

/-- At least two upper-case hexadecimal digits. -/
def upperHex (code : ℕ) : String :=
  let digits := (Nat.toDigits 16 code).map Char.toUpper
  String.ofList (List.replicate (2 - digits.length) '0' ++ digits)

def nonPrintableMessage (char : Char) (position : ℕ) : String :=
  "JSON output contains non-printable character '" ++ escapeDefault char ++ "' (U+" ++
    upperHex char.toNat ++ ") at position " ++ toString position

/-- The first character that is neither printable nor white space.  The text
is ASCII here, so positions in bytes and in characters agree. -/
def firstNonPrintable : ℕ → List Char → Option (Char × ℕ)
  | _, [] => none
  | position, char :: rest =>
      if !isAsciiGraphic char && !isAsciiWhitespace char then some (char, position)
      else firstNonPrintable (position + 1) rest

def SignablePayload.validateCharset (backing : Backing) (payload : SignablePayload) :
    Except VisualSignError Unit :=
  match payload.toJson backing with
  | .error error =>
      .error (.serializationError ("Failed to serialize for validation: " ++ error.message))
  | .ok json =>
      if forbiddenJsonEscapes.any (Text.contains json.toList) then
        .error (.validationError "Restricted Characters Detected")
      else if !json.toList.all (fun char => char.toNat < 0x80) then
        .error (.validationError "Restricted Characters Detected")
      else match firstNonPrintable 0 json.toList with
        | some (char, position) => .error (.validationError (nonPrintableMessage char position))
        | none => .ok ()

/-! ## What the scan establishes -/

theorem firstNonPrintable_eq_none_iff {position : ℕ} {text : List Char} :
    firstNonPrintable position text = none ↔
      ∀ char ∈ text, isAsciiGraphic char = true ∨ isAsciiWhitespace char = true := by
  induction text generalizing position with
  | nil => simp [firstNonPrintable]
  | cons head text ih =>
      rw [firstNonPrintable, List.forall_mem_cons]
      split_ifs with hhead
      · simp only [Bool.and_eq_true, Bool.not_eq_true'] at hhead
        simp [hhead]
      · simp only [Bool.and_eq_true, Bool.not_eq_true', not_and_or, Bool.not_eq_false] at hhead
        rw [and_iff_right hhead, ih]

/-- Printable ASCII or a line break. -/
def Displayable (char : Char) : Prop :=
  (0x20 ≤ char.toNat ∧ char.toNat ≤ 0x7e) ∨ char = '\n'

instance (char : Char) : Decidable (Displayable char) := inferInstanceAs (Decidable (_ ∨ _))

/-- A character whose escape stands in a text that passes the scan is
displayable. -/
theorem displayable_of_escapeChar_infix {char : Char} {text : List Char}
    (hescape : escapeChar char <:+: text)
    (hforbidden : ∀ escape ∈ forbiddenJsonEscapes, ¬escape.toList <:+: text)
    (hprintable : ∀ char ∈ text, isAsciiGraphic char = true ∨ isAsciiWhitespace char = true) :
    Displayable char := by
  have hnone (escape : String) (hmem : escape ∈ forbiddenJsonEscapes)
      (hoccurs : escape.toList <:+: escapeChar char) : False :=
    hforbidden escape hmem (hoccurs.trans hescape)
  unfold escapeChar at hescape hnone
  split_ifs at hescape hnone with hquote hbackslash hb ht hn hf hr hcontrol
  · rw [hquote]
    exact .inl (by decide)
  · rw [hbackslash]
    exact .inl (by decide)
  · exact (hnone "\\b" (by decide) (by decide)).elim
  · exact (hnone "\\t" (by decide) (by decide)).elim
  · exact .inr (Char.toNat_inj.1 hn)
  · exact (hnone "\\f" (by decide) (by decide)).elim
  · exact (hnone "\\r" (by decide) (by decide)).elim
  · exact (hnone "\\u" (by decide) ⟨[], _, rfl⟩).elim
  · have hmem : char ∈ text := hescape.subset (List.mem_singleton_self char)
    have hshown := hprintable char hmem
    simp only [isAsciiGraphic, isAsciiWhitespace, Bool.and_eq_true, Bool.or_eq_true,
      decide_eq_true_eq, beq_iff_eq] at hshown
    exact .inl (by omega)

theorem validateCharset_eq_ok {payload : SignablePayload} {backing : Backing} {json : String}
    (hjson : payload.toJson backing = .ok json)
    (hok : payload.validateCharset backing = .ok ()) :
    (∀ escape ∈ forbiddenJsonEscapes, ¬escape.toList <:+: json.toList) ∧
      ∀ char ∈ json.toList, isAsciiGraphic char = true ∨ isAsciiWhitespace char = true := by
  rw [SignablePayload.validateCharset, hjson] at hok
  dsimp only at hok
  split_ifs at hok with hforbidden hascii
  constructor
  · intro escape hmem hoccurs
    apply hforbidden
    exact List.any_eq_true.2 ⟨escape, hmem, by simpa [Text.contains] using hoccurs⟩
  · cases hscan : firstNonPrintable 0 json.toList with
    | none => exact firstNonPrintable_eq_none_iff.1 hscan
    | some found => rw [hscan] at hok; cases hok

/-- If the gate lets a payload pass, its JSON text is the text of a document in
which every string value and every key, unescaped, is displayable. -/
theorem validateCharset_sound (payload : SignablePayload) (backing : Backing)
    (hok : payload.validateCharset backing = .ok ()) :
    ∃ (json : String) (document : Value), payload.toJson backing = .ok json ∧
      (∀ limit, document.depth < limit → parseDocument limit json.toList = some document) ∧
      ∀ text ∈ document.texts, ∀ char ∈ text.toList, Displayable char := by
  have hjson := toJson_eq_ok backing payload
  obtain ⟨hforbidden, hprintable⟩ := validateCharset_eq_ok hjson hok
  rw [String.toList_ofList] at hforbidden hprintable
  refine ⟨_, (payload.document backing).canon, hjson, ?_, ?_⟩
  · intro limit hlimit
    rw [String.toList_ofList, parseDocument_render _ (by omega), if_pos hlimit]
  · intro text htext char hchar
    exact displayable_of_escapeChar_infix (escapeChar_infix_render _ text htext char hchar)
      hforbidden hprintable

/-- The gate passes on an ordinary address field, whose strings it then vouches
for. -/
theorem validateCharset_sound_namedAddress :
    namedAddressPayload.validateCharset .insertion = .ok () ∧
    ∃ (json : String) (document : Value),
      namedAddressPayload.toJson .insertion = .ok json ∧
      (∀ limit, document.depth < limit → parseDocument limit json.toList = some document) ∧
      ∀ text ∈ document.texts, ∀ char ∈ text.toList, Displayable char := by
  have hok : namedAddressPayload.validateCharset .insertion = .ok () := by
    rw [SignablePayload.validateCharset, toJson_eq_ok]
    dsimp only
    rw [String.toList_ofList]
    decide +kernel
  exact ⟨hok, validateCharset_sound namedAddressPayload .insertion hok⟩

end VisualSignParser.VisualSign
