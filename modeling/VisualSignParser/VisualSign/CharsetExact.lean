import VisualSignParser.Json.Escapes
import VisualSignParser.VisualSign.Charset
import VisualSignParser.VisualSign.Strings

/-!
# What the charset gate lets through

The gate passes a payload exactly when its strings are printable ASCII and line
breaks and none has a backslash before one of the letters of the forbidden
escapes.  The last part is more than the gate is for: a backslash is written as
`\\`, and its second half makes an escape with the letter after it.
-/

namespace VisualSignParser.VisualSign

open VisualSignParser.Json
open VisualSignParser.Text

/-- The second characters of the forbidden escapes. -/
def forbiddenLetters : List Char := ['u', 't', 'r', 'b', 'f', '/']

theorem forall_forbiddenJsonEscapes {text : List Char} :
    (∀ escape ∈ forbiddenJsonEscapes, ¬escape.toList <:+: text) ↔
      Unescaped forbiddenLetters text := by
  have hescapes : forbiddenJsonEscapes.map String.toList =
      forbiddenLetters.map fun letter => ['\\', letter] := by decide
  rw [unescaped_iff]
  calc
    (∀ escape ∈ forbiddenJsonEscapes, ¬escape.toList <:+: text) ↔
        ∀ escape ∈ forbiddenJsonEscapes.map String.toList, ¬escape <:+: text := by
      rw [List.forall_mem_map]
    _ ↔ ∀ letter ∈ forbiddenLetters, ¬['\\', letter] <:+: text := by
      rw [hescapes, List.forall_mem_map]

theorem escapeChar_forbiddenLetters :
    ∀ letter ∈ forbiddenLetters, escapeChar letter = [letter] :=
  List.all_iff_forall_prop.1 (by decide)

theorem graphic_or_whitespace_of_printable {char : Char} (hchar : Printable char) :
    isAsciiGraphic char = true ∨ isAsciiWhitespace char = true := by
  obtain ⟨hlower, hupper⟩ := hchar
  simp only [isAsciiGraphic, isAsciiWhitespace, Bool.and_eq_true, Bool.or_eq_true,
    decide_eq_true_eq, beq_iff_eq]
  omega

/-- What a string must be for the gate. -/
def Passable (text : String) : Prop :=
  (∀ char ∈ text.toList, Displayable char) ∧ Unescaped forbiddenLetters text.toList

theorem printable_of_isPlainWord {text : String} (hplain : isPlainWord text = true) :
    ∀ char ∈ text.toList, Printable char ∧ char ≠ '\\' := by
  intro char hchar
  have hword : (char.isAlphanum || char == '_') = true := List.all_eq_true.1 hplain char hchar
  delta Char.isAlphanum at hword
  delta Char.isAlpha at hword
  delta Char.isUpper Char.isLower at hword
  simp [Char.isDigit, UInt32.le_iff_toNat_le] at hword
  have hcode : char.val.toNat = char.toNat := rfl
  constructor
  · rcases hword with hword | rfl
    · exact ⟨by omega, by omega⟩
    · decide
  · rintro rfl
    revert hword
    decide

/-- Printable characters without a backslash pass the gate. -/
theorem passable_of_printable {text : String}
    (hprintable : ∀ char ∈ text.toList, Printable char ∧ char ≠ '\\') : Passable text := by
  apply And.intro fun char hchar => .inl (hprintable char hchar).1
  apply unescaped_iff.2
  intro letter _ hpair
  exact (hprintable '\\' (hpair.subset (List.mem_cons_self ..))).2 rfl

theorem passable_of_isPlainWord (text : String) (hplain : isPlainWord text = true) :
    Passable text :=
  passable_of_printable (printable_of_isPlainWord hplain)

theorem passable_of_part {text part : String} (htext : Passable text)
    (hpart : part.toList <:+: text.toList) : Passable part :=
  ⟨fun char hchar => htext.1 char (hpart.subset hchar), htext.2.part hpart⟩

theorem validateCharset_eq_ok_iff {payload : SignablePayload} {backing : Backing} :
    payload.validateCharset backing = .ok () ↔ ∀ text ∈ payload.strings, Passable text := by
  rw [← forall_texts_document passable_of_isPlainWord passable_of_part backing payload,
    ← forall_texts_canon (distinct_document payload backing)]
  have hjson := toJson_eq_ok backing payload
  generalize (payload.document backing).canon = document at hjson ⊢
  constructor
  · intro hok text htext
    obtain ⟨hforbidden, hprintable⟩ := validateCharset_eq_ok hjson hok
    rw [String.toList_ofList] at hforbidden hprintable
    apply And.intro
    · intro char hchar
      exact displayable_of_escapeChar_infix (escapeChar_infix_render _ text htext char hchar)
        hforbidden hprintable
    · apply unescaped_of_renderString escapeChar_forbiddenLetters
      apply (forall_forbiddenJsonEscapes.1 hforbidden).part
      exact renderString_infix_render document text htext
  · intro htexts
    have hunescaped : Unescaped forbiddenLetters document.render := by
      rw [unescaped_render_iff escapeChar_forbiddenLetters (by decide)]
      · exact fun text htext => (htexts text htext).2
      · exact fun text htext char hchar => ((htexts text htext).1 char hchar).imp_left And.left
    have hprintable : ∀ char ∈ document.render, Printable char :=
      printable_render fun text htext => (htexts text htext).1
    have hescapes : ¬forbiddenJsonEscapes.any (Text.contains document.render) = true := by
      rw [List.any_eq_true]
      rintro ⟨escape, hmem, hoccurs⟩
      exact forall_forbiddenJsonEscapes.2 hunescaped escape hmem
        (by simpa [Text.contains] using hoccurs)
    have hascii : document.render.all (fun char => char.toNat < 0x80) = true := by
      rw [List.all_eq_true]
      intro char hchar
      have hupper := (hprintable char hchar).2
      simpa using show char.toNat < 0x80 by omega
    have hscan : firstNonPrintable 0 document.render = none :=
      firstNonPrintable_eq_none_iff.2 fun char hchar =>
        graphic_or_whitespace_of_printable (hprintable char hchar)
    rw [SignablePayload.validateCharset, hjson]
    simp only [String.toList_ofList, hescapes, hascii, hscan, Bool.not_true, if_false,
      Bool.false_eq_true]

/-- A payload of printable ASCII and line breaks without `\/` passes the gate
exactly when no string has a backslash before one of the five letters of the
other forbidden escapes. -/
theorem validateCharset_accepts_iff (payload : SignablePayload) (backing : Backing)
    (hdisplayable : ∀ text ∈ payload.strings, ∀ char ∈ text.toList, Displayable char)
    (hslash : ∀ text ∈ payload.strings, ¬['\\', '/'] <:+: text.toList) :
    payload.validateCharset backing = .ok () ↔
      ∀ text ∈ payload.strings, ∀ letter ∈ ['u', 't', 'r', 'b', 'f'],
        ¬['\\', letter] <:+: text.toList := by
  rw [validateCharset_eq_ok_iff]
  apply forall₂_congr
  intro text htext
  rw [Passable, and_iff_right (hdisplayable text htext), unescaped_iff]
  constructor
  · intro hnone letter hletter
    exact hnone letter (List.mem_append_left ['/'] hletter)
  · intro hnone letter hletter
    rcases List.mem_append.1 (show letter ∈ ['u', 't', 'r', 'b', 'f'] ++ ['/'] from hletter) with
      hother | hother
    · exact hnone letter hother
    · rw [List.mem_singleton.1 hother]
      exact hslash text htext

theorem displayable_of_all {texts : List String}
    (hall : texts.all (fun text => text.toList.all fun char => Displayable char) = true) :
    ∀ text ∈ texts, ∀ char ∈ text.toList, Displayable char := by
  intro text htext
  exact List.all_iff_forall_prop.1 (List.all_eq_true.1 hall text htext)

/-- A payload with one text field. -/
def payloadWithText (text : String) : SignablePayload where
  fields := [.text ⟨text, "Label"⟩ ⟨text⟩]
  payloadType := "PayloadType"
  subtitle := none
  title := "Title"
  version := "1"

theorem validateCharset_accepts_iff_quoted :
    (payloadWithText "say \"\\n\"\nor \\").validateCharset .insertion = .ok () ↔
      ∀ text ∈ (payloadWithText "say \"\\n\"\nor \\").strings,
        ∀ letter ∈ ['u', 't', 'r', 'b', 'f'], ¬['\\', letter] <:+: text.toList :=
  validateCharset_accepts_iff (payloadWithText "say \"\\n\"\nor \\") .insertion
    (displayable_of_all (by decide)) (by decide)

/-- A path with a folder that starts with one of the letters is rejected. -/
theorem folder_path_rejected :
    ¬∀ (payload : SignablePayload) (backing : Backing),
      (∀ text ∈ payload.strings, ∀ char ∈ text.toList, Displayable char) →
      (∀ text ∈ payload.strings, ¬['\\', '/'] <:+: text.toList) →
      payload.validateCharset backing = .ok () := by
  intro hall
  have hok := hall (payloadWithText "C:\\users") .insertion
    (displayable_of_all (by decide)) (by decide)
  have hpass := (validateCharset_eq_ok_iff.1 hok "C:\\users" (by decide)).2
  rw [unescaped_iff] at hpass
  exact hpass 'u' (by decide) (by decide)

end VisualSignParser.VisualSign
