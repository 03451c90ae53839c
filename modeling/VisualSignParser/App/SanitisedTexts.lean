import VisualSignParser.Near.AccessKeys
import VisualSignParser.Solana.ArgRendering
import VisualSignParser.VisualSign.CharsetExact

/-!
# Texts that are made safe for the display

Two chains clean the text that a sender controls before it is shown, one by leaving
characters out and one by marking them.  A payload that the gate accepts is accepted with
any of its texts replaced by a cleaned one, so what a sender writes does not refuse a
transaction.
-/

namespace VisualSignParser.App

open VisualSignParser.Json (Backing Printable)
open VisualSignParser.Near (isDisplayChar)
open VisualSignParser.Solana
open VisualSignParser.Text
open VisualSignParser.VisualSign

/-- A printable character other than the backslash. -/
def Unslashed (char : Char) : Prop := Printable char ∧ char ≠ '\\'

instance (char : Char) : Decidable (Unslashed char) := inferInstanceAs (Decidable (_ ∧ _))

theorem isDisplayChar_iff {char : Char} : isDisplayChar char = true ↔ Unslashed char := by
  simp only [isDisplayChar, Bool.or_eq_true, Bool.and_eq_true, beq_iff_eq, bne_iff_ne, Unslashed,
    ArgRendering.printable_iff]
  constructor
  · rintro (rfl | ⟨hgraphic, hbackslash⟩)
    · decide
    · exact ⟨.inr hgraphic, hbackslash⟩
  · rintro ⟨hblank | hgraphic, hbackslash⟩
    · exact .inl hblank
    · exact .inr ⟨hgraphic, hbackslash⟩

theorem near_printable_iff {text : String} : Near.Printable text ↔ AllChars Unslashed text := by
  rw [Near.Printable, List.all_eq_true, AllChars]
  exact forall₂_congr fun char _ => isDisplayChar_iff

/-! ## Cleaned texts -/

theorem allChars_near_charsetSafe (text : String) : AllChars Unslashed (Near.charsetSafe text) := by
  rw [Near.charsetSafe, allChars_ofList]
  intro char hchar
  obtain ⟨source, -, rfl⟩ := List.mem_map.1 hchar
  split
  · next hdisplay => exact isDisplayChar_iff.1 hdisplay
  · decide

theorem near_charsetSafe_of_unslashed {text : String} (htext : AllChars Unslashed text) :
    Near.charsetSafe text = text :=
  Near.charsetSafe_of_printable (near_printable_iff.2 htext)

theorem length_near_charsetSafe (text : String) :
    (Near.charsetSafe text).length = text.length := by
  rw [Near.charsetSafe, String.length_ofList, List.length_map, String.length_toList]

/-- A text that one of the chains cleaned. -/
def IsSanitised (text : String) : Prop :=
  (∃ value, text = ArgRendering.formatArgValue value) ∨ ∃ source, text = Near.charsetSafe source

theorem passable_of_isSanitised {text : String} (htext : IsSanitised text) : Passable text := by
  rcases htext with ⟨value, rfl⟩ | ⟨source, rfl⟩
  · exact passable_of_printable ((ArgRendering.allChars_formatArgValue value).mono
      fun char hchar => ⟨hchar.1, hchar.2.2⟩)
  · exact passable_of_printable (allChars_near_charsetSafe source)

/-! ## Payloads with cleaned texts -/

/-- The texts are the same at every place, but that some are replaced by cleaned ones. -/
def ReplacesTexts (before after : SignablePayload) : Prop :=
  List.Forall₂ (fun old new => new = old ∨ IsSanitised new) before.strings after.strings

theorem validateCharset_of_replacesTexts {before after : SignablePayload} {backing : Backing}
    (hreplaces : ReplacesTexts before after) (hok : before.validateCharset backing = .ok ()) :
    after.validateCharset backing = .ok () := by
  rw [validateCharset_eq_ok_iff] at hok ⊢
  rw [ReplacesTexts] at hreplaces
  generalize before.strings = olds at hreplaces hok
  generalize after.strings = news at hreplaces ⊢
  induction hreplaces with
  | nil => exact hok
  | cons hfirst hrest ih =>
      obtain ⟨hold, holds⟩ := List.forall_mem_cons.1 hok
      refine List.forall_mem_cons.2 ⟨?_, ih holds⟩
      rcases hfirst with rfl | hsanitised
      · exact hold
      · exact passable_of_isSanitised hsanitised

/-- Cleaned texts keep a payload accepted.  Cleaning twice is cleaning once, texts of
plain characters are left as they are, and marking keeps the number of characters. -/
theorem sanitised_texts_accepted :
    (∀ (before after : SignablePayload) (backing : Backing), ReplacesTexts before after →
      before.validateCharset backing = .ok () → after.validateCharset backing = .ok ()) ∧
    (∀ text, ArgRendering.charsetSafe (ArgRendering.charsetSafe text) =
      ArgRendering.charsetSafe text) ∧
    (∀ text, Near.charsetSafe (Near.charsetSafe text) = Near.charsetSafe text) ∧
    (∀ text, (∀ char ∈ text.toList, Printable char ∧ char ≠ '"' ∧ char ≠ '\\') →
      ArgRendering.charsetSafe text = text) ∧
    (∀ text, (∀ char ∈ text.toList, Printable char ∧ char ≠ '\\') →
      Near.charsetSafe text = text) ∧
    ∀ text, (Near.charsetSafe text).length = text.length :=
  ⟨fun _ _ _ hreplaces hok => validateCharset_of_replacesTexts hreplaces hok,
    ArgRendering.charsetSafe_idempotent,
    fun text => near_charsetSafe_of_unslashed (allChars_near_charsetSafe text),
    fun _ htext => ArgRendering.charsetSafe_of_plain htext,
    fun _ htext => near_charsetSafe_of_unslashed htext, length_near_charsetSafe⟩

/-- A memo with a line break and the start of an escape, cleaned. -/
theorem sanitised_memo_accepted :
    (payloadWithText "memo").validateCharset .insertion = .ok () ∧
      (payloadWithText (Near.charsetSafe "a\nb\\u")).validateCharset .insertion = .ok () := by
  have hplain : ∀ text ∈ (payloadWithText "memo").strings, AllChars Unslashed text :=
    List.all_iff_forall_prop.1 (by decide)
  have hok : (payloadWithText "memo").validateCharset .insertion = .ok () :=
    validateCharset_eq_ok_iff.2 fun text htext => passable_of_printable (hplain text htext)
  have hmemo : IsSanitised (Near.charsetSafe "a\nb\\u") := .inr ⟨_, rfl⟩
  have hreplaces : ReplacesTexts (payloadWithText "memo")
      (payloadWithText (Near.charsetSafe "a\nb\\u")) :=
    .cons (.inr hmemo) (.cons (.inl rfl) (.cons (.inr hmemo)
      (.cons (.inl rfl) (.cons (.inl rfl) (.cons (.inl rfl) .nil)))))
  exact ⟨hok, sanitised_texts_accepted.1 _ _ _ hreplaces hok⟩

end VisualSignParser.App
