import VisualSignParser.Json.Escapes
import VisualSignParser.Solana.DflowAggregator

/-!
# Arguments as text

A decoded argument is shown without quotes: strings and keys lose the characters that the
display cannot have, bytes are written in hexadecimal, and containers are bracketed.  What
is left is printable, at any depth of the argument.
-/

namespace VisualSignParser.Solana.ArgRendering

open VisualSignParser.Json (Printable Value isNumberChar)
open VisualSignParser.Solana.Dflow (bytesAsHex formatItems formatMembers)
open VisualSignParser.Text

/-- The renderer that the visualizers share; the one of the aggregator is a copy of it. -/
def charsetSafe (text : String) : String := Dflow.charsetSafe text

def formatArgValue (value : Value) : String := Dflow.formatArgValue value

/-- A printable character that needs no escape. -/
def Plain (char : Char) : Prop := Printable char ∧ char ≠ '"' ∧ char ≠ '\\'

instance (char : Char) : Decidable (Plain char) := inferInstanceAs (Decidable (_ ∧ _))

/-! ## Strings -/

theorem printable_iff {char : Char} :
    Printable char ↔ char = ' ' ∨ isAsciiGraphic char = true := by
  simp only [Printable, isAsciiGraphic, Bool.and_eq_true, decide_eq_true_eq]
  constructor
  · rintro ⟨hlower, hupper⟩
    by_cases hblank : char = ' '
    · exact .inl hblank
    · have hcode : char.toNat ≠ 0x20 := fun hcode => hblank (Char.toNat_inj.1 hcode)
      exact .inr ⟨Nat.lt_of_le_of_ne hlower hcode.symm, hupper⟩
  · rintro (rfl | ⟨hlower, hupper⟩)
    · decide
    · exact ⟨Nat.le_of_lt hlower, hupper⟩

/-- The characters that are kept. -/
theorem keeps_iff {char : Char} :
    (char == ' ' || (isAsciiGraphic char && char != '"' && char != '\\')) = true ↔ Plain char := by
  simp only [Bool.or_eq_true, Bool.and_eq_true, beq_iff_eq, bne_iff_ne, Plain, printable_iff,
    and_assoc]
  constructor
  · rintro (rfl | ⟨hgraphic, hchars⟩)
    · decide
    · exact ⟨.inr hgraphic, hchars⟩
  · rintro ⟨hblank | hgraphic, hchars⟩
    · exact .inl hblank
    · exact .inr ⟨hgraphic, hchars⟩

theorem allChars_charsetSafe (text : String) : AllChars Plain (charsetSafe text) := by
  rw [charsetSafe, Dflow.charsetSafe, allChars_ofList]
  intro char hchar
  exact keeps_iff.1 (List.mem_filter.1 hchar).2

/-- A text of plain characters is kept. -/
theorem charsetSafe_of_plain {text : String} (htext : AllChars Plain text) :
    charsetSafe text = text :=
  ofList_filter_eq_self (htext.mono fun _ hchar => keeps_iff.2 hchar)

theorem charsetSafe_idempotent (text : String) :
    charsetSafe (charsetSafe text) = charsetSafe text :=
  charsetSafe_of_plain (allChars_charsetSafe text)

/-! ## Values -/

theorem plain_of_isNumberChar {char : Char} (hchar : isNumberChar char = true) : Plain char := by
  refine ⟨Json.printable_of_isNumberChar hchar, ?_, ?_⟩
  · rintro rfl
    exact absurd hchar (by decide)
  · rintro rfl
    exact absurd hchar (by decide)

theorem allChars_bytesAsHex {items : List Value} {text : String}
    (htext : bytesAsHex items = some text) : AllChars Plain text := by
  rw [bytesAsHex] at htext
  split_ifs at htext
  obtain ⟨bytes, -, rfl⟩ := Option.map_eq_some_iff.1 htext
  refine allChars_append.2 ⟨by decide, fun char hchar => ?_⟩
  obtain ⟨value, hvalue, rfl⟩ := Hex.exists_digit_of_mem_encode hchar
  have hdigit : ∀ value < 16, Plain (Hex.digit value) := by decide
  exact hdigit value hvalue

theorem formatItems_eq (items : List Value) : formatItems items = items.map formatArgValue := by
  induction items with
  | nil => rfl
  | cons item items ih => rw [formatItems, ih, List.map_cons, formatArgValue]

theorem formatMembers_eq (members : List (String × Value)) :
    formatMembers members =
      members.map fun member => charsetSafe member.1 ++ ":" ++ formatArgValue member.2 := by
  induction members with
  | nil => rfl
  | cons member members ih => rw [formatMembers, ih, List.map_cons, charsetSafe, formatArgValue]

/-- Everything that is shown of an argument is plain. -/
theorem allChars_formatArgValue (value : Value) : AllChars Plain (formatArgValue value) := by
  induction value using Value.induction with
  | null => exact (by decide : AllChars Plain "null")
  | bool flag => cases flag <;> decide
  | number number =>
      exact allChars_ofList.2 fun char hchar =>
        plain_of_isNumberChar (number.all_isNumberChar char hchar)
  | string text => exact allChars_charsetSafe text
  | array items ih =>
      rw [formatArgValue, Dflow.formatArgValue, formatItems_eq]
      cases hhex : bytesAsHex items with
      | some text => exact allChars_bytesAsHex hhex
      | none =>
          rw [Option.getD_none, allChars_append, allChars_append]
          refine ⟨⟨by decide, allChars_intercalate (by decide) ?_⟩, by decide⟩
          exact List.forall_mem_map.2 ih
  | object members ih =>
      rw [formatArgValue, Dflow.formatArgValue, formatMembers_eq, allChars_append,
        allChars_append]
      refine ⟨⟨by decide, allChars_intercalate (by decide) ?_⟩, by decide⟩
      refine List.forall_mem_map.2 fun member hmember => ?_
      rw [allChars_append, allChars_append]
      exact ⟨⟨allChars_charsetSafe member.1, by decide⟩, ih member hmember⟩

end VisualSignParser.Solana.ArgRendering
