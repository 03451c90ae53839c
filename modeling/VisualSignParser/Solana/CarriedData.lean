import VisualSignParser.Codec.Decimal
import VisualSignParser.Solana.UnknownProgram

/-!
# The instruction behind a preview

Nearly every visualizer gives its preview the same frame: the label counts the
instruction, and the fallback text has the program and the data.  The frame
determines the instruction up to its accounts.
-/

namespace VisualSignParser.Solana

open VisualSignParser.Framing
open VisualSignParser.Solana.UnknownProgram (fallbackText resolveProgramIdStr)
open VisualSignParser.VisualSign

/-- The instruction's place, its program and its data are in the frame. -/
def Carries (index : ℕ) (programId : String) (data : Bytes) (field : AnnotatedPayloadField) : Prop :=
  ∃ title subtitle condensed expanded, field =
    previewField ("Instruction " ++ toString (index + 1)) (fallbackText programId data) title
      subtitle condensed expanded

/-- The text of a program has no line break. -/
theorem newline_notMem_resolveProgramIdStr (context : VisualizerContext) :
    '\n' ∉ (resolveProgramIdStr context).toList := by
  rw [resolveProgramIdStr]
  cases context.programId with
  | resolved pubkey =>
      intro hmem
      exact absurd (Base58.mem_alphabet_of_mem_encode hmem) (by decide)
  | unresolved rawIndex =>
      dsimp only
      rw [String.toList_append, String.toList_append, Decimal.toList_toString]
      simp only [List.mem_append, not_or]
      exact ⟨⟨by decide, Decimal.not_mem_toDigits (by decide) _⟩, by decide⟩

theorem fallbackText_inj {leftProgram rightProgram : String} {leftData rightData : Bytes}
    (hleft : '\n' ∉ leftProgram.toList) (hright : '\n' ∉ rightProgram.toList)
    (hsame : fallbackText leftProgram leftData = fallbackText rightProgram rightData) :
    leftProgram = rightProgram ∧ leftData = rightData := by
  have hcut : ∀ (program : String) (data : Bytes), (fallbackText program data).toList =
      "Program ID: ".toList ++ (program.toList ++ '\n' :: ("Data: ".toList ++
        (Hex.encode data).toList)) := by
    intro program data
    simp [fallbackText]
  have hlists := congrArg String.toList hsame
  rw [hcut, hcut] at hlists
  obtain ⟨hprogram, hrest⟩ := Decimal.append_cons_inj hleft hright (List.append_cancel_left hlists)
  refine ⟨String.toList_inj.1 hprogram, Hex.encode_injective (String.toList_inj.1 ?_)⟩
  exact List.append_cancel_left hrest

/-- A field carries one instruction at most. -/
theorem Carries.unique {index otherIndex : ℕ} {programId otherProgram : String}
    {data otherData : Bytes} {field : AnnotatedPayloadField}
    (hprogram : '\n' ∉ programId.toList) (hother : '\n' ∉ otherProgram.toList)
    (hleft : Carries index programId data field)
    (hright : Carries otherIndex otherProgram otherData field) :
    index = otherIndex ∧ programId = otherProgram ∧ data = otherData := by
  obtain ⟨_, _, _, _, rfl⟩ := hleft
  obtain ⟨_, _, _, _, hsame⟩ := hright
  simp only [previewField, annotateField, AnnotatedPayloadField.mk.injEq,
    SignablePayloadField.previewLayout.injEq, SignablePayloadFieldCommon.mk.injEq] at hsame
  obtain ⟨hfallback, hlabel⟩ := hsame.1.1
  have hindex := Decimal.toString_injective ((String.append_right_inj _).1 hlabel)
  exact ⟨Nat.succ_injective hindex, fallbackText_inj hprogram hother hfallback⟩

/-! ## Previews that are built from the data -/

/-- Two previews in the frame are alike exactly if they show the same instruction and
the same fields. -/
theorem previewField_eq_iff {left right : VisualizerContext} {leftTitle rightTitle : String}
    {leftCondensed rightCondensed leftExpanded rightExpanded : List AnnotatedPayloadField} :
    previewField ("Instruction " ++ toString (left.instructionIndex + 1))
        (fallbackText (resolveProgramIdStr left) left.data) leftTitle "" leftCondensed leftExpanded =
      previewField ("Instruction " ++ toString (right.instructionIndex + 1))
        (fallbackText (resolveProgramIdStr right) right.data) rightTitle "" rightCondensed
        rightExpanded ↔
      (left.instructionIndex = right.instructionIndex ∧
        resolveProgramIdStr left = resolveProgramIdStr right ∧ left.data = right.data) ∧
      leftTitle = rightTitle ∧ leftCondensed = rightCondensed ∧ leftExpanded = rightExpanded := by
  constructor
  · intro hsame
    have hcarried := Carries.unique (newline_notMem_resolveProgramIdStr left)
      (newline_notMem_resolveProgramIdStr right) ⟨_, _, _, _, rfl⟩ ⟨_, _, _, _, hsame⟩
    simp only [previewField, annotateField, AnnotatedPayloadField.mk.injEq,
      SignablePayloadField.previewLayout.injEq, SignablePayloadFieldPreviewLayout.mk.injEq,
      Option.some.injEq, SignablePayloadFieldTextV2.mk.injEq,
      SignablePayloadFieldListLayout.mk.injEq, true_and] at hsame
    exact ⟨hcarried, hsame.1.2⟩
  · rintro ⟨⟨hindex, hprogram, hdata⟩, rfl, rfl, rfl⟩
    rw [hindex, hprogram, hdata]

end VisualSignParser.Solana
