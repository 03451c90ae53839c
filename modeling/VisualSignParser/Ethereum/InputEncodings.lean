import VisualSignParser.Ethereum.EnvelopeDisplay

/-!
# Hexadecimal or Base64

A text is taken as hexadecimal whenever it can be read so, and some Base64 texts
can.  The bytes behind a hexadecimal text are always found; those behind a Base64
text are found unless it looks like hexadecimal, and then other bytes are found.
-/

namespace VisualSignParser.Ethereum

open VisualSignParser.Framing

/-- The bytes as hexadecimal text, with or without a marker. -/
def hexTexts (bytes : Bytes) : List String :=
  [Hex.encode bytes, "0x" ++ Hex.encode bytes, "0X" ++ Hex.encode bytes]

/-- The text has only hexadecimal digits behind the marker, if there is one. -/
def LooksHexadecimal (text : String) : Prop :=
  ∀ char ∈ (Hex.stripHexMarker text).toList, Hex.isHexDigit char = true

theorem detect_eq_hex_iff {text : String} :
    Hex.SupportedEncodings.detect text = .hex ↔ LooksHexadecimal text := by
  rw [Hex.SupportedEncodings.detect, LooksHexadecimal, ← List.all_eq_true]
  split_ifs with hall
  · exact iff_of_true rfl hall
  · exact iff_of_false (by decide) hall

theorem detect_eq_base64_iff {text : String} :
    Hex.SupportedEncodings.detect text = .base64 ↔ ¬ LooksHexadecimal text := by
  rw [← detect_eq_hex_iff]
  cases Hex.SupportedEncodings.detect text with
  | base64 => exact iff_of_true rfl (by decide)
  | hex => exact iff_of_false (by decide) (not_not.2 rfl)

theorem marked_mem_hexTexts (bytes : Bytes) : "0x" ++ Hex.encode bytes ∈ hexTexts bytes :=
  List.mem_cons_of_mem _ (List.mem_cons_self ..)

theorem stripHexMarker_of_mem_hexTexts {bytes : Bytes} {text : String}
    (htext : text ∈ hexTexts bytes) : Hex.stripHexMarker text = Hex.encode bytes := by
  simp only [hexTexts, List.mem_cons, List.not_mem_nil, or_false] at htext
  rcases htext with rfl | rfl | rfl
  · exact Hex.stripHexMarker_encode bytes
  · exact Hex.stripHexMarker_append _
  · exact Hex.stripHexMarker_of_split (Hex.splitHexMarker_eq_some.2 (.inr rfl))

section Bytes

variable (rlp : AlloyRlp)

theorem rawBytes_of_hex {text : String} {bytes : Bytes}
    (htext : Hex.SupportedEncodings.detect text = .hex) (hdecode : Hex.decodeHex text = .ok bytes) :
    rawBytes rlp text = .ok bytes := by
  simp only [rawBytes, htext, hdecode]
  rfl

theorem rawBytes_of_mem_hexTexts {bytes : Bytes} {text : String} (htext : text ∈ hexTexts bytes) :
    Hex.SupportedEncodings.detect text = .hex ∧ rawBytes rlp text = .ok bytes := by
  obtain ⟨hdetect, hdecode⟩ := Hex.detect_encode (stripHexMarker_of_mem_hexTexts htext)
  exact ⟨hdetect, rawBytes_of_hex rlp hdetect hdecode⟩

theorem rawBytes_of_base64 {bytes : Bytes} (htext : ¬ LooksHexadecimal (Base64.encode bytes)) :
    rawBytes rlp (Base64.encode bytes) = .ok bytes := by
  simp only [rawBytes, detect_eq_base64_iff.2 htext, Base64.decode_encode]
  rfl

/-- The padding is no digit. -/
theorem length_of_looksHexadecimal {bytes : Bytes}
    (htext : LooksHexadecimal (Base64.encode bytes)) : bytes.length % 3 = 0 := by
  by_contra hremainder
  have hpad : '=' ∈ (Base64.encode bytes).toList := by
    rw [Base64.encode, String.toList_ofList]
    exact Base64.pad_mem_encodeChars hremainder
  rcases Hex.mem_stripHexMarker hpad with hdigit | hmarker
  · exact absurd (htext _ hdigit) (by decide)
  · exact absurd hmarker (by decide)

/-- Three bytes are four characters, and four digits are two bytes. -/
theorem rawBytes_of_looksHexadecimal {bytes : Bytes} (hnonempty : bytes ≠ [])
    (htext : LooksHexadecimal (Base64.encode bytes)) :
    ∃ other, rawBytes rlp (Base64.encode bytes) = .ok other ∧ other.length < bytes.length := by
  have hthird := length_of_looksHexadecimal htext
  have hpos : 0 < bytes.length := List.length_pos_iff.2 hnonempty
  have hlength : (Base64.encode bytes).toList.length = 4 * ((bytes.length + 2) / 3) := by
    rw [Base64.encode, String.toList_ofList, Base64.length_encodeChars]
  have hstripped := Hex.length_stripHexMarker (Base64.encode bytes)
  obtain ⟨other, hother, hcount⟩ := Hex.decode_of_digits htext (by omega)
  rw [String.ofList_toList] at hother
  refine ⟨other, rawBytes_of_hex rlp (detect_eq_hex_iff.2 htext) hother, ?_⟩
  omega

end Bytes

/-- Hexadecimal text is always read back.  Base64 text is read back exactly when it
does not look hexadecimal; it never does when the bytes do not fill their last
group. -/
theorem input_encodings_detected (rlp : AlloyRlp) (bytes : Bytes) (hnonempty : bytes ≠ []) :
    (∀ text ∈ hexTexts bytes,
      Hex.SupportedEncodings.detect text = .hex ∧ rawBytes rlp text = .ok bytes) ∧
    (Hex.SupportedEncodings.detect (Base64.encode bytes) = .base64 ↔
      ¬ LooksHexadecimal (Base64.encode bytes)) ∧
    (rawBytes rlp (Base64.encode bytes) = .ok bytes ↔
      ¬ LooksHexadecimal (Base64.encode bytes)) ∧
    (LooksHexadecimal (Base64.encode bytes) → bytes.length % 3 = 0 ∧
      ∃ other, rawBytes rlp (Base64.encode bytes) = .ok other ∧ other.length < bytes.length) := by
  refine ⟨fun text htext => rawBytes_of_mem_hexTexts rlp htext, detect_eq_base64_iff, ?_, ?_⟩
  · refine ⟨fun hread htext => ?_, rawBytes_of_base64 rlp⟩
    obtain ⟨other, hother, hlength⟩ := rawBytes_of_looksHexadecimal rlp hnonempty htext
    rw [hread, Except.ok.injEq] at hother
    exact absurd hlength (by rw [hother]; exact lt_irrefl _)
  · intro htext
    exact ⟨length_of_looksHexadecimal htext, rawBytes_of_looksHexadecimal rlp hnonempty htext⟩

theorem input_encodings_detected_creation :
    Base64.encode creationRlp = "ywGAAQKCUgiAgIDA" ∧
      rawBytes creationsRlp "ywGAAQKCUgiAgIDA" = .ok creationRlp ∧
      rawBytes creationsRlp "0xcb01800102825208808080c0" = .ok creationRlp := by
  have hbase64 : Base64.encode creationRlp = "ywGAAQKCUgiAgIDA" := by decide +kernel
  have hmarked : "0x" ++ Hex.encode creationRlp = "0xcb01800102825208808080c0" := by decide +kernel
  obtain ⟨hhex, -, hread, -⟩ := input_encodings_detected creationsRlp creationRlp (by decide)
  refine ⟨hbase64, ?_, ?_⟩
  · rw [← hbase64, hread, hbase64]
    intro htext
    exact absurd (htext 'y' (by decide +kernel)) (by decide)
  · rw [← hmarked]
    exact (hhex _ (marked_mem_hexTexts creationRlp)).2

/-- A Base64 text of three bytes that is read as two. -/
theorem base64_text_read_as_hex :
    Base64.encode [0x69, 0xb7, 0x1d] = "abcd" ∧
      Hex.SupportedEncodings.detect "abcd" = .hex ∧
      rawBytes creationsRlp "abcd" = .ok [0xab, 0xcd] := by
  have htext : Hex.encode [0xab, 0xcd] = "abcd" := by decide +kernel
  refine ⟨by decide +kernel, ?_⟩
  rw [← htext]
  exact rawBytes_of_mem_hexTexts creationsRlp (List.mem_cons_self ..)

end VisualSignParser.Ethereum
