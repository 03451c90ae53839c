import VisualSignParser.Codec.Decimal

/-!
# The number a decimal text denotes

A decimal text denotes a rational number.  Zeros at the end of its fraction do not
count, so the text of an amount in units denotes the exact quotient.  The text can be
computed with numbers of a fixed width as long as the scale fits.
-/

namespace VisualSignParser.Decimal

/-! ## Values -/

/-- The value of digits behind the point. -/
def fractionValue (digits : List Char) : ℚ :=
  Nat.ofDigitChars 10 digits 0 / 10 ^ digits.length

/-- The value of digits that a point and more digits may follow. -/
def unsignedValue (text : List Char) : ℚ :=
  Nat.ofDigitChars 10 (text.takeWhile Char.isDigit) 0 +
    match text.dropWhile Char.isDigit with
    | '.' :: digits => fractionValue digits
    | _ => 0

/-- The value of a text that may have a minus sign in front. -/
def textValue (text : String) : ℚ :=
  match text.toList with
  | '-' :: rest => -unsignedValue rest
  | rest => unsignedValue rest

theorem fractionValue_append_zeros (digits : List Char) (count : ℕ) :
    fractionValue (digits ++ List.replicate count '0') = fractionValue digits := by
  have hpow : (10 : ℚ) ^ count ≠ 0 := pow_ne_zero count (by norm_num)
  rw [fractionValue, fractionValue, Nat.ofDigitChars_append, Nat.ofDigitChars_replicate_zero,
    List.length_append, List.length_replicate, pow_add, Nat.cast_mul, Nat.cast_pow,
    mul_comm ((10 : ℚ) ^ digits.length)]
  exact mul_div_mul_left _ _ hpow

theorem fractionValue_trimZeros (digits : List Char) :
    fractionValue (trimZeros digits) = fractionValue digits := by
  calc
    fractionValue (trimZeros digits) =
        fractionValue (trimZeros digits ++
          List.replicate (digits.length - (trimZeros digits).length) '0') :=
      (fractionValue_append_zeros _ _).symm
    _ = fractionValue digits := by rw [trimZeros_append_zeros]

theorem fractionValue_padded {width value : ℕ} (hvalue : value < 10 ^ width) :
    fractionValue (padded width value) = value / 10 ^ width := by
  rw [fractionValue, ofDigitChars_padded, length_padded hvalue]
  cases width with
  | zero =>
      have hzero : value = 0 := by simpa using hvalue
      rw [hzero, Nat.cast_zero, zero_div, zero_div]
  | succ width => rw [max_eq_left (Nat.succ_le_succ (Nat.zero_le width))]

theorem isDigit_toDigits (value : ℕ) : ∀ char ∈ Nat.toDigits 10 value, char.isDigit = true := by
  intro char hchar
  exact Nat.isDigit_of_mem_toDigits (by omega) le_rfl hchar

theorem unsignedValue_toDigits (value : ℕ) : unsignedValue (Nat.toDigits 10 value) = value := by
  have htake : (Nat.toDigits 10 value).takeWhile Char.isDigit = Nat.toDigits 10 value :=
    List.takeWhile_eq_self_iff.2 (isDigit_toDigits value)
  have hdrop : (Nat.toDigits 10 value).dropWhile Char.isDigit = [] :=
    List.dropWhile_eq_nil_iff.2 (isDigit_toDigits value)
  rw [unsignedValue, htake, hdrop, Nat.ofDigitChars_ten_toDigits, add_zero]

theorem unsignedValue_point (value : ℕ) (digits : List Char) :
    unsignedValue (Nat.toDigits 10 value ++ '.' :: digits) = value + fractionValue digits := by
  rw [unsignedValue, List.takeWhile_append_of_pos (isDigit_toDigits value),
    List.dropWhile_append_of_pos (isDigit_toDigits value)]
  change (Nat.ofDigitChars 10 (Nat.toDigits 10 value ++ []) 0 : ℚ) + fractionValue digits = _
  rw [List.append_nil, Nat.ofDigitChars_ten_toDigits]

/-- A quotient is its whole part and the rest over the divisor. -/
theorem whole_add_fraction (amount : ℕ) {scale : ℕ} (hscale : scale ≠ 0) :
    ((amount / scale : ℕ) : ℚ) + ((amount % scale : ℕ) : ℚ) / scale = amount / scale := by
  have hne : (scale : ℚ) ≠ 0 := Nat.cast_ne_zero.2 hscale
  have hsplit : ((scale * (amount / scale) + amount % scale : ℕ) : ℚ) = amount := by
    rw [Nat.div_add_mod]
  rw [Nat.cast_add, Nat.cast_mul] at hsplit
  rw [eq_div_iff hne, add_mul, div_mul_cancel₀ _ hne, mul_comm, hsplit]

theorem unsignedValue_trimmedText (amount decimals : ℕ) :
    unsignedValue (trimmedText amount decimals).toList = amount / 10 ^ decimals := by
  have hpos : 0 < 10 ^ decimals := Nat.pow_pos (by omega)
  have hsplit := whole_add_fraction amount hpos.ne'
  rw [Nat.cast_pow, Nat.cast_ofNat] at hsplit
  by_cases hfraction : amount % 10 ^ decimals = 0
  · rw [hfraction, Nat.cast_zero, zero_div, add_zero] at hsplit
    rw [trimmedText, if_pos hfraction, toList_toString, unsignedValue_toDigits]
    exact hsplit
  · rw [toList_trimmedText_of_fraction hfraction, unsignedValue_point, fractionValue_trimZeros,
      fractionValue_padded (Nat.mod_lt amount hpos)]
    exact hsplit

theorem minus_not_mem_trimmedText (amount decimals : ℕ) :
    '-' ∉ (trimmedText amount decimals).toList := by
  by_cases hfraction : amount % 10 ^ decimals = 0
  · rw [trimmedText, if_pos hfraction, toList_toString]
    exact not_mem_toDigits (by decide) _
  · rw [toList_trimmedText_of_fraction hfraction, List.mem_append, List.mem_cons, not_or, not_or]
    refine ⟨not_mem_toDigits (by decide) _, by decide, ?_⟩
    intro hmem
    exact not_mem_padded (by decide) _ _ (mem_of_mem_trimZeros hmem)

/-- The text of an amount denotes the exact quotient. -/
theorem textValue_trimmedText (amount decimals : ℕ) :
    textValue (trimmedText amount decimals) = amount / 10 ^ decimals := by
  rw [← unsignedValue_trimmedText, textValue]
  split
  · next heq =>
      exact absurd (heq ▸ List.mem_cons_self ..) (minus_not_mem_trimmedText amount decimals)
  · rfl

theorem textValue_minus (amount decimals : ℕ) :
    textValue ("-" ++ trimmedText amount decimals) = -(amount / 10 ^ decimals) := by
  rw [← unsignedValue_trimmedText, textValue, String.toList_append]
  rfl

/-! ## Texts without superfluous digits -/

/-- A fraction does not end in a zero, and there is no point without a fraction. -/
def Trimmed (text : String) : Prop :=
  '.' ∈ text.toList → ∀ last ∈ text.toList.getLast?, last ≠ '0' ∧ last ≠ '.'

theorem last_trimZeros {digits : List Char} {last : Char}
    (hlast : last ∈ (trimZeros digits).getLast?) : last ≠ '0' := by
  rw [trimZeros, List.getLast?_reverse] at hlast
  have hhead := List.head?_dropWhile_not (· = '0') digits.reverse
  rw [Option.mem_def.1 hlast] at hhead
  simpa using hhead

theorem last_trimmedText {amount decimals : ℕ} (hfraction : amount % 10 ^ decimals ≠ 0) {last : Char}
    (hlast : last ∈ (trimmedText amount decimals).toList.getLast?) : last ≠ '0' ∧ last ≠ '.' := by
  have hnonempty : trimZeros (padded decimals (amount % 10 ^ decimals)) ≠ [] :=
    trimZeros_padded_ne_nil hfraction
  rw [toList_trimmedText_of_fraction hfraction, List.getLast?_append_of_ne_nil _ (by simp),
    List.getLast?_cons_of_ne_nil hnonempty] at hlast
  apply And.intro (last_trimZeros hlast)
  rintro rfl
  exact not_mem_padded (by decide) _ _ (mem_of_mem_trimZeros (List.mem_of_getLast? hlast))

theorem trimmed_trimmedText (amount decimals : ℕ) : Trimmed (trimmedText amount decimals) := by
  intro hpoint last hlast
  exact last_trimmedText ((point_mem_trimmedText amount decimals).1 hpoint) hlast

theorem Trimmed.minus {text : String} (htrimmed : Trimmed text) : Trimmed ("-" ++ text) := by
  intro hpoint last hlast
  rw [String.toList_append] at hpoint hlast
  have hmem : '.' ∈ text.toList := (List.mem_cons.1 hpoint).resolve_left (by decide)
  apply htrimmed hmem
  have hsame : ('-' :: text.toList).getLast? = text.toList.getLast? :=
    List.getLast?_cons_of_ne_nil (List.ne_nil_of_mem hmem)
  rw [← hsame]
  exact hlast

/-! ## Numbers of a fixed width -/

/-- A power that is none when it does not fit. -/
def checkedPow (bits base exponent : ℕ) : Option ℕ :=
  if base ^ exponent < 2 ^ bits then some (base ^ exponent) else none

/-- A quotient that is none when the divisor is zero. -/
def checkedDiv (left right : ℕ) : Option ℕ := if right = 0 then none else some (left / right)

def checkedRem (left right : ℕ) : Option ℕ := if right = 0 then none else some (left % right)

/-- The whole part and the fraction of an amount in units, written one by one. -/
def joinUnits (decimals whole fraction : ℕ) : String :=
  if fraction = 0 then toString whole
  else toString whole ++ "." ++ String.ofList (trimZeros (padded decimals fraction))

/-- The text of an amount in units, none when a step overflows or divides by zero. -/
def checkedText (bits amount decimals : ℕ) : Option String := do
  let scale ← checkedPow bits 10 decimals
  let whole ← checkedDiv amount scale
  let fraction ← checkedRem amount scale
  return joinUnits decimals whole fraction

theorem checkedDiv_pow (left decimals : ℕ) :
    checkedDiv left (10 ^ decimals) = some (left / 10 ^ decimals) :=
  if_neg (Nat.pow_pos (by omega)).ne'

theorem checkedRem_pow (left decimals : ℕ) :
    checkedRem left (10 ^ decimals) = some (left % 10 ^ decimals) :=
  if_neg (Nat.pow_pos (by omega)).ne'

theorem checkedText_eq {bits decimals : ℕ} (hscale : 10 ^ decimals < 2 ^ bits) (amount : ℕ) :
    checkedText bits amount decimals = some (trimmedText amount decimals) := by
  rw [checkedText, checkedPow, if_pos hscale, Option.bind_eq_bind, Option.bind_some,
    checkedDiv_pow, Option.bind_some, checkedRem_pow]
  rfl

end VisualSignParser.Decimal
