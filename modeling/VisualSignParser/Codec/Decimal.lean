import Mathlib.Data.List.TakeWhile
import Mathlib.Tactic

/-!
# Decimal texts

Numbers are written in decimal digits, and amounts as a whole part, a point and
a fraction.  A text that starts with digits can be cut at the first character
that is none, so the number in front of a separator is recovered.
-/

namespace VisualSignParser.Decimal

/-! ## Cutting a text -/

/-- A separator that neither head holds stands at the same place. -/
theorem append_cons_inj {A : Type} {separator : A} {left right leftRest rightRest : List A}
    (hleft : separator ∉ left) (hright : separator ∉ right)
    (heq : left ++ separator :: leftRest = right ++ separator :: rightRest) :
    left = right ∧ leftRest = rightRest := by
  induction left generalizing right with
  | nil =>
      cases right with
      | nil => exact ⟨rfl, List.tail_eq_of_cons_eq heq⟩
      | cons head tail => exact absurd (List.head_eq_of_cons_eq heq) (List.ne_of_not_mem_cons hright)
  | cons first left ih =>
      cases right with
      | nil =>
          exact absurd (List.head_eq_of_cons_eq heq).symm (List.ne_of_not_mem_cons hleft)
      | cons head right =>
          obtain ⟨hhead, htail⟩ := List.cons.inj heq
          obtain ⟨hlists, hrests⟩ := ih (List.not_mem_of_not_mem_cons hleft)
            (List.not_mem_of_not_mem_cons hright) htail
          rw [hhead, hlists]
          exact ⟨rfl, hrests⟩

/-- Elements of one kind in front of elements of another are recovered. -/
theorem heads_of_append_eq {A : Type} {kind : A → Bool} {left right leftRest rightRest : List A}
    (hleft : ∀ element ∈ left, kind element = true)
    (hright : ∀ element ∈ right, kind element = true)
    (hleftRest : ∀ element ∈ leftRest, ¬ kind element = true)
    (hrightRest : ∀ element ∈ rightRest, ¬ kind element = true)
    (heq : left ++ leftRest = right ++ rightRest) : left = right := by
  calc left = (left ++ leftRest).filter kind := by
        rw [List.filter_append, List.filter_eq_self.2 hleft, List.filter_eq_nil_iff.2 hleftRest,
          List.append_nil]
    _ = (right ++ rightRest).filter kind := by rw [heq]
    _ = right := by
        rw [List.filter_append, List.filter_eq_self.2 hright, List.filter_eq_nil_iff.2 hrightRest,
          List.append_nil]

/-! ## Digits -/

@[simp]
theorem toList_toString (value : ℕ) : (toString value).toList = Nat.toDigits 10 value := by
  rw [Nat.toString_eq_repr, Nat.toList_repr]

/-- A character that is no digit is not in the digits of a number, so it can
separate numbers. -/
theorem not_mem_toDigits {char : Char} (hchar : char.isDigit = false) (value : ℕ) :
    char ∉ Nat.toDigits 10 value := by
  intro hmem
  have hdigit := Nat.isDigit_of_mem_toDigits (by omega) le_rfl hmem
  exact Bool.false_ne_true (hchar.symm.trans hdigit)

theorem toDigits_injective : Function.Injective (Nat.toDigits 10) := by
  intro left right heq
  have hvalue := congrArg (Nat.ofDigitChars 10 · 0) heq
  simpa only [Nat.ofDigitChars_ten_toDigits] using hvalue

theorem toString_injective : Function.Injective (toString : ℕ → String) := by
  intro left right heq
  have hlists := congrArg String.toList heq
  rw [toList_toString, toList_toString] at hlists
  exact toDigits_injective hlists

theorem toList_toString_int (value : ℤ) : (toString value).toList =
    (if value < 0 then ['-'] else []) ++ Nat.toDigits 10 value.natAbs := by
  cases value with
  | ofNat value =>
      have hsign : ¬Int.ofNat value < 0 := Int.not_lt.2 (Int.natCast_nonneg value)
      rw [if_neg hsign, List.nil_append]
      exact Nat.toList_repr
  | negSucc value =>
      rw [if_pos (Int.negSucc_lt_zero value)]
      change ("-" ++ Nat.repr (value + 1)).toList = _
      rw [String.toList_append, Nat.toList_repr]
      rfl

/-- Different integers have different texts; the sign is a character that no digit
is. -/
theorem toString_int_injective : Function.Injective (toString : ℤ → String) := by
  intro left right heq
  have hlists := congrArg String.toList heq
  rw [toList_toString_int, toList_toString_int] at hlists
  have hsign (value : ℕ) : '-' ∉ Nat.toDigits 10 value := not_mem_toDigits (by decide) value
  split_ifs at hlists with hleft hright hright
  · have habs := toDigits_injective (List.cons.inj hlists).2
    omega
  · exact absurd (by rw [← List.nil_append (Nat.toDigits 10 _), ← hlists]; simp)
      (hsign right.natAbs)
  · exact absurd (by rw [← List.nil_append (Nat.toDigits 10 _), hlists]; simp)
      (hsign left.natAbs)
  · have habs := toDigits_injective hlists
    omega

/-- The digits of a number, filled with zeros up to the width. -/
def padded (width value : ℕ) : List Char :=
  List.replicate (width - (Nat.toDigits 10 value).length) '0' ++ Nat.toDigits 10 value

theorem ofDigitChars_padded (width value : ℕ) : Nat.ofDigitChars 10 (padded width value) 0 = value := by
  rw [padded, Nat.ofDigitChars_append, Nat.ofDigitChars_replicate_zero, Nat.mul_zero,
    Nat.ofDigitChars_ten_toDigits]

theorem padded_injective (width : ℕ) : Function.Injective (padded width) := by
  intro left right heq
  rw [← ofDigitChars_padded width left, ← ofDigitChars_padded width right, heq]

/-- The padding consists of zeros, so the padded text of a number has digits only. -/
theorem isDigit_of_mem_padded {char : Char} {width value : ℕ} (hmem : char ∈ padded width value) :
    char.isDigit = true := by
  rw [padded, List.mem_append] at hmem
  rcases hmem with hmem | hmem
  · rw [List.eq_of_mem_replicate hmem]
    rfl
  · exact Nat.isDigit_of_mem_toDigits (by omega) le_rfl hmem

theorem not_mem_padded {char : Char} (hchar : char.isDigit = false) (width value : ℕ) :
    char ∉ padded width value := by
  intro hmem
  exact Bool.false_ne_true (hchar.symm.trans (isDigit_of_mem_padded hmem))

/-- A number below the bound of its width has exactly so many digits, and zero
has one even without any width. -/
theorem length_padded {width value : ℕ} (hvalue : value < 10 ^ width) :
    (padded width value).length = max width 1 := by
  rw [padded, List.length_append, List.length_replicate]
  have hpos : 0 < (Nat.toDigits 10 value).length := Nat.length_toDigits_pos
  cases width with
  | zero =>
      have hzero : value = 0 := by simpa using hvalue
      rw [hzero]
      rfl
  | succ width =>
      have hlength : (Nat.toDigits 10 value).length ≤ width + 1 :=
        (Nat.length_toDigits_le_iff (by omega) (by omega)).2 hvalue
      omega

/-! ## Amounts in units -/

/-- The quotient by a power of ten with all its fractional digits. -/
def unitsText (amount decimals : ℕ) : String :=
  toString (amount / 10 ^ decimals) ++ "." ++
    String.ofList (padded decimals (amount % 10 ^ decimals))

theorem toList_unitsText (amount decimals : ℕ) :
    (unitsText amount decimals).toList =
      Nat.toDigits 10 (amount / 10 ^ decimals) ++
        '.' :: padded decimals (amount % 10 ^ decimals) := by
  simp [unitsText, String.toList_append]

/-- From a text with a point both sides of the point can be recovered, because the
digits have none. -/
theorem unitsText_parts {left right leftDecimals rightDecimals : ℕ}
    (heq : unitsText left leftDecimals = unitsText right rightDecimals) :
    left / 10 ^ leftDecimals = right / 10 ^ rightDecimals ∧
      padded leftDecimals (left % 10 ^ leftDecimals) =
        padded rightDecimals (right % 10 ^ rightDecimals) := by
  have hlists := congrArg String.toList heq
  rw [toList_unitsText, toList_unitsText] at hlists
  obtain ⟨hwhole, hfraction⟩ := append_cons_inj (not_mem_toDigits (by decide) _)
    (not_mem_toDigits (by decide) _) hlists
  exact ⟨toDigits_injective hwhole, hfraction⟩

/-- With the same number of decimals, different amounts have different texts. -/
theorem unitsText_injective (decimals : ℕ) :
    Function.Injective fun amount => unitsText amount decimals := by
  intro left right heq
  obtain ⟨hwhole, hfraction⟩ := unitsText_parts heq
  rw [← Nat.div_add_mod left (10 ^ decimals), ← Nat.div_add_mod right (10 ^ decimals), hwhole,
    padded_injective decimals hfraction]

/-- Texts with different numbers of decimals agree only between none and one:
both write one fractional digit. -/
theorem decimals_of_unitsText_eq {left right leftDecimals rightDecimals : ℕ}
    (heq : unitsText left leftDecimals = unitsText right rightDecimals) :
    max leftDecimals 1 = max rightDecimals 1 := by
  obtain ⟨-, hfraction⟩ := unitsText_parts heq
  rw [← length_padded (Nat.mod_lt left (Nat.pow_pos (by omega))), hfraction,
    length_padded (Nat.mod_lt right (Nat.pow_pos (by omega)))]

/-- An amount in units, or the raw number when there are no decimals to scale by. -/
def scaledText (decimals : Option ℕ) (amount : ℕ) : String :=
  match decimals with
  | some decimals => unitsText amount decimals
  | none => toString amount

/-- The text of an amount has a point exactly if the amount has a scale. -/
theorem mem_toList_scaledText (decimals : Option ℕ) (amount : ℕ) :
    '.' ∈ (scaledText decimals amount).toList ↔ decimals.isSome := by
  cases decimals with
  | none => simpa [scaledText] using not_mem_toDigits (by decide) amount
  | some decimals => simp [scaledText, toList_unitsText]

theorem space_not_mem_scaledText (decimals : Option ℕ) (amount : ℕ) :
    ' ' ∉ (scaledText decimals amount).toList := by
  cases decimals with
  | none =>
      rw [scaledText, toList_toString]
      exact not_mem_toDigits (by decide) amount
  | some decimals =>
      rw [scaledText, toList_unitsText, List.mem_append, List.mem_cons, not_or, not_or]
      exact ⟨not_mem_toDigits (by decide) _, by decide, not_mem_padded (by decide) _ _⟩

/-- At one scale, or without any, an amount can be recovered from its text. -/
theorem scaledText_injective (decimals : Option ℕ) : Function.Injective (scaledText decimals) := by
  cases decimals with
  | none => exact toString_injective
  | some decimals => exact unitsText_injective decimals

/-- The scales of two amounts with the same text are the same or differ between
none and one decimal. -/
theorem scales_of_scaledText_eq {leftDecimals rightDecimals : Option ℕ} {left right : ℕ}
    (heq : scaledText leftDecimals left = scaledText rightDecimals right) :
    leftDecimals = rightDecimals ∨ leftDecimals = some 0 ∧ rightDecimals = some 1 ∨
      leftDecimals = some 1 ∧ rightDecimals = some 0 := by
  have hpoint : leftDecimals.isSome ↔ rightDecimals.isSome := by
    rw [← mem_toList_scaledText leftDecimals left, heq, mem_toList_scaledText]
  cases leftDecimals with
  | none =>
      cases rightDecimals with
      | none => exact .inl rfl
      | some decimals => simp at hpoint
  | some leftScale =>
      cases rightDecimals with
      | none => simp at hpoint
      | some rightScale =>
          have hscales := decimals_of_unitsText_eq heq
          simp only [Option.some.injEq]
          omega

/-! ## Amounts without trailing zeros -/

/-- The text without the zeros at its end. -/
def trimZeros (digits : List Char) : List Char := (digits.reverse.dropWhile (· = '0')).reverse

/-- The zeros that were trimmed can be put back, since their number is known from
the width. -/
theorem trimZeros_append_zeros (digits : List Char) :
    trimZeros digits ++ List.replicate (digits.length - (trimZeros digits).length) '0' = digits := by
  have hsplit : (digits.reverse.dropWhile (· = '0')).reverse ++
      (digits.reverse.takeWhile (· = '0')).reverse = digits := by
    rw [← List.reverse_append, List.takeWhile_append_dropWhile, List.reverse_reverse]
  have hlength := congrArg List.length hsplit
  rw [List.length_append, List.length_reverse, List.length_reverse] at hlength
  have hzeros : (digits.reverse.takeWhile (· = '0')).reverse =
      List.replicate (digits.reverse.takeWhile (· = '0')).length '0' := by
    rw [← List.length_reverse]
    apply List.eq_replicate_of_mem
    intro digit hdigit
    simpa using List.mem_takeWhile_imp (List.mem_reverse.1 hdigit)
  have hcount : digits.length - (trimZeros digits).length =
      (digits.reverse.takeWhile (· = '0')).length := by
    rw [trimZeros, List.length_reverse]
    omega
  rw [hcount, ← hzeros]
  exact hsplit

theorem mem_of_mem_trimZeros {char : Char} {digits : List Char} (hmem : char ∈ trimZeros digits) :
    char ∈ digits := by
  rw [trimZeros, List.mem_reverse] at hmem
  exact List.mem_reverse.1 ((List.dropWhile_sublist _).subset hmem)

/-- Some digit of a number that is not zero is left. -/
theorem trimZeros_padded_ne_nil {width value : ℕ} (hvalue : value ≠ 0) :
    trimZeros (padded width value) ≠ [] := by
  intro hnil
  apply hvalue
  have hzeros := trimZeros_append_zeros (padded width value)
  rw [hnil, List.nil_append] at hzeros
  rw [← ofDigitChars_padded width value, ← hzeros, Nat.ofDigitChars_replicate_zero, Nat.mul_zero]

/-- The quotient by a power of ten, exact and without superfluous digits. -/
def trimmedText (amount decimals : ℕ) : String :=
  if amount % 10 ^ decimals = 0 then toString (amount / 10 ^ decimals)
  else toString (amount / 10 ^ decimals) ++ "." ++
    String.ofList (trimZeros (padded decimals (amount % 10 ^ decimals)))

theorem toList_trimmedText_of_fraction {amount decimals : ℕ} (hfraction : amount % 10 ^ decimals ≠ 0) :
    (trimmedText amount decimals).toList =
      Nat.toDigits 10 (amount / 10 ^ decimals) ++
        '.' :: trimZeros (padded decimals (amount % 10 ^ decimals)) := by
  simp [trimmedText, hfraction, String.toList_append]

/-- The trimmed text has a point exactly if there is something behind it. -/
theorem point_mem_trimmedText (amount decimals : ℕ) :
    '.' ∈ (trimmedText amount decimals).toList ↔ amount % 10 ^ decimals ≠ 0 := by
  by_cases hfraction : amount % 10 ^ decimals = 0
  · have hpoint := not_mem_toDigits (by decide : '.'.isDigit = false) (amount / 10 ^ decimals)
    simpa [trimmedText, hfraction] using hpoint
  · rw [toList_trimmedText_of_fraction hfraction]
    simp [hfraction]

/-- Trimming loses no amount: the zeros that are dropped are determined by the
number of decimals. -/
theorem trimmedText_injective (decimals : ℕ) :
    Function.Injective fun amount => trimmedText amount decimals := by
  intro left right heq
  dsimp only at heq
  have hpoint : left % 10 ^ decimals ≠ 0 ↔ right % 10 ^ decimals ≠ 0 := by
    rw [← point_mem_trimmedText, heq, point_mem_trimmedText]
  by_cases hleft : left % 10 ^ decimals = 0
  · have hright : right % 10 ^ decimals = 0 := by
      by_contra hright
      exact hpoint.2 hright hleft
    rw [trimmedText, trimmedText, if_pos hleft, if_pos hright] at heq
    rw [← Nat.div_add_mod left (10 ^ decimals), ← Nat.div_add_mod right (10 ^ decimals),
      toString_injective heq, hleft, hright]
  · have hright := hpoint.1 hleft
    have hlists := congrArg String.toList heq
    rw [toList_trimmedText_of_fraction hleft, toList_trimmedText_of_fraction hright] at hlists
    obtain ⟨hwhole, htrimmed⟩ := append_cons_inj (not_mem_toDigits (by decide) _)
      (not_mem_toDigits (by decide) _) hlists
    have hpadded : padded decimals (left % 10 ^ decimals) =
        padded decimals (right % 10 ^ decimals) := by
      rw [← trimZeros_append_zeros (padded decimals (left % 10 ^ decimals)),
        ← trimZeros_append_zeros (padded decimals (right % 10 ^ decimals)), htrimmed,
        length_padded (Nat.mod_lt left (Nat.pow_pos (by omega))),
        length_padded (Nat.mod_lt right (Nat.pow_pos (by omega)))]
    rw [← Nat.div_add_mod left (10 ^ decimals), ← Nat.div_add_mod right (10 ^ decimals),
      toDigits_injective hwhole, padded_injective decimals hpadded]

end VisualSignParser.Decimal
