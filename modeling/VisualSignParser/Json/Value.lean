import Mathlib.Data.Nat.Digits.Lemmas
import Mathlib.Data.List.TakeWhile
import Mathlib.Data.List.Infix
import Mathlib.Tactic.IntervalCases

/-!
# JSON documents and their compact text

A document keeps the members of an object in the order of its text, with
repeated keys if there are any.  The compact writer escapes the two structural
characters and the control characters below `0x20` and emits every other
character raw, so whatever a document's strings contain can be read off its
text; that is the fact the display gate rests on.
-/

namespace VisualSignParser.Json

/-! ## Numbers -/

def isNumberChar (char : Char) : Bool :=
  char.isDigit || char == '-' || char == '+' || char == '.' || char == 'e' || char == 'E'

def isDigits (text : List Char) : Bool := !text.isEmpty && text.all Char.isDigit

/-- An optional exponent part up to the end of the number. -/
def isExponent : List Char → Bool
  | [] => true
  | marker :: rest =>
      (marker == 'e' || marker == 'E') &&
        match rest with
        | '+' :: digits => isDigits digits
        | '-' :: digits => isDigits digits
        | digits => isDigits digits

/-- An optional fraction part, then an optional exponent. -/
def isFraction : List Char → Bool
  | '.' :: rest =>
      !(rest.takeWhile Char.isDigit).isEmpty && isExponent (rest.dropWhile Char.isDigit)
  | rest => isExponent rest

/-- An integer part without superfluous zeros, then the optional parts. -/
def isUnsignedNumber : List Char → Bool
  | [] => false
  | '0' :: rest => isFraction rest
  | digit :: rest => digit.isDigit && isFraction (rest.dropWhile Char.isDigit)

/-- The number grammar of JSON. -/
def isNumber (text : List Char) : Bool :=
  text.all isNumberChar &&
    match text with
    | '-' :: rest => isUnsignedNumber rest
    | rest => isUnsignedNumber rest

/-- A number is kept as its text. -/
abbrev Number := {text : List Char // isNumber text = true}

theorem Number.all_isNumberChar (number : Number) : ∀ char ∈ number.1, isNumberChar char = true := by
  have hnumber := number.2
  simp only [isNumber, Bool.and_eq_true, List.all_eq_true] at hnumber
  exact hnumber.1

theorem Number.ne_nil (number : Number) : number.1 ≠ [] := by
  intro hnil
  have hnumber := number.2
  rw [hnil] at hnumber
  exact absurd hnumber (by decide)

/-- The decimal digits of a natural number. -/
def decimal (value : ℕ) : List Char :=
  if value = 0 then ['0'] else (Nat.digits 10 value).reverse.map Nat.digitChar

/-- Read decimal digits. -/
def ofDecimal (digits : List Char) : ℕ :=
  Nat.ofDigits 10 (digits.reverse.map fun digit => digit.toNat - '0'.toNat)

theorem digitChar_spec {digit : ℕ} (hdigit : digit < 10) :
    (Nat.digitChar digit).isDigit = true ∧ (Nat.digitChar digit).toNat - '0'.toNat = digit ∧
      isNumberChar (Nat.digitChar digit) = true ∧
      (Nat.digitChar digit = '0' → digit = 0) := by
  interval_cases digit <;> decide

theorem ofDecimal_decimal (value : ℕ) : ofDecimal (decimal value) = value := by
  unfold decimal
  split
  · rename_i hzero
    simp [ofDecimal, hzero]
  · have hdigits : (Nat.digits 10 value).map
        (fun digit => (Nat.digitChar digit).toNat - '0'.toNat) = Nat.digits 10 value := by
      conv_rhs => rw [← List.map_id (Nat.digits 10 value)]
      apply List.map_congr_left
      intro digit hmem
      exact (digitChar_spec (Nat.digits_lt_base (by norm_num) hmem)).2.1
    rw [ofDecimal, ← List.map_reverse, List.reverse_reverse, List.map_map]
    exact (congrArg (Nat.ofDigits 10) hdigits).trans (Nat.ofDigits_digits 10 value)

theorem decimal_all_isDigit (value : ℕ) : ∀ char ∈ decimal value,
    char.isDigit = true ∧ isNumberChar char = true := by
  intro char hchar
  unfold decimal at hchar
  split at hchar
  · rw [List.mem_singleton.1 hchar]
    decide
  · simp only [List.mem_map, List.mem_reverse] at hchar
    obtain ⟨digit, hdigit, rfl⟩ := hchar
    have hspec := digitChar_spec (Nat.digits_lt_base (by norm_num) hdigit)
    exact ⟨hspec.1, hspec.2.2.1⟩

/-- The first digit is `0` only for the number zero. -/
theorem decimal_eq_cons (value : ℕ) : ∃ first rest, decimal value = first :: rest ∧
    (first = '0' → rest = []) := by
  unfold decimal
  split
  · exact ⟨'0', [], rfl, fun _ => rfl⟩
  · rename_i hvalue
    have hdigits : Nat.digits 10 value ≠ [] := Nat.digits_ne_nil_iff_ne_zero.2 hvalue
    have hlast := Nat.getLast_digit_ne_zero 10 hvalue
    refine ⟨Nat.digitChar ((Nat.digits 10 value).getLast hdigits),
      (Nat.digits 10 value).dropLast.reverse.map Nat.digitChar, ?_, ?_⟩
    · conv_lhs => rw [← List.dropLast_append_getLast hdigits]
      simp
    · intro hzero
      have hlt := Nat.digits_lt_base (by norm_num) (List.getLast_mem hdigits)
      exact absurd ((digitChar_spec hlt).2.2.2 hzero) hlast

theorem isNumber_decimal (value : ℕ) : isNumber (decimal value) = true := by
  have hall := decimal_all_isDigit value
  obtain ⟨first, rest, heq, hfirst⟩ := decimal_eq_cons value
  rw [heq] at hall ⊢
  have hdigit := (hall first (List.mem_cons_self ..)).1
  have hrest : rest.dropWhile Char.isDigit = [] :=
    List.dropWhile_eq_nil_iff.2 fun char hchar => (hall char (List.mem_cons_of_mem _ hchar)).1
  have hchars : (first :: rest).all isNumberChar = true :=
    List.all_eq_true.2 fun char hchar => (hall char hchar).2
  have hsign : first ≠ '-' := by
    rintro rfl
    exact absurd hdigit (by decide)
  have hunsigned : isUnsignedNumber (first :: rest) = true := by
    by_cases hzero : first = '0'
    · subst hzero
      rw [hfirst rfl]
      decide
    · rw [isUnsignedNumber.eq_3 _ _ hzero, hdigit, hrest]
      rfl
  unfold isNumber
  rw [hchars, Bool.true_and]
  split
  · rename_i hcons
    exact absurd (List.cons.inj hcons).1 hsign
  · exact hunsigned

/-- The number an unsigned integer is written as. -/
def Number.ofNat (value : ℕ) : Number := ⟨decimal value, isNumber_decimal value⟩

/-! ## Documents -/

inductive Value where
  | null
  | bool (flag : Bool)
  | number (number : Number)
  | string (text : String)
  | array (items : List Value)
  | object (members : List (String × Value))

/-- Induction over documents with the hypothesis for every item and member. -/
theorem Value.induction {P : Value → Prop} (null : P .null) (bool : ∀ flag, P (.bool flag))
    (number : ∀ number, P (.number number)) (string : ∀ text, P (.string text))
    (array : ∀ items, (∀ item ∈ items, P item) → P (.array items))
    (object : ∀ members, (∀ entry ∈ members, P entry.2) → P (.object members))
    (value : Value) : P value := by
  refine @Value.rec P (fun items => ∀ item ∈ items, P item)
    (fun members => ∀ entry ∈ members, P entry.2) (fun entry => P entry.2)
    null bool number string array object ?_ ?_ ?_ ?_ ?_ value
  · simp
  · intro head tail hhead htail
    simpa using ⟨hhead, htail⟩
  · simp
  · intro head tail hhead htail
    simpa using ⟨hhead, fun key value hmem => htail (key, value) hmem⟩
  · intro key value hvalue
    exact hvalue

mutual

/-- The number of containers around the innermost part of a document. -/
def Value.depth : Value → ℕ
  | .null => 0
  | .bool _ => 0
  | .number _ => 0
  | .string _ => 0
  | .array items => itemsDepth items + 1
  | .object members => membersDepth members + 1

def itemsDepth : List Value → ℕ
  | [] => 0
  | item :: items => max item.depth (itemsDepth items)

def membersDepth : List (String × Value) → ℕ
  | [] => 0
  | (_, value) :: members => max value.depth (membersDepth members)

end

mutual

/-- Every key and every string value of the document. -/
def Value.texts : Value → List String
  | .null => []
  | .bool _ => []
  | .number _ => []
  | .string text => [text]
  | .array items => itemsTexts items
  | .object members => membersTexts members

def itemsTexts : List Value → List String
  | [] => []
  | item :: items => item.texts ++ itemsTexts items

def membersTexts : List (String × Value) → List String
  | [] => []
  | (key, value) :: members => key :: value.texts ++ membersTexts members

end

/-! ## The compact writer -/

/-- The last two digits of a control character's `\\u00` escape. -/
def controlEscape (char : Char) : List Char :=
  [Nat.digitChar (char.toNat / 16), Nat.digitChar (char.toNat % 16)]

/-- What the writer emits for one character of a string. -/
def escapeChar (char : Char) : List Char :=
  if char = '"' then ['\\', '"']
  else if char = '\\' then ['\\', '\\']
  else if char.toNat = 0x08 then ['\\', 'b']
  else if char.toNat = 0x09 then ['\\', 't']
  else if char.toNat = 0x0a then ['\\', 'n']
  else if char.toNat = 0x0c then ['\\', 'f']
  else if char.toNat = 0x0d then ['\\', 'r']
  else if char.toNat < 0x20 then ['\\', 'u', '0', '0'] ++ controlEscape char
  else [char]

def renderString (text : String) : List Char :=
  '"' :: text.toList.flatMap escapeChar ++ ['"']

mutual

def Value.render : Value → List Char
  | .null => ['n', 'u', 'l', 'l']
  | .bool true => ['t', 'r', 'u', 'e']
  | .bool false => ['f', 'a', 'l', 's', 'e']
  | .number number => number.1
  | .string text => renderString text
  | .array items => '[' :: renderItems items
  | .object members => '\x7b' :: renderMembers members

/-- The items with commas between them, and the closing bracket. -/
def renderItems : List Value → List Char
  | [] => [']']
  | item :: items => item.render ++ (if items.isEmpty then [] else [',']) ++ renderItems items

/-- The members with commas between them, and the closing brace. -/
def renderMembers : List (String × Value) → List Char
  | [] => ['\x7d']
  | (key, value) :: members =>
      renderString key ++ ':' :: value.render ++ (if members.isEmpty then [] else [',']) ++
        renderMembers members

end

/-! ## What the text shows of the strings -/

theorem itemsTexts_eq (items : List Value) : itemsTexts items = items.flatMap Value.texts := by
  induction items with
  | nil => rfl
  | cons item items ih => simp [itemsTexts, ih]

theorem membersTexts_eq (members : List (String × Value)) :
    membersTexts members = members.flatMap fun entry => entry.1 :: entry.2.texts := by
  induction members with
  | nil => rfl
  | cons entry members ih => simp [membersTexts, ih]

theorem render_infix_renderItems {item : Value} {items : List Value} (hitem : item ∈ items) :
    item.render <:+: renderItems items := by
  induction items with
  | nil => simp at hitem
  | cons head items ih =>
      rw [renderItems, List.append_assoc]
      rcases List.mem_cons.1 hitem with rfl | hmem
      · exact (List.prefix_append _ _).isInfix
      · apply (ih hmem).trans
        rw [← List.append_assoc]
        exact (List.suffix_append _ _).isInfix

theorem render_infix_renderMembers {entry : String × Value} {members : List (String × Value)}
    (hentry : entry ∈ members) :
    renderString entry.1 <:+: renderMembers members ∧
      entry.2.render <:+: renderMembers members := by
  induction members with
  | nil => simp at hentry
  | cons head members ih =>
      obtain ⟨key, value⟩ := head
      rw [renderMembers]
      rcases List.mem_cons.1 hentry with rfl | hmem
      · constructor
        · exact ⟨[], ':' :: value.render ++ (if members.isEmpty then [] else [',']) ++
            renderMembers members, by simp⟩
        · exact ⟨renderString key ++ [':'], (if members.isEmpty then [] else [',']) ++
            renderMembers members, by simp⟩
      · have hsuffix := List.suffix_append (renderString key ++ ':' :: value.render ++
          (if members.isEmpty then [] else [','])) (renderMembers members)
        exact ⟨(ih hmem).1.trans hsuffix.isInfix, (ih hmem).2.trans hsuffix.isInfix⟩

theorem escapeChar_infix_renderString {char : Char} {text : String} (hchar : char ∈ text.toList) :
    escapeChar char <:+: renderString text := by
  obtain ⟨before, after, hsplit⟩ := List.append_of_mem hchar
  use '"' :: before.flatMap escapeChar, after.flatMap escapeChar ++ ['"']
  simp [renderString, hsplit]

/-- Every string and key of a document is in the text as it is written alone. -/
theorem renderString_infix_render (value : Value) : ∀ text ∈ value.texts,
    renderString text <:+: value.render := by
  induction value using Value.induction with
  | null => simp [Value.texts]
  | bool flag => simp [Value.texts]
  | number number => simp [Value.texts]
  | string written =>
      intro text htext
      rw [List.mem_singleton.1 htext]
      exact List.infix_rfl
  | array items ih =>
      intro text htext
      rw [Value.texts, itemsTexts_eq, List.mem_flatMap] at htext
      obtain ⟨item, hitem, htext⟩ := htext
      calc
        renderString text <:+: item.render := ih item hitem text htext
        _ <:+: renderItems items := render_infix_renderItems hitem
        _ <:+: Value.render (.array items) := (List.suffix_cons _ _).isInfix
  | object members ih =>
      intro text htext
      rw [Value.texts, membersTexts_eq, List.mem_flatMap] at htext
      obtain ⟨entry, hentry, htext⟩ := htext
      obtain ⟨hkey, hvalue⟩ := render_infix_renderMembers hentry
      have hmembers : renderString text <:+: renderMembers members := by
        rcases List.mem_cons.1 htext with rfl | htext
        · exact hkey
        · exact (ih entry hentry text htext).trans hvalue
      exact hmembers.trans (List.suffix_cons _ _).isInfix

/-- Whatever a string or key of a document contains is in the text, escaped. -/
theorem escapeChar_infix_render (value : Value) : ∀ text ∈ value.texts, ∀ char ∈ text.toList,
    escapeChar char <:+: value.render := by
  intro text htext char hchar
  exact (escapeChar_infix_renderString hchar).trans (renderString_infix_render value text htext)

end VisualSignParser.Json
