import VisualSignParser.Codec.Decimal
import VisualSignParser.Codec.Delimited
import VisualSignParser.Ethereum.AbiRegistry

/-!
# Texts of ABI values

The types of the ABI and the values each of them has.  A list of values is
written in brackets with commas between them, and no text but that of a string
has a comma or a closing bracket outside its own brackets, so the text of a
value whose type has no string in it tells which value it is.
-/

namespace VisualSignParser.Ethereum

open VisualSignParser.Delimited
open VisualSignParser.Framing

/-! ## Types -/

/-- `alloy_dyn_abi::DynSolType`. -/
inductive DynSolType where
  | address
  | uint (bits : ℕ)
  | int (bits : ℕ)
  | bool
  | bytes
  | fixedBytes (size : ℕ)
  | string
  | array (element : DynSolType)
  | fixedArray (element : DynSolType) (length : ℕ)
  | tuple (elements : List DynSolType)
  | function

/-- Induction over types with the hypothesis for every element of a tuple. -/
theorem DynSolType.induction {P : DynSolType → Prop} (address : P .address)
    (uint : ∀ bits, P (.uint bits)) (int : ∀ bits, P (.int bits)) (bool : P .bool)
    (bytes : P .bytes) (fixedBytes : ∀ size, P (.fixedBytes size)) (string : P .string)
    (array : ∀ element, P element → P (.array element))
    (fixedArray : ∀ element length, P element → P (.fixedArray element length))
    (tuple : ∀ elements, (∀ element ∈ elements, P element) → P (.tuple elements))
    (function : P .function) (type : DynSolType) : P type := by
  refine @DynSolType.rec P (fun elements => ∀ element ∈ elements, P element) address uint int bool
    bytes fixedBytes string array (fun element length => fixedArray element length) tuple function
    ?_ ?_ type
  · simp
  · intro head tail hhead htail
    simpa using ⟨hhead, htail⟩

mutual

/-- The values of a type; a fixed byte text is kept in a whole word. -/
def DynSolType.Holds : DynSolType → DynSolValue → Prop
  | .address, .address _ => True
  | .uint bits, .uint value width => width = bits ∧ value < 2 ^ bits
  | .int bits, .int value width => width = bits ∧ -2 ^ (bits - 1) ≤ value ∧ value < 2 ^ (bits - 1)
  | .bool, .bool _ => True
  | .bytes, .bytes _ => True
  | .fixedBytes size, .fixedBytes value width => width = size ∧ value.length = 32
  | .string, .string _ => True
  | .array element, .array values => ∀ value ∈ values, element.Holds value
  | .fixedArray element length, .fixedArray values =>
      values.length = length ∧ ∀ value ∈ values, element.Holds value
  | .tuple elements, .tuple values => HoldAll elements values
  | .function, .function value => value.length = 24
  | _, _ => False

/-- As many values as types, each of its type. -/
def HoldAll : List DynSolType → List DynSolValue → Prop
  | [], [] => True
  | type :: types, value :: values => type.Holds value ∧ HoldAll types values
  | _, _ => False

end

/-! ## Values of a type -/

theorem holds_address {value : DynSolValue} (hvalue : DynSolType.address.Holds value) :
    ∃ key, value = .address key := by
  cases value with
  | address key => exact ⟨key, rfl⟩
  | _ => exact hvalue.elim

/-- A value of an unsigned type is a number with the bits of the type, below its
bound; no other constructor holds it. -/
theorem holds_uint {bits : ℕ} {value : DynSolValue} (hvalue : (DynSolType.uint bits).Holds value) :
    ∃ number, value = .uint number bits ∧ number < 2 ^ bits := by
  cases value with
  | uint number width => exact ⟨number, by rw [hvalue.1], hvalue.2⟩
  | _ => exact hvalue.elim

/-- A value of a signed type is a number with the bits of the type, within both of
its bounds. -/
theorem holds_int {bits : ℕ} {value : DynSolValue} (hvalue : (DynSolType.int bits).Holds value) :
    ∃ number, value = .int number bits ∧ -2 ^ (bits - 1) ≤ number ∧ number < 2 ^ (bits - 1) := by
  cases value with
  | int number width => exact ⟨number, by rw [hvalue.1], hvalue.2⟩
  | _ => exact hvalue.elim

theorem holds_bool {value : DynSolValue} (hvalue : DynSolType.bool.Holds value) :
    ∃ flag, value = .bool flag := by
  cases value with
  | bool flag => exact ⟨flag, rfl⟩
  | _ => exact hvalue.elim

theorem holds_bytes {value : DynSolValue} (hvalue : DynSolType.bytes.Holds value) :
    ∃ bytes, value = .bytes bytes := by
  cases value with
  | bytes bytes => exact ⟨bytes, rfl⟩
  | _ => exact hvalue.elim

/-- A value of fixed bytes is a whole word together with the number of bytes that
count. -/
theorem holds_fixedBytes {size : ℕ} {value : DynSolValue}
    (hvalue : (DynSolType.fixedBytes size).Holds value) :
    ∃ bytes, value = .fixedBytes bytes size ∧ bytes.length = 32 := by
  cases value with
  | fixedBytes bytes width => exact ⟨bytes, by rw [hvalue.1], hvalue.2⟩
  | _ => exact hvalue.elim

/-- A value of an array type is a list of values of the element type, of any length. -/
theorem holds_array {element : DynSolType} {value : DynSolValue}
    (hvalue : (DynSolType.array element).Holds value) :
    ∃ values, value = .array values ∧ ∀ value ∈ values, element.Holds value := by
  cases value with
  | array values => exact ⟨values, rfl, hvalue⟩
  | _ => exact hvalue.elim

/-- A value of a fixed array is a list of values of the element type, and its length
is that of the type. -/
theorem holds_fixedArray {element : DynSolType} {length : ℕ} {value : DynSolValue}
    (hvalue : (DynSolType.fixedArray element length).Holds value) :
    ∃ values, value = .fixedArray values ∧ values.length = length ∧
      ∀ value ∈ values, element.Holds value := by
  cases value with
  | fixedArray values => exact ⟨values, rfl, hvalue⟩
  | _ => exact hvalue.elim

/-- A value of a tuple type is a list with one value for each element type, in the
order of the types. -/
theorem holds_tuple {elements : List DynSolType} {value : DynSolValue}
    (hvalue : (DynSolType.tuple elements).Holds value) :
    ∃ values, value = .tuple values ∧ HoldAll elements values := by
  cases value with
  | tuple values => exact ⟨values, rfl, hvalue⟩
  | _ => exact hvalue.elim

theorem holds_function {value : DynSolValue} (hvalue : DynSolType.function.Holds value) :
    ∃ bytes, value = .function bytes ∧ bytes.length = 24 := by
  cases value with
  | function bytes => exact ⟨bytes, rfl, hvalue⟩
  | _ => exact hvalue.elim

mutual

/-- No string stands anywhere in the type. -/
def DynSolType.WithoutString : DynSolType → Prop
  | .string => False
  | .array element => element.WithoutString
  | .fixedArray element _ => element.WithoutString
  | .tuple elements => AllWithoutString elements
  | _ => True

def AllWithoutString : List DynSolType → Prop
  | [] => True
  | type :: types => type.WithoutString ∧ AllWithoutString types

end

/-! ## Texts of single values -/

/-- The characters that follow a value inside a list. -/
def isDelimiter (char : Char) : Bool := char == ',' || char == ']' || char == ')'

/-- No digit of a hex text is a delimiter, so a hex text cannot be mistaken for two
values. -/
theorem isDelimiter_of_isHexDigit {char : Char} (hdigit : Hex.isHexDigit char = true) :
    isDelimiter char = false := by
  by_contra hdelimiter
  simp only [isDelimiter, Bool.not_eq_false, Bool.or_eq_true, beq_iff_eq] at hdelimiter
  rcases hdelimiter with (rfl | rfl) | rfl <;> exact absurd hdigit (by decide)

theorem isDelimiter_of_isDigit {char : Char} (hdigit : char.isDigit = true) :
    isDelimiter char = false :=
  isDelimiter_of_isHexDigit (by rw [Hex.isHexDigit, hdigit]; rfl)

/-- What is relied on of the debug text of an address: the marker, and its 40
hexadecimal digits in either case. -/
def Formats.HexAddresses (formats : Formats) : Prop :=
  ∀ address, ∃ digits, (formats.debugAddress address).toList = '0' :: 'x' :: digits ∧
    digits.map Char.toLower = (Hex.encode address.val).toList

/-- A marker and hexadecimal digits. -/
theorem plain_marked {digits : List Char} (hdigits : ∀ char ∈ digits, isDelimiter char = false) :
    Plain isDelimiter ('0' :: 'x' :: digits) := by
  refine ⟨List.cons_ne_nil _ _, ?_⟩
  rw [List.forall_mem_cons, List.forall_mem_cons]
  exact ⟨by decide, by decide, hdigits⟩

theorem toList_hexText (bytes : Bytes) :
    (hexText bytes).toList = '0' :: 'x' :: (Hex.encode bytes).toList := by
  rw [hexText, String.toList_append]
  rfl

/-- Bytes are written without delimiters, so where the text of the bytes ends is
seen from what follows. -/
theorem plain_hexText (bytes : Bytes) : Plain isDelimiter (hexText bytes).toList := by
  rw [toList_hexText]
  exact plain_marked fun char hchar =>
    isDelimiter_of_isHexDigit (Hex.isHexDigit_of_mem_encode hchar)

theorem hexText_injective : Function.Injective hexText := by
  intro left right heq
  have hlists := congrArg String.toList heq
  rw [toList_hexText, toList_hexText] at hlists
  exact Hex.encode_injective (String.toList_inj.1 (List.cons.inj (List.cons.inj hlists).2).2)

theorem plain_toDigits (value : ℕ) : Plain isDelimiter (Nat.toDigits 10 value) :=
  ⟨Nat.toDigits_ne_nil, fun _ hchar =>
    isDelimiter_of_isDigit (Nat.isDigit_of_mem_toDigits (by omega) le_rfl hchar)⟩

theorem plain_toString_nat (value : ℕ) : Plain isDelimiter (toString value).toList := by
  rw [Decimal.toList_toString]
  exact plain_toDigits value

/-- A number is written without delimiters, with its sign or without, by cases on
the sign. -/
theorem plain_toString_int (value : ℤ) : Plain isDelimiter (toString value).toList := by
  have hdigits := plain_toDigits value.natAbs
  rw [Decimal.toList_toString_int]
  constructor
  · simp [hdigits.1]
  · rw [List.forall_mem_append]
    refine ⟨?_, hdigits.2⟩
    split_ifs
    · exact List.forall_mem_singleton.2 (by decide)
    · exact List.forall_mem_nil _

theorem plain_toString_bool (value : Bool) : Plain isDelimiter (toString value).toList := by
  cases value <;> decide

theorem toString_bool_injective : Function.Injective (toString : Bool → String) := by
  intro left right htext
  cases left <;> cases right
  · rfl
  · exact absurd htext (by decide)
  · exact absurd htext (by decide)
  · rfl

section Address

variable {formats : Formats} (hformats : formats.HexAddresses)

include hformats

/-- The text of an address has no delimiters, because the formatter writes it in hex
digits behind a marker. -/
theorem plain_debugAddress (address : Address) :
    Plain isDelimiter (formats.debugAddress address).toList := by
  obtain ⟨digits, htext, hdigits⟩ := hformats address
  rw [htext]
  apply plain_marked
  intro char hchar
  -- A delimiter is its own lower case.
  have hlower : Hex.isHexDigit char.toLower = true :=
    Hex.isHexDigit_of_mem_encode (hdigits ▸ List.mem_map_of_mem hchar)
  by_contra hdelimiter
  simp only [isDelimiter, Bool.not_eq_false, Bool.or_eq_true, beq_iff_eq] at hdelimiter
  rcases hdelimiter with (rfl | rfl) | rfl <;> exact absurd hlower (by decide)

/-- Two addresses with one text are one address, as the hex digits give the bytes
back. -/
theorem debugAddress_injective : Function.Injective formats.debugAddress := by
  intro left right heq
  obtain ⟨leftDigits, hleft, hleftLower⟩ := hformats left
  obtain ⟨rightDigits, hright, hrightLower⟩ := hformats right
  rw [heq, hright] at hleft
  have hdigits : rightDigits = leftDigits := (List.cons.inj (List.cons.inj hleft).2).2
  rw [← hdigits, hrightLower] at hleftLower
  exact (Subtype.ext (Hex.encode_injective (String.toList_inj.1 hleftLower))).symm

end Address

/-! ## Texts of all values -/

/-- The values of a list are formatted one by one, without regard to their
neighbours. -/
theorem formatDynSolValues_eq (formats : Formats) (values : List DynSolValue) :
    formatDynSolValues formats values = values.map (formatDynSolValue formats) := by
  induction values with
  | nil => rfl
  | cons value values ih => rw [formatDynSolValues, ih, List.map_cons]

/-- The characters of a value's text. -/
def valueText (formats : Formats) (value : DynSolValue) : List Char :=
  (formatDynSolValue formats value).toList

/-- The text of a list is its opening bracket, the texts of the values with
separators between them, and the closing bracket. -/
theorem toList_bracketed (formats : Formats) (opening closing : Char)
    (values : List DynSolValue) :
    (String.ofList [opening] ++ ", ".intercalate (formatDynSolValues formats values) ++
        String.ofList [closing]).toList =
      opening :: (joined (valueText formats) [',', ' '] values ++ [closing]) := by
  simp only [formatDynSolValues_eq, String.toList_append, String.toList_intercalate, List.map_map,
    String.toList_ofList]
  rfl

theorem valueText_array (formats : Formats) (values : List DynSolValue) :
    valueText formats (.array values) =
      '[' :: (joined (valueText formats) [',', ' '] values ++ [']']) :=
  toList_bracketed formats '[' ']' values

theorem valueText_fixedArray (formats : Formats) (values : List DynSolValue) :
    valueText formats (.fixedArray values) =
      '[' :: (joined (valueText formats) [',', ' '] values ++ [']']) :=
  toList_bracketed formats '[' ']' values

theorem valueText_tuple (formats : Formats) (values : List DynSolValue) :
    valueText formats (.tuple values) =
      '(' :: (joined (valueText formats) [',', ' '] values ++ [')']) :=
  toList_bracketed formats '(' ')' values

section Values

variable {formats : Formats} (hformats : formats.HexAddresses)

/-- The elements of two tuples of one type are separable place by place. -/
theorem separable_of_holdAll {elements : List DynSolType}
    (hstring : AllWithoutString elements)
    (ih : ∀ element ∈ elements, element.WithoutString → ∀ left right, element.Holds left →
      element.Holds right → Separable isDelimiter (valueText formats) left right)
    {lefts rights : List DynSolValue} (hlefts : HoldAll elements lefts)
    (hrights : HoldAll elements rights) :
    ∀ pair ∈ lefts.zip rights, Separable isDelimiter (valueText formats) pair.1 pair.2 := by
  induction elements generalizing lefts rights with
  | nil =>
      cases lefts with
      | nil => simp
      | cons left lefts => exact hlefts.elim
  | cons element elements ihElements =>
      rw [List.forall_mem_cons] at ih
      cases lefts with
      | nil => simp
      | cons left lefts =>
          cases rights with
          | nil => simp
          | cons right rights =>
              rw [List.zip_cons_cons, List.forall_mem_cons]
              exact ⟨ih.1 hstring.1 left right hlefts.1 hrights.1,
                ihElements hstring.2 ih.2 hlefts.2 hrights.2⟩

/-- Two values without delimiters in their texts can be told apart at the front of a
longer text, if their texts determine them. -/
theorem separable_single {left right : DynSolValue}
    (hleft : Plain isDelimiter (valueText formats left))
    (hright : Plain isDelimiter (valueText formats right))
    (hvalue : formatDynSolValue formats left = formatDynSolValue formats right → left = right) :
    Separable isDelimiter (valueText formats) left right :=
  separable_of_plain hleft hright fun htext => hvalue (String.toList_inj.1 htext)

include hformats

/-- No text but that of a string is empty or starts with a delimiter. -/
theorem opens_valueText {type : DynSolType} {value : DynSolValue}
    (hstring : type.WithoutString) (hvalue : type.Holds value) :
    Opens isDelimiter (valueText formats value) := by
  cases value with
  | address value => exact (plain_debugAddress hformats value).opens
  | uint value width => exact (plain_toString_nat value).opens
  | int value width => exact (plain_toString_int value).opens
  | bool value => exact (plain_toString_bool value).opens
  | bytes value => exact (plain_hexText value).opens
  | fixedBytes value width => exact (plain_hexText value).opens
  | string value => cases type <;> first | exact hvalue.elim | exact hstring.elim
  | array values => exact ⟨'[', _, valueText_array formats values, by decide⟩
  | fixedArray values => exact ⟨'[', _, valueText_fixedArray formats values, by decide⟩
  | tuple values => exact ⟨'(', _, valueText_tuple formats values, by decide⟩
  | function value => exact (plain_hexText value).opens

/-- The text of a value of a type without strings does not begin with a separator or
a closing bracket. -/
theorem opens_of_holds {element : DynSolType} {values : List DynSolValue}
    (hstring : element.WithoutString) (hvalues : ∀ value ∈ values, element.Holds value) :
    ∀ value ∈ values, Opens isDelimiter (valueText formats value) :=
  fun value hmem => opens_valueText hformats hstring (hvalues value hmem)

/-- The same for the values of a tuple, each of which has a type of its own. -/
theorem opens_of_holdAll {elements : List DynSolType} {values : List DynSolValue}
    (hstring : AllWithoutString elements) (hvalues : HoldAll elements values) :
    ∀ value ∈ values, Opens isDelimiter (valueText formats value) := by
  induction elements generalizing values with
  | nil =>
      cases values with
      | nil => simp
      | cons value values => exact hvalues.elim
  | cons element elements ih =>
      cases values with
      | nil => simp
      | cons value values =>
          rw [List.forall_mem_cons]
          exact ⟨opens_valueText hformats hstring.1 hvalues.1, ih hstring.2 hvalues.2⟩

/-- If the values of the element type can be told apart at the front of a text, so
can the lists of them, by induction on the first list. -/
theorem separable_array {element : DynSolType} (hstring : element.WithoutString)
    (ih : ∀ left right, element.Holds left → element.Holds right →
      Separable isDelimiter (valueText formats) left right)
    {lefts rights : List DynSolValue} (hlefts : ∀ value ∈ lefts, element.Holds value)
    (hrights : ∀ value ∈ rights, element.Holds value) {leftRest rightRest : List Char}
    (heq : '[' :: (joined (valueText formats) [',', ' '] lefts ++ [']']) ++ leftRest =
      '[' :: (joined (valueText formats) [',', ' '] rights ++ [']']) ++ rightRest) :
    lefts = rights ∧ leftRest = rightRest := by
  apply bracketed_inj (by decide) (by decide) (by decide) _
    (opens_of_holds hformats hstring hlefts) (opens_of_holds hformats hstring hrights) heq
  intro pair hpair
  obtain ⟨hleft, hright⟩ := List.of_mem_zip hpair
  exact ih _ _ (hlefts _ hleft) (hrights _ hright)

/-- The values of a type without strings can be told apart at the front of any text,
by induction on the type; strings are left out because they may hold delimiters
themselves. -/
theorem separable_valueText (type : DynSolType) : type.WithoutString → ∀ left right,
    type.Holds left → type.Holds right →
      Separable isDelimiter (valueText formats) left right := by
  induction type using DynSolType.induction with
  | address =>
      intro _ left right hleft hright
      obtain ⟨left, rfl⟩ := holds_address hleft
      obtain ⟨right, rfl⟩ := holds_address hright
      exact separable_single (plain_debugAddress hformats left) (plain_debugAddress hformats right)
        fun htext => congrArg _ (debugAddress_injective hformats htext)
  | uint bits =>
      intro _ left right hleft hright
      obtain ⟨left, rfl, -⟩ := holds_uint hleft
      obtain ⟨right, rfl, -⟩ := holds_uint hright
      exact separable_single (plain_toString_nat left) (plain_toString_nat right)
        fun htext => by rw [Decimal.toString_injective htext]
  | int bits =>
      intro _ left right hleft hright
      obtain ⟨left, rfl, -⟩ := holds_int hleft
      obtain ⟨right, rfl, -⟩ := holds_int hright
      exact separable_single (plain_toString_int left) (plain_toString_int right)
        fun htext => by rw [Decimal.toString_int_injective htext]
  | bool =>
      intro _ left right hleft hright
      obtain ⟨left, rfl⟩ := holds_bool hleft
      obtain ⟨right, rfl⟩ := holds_bool hright
      exact separable_single (plain_toString_bool left) (plain_toString_bool right)
        fun htext => congrArg _ (toString_bool_injective htext)
  | bytes =>
      intro _ left right hleft hright
      obtain ⟨left, rfl⟩ := holds_bytes hleft
      obtain ⟨right, rfl⟩ := holds_bytes hright
      exact separable_single (plain_hexText left) (plain_hexText right)
        fun htext => congrArg _ (hexText_injective htext)
  | fixedBytes size =>
      intro _ left right hleft hright
      obtain ⟨left, rfl, -⟩ := holds_fixedBytes hleft
      obtain ⟨right, rfl, -⟩ := holds_fixedBytes hright
      exact separable_single (plain_hexText left) (plain_hexText right)
        fun htext => by rw [hexText_injective htext]
  | string =>
      intro hstring
      exact hstring.elim
  | array element ih =>
      intro hstring left right hleft hright leftRest rightRest _ _ heq
      obtain ⟨lefts, rfl, hlefts⟩ := holds_array hleft
      obtain ⟨rights, rfl, hrights⟩ := holds_array hright
      rw [valueText_array, valueText_array] at heq
      have helement : element.WithoutString := hstring
      exact (separable_array hformats helement (ih helement) hlefts hrights heq).imp_left
        (congrArg _)
  | fixedArray element length ih =>
      intro hstring left right hleft hright leftRest rightRest _ _ heq
      obtain ⟨lefts, rfl, -, hlefts⟩ := holds_fixedArray hleft
      obtain ⟨rights, rfl, -, hrights⟩ := holds_fixedArray hright
      rw [valueText_fixedArray, valueText_fixedArray] at heq
      have helement : element.WithoutString := hstring
      exact (separable_array hformats helement (ih helement) hlefts hrights heq).imp_left
        (congrArg _)
  | tuple elements ih =>
      intro hstring left right hleft hright leftRest rightRest _ _ heq
      obtain ⟨lefts, rfl, hlefts⟩ := holds_tuple hleft
      obtain ⟨rights, rfl, hrights⟩ := holds_tuple hright
      rw [valueText_tuple, valueText_tuple] at heq
      have hpairs := separable_of_holdAll hstring ih hlefts hrights
      exact (bracketed_inj (by decide) (by decide) (by decide) hpairs
        (opens_of_holdAll hformats hstring hlefts)
        (opens_of_holdAll hformats hstring hrights) heq).imp_left (congrArg _)
  | function =>
      intro _ left right hleft hright
      obtain ⟨left, rfl, -⟩ := holds_function hleft
      obtain ⟨right, rfl, -⟩ := holds_function hright
      exact separable_single (plain_hexText left) (plain_hexText right)
        fun htext => congrArg _ (hexText_injective htext)

/-- Two values of a type without strings have one text only if they are equal. -/
theorem formatDynSolValue_injective {type : DynSolType} (hstring : type.WithoutString)
    {left right : DynSolValue} (hleft : type.Holds left) (hright : type.Holds right)
    (htext : formatDynSolValue formats left = formatDynSolValue formats right) :
    left = right :=
  (separable_valueText hformats type hstring left right hleft hright).eq_of_text_eq
    (congrArg String.toList htext)

end Values

theorem hexAddresses_plainFormats : plainFormats.HexAddresses := by
  intro address
  have hlower :
      (Hex.encode address.val).toList.map Char.toLower = (Hex.encode address.val).toList :=
    (List.map_congr_left fun _ hchar => Hex.toLower_of_mem_encode hchar).trans (List.map_id _)
  exact ⟨_, toList_hexText address.val, hlower⟩

/-- An array of an empty array is told from an empty array. -/
theorem formatDynSolValue_injective_empty :
    formatDynSolValue plainFormats (.array [.tuple [.array [], .uint 1 8]]) ≠
      formatDynSolValue plainFormats (.array []) := by
  intro htext
  have hstring : (DynSolType.array (.tuple [.array .bool, .uint 8])).WithoutString :=
    ⟨trivial, trivial, trivial⟩
  have hequal := formatDynSolValue_injective hexAddresses_plainFormats hstring
    (by simp [DynSolType.Holds, HoldAll]) (by simp [DynSolType.Holds]) htext
  cases hequal

end VisualSignParser.Ethereum
