import VisualSignParser.Json.Value

/-!
# Reading JSON text

A recursive-descent reader with the accepted grammar of the JSON crate: white
space between tokens, all escapes with paired surrogates, no trailing commas,
and a budget for nested containers that runs out at `limit`.  It inverts the
compact writer exactly on the documents whose nesting stays below the limit,
and rejects every deeper one; hence two documents with one text are equal.
-/

namespace VisualSignParser.Json

def isWhitespace (char : Char) : Bool :=
  char == ' ' || char == '\n' || char == '\t' || char == '\r'

def skipWhitespace (text : List Char) : List Char := text.dropWhile isWhitespace

/-! ## Strings -/

def hexDigit? (char : Char) : Option ℕ :=
  if '0' ≤ char ∧ char ≤ '9' then some (char.toNat - '0'.toNat)
  else if 'a' ≤ char ∧ char ≤ 'f' then some (char.toNat - 'a'.toNat + 10)
  else if 'A' ≤ char ∧ char ≤ 'F' then some (char.toNat - 'A'.toNat + 10)
  else none

/-- Four hexadecimal digits. -/
def parseHex4 : List Char → Option (ℕ × List Char)
  | a :: b :: c :: d :: rest => do
      let a ← hexDigit? a
      let b ← hexDigit? b
      let c ← hexDigit? c
      let d ← hexDigit? d
      return (((a * 16 + b) * 16 + c) * 16 + d, rest)
  | _ => none

/-- The code point behind `\u`: a high surrogate needs a low one behind it, and
a low surrogate may not stand alone. -/
def parseUnicodeEscape (text : List Char) : Option (Char × List Char) := do
  let (code, rest) ← parseHex4 text
  if 0xdc00 ≤ code ∧ code ≤ 0xdfff then none
  else if 0xd800 ≤ code ∧ code ≤ 0xdbff then
    match rest with
    | '\\' :: 'u' :: rest => do
        let (low, rest) ← parseHex4 rest
        if 0xdc00 ≤ low ∧ low ≤ 0xdfff then
          return (Char.ofNat (0x10000 + (code - 0xd800) * 0x400 + (low - 0xdc00)), rest)
        else none
    | _ => none
  else return (Char.ofNat code, rest)

/-- The character an escape stands for, after the backslash. -/
def parseEscape : List Char → Option (Char × List Char)
  | [] => none
  | kind :: rest =>
      if kind = '"' then some ('"', rest)
      else if kind = '\\' then some ('\\', rest)
      else if kind = '/' then some ('/', rest)
      else if kind = 'b' then some (Char.ofNat 0x08, rest)
      else if kind = 'f' then some (Char.ofNat 0x0c, rest)
      else if kind = 'n' then some (Char.ofNat 0x0a, rest)
      else if kind = 'r' then some (Char.ofNat 0x0d, rest)
      else if kind = 't' then some (Char.ofNat 0x09, rest)
      else if kind = 'u' then parseUnicodeEscape rest
      else none

/-- The characters of a string after its opening quote. -/
def parseStringBody : ℕ → List Char → Option (List Char × List Char)
  | 0, _ => none
  | _ + 1, [] => none
  | fuel + 1, char :: rest =>
      if char = '"' then some ([], rest)
      else if char = '\\' then do
        let (decoded, rest) ← parseEscape rest
        let (chars, rest) ← parseStringBody fuel rest
        return (decoded :: chars, rest)
      else if char.toNat < 0x20 then none
      else do
        let (chars, rest) ← parseStringBody fuel rest
        return (char :: chars, rest)

def parseString (fuel : ℕ) (text : List Char) : Option (String × List Char) :=
  (parseStringBody fuel text).map fun read => (String.ofList read.1, read.2)

theorem parseEscape_control {char : Char} (hcontrol : char.toNat < 0x20) (rest : List Char) :
    parseEscape (['u', '0', '0'] ++ controlEscape char ++ rest) = some (char, rest) := by
  have hchar : Char.ofNat char.toNat = char := Char.ofNat_toNat char
  simp only [controlEscape]
  generalize char.toNat = code at *
  subst hchar
  interval_cases code <;> rfl

theorem parseStringBody_backslash (fuel : ℕ) (escape rest : List Char) (char : Char)
    (hescape : parseEscape (escape ++ rest) = some (char, rest)) :
    parseStringBody (fuel + 1) ('\\' :: escape ++ rest) =
      (parseStringBody fuel rest).map fun read => (char :: read.1, read.2) := by
  have hquote : ('\\' : Char) ≠ '"' := by decide
  rw [List.cons_append, parseStringBody, if_neg hquote, if_pos rfl, hescape]
  simp only [Option.bind_eq_bind, Option.bind_some]
  cases parseStringBody fuel rest <;> rfl

/-- The reader undoes the escaping of one character. -/
theorem parseStringBody_escapeChar (char : Char) (fuel : ℕ) (rest : List Char) :
    parseStringBody (fuel + 1) (escapeChar char ++ rest) =
      (parseStringBody fuel rest).map fun read => (char :: read.1, read.2) := by
  have hcode (code : ℕ) (heq : char.toNat = code) : Char.ofNat code = char := by
    rw [← heq, Char.ofNat_toNat]
  unfold escapeChar
  split_ifs with hquote hbackslash hb ht hn hf hr hcontrol
  · subst hquote
    exact parseStringBody_backslash fuel ['"'] rest _ rfl
  · subst hbackslash
    exact parseStringBody_backslash fuel ['\\'] rest _ rfl
  · rw [← hcode _ hb]
    exact parseStringBody_backslash fuel ['b'] rest _ rfl
  · rw [← hcode _ ht]
    exact parseStringBody_backslash fuel ['t'] rest _ rfl
  · rw [← hcode _ hn]
    exact parseStringBody_backslash fuel ['n'] rest _ rfl
  · rw [← hcode _ hf]
    exact parseStringBody_backslash fuel ['f'] rest _ rfl
  · rw [← hcode _ hr]
    exact parseStringBody_backslash fuel ['r'] rest _ rfl
  · exact parseStringBody_backslash fuel (['u', '0', '0'] ++ controlEscape char) rest _
      (parseEscape_control hcontrol rest)
  · rw [List.singleton_append, parseStringBody, if_neg hquote, if_neg hbackslash,
      if_neg hcontrol]
    cases parseStringBody fuel rest <;> rfl

/-- The escaped characters of a text, in front of a closing quote, are read back as
the text, by induction on it. -/
theorem parseStringBody_flatMap (chars : List Char) {fuel : ℕ} (hfuel : chars.length < fuel)
    (rest : List Char) :
    parseStringBody fuel (chars.flatMap escapeChar ++ '"' :: rest) = some (chars, rest) := by
  induction chars generalizing fuel with
  | nil =>
      obtain ⟨fuel, rfl⟩ := Nat.exists_eq_add_of_lt hfuel
      simp [parseStringBody]
  | cons char chars ih =>
      obtain ⟨fuel, rfl⟩ : ∃ less, fuel = less + 1 := ⟨fuel - 1, by omega⟩
      have hless : chars.length < fuel := by simpa using hfuel
      rw [List.flatMap_cons, List.append_assoc, parseStringBody_escapeChar, ih hless]
      rfl

theorem length_le_flatMap_escapeChar (chars : List Char) :
    chars.length ≤ (chars.flatMap escapeChar).length := by
  induction chars with
  | nil => simp
  | cons char chars ih =>
      have hchar : 1 ≤ (escapeChar char).length := by
        unfold escapeChar
        split_ifs <;> simp
      simp only [List.flatMap_cons, List.length_append, List.length_cons]
      omega

/-- The reader undoes the writer on a whole string. -/
theorem parseString_renderString (text : String) {fuel : ℕ}
    (hfuel : (renderString text).length ≤ fuel) (rest : List Char) :
    parseString fuel (text.toList.flatMap escapeChar ++ '"' :: rest) = some (text, rest) := by
  have hlength := length_le_flatMap_escapeChar text.toList
  have hbody : text.toList.length < fuel := by
    simp only [renderString, List.length_append, List.length_cons, List.length_nil] at hfuel
    omega
  rw [parseString, parseStringBody_flatMap _ hbody, Option.map_some, String.ofList_toList]

/-! ## Values -/

/-- A literal word. -/
def parseWord (word : List Char) (value : Value) (text : List Char) :
    Option (Value × List Char) :=
  if word <+: text then some (value, text.drop word.length) else none

/-- The longest run of number characters, which must be a number. -/
def parseNumber (text : List Char) : Option (Value × List Char) :=
  if hnumber : isNumber (text.takeWhile isNumberChar) = true then
    some (.number ⟨text.takeWhile isNumberChar, hnumber⟩, text.dropWhile isNumberChar)
  else none

mutual

/-- One value.  `limit` is the remaining container budget: entering a container
takes one unit, and the text is rejected when none is left. -/
def parseValue : (fuel limit : ℕ) → List Char → Option (Value × List Char)
  | 0, _, _ => none
  | fuel + 1, limit, text =>
      match skipWhitespace text with
      | [] => none
      | char :: rest =>
          if char = 'n' then parseWord ['n', 'u', 'l', 'l'] .null (char :: rest)
          else if char = 't' then parseWord ['t', 'r', 'u', 'e'] (.bool true) (char :: rest)
          else if char = 'f' then parseWord ['f', 'a', 'l', 's', 'e'] (.bool false) (char :: rest)
          else if char = '"' then
            (parseString fuel rest).map fun read => (.string read.1, read.2)
          else if char = '[' then
            if limit ≤ 1 then none
            else match skipWhitespace rest with
              | ']' :: rest => some (.array [], rest)
              | _ => (parseItems fuel (limit - 1) rest).map fun read => (.array read.1, read.2)
          else if char = '\x7b' then
            if limit ≤ 1 then none
            else match skipWhitespace rest with
              | '\x7d' :: rest => some (.object [], rest)
              | _ => (parseMembers fuel (limit - 1) rest).map fun read => (.object read.1, read.2)
          else parseNumber (char :: rest)

/-- The items of a nonempty array, through its closing bracket. -/
def parseItems : (fuel limit : ℕ) → List Char → Option (List Value × List Char)
  | 0, _, _ => none
  | fuel + 1, limit, text => do
      let (item, rest) ← parseValue fuel limit text
      match skipWhitespace rest with
      | ',' :: rest => do
          let (items, rest) ← parseItems fuel limit rest
          return (item :: items, rest)
      | ']' :: rest => return ([item], rest)
      | _ => none

/-- The members of a nonempty object, through its closing brace. -/
def parseMembers : (fuel limit : ℕ) → List Char → Option (List (String × Value) × List Char)
  | 0, _, _ => none
  | fuel + 1, limit, text =>
      match skipWhitespace text with
      | '"' :: rest => do
          let (key, rest) ← parseString fuel rest
          match skipWhitespace rest with
          | ':' :: rest => do
              let (value, rest) ← parseValue fuel limit rest
              match skipWhitespace rest with
              | ',' :: rest => do
                  let (members, rest) ← parseMembers fuel limit rest
                  return ((key, value) :: members, rest)
              | '\x7d' :: rest => return ([(key, value)], rest)
              | _ => none
          | _ => none
      | _ => none

end

/-- A whole document: one value with nothing but white space behind it. -/
def parseDocument (limit : ℕ) (text : List Char) : Option Value := do
  let (value, rest) ← parseValue (text.length + 1) limit text
  if skipWhitespace rest = [] then return value else none

/-! ## The reader inverts the writer -/

/-- The text behind a value does not continue a number. -/
def NumberEnds (rest : List Char) : Prop := ∀ char ∈ rest.head?, isNumberChar char = false

theorem NumberEnds.cons {char : Char} {rest : List Char} (hchar : isNumberChar char = false) :
    NumberEnds (char :: rest) := by
  intro head hhead
  rw [List.head?_cons, Option.mem_some_iff] at hhead
  rw [← hhead, hchar]

/-- A number in front of a character that cannot continue it is taken whole, and
nothing behind it is. -/
theorem takeWhile_append_of_ends {number rest : List Char}
    (hnumber : ∀ char ∈ number, isNumberChar char = true) (hrest : NumberEnds rest) :
    (number ++ rest).takeWhile isNumberChar = number ∧
      (number ++ rest).dropWhile isNumberChar = rest := by
  have htake : rest.takeWhile isNumberChar = [] ∧ rest.dropWhile isNumberChar = rest := by
    cases rest with
    | nil => exact ⟨rfl, rfl⟩
    | cons char rest =>
        have hchar := hrest char (by simp)
        simp [hchar]
  rw [List.takeWhile_append_of_pos hnumber, List.dropWhile_append_of_pos hnumber, htake.1,
    htake.2, List.append_nil]
  exact ⟨rfl, rfl⟩

theorem parseNumber_append (number : Number) {rest : List Char} (hrest : NumberEnds rest) :
    parseNumber (number.1 ++ rest) = some (.number number, rest) := by
  obtain ⟨htake, hdrop⟩ := takeWhile_append_of_ends number.all_isNumberChar hrest
  unfold parseNumber
  simp only [htake, hdrop, number.2, dite_true]

/-- What distinguishes the first character of a number from the other ways a
value or a separator can begin. -/
theorem isNumberChar_ne {char other : Char} (hchar : isNumberChar char = true)
    (hother : isNumberChar other = false) : char ≠ other := by
  rintro rfl
  rw [hchar] at hother
  exact absurd hother (by decide)

theorem isWhitespace_eq_false_of_number {char : Char} (hchar : isNumberChar char = true) :
    isWhitespace char = false := by
  have hspace := isNumberChar_ne hchar (show isNumberChar ' ' = false by decide)
  have hnewline := isNumberChar_ne hchar (show isNumberChar '\n' = false by decide)
  have htab := isNumberChar_ne hchar (show isNumberChar '\t' = false by decide)
  have hreturn := isNumberChar_ne hchar (show isNumberChar '\r' = false by decide)
  simp [isWhitespace, hspace, hnewline, htab, hreturn]

/-- A value's text begins with a character that is neither white space nor the
end of a container. -/
theorem render_eq_cons (value : Value) : ∃ char rest, value.render = char :: rest ∧
    isWhitespace char = false ∧ char ≠ ']' := by
  cases value with
  | null => exact ⟨_, _, rfl, by decide, by decide⟩
  | bool flag => cases flag <;> exact ⟨_, _, rfl, by decide, by decide⟩
  | number number =>
      obtain ⟨char, rest, heq⟩ := List.exists_cons_of_ne_nil number.ne_nil
      have hchar := number.all_isNumberChar char (by rw [heq]; exact List.mem_cons_self ..)
      exact ⟨char, rest, heq, isWhitespace_eq_false_of_number hchar,
        isNumberChar_ne hchar (by decide)⟩
  | string text => exact ⟨_, _, rfl, by decide, by decide⟩
  | array items => exact ⟨_, _, rfl, by decide, by decide⟩
  | object members => exact ⟨_, _, rfl, by decide, by decide⟩

theorem skipWhitespace_cons {char : Char} (hchar : isWhitespace char = false) (rest : List Char) :
    skipWhitespace (char :: rest) = char :: rest := by
  simp [skipWhitespace, hchar]

/-- What the reader must answer on the text of `value`. -/
def Reads (value : Value) : Prop := ∀ (fuel limit : ℕ) (rest : List Char),
  value.render.length < fuel → 0 < limit → NumberEnds rest →
    parseValue fuel limit (value.render ++ rest) =
      if value.depth < limit then some (value, rest) else none

/-- The rendered items of an array are read back one after the other, as long as
none of them is deeper than the limit allows. -/
theorem parseItems_renderItems {items : List Value} (hnil : items ≠ [])
    (hitems : ∀ item ∈ items, Reads item) {fuel limit : ℕ}
    (hfuel : (renderItems items).length < fuel) (hlimit : 0 < limit) (rest : List Char) :
    parseItems fuel limit (renderItems items ++ rest) =
      if itemsDepth items < limit then some (items, rest) else none := by
  induction items generalizing fuel with
  | nil => exact absurd rfl hnil
  | cons item items ih =>
      obtain ⟨fuel, rfl⟩ : ∃ less, fuel = less + 1 := ⟨fuel - 1, by omega⟩
      simp only [renderItems, List.length_append] at hfuel
      have hitem := hitems item (List.mem_cons_self ..)
      cases items with
      | nil =>
          have hread := hitem fuel limit (']' :: rest) (by simp [renderItems] at hfuel; omega)
            hlimit (.cons (by decide))
          simp only [renderItems, List.isEmpty_nil, if_true, List.append_nil, List.append_assoc,
            List.singleton_append, parseItems, hread, itemsDepth, Nat.max_zero]
          split_ifs
          · rw [Option.bind_eq_bind, Option.bind_some]
            simp [skipWhitespace_cons (show isWhitespace ']' = false by decide)]
          · rfl
      | cons next items =>
          have hread := hitem fuel limit (',' :: (renderItems (next :: items) ++ rest))
            (by simp at hfuel; omega) hlimit (.cons (by decide))
          have hless : (renderItems (next :: items)).length < fuel := by
            simp at hfuel
            omega
          have hnext := ih (by simp)
            (fun other hmem => hitems other (List.mem_cons_of_mem _ hmem)) hless
          rw [renderItems]
          simp only [List.isEmpty_cons, Bool.false_eq_true, if_false, List.append_assoc,
            List.nil_append, List.cons_append, parseItems, hread]
          rw [itemsDepth]
          by_cases hdepth : item.depth < limit
          · rw [if_pos hdepth, Option.bind_eq_bind, Option.bind_some]
            simp only [skipWhitespace_cons (show isWhitespace ',' = false by decide), hnext]
            by_cases hothers : itemsDepth (next :: items) < limit
            · rw [if_pos hothers, if_pos (by omega)]
              rfl
            · rw [if_neg hothers, if_neg (by omega)]
              rfl
          · rw [if_neg hdepth, if_neg (by omega)]
            rfl

/-- The rendered members of an object are read back in their order with their keys,
within the limit of the depth. -/
theorem parseMembers_renderMembers {members : List (String × Value)} (hnil : members ≠ [])
    (hmembers : ∀ entry ∈ members, Reads entry.2) {fuel limit : ℕ}
    (hfuel : (renderMembers members).length < fuel) (hlimit : 0 < limit) (rest : List Char) :
    parseMembers fuel limit (renderMembers members ++ rest) =
      if membersDepth members < limit then some (members, rest) else none := by
  induction members generalizing fuel with
  | nil => exact absurd rfl hnil
  | cons entry members ih =>
      obtain ⟨key, value⟩ := entry
      obtain ⟨fuel, rfl⟩ : ∃ less, fuel = less + 1 := ⟨fuel - 1, by omega⟩
      simp only [renderMembers, List.length_append, List.length_cons] at hfuel
      have hvalue : Reads value := hmembers (key, value) (List.mem_cons_self ..)
      have hkey (after : List Char) : parseString fuel
          (key.toList.flatMap escapeChar ++ '"' :: after) = some (key, after) :=
        parseString_renderString key (by omega) after
      have hquote : isWhitespace '"' = false := by decide
      have hcolon : isWhitespace ':' = false := by decide
      cases members with
      | nil =>
          have hread := hvalue fuel limit ('\x7d' :: rest) (by omega) hlimit (.cons (by decide))
          have hbrace : isWhitespace '\x7d' = false := by decide
          simp only [renderMembers, renderString, List.isEmpty_nil, if_true, List.append_nil,
            List.append_assoc, List.nil_append, List.cons_append, parseMembers,
            skipWhitespace_cons hquote, hkey, Option.bind_eq_bind, Option.bind_some,
            skipWhitespace_cons hcolon, hread, membersDepth, Nat.max_zero]
          split_ifs
          · simp [skipWhitespace_cons hbrace]
          · rfl
      | cons next members =>
          have hread := hvalue fuel limit (',' :: (renderMembers (next :: members) ++ rest))
            (by omega) hlimit (.cons (by decide))
          have hnext := ih (by simp)
            (fun other hmem => hmembers other (List.mem_cons_of_mem _ hmem))
            (show (renderMembers (next :: members)).length < fuel by omega)
          have hcomma : isWhitespace ',' = false := by decide
          rw [renderMembers]
          simp only [renderString, List.isEmpty_cons, Bool.false_eq_true, if_false,
            List.append_assoc, List.nil_append, List.cons_append, parseMembers,
            skipWhitespace_cons hquote, hkey, Option.bind_eq_bind, Option.bind_some,
            skipWhitespace_cons hcolon, hread]
          rw [membersDepth]
          by_cases hdepth : value.depth < limit
          · rw [if_pos hdepth, Option.bind_some]
            simp only [skipWhitespace_cons hcomma, hnext]
            by_cases hothers : membersDepth (next :: members) < limit
            · rw [if_pos hothers, if_pos (by omega)]
              rfl
            · rw [if_neg hothers, if_neg (by omega)]
              rfl
          · rw [if_neg hdepth, if_neg (by omega)]
            rfl

theorem parseValue_array {fuel limit : ℕ} (hlimit : 1 < limit) (text : List Char) :
    parseValue (fuel + 1) limit ('[' :: text) =
      match skipWhitespace text with
      | ']' :: rest => some (.array [], rest)
      | _ => (parseItems fuel (limit - 1) text).map fun read => (.array read.1, read.2) := by
  have hopen : isWhitespace '[' = false := by decide
  rw [parseValue, skipWhitespace_cons hopen]
  simp only [if_neg (Nat.not_le.2 hlimit)]
  rfl

theorem parseValue_object {fuel limit : ℕ} (hlimit : 1 < limit) (text : List Char) :
    parseValue (fuel + 1) limit ('\x7b' :: text) =
      match skipWhitespace text with
      | '\x7d' :: rest => some (.object [], rest)
      | _ => (parseMembers fuel (limit - 1) text).map fun read => (.object read.1, read.2) := by
  have hopen : isWhitespace '\x7b' = false := by decide
  rw [parseValue, skipWhitespace_cons hopen]
  simp only [if_neg (Nat.not_le.2 hlimit)]
  rfl

/-- A container is refused when the budget is used up. -/
theorem parseValue_container {fuel : ℕ} {char : Char} (hchar : char = '[' ∨ char = '\x7b')
    (text : List Char) : parseValue (fuel + 1) 1 (char :: text) = none := by
  rcases hchar with rfl | rfl <;> rfl

/-- A value without depth is read back at every limit, because the limit counts the
open brackets only. -/
theorem reads_scalar {value : Value} (hdepth : value.depth = 0)
    (hparse : ∀ fuel limit rest, value.render.length ≤ fuel → NumberEnds rest →
      parseValue (fuel + 1) limit (value.render ++ rest) = some (value, rest)) : Reads value := by
  intro fuel limit rest hfuel hlimit hrest
  obtain ⟨fuel, rfl⟩ : ∃ less, fuel = less + 1 := ⟨fuel - 1, by omega⟩
  rw [hparse fuel limit rest (by omega) hrest, if_pos (by omega)]

theorem reads_number (number : Number) : Reads (.number number) := by
  apply reads_scalar rfl
  intro fuel limit rest _ hrest
  obtain ⟨char, tail, heq⟩ := List.exists_cons_of_ne_nil number.ne_nil
  have hchar : isNumberChar char = true :=
    number.all_isNumberChar char (by rw [heq]; exact List.mem_cons_self ..)
  have hread := parseNumber_append number hrest
  rw [Value.render, ← hread, heq, List.cons_append, parseValue,
    skipWhitespace_cons (isWhitespace_eq_false_of_number hchar)]
  simp only [isNumberChar_ne hchar (show isNumberChar 'n' = false by decide),
    isNumberChar_ne hchar (show isNumberChar 't' = false by decide),
    isNumberChar_ne hchar (show isNumberChar 'f' = false by decide),
    isNumberChar_ne hchar (show isNumberChar '"' = false by decide),
    isNumberChar_ne hchar (show isNumberChar '[' = false by decide),
    isNumberChar_ne hchar (show isNumberChar '\x7b' = false by decide), if_false]

theorem reads_string (text : String) : Reads (.string text) := by
  apply reads_scalar rfl
  intro fuel limit rest hfuel _
  have hread := parseString_renderString text hfuel rest
  have hquote : isWhitespace '"' = false := by decide
  simp only [Value.render, renderString, List.cons_append, List.append_assoc,
    List.nil_append, parseValue, skipWhitespace_cons hquote]
  rw [if_neg (by decide), if_neg (by decide), if_neg (by decide), if_pos trivial, hread]
  rfl

/-- An array is read back if its items are: the limit is spent by one, and the
closing bracket ends the last item. -/
theorem reads_array {items : List Value} (hitems : ∀ item ∈ items, Reads item) :
    Reads (.array items) := by
  intro fuel limit rest hfuel hlimit _
  obtain ⟨fuel, rfl⟩ : ∃ less, fuel = less + 1 := ⟨fuel - 1, by omega⟩
  have hdepth : (Value.array items).depth = itemsDepth items + 1 := rfl
  rw [Value.render, List.length_cons] at hfuel
  rw [Value.render, List.cons_append]
  by_cases hbudget : 1 < limit
  · rw [parseValue_array hbudget]
    cases items with
    | nil =>
        have hempty : itemsDepth [] = 0 := rfl
        rw [if_pos (by omega)]
        rfl
    | cons item items =>
        have hless : (renderItems (item :: items)).length < fuel := by omega
        have hinner : 0 < limit - 1 := by omega
        have hread := parseItems_renderItems (List.cons_ne_nil item items) hitems hless hinner rest
        obtain ⟨char, tail, hrender, hspace, hchar⟩ := render_eq_cons item
        have hskip : ∃ others, skipWhitespace (renderItems (item :: items) ++ rest) =
            char :: others := by
          rw [renderItems, hrender, List.cons_append, List.cons_append, List.cons_append,
            skipWhitespace_cons hspace]
          exact ⟨_, rfl⟩
        obtain ⟨others, hskip⟩ := hskip
        rw [hskip, hread]
        split
        · rename_i heq
          exact absurd (List.cons.inj heq).1 hchar
        · by_cases hdeep : itemsDepth (item :: items) < limit - 1
          · rw [if_pos hdeep, if_pos (by omega)]
            rfl
          · rw [if_neg hdeep, if_neg (by omega)]
            rfl
  · obtain rfl : limit = 1 := by omega
    rw [parseValue_container (.inl rfl), if_neg (by omega)]

/-- An object is read back if the values of its members are, by the same argument as
for an array. -/
theorem reads_object {members : List (String × Value)}
    (hmembers : ∀ entry ∈ members, Reads entry.2) : Reads (.object members) := by
  intro fuel limit rest hfuel hlimit _
  obtain ⟨fuel, rfl⟩ : ∃ less, fuel = less + 1 := ⟨fuel - 1, by omega⟩
  have hdepth : (Value.object members).depth = membersDepth members + 1 := rfl
  rw [Value.render, List.length_cons] at hfuel
  rw [Value.render, List.cons_append]
  by_cases hbudget : 1 < limit
  · rw [parseValue_object hbudget]
    cases members with
    | nil =>
        have hempty : membersDepth [] = 0 := rfl
        rw [if_pos (by omega)]
        rfl
    | cons entry members =>
        have hless : (renderMembers (entry :: members)).length < fuel := by omega
        have hinner : 0 < limit - 1 := by omega
        have hread :=
          parseMembers_renderMembers (List.cons_ne_nil entry members) hmembers hless hinner rest
        -- The first member begins with the quote of its key.
        have hskip : ∃ others, skipWhitespace (renderMembers (entry :: members) ++ rest) =
            '"' :: others := ⟨_, rfl⟩
        obtain ⟨others, hskip⟩ := hskip
        rw [hskip, hread]
        by_cases hdeep : membersDepth (entry :: members) < limit - 1
        · rw [if_pos hdeep, if_pos (by omega)]
          rfl
        · rw [if_neg hdeep, if_neg (by omega)]
          rfl
  · obtain rfl : limit = 1 := by omega
    rw [parseValue_container (.inr rfl), if_neg (by omega)]

/-- Every value is read back from its rendering, by induction on the value; it is
refused only if it is deeper than the limit. -/
theorem reads (value : Value) : Reads value := by
  induction value using Value.induction with
  | null => exact reads_scalar rfl fun _ _ _ _ _ => rfl
  | bool flag => cases flag <;> exact reads_scalar rfl fun _ _ _ _ _ => rfl
  | number number => exact reads_number number
  | string text => exact reads_string text
  | array items ih => exact reads_array ih
  | object members ih => exact reads_object ih

/-- Reading back the compact text of a document gives the document when its
nesting fits the limit, and fails otherwise. -/
theorem parseDocument_render (value : Value) {limit : ℕ} (hlimit : 0 < limit) :
    parseDocument limit value.render = if value.depth < limit then some value else none := by
  have hread := reads value (value.render.length + 1) limit [] (by omega) hlimit
    (fun char hchar => by simp at hchar)
  rw [List.append_nil] at hread
  rw [parseDocument, hread]
  split_ifs <;> rfl

/-- Values with one rendering are the same, since the rendering is read back at a
limit that is large enough for both. -/
theorem render_injective : Function.Injective Value.render := by
  intro left right heq
  have hlimit : 0 < max left.depth right.depth + 1 := by omega
  have hleft := parseDocument_render left hlimit
  have hright := parseDocument_render right hlimit
  rw [if_pos (by omega)] at hleft hright
  rw [heq, hright] at hleft
  exact (Option.some.inj hleft).symm

end VisualSignParser.Json
