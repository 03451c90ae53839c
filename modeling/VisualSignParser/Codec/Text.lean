import Mathlib.Data.Bool.AllAny
import Mathlib.Data.List.Infix
import Mathlib.Data.List.TakeWhile
import Mathlib.Data.String.Basic

/-!
# Text

Operations of Rust's `str` that the parser applies to caller-supplied text.
White space is the Unicode property, not the ASCII one.
-/

namespace VisualSignParser.Text

/-- `char::is_whitespace`: the Unicode `White_Space` property. -/
def isWhitespace (char : Char) : Bool :=
  let code := char.toNat
  (0x09 ≤ code && code ≤ 0x0d) || code == 0x20 || code == 0x85 || code == 0xa0 ||
    code == 0x1680 || (0x2000 ≤ code && code ≤ 0x200a) || code == 0x2028 || code == 0x2029 ||
    code == 0x202f || code == 0x205f || code == 0x3000

/-- `str::trim_start`. -/
def trimStart (text : String) : String := String.ofList (text.toList.dropWhile isWhitespace)

/-- `str::trim`. -/
def trim (text : String) : String :=
  String.ofList (((text.toList.dropWhile isWhitespace).reverse.dropWhile isWhitespace).reverse)

/-- `str::strip_prefix`. -/
def stripStart (start text : String) : Option String :=
  if start.toList <+: text.toList then some (String.ofList (text.toList.drop start.toList.length))
  else none

theorem stripStart_append (start rest : String) : stripStart start (start ++ rest) = some rest := by
  rw [stripStart, String.toList_append, if_pos (List.prefix_append ..), List.drop_left,
    String.ofList_toList]

theorem toList_of_stripStart {start text rest : String}
    (hstrip : stripStart start text = some rest) :
    text.toList = start.toList ++ rest.toList := by
  unfold stripStart at hstrip
  split_ifs at hstrip with hstart
  rw [← Option.some.inj hstrip, String.toList_ofList]
  exact (List.prefix_iff_eq_append.1 hstart).symm

theorem stripStart_eq_some {start text rest : String} :
    stripStart start text = some rest ↔ text = start ++ rest := by
  constructor
  · intro hstrip
    apply String.toList_inj.1
    rw [toList_of_stripStart hstrip, String.toList_append]
  · rintro rfl
    exact stripStart_append start rest

theorem toList_trimStart (text : String) :
    (trimStart text).toList = text.toList.dropWhile isWhitespace :=
  String.toList_ofList

/-- Only a text with white space at its start is changed. -/
theorem trimStart_eq_self_iff {text : String} :
    trimStart text = text ↔ ∀ first ∈ text.toList.head?, isWhitespace first = false := by
  rw [← String.toList_inj, toList_trimStart, List.dropWhile_eq_self_iff]
  cases text.toList <;> simp

/-- `char::is_ascii_graphic`. -/
def isAsciiGraphic (char : Char) : Bool := 0x21 ≤ char.toNat && char.toNat ≤ 0x7e

/-- `char::is_ascii_whitespace`: space, tab, line feed, form feed, carriage return. -/
def isAsciiWhitespace (char : Char) : Bool :=
  char.toNat == 0x20 || char.toNat == 0x09 || char.toNat == 0x0a || char.toNat == 0x0c ||
    char.toNat == 0x0d

/-- `str::contains` with a string pattern. -/
def contains (text : List Char) (pattern : String) : Bool := decide (pattern.toList <:+: text)

/-! ## Characters of a text -/

/-- Every character of the text has the property. -/
def AllChars (P : Char → Prop) (text : String) : Prop := ∀ char ∈ text.toList, P char

instance (P : Char → Prop) [DecidablePred P] (text : String) : Decidable (AllChars P text) :=
  decidable_of_iff (text.toList.all (P ·) = true) List.all_iff_forall_prop

section Characters

variable {P Q : Char → Prop} {left right text : String}

theorem allChars_ofList {chars : List Char} :
    AllChars P (String.ofList chars) ↔ ∀ char ∈ chars, P char := by
  rw [AllChars, String.toList_ofList]

theorem AllChars.mono (htext : AllChars P text) (himp : ∀ char, P char → Q char) :
    AllChars Q text :=
  fun char hchar => himp char (htext char hchar)

theorem allChars_append : AllChars P (left ++ right) ↔ AllChars P left ∧ AllChars P right := by
  rw [AllChars, String.toList_append, List.forall_mem_append, AllChars, AllChars]

/-- The characters of joined texts are those of the texts and of the separator. -/
theorem allChars_intercalate {separator : String} {texts : List String}
    (hseparator : AllChars P separator) (htexts : ∀ text ∈ texts, AllChars P text) :
    AllChars P (separator.intercalate texts) := by
  induction texts with
  | nil =>
      rw [String.intercalate_nil]
      exact fun char hchar => absurd hchar List.not_mem_nil
  | cons first rest ih =>
      obtain ⟨hfirst, hrest⟩ := List.forall_mem_cons.1 htexts
      cases rest with
      | nil => rwa [String.intercalate_singleton]
      | cons second rest =>
          rw [String.intercalate_cons_cons, allChars_append, allChars_append]
          exact ⟨⟨hfirst, hseparator⟩, ih hrest⟩

/-- A filter keeps a text whose characters it keeps. -/
theorem ofList_filter_eq_self {keep : Char → Bool} (htext : AllChars (keep · = true) text) :
    String.ofList (text.toList.filter keep) = text := by
  rw [List.filter_eq_self.2 htext, String.ofList_toList]

/-- A substitution keeps a text whose characters it keeps. -/
theorem ofList_map_eq_self {change : Char → Char}
    (htext : AllChars (fun char => change char = char) text) :
    String.ofList (text.toList.map change) = text := by
  rw [List.map_congr_left (g := id) htext, List.map_id, String.ofList_toList]

end Characters

end VisualSignParser.Text
