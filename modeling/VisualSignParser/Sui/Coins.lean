import VisualSignParser.Codec.Text
import VisualSignParser.Sui.TypedArguments

/-!
# Coins of type arguments

A coin is read off the text of a type argument at its first two `::`, and shown as the same
text again.  A type argument that is missing or blank stands for a default coin, and a text
with fewer separators for a coin without a name.
-/

namespace VisualSignParser.Sui

open VisualSignParser.Outcome
open VisualSignParser.VisualSign

structure SuiCoin where
  address : String
  name : String
  symbol : String
  deriving DecidableEq

namespace SuiCoin

def default : SuiCoin := ⟨"0x0", "Unknown", "Unknown"⟩

end SuiCoin

/-- What stands before and behind the first `::`. -/
def cutAtColons : List Char → Option (List Char × List Char)
  | [] => none
  | first :: rest =>
      if first = ':' ∧ rest.head? = some ':' then some ([], rest.tail)
      else (cutAtColons rest).map fun cut => (first :: cut.1, cut.2)

/-- `splitn(3, "::")`, when it has three parts. -/
def threeParts (text : String) : Option (String × String × String) := do
  let (address, rest) ← cutAtColons text.toList
  let (name, symbol) ← cutAtColons rest
  pure (String.ofList address, String.ofList name, String.ofList symbol)

/-- `eq_ignore_ascii_case`. -/
def eqIgnoreAsciiCase (left right : String) : Bool :=
  left.toList.map Char.toLower == right.toList.map Char.toLower

namespace SuiCoin

/-- `from_str`, which never fails. -/
def fromStr (text : String) : SuiCoin :=
  if Text.trim text = "" then default
  else (threeParts text).elim ⟨"", "", ""⟩ fun parts => ⟨parts.1, parts.2.1, parts.2.2⟩

def baseUnitSymbol (coin : SuiCoin) : String :=
  if coin.address = "0x2" ∧ eqIgnoreAsciiCase coin.name "sui" ∧
      eqIgnoreAsciiCase coin.symbol "SUI" then
    "MIST"
  else coin.symbol

/-- `SuiCoin: Display`. -/
def display (coin : SuiCoin) : String := coin.address ++ "::" ++ coin.name ++ "::" ++ coin.symbol

end SuiCoin

def getTxTypeArg {A : Type} (parse : String → Option A) (typeArgs : List String) (index : ℕ) :
    Except VisualSignError A :=
  okOr (.missingData "Index out of bounds for transaction type argument")
    (typeArgs[index]?.bind parse)

/-- The coin of a type argument: `get_tx_type_arg(..).unwrap_or_default()`. -/
def coinArg (typeArgs : List String) (index : ℕ) : SuiCoin :=
  (getTxTypeArg (fun text => some (SuiCoin.fromStr text)) typeArgs index).toOption.getD .default

/-- `SuiCallArg::object`. -/
def SuiCallArg.object? : SuiCallArg → Option ObjectID
  | .object arg => some arg.objectId
  | .pure _ => none

def getObjectValue (args : List SuiArgument) (inputs : List SuiCallArg) (argIndex : ℕ) :
    Except VisualSignError ObjectID := do
  let index ← getIndex args (some argIndex)
  let input ← okOr (.missingData "Command not found") inputs[index.toNat]?
  okOr (.missingData "Object not found") input.object?

/-- `ObjectID: Display`. -/
def ObjectID.display (id : ObjectID) : String := "0x" ++ ObjectID.toHex id

/-! ## A coin is read back from its text -/

theorem eq_of_cutAtColons {text before behind : List Char}
    (hcut : cutAtColons text = some (before, behind)) : text = before ++ ':' :: ':' :: behind := by
  induction text generalizing before with
  | nil => cases hcut
  | cons first rest ih =>
      rw [cutAtColons] at hcut
      split_ifs at hcut with hcolons
      · obtain ⟨rfl, hhead⟩ := hcolons
        obtain ⟨rfl, rfl⟩ := Prod.mk.inj (Option.some.inj hcut)
        rw [List.nil_append, List.cons_head?_tail hhead]
      · obtain ⟨⟨start, rest'⟩, hrest, heq⟩ := Option.map_eq_some_iff.1 hcut
        obtain ⟨rfl, rfl⟩ := Prod.mk.inj heq
        rw [ih hrest, List.cons_append]

theorem eq_of_threeParts {text : String} {parts : String × String × String}
    (hparts : threeParts text = some parts) :
    text = parts.1 ++ "::" ++ parts.2.1 ++ "::" ++ parts.2.2 := by
  simp only [threeParts, bind, Option.bind_eq_some_iff] at hparts
  obtain ⟨⟨address, rest⟩, haddress, ⟨name, symbol⟩, hname, heq⟩ := hparts
  dsimp only at hname
  rw [← Option.some.inj heq, ← String.toList_inj, eq_of_cutAtColons haddress,
    eq_of_cutAtColons hname]
  simp

theorem SuiCoin.fromStr_of_blank {text : String} (hblank : Text.trim text = "") :
    fromStr text = default := if_pos hblank

theorem SuiCoin.fromStr_of_threeParts {text : String} (hblank : Text.trim text ≠ "")
    {parts : Option (String × String × String)} (hparts : threeParts text = parts) :
    fromStr text = parts.elim ⟨"", "", ""⟩ fun parts => ⟨parts.1, parts.2.1, parts.2.2⟩ := by
  rw [fromStr, if_neg hblank, hparts]

theorem SuiCoin.display_of_threeParts {text : String} (hblank : Text.trim text ≠ "")
    {parts : String × String × String} (hparts : threeParts text = some parts) :
    (fromStr text).display = text := by
  rw [fromStr_of_threeParts hblank hparts]
  exact (eq_of_threeParts hparts).symm

/-- A coin that was read off a text is the one that its own text stands for. -/
theorem SuiCoin.fromStr_display (text : String) :
    fromStr (fromStr text).display = fromStr text := by
  by_cases hblank : Text.trim text = ""
  · rw [fromStr_of_blank hblank]
    decide
  · cases hparts : threeParts text with
    | none =>
        rw [fromStr_of_threeParts hblank hparts]
        decide
    | some parts => rw [display_of_threeParts hblank hparts]

theorem SuiCoin.display_fromStr {text : String} (hblank : Text.trim text ≠ "")
    (hsymbol : (fromStr text).symbol ≠ "") : (fromStr text).display = text := by
  cases hparts : threeParts text with
  | none =>
      rw [fromStr_of_threeParts hblank hparts] at hsymbol
      exact absurd rfl hsymbol
  | some parts => exact display_of_threeParts hblank hparts

theorem coinArg_of_none {typeArgs : List String} {index : ℕ} (hnone : typeArgs[index]? = none) :
    coinArg typeArgs index = .default := by
  rw [coinArg, getTxTypeArg, hnone, Option.bind_none, okOr, Except.toOption, Option.getD_none]

theorem coinArg_of_some {typeArgs : List String} {index : ℕ} {text : String}
    (htext : typeArgs[index]? = some text) :
    coinArg typeArgs index = SuiCoin.fromStr text := by
  rw [coinArg, getTxTypeArg, htext, Option.bind_some, okOr, Except.toOption, Option.getD_some]

theorem fromStr_display_coinArg (typeArgs : List String) (index : ℕ) :
    SuiCoin.fromStr (coinArg typeArgs index).display = coinArg typeArgs index := by
  cases htext : typeArgs[index]? with
  | none =>
      rw [coinArg_of_none htext]
      decide
  | some text => rw [coinArg_of_some htext, SuiCoin.fromStr_display]

/-- Type arguments with the same text on the display are the same coin. -/
theorem coinArg_of_display {left right : List String} {index other : ℕ}
    (heq : (coinArg left index).display = (coinArg right other).display) :
    coinArg left index = coinArg right other := by
  rw [← fromStr_display_coinArg left, heq, fromStr_display_coinArg right]

/-- A type argument that is missing, blank or the text of the default coin. -/
def StandsForDefault (typeArg : Option String) : Prop :=
  ∀ text ∈ typeArg, Text.trim text = "" ∨ text = SuiCoin.default.display

theorem standsForDefault_iff {typeArgs : List String} {index : ℕ} :
    StandsForDefault typeArgs[index]? ↔ coinArg typeArgs index = .default := by
  cases htext : typeArgs[index]? with
  | none => exact iff_of_true (fun text hmem => by cases hmem) (coinArg_of_none htext)
  | some text =>
      rw [coinArg_of_some htext]
      constructor
      · intro hstands
        rcases hstands text rfl with hblank | rfl
        · exact SuiCoin.fromStr_of_blank hblank
        · decide
      · intro hdefault other hother
        rw [← Option.some.inj hother]
        by_cases hblank : Text.trim text = ""
        · exact .inl hblank
        · have hsymbol : (SuiCoin.fromStr text).symbol ≠ "" := by
            rw [hdefault]
            decide
          exact .inr (hdefault ▸ (SuiCoin.display_fromStr hblank hsymbol).symm)

theorem typeArg_of_coinArg {typeArgs : List String} {index : ℕ}
    (hsymbol : (coinArg typeArgs index).symbol ≠ "")
    (hdefault : coinArg typeArgs index ≠ .default) :
    typeArgs[index]? = some (coinArg typeArgs index).display := by
  cases htext : typeArgs[index]? with
  | none => exact absurd (coinArg_of_none htext) hdefault
  | some text =>
      rw [coinArg_of_some htext] at hsymbol hdefault ⊢
      have hblank : Text.trim text ≠ "" := fun hblank =>
        hdefault (SuiCoin.fromStr_of_blank hblank)
      rw [SuiCoin.display_fromStr hblank hsymbol]

/-- Coins with a symbol are the same if their type arguments are, or if both are the
default coin. -/
theorem coinArg_eq_iff {left right : List String} {index other : ℕ}
    (hsymbol : (coinArg left index).symbol ≠ "") :
    coinArg left index = coinArg right other ↔
      left[index]? = right[other]? ∨
        StandsForDefault left[index]? ∧ StandsForDefault right[other]? := by
  rw [standsForDefault_iff, standsForDefault_iff]
  constructor
  · intro heq
    by_cases hdefault : coinArg left index = .default
    · exact .inr ⟨hdefault, heq.symm.trans hdefault⟩
    · rw [typeArg_of_coinArg hsymbol hdefault, heq]
      rw [heq] at hsymbol hdefault
      exact .inl (typeArg_of_coinArg hsymbol hdefault).symm
  · rintro (htypes | ⟨hleft, hright⟩)
    · rw [coinArg, coinArg, getTxTypeArg, getTxTypeArg, htypes]
    · exact hleft.trans hright.symm

theorem SuiCoin.baseUnitSymbol_ne_empty {coin : SuiCoin} :
    coin.baseUnitSymbol ≠ "" ↔ coin.symbol ≠ "" := by
  rw [baseUnitSymbol]
  split_ifs with hsui
  · apply iff_of_true (by decide)
    intro hempty
    rw [hempty] at hsui
    exact absurd hsui.2.2 (by decide)
  · rfl

theorem getObjectValue_eq_ok {args : List SuiArgument} {inputs : List SuiCallArg} {position : ℕ}
    {id : ObjectID} : getObjectValue args inputs position = .ok id ↔
      ∃ index arg, args[position]? = some (.input index) ∧
        inputs[index.toNat]? = some (.object arg) ∧ arg.objectId = id := by
  simp only [getObjectValue, bind_eq_ok, okOr_eq_ok, getIndex_some_eq_ok]
  constructor
  · rintro ⟨index, harg, input, hinput, hid⟩
    cases input with
    | object arg => exact ⟨index, arg, harg, hinput, Option.some.inj hid⟩
    | pure pure => cases hid
  · rintro ⟨index, arg, harg, hinput, rfl⟩
    exact ⟨index, harg, .object arg, hinput, rfl⟩

end VisualSignParser.Sui
