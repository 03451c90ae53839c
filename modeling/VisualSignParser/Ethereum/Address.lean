import VisualSignParser.Codec.Hex
import VisualSignParser.Codec.OrderedMap
import VisualSignParser.VisualSign.Field
import Mathlib.Data.Prod.Lex
import Mathlib.Data.String.Basic

/-!
# Addresses, amounts and the fields that show them

The texts of addresses, amounts and times come from the crates the parser is
built on; they are the parameters of `Formats`.
-/

namespace VisualSignParser.Ethereum

open VisualSignParser.Framing
open VisualSignParser.VisualSign

abbrev ChainId := UInt64

abbrev Address := ByteArr 20

def addressOf (value : ℕ) : Address := ⟨beBytes 20 value, length_beBytes 20 value⟩

def Address.zero : Address := addressOf 0

/-- A contract of one chain; maps keyed by it iterate by chain, then by the
address bytes. -/
structure ChainAddress where
  chainId : ChainId
  address : Address

def ChainAddress.rank (key : ChainAddress) : ℕ ×ₗ ℕ :=
  toLex (key.chainId.toNat, ofBeBytes key.address.val)

theorem ofBeBytes_injective_of_length {left right : Bytes} (hlength : left.length = right.length)
    (heq : ofBeBytes left = ofBeBytes right) : left = right := by
  rw [ofBeBytes, ofBeBytes] at heq
  have hleft := leBytes_ofLeBytes left.reverse
  have hright := leBytes_ofLeBytes right.reverse
  rw [List.length_reverse] at hleft hright
  rw [heq, hlength] at hleft
  exact List.reverse_injective (hleft.symm.trans hright)

theorem ChainAddress.rank_injective : Function.Injective ChainAddress.rank := by
  rintro ⟨leftId, leftAddress⟩ ⟨rightId, rightAddress⟩ heq
  obtain ⟨hid, hbytes⟩ := Prod.mk.inj (toLex_inj.1 heq)
  have haddress : leftAddress = rightAddress :=
    Subtype.ext (ofBeBytes_injective_of_length (leftAddress.2.trans rightAddress.2.symm) hbytes)
  have hchain : leftId = rightId := UInt64.toNat_inj.1 hid
  rw [hchain, haddress]

instance : LinearOrder ChainAddress := LinearOrder.lift' ChainAddress.rank
  ChainAddress.rank_injective

/-- The texts that other crates produce. -/
structure Formats where
  /-- `Address: FromStr`. -/
  parseAddress : String → Option Address
  /-- `Address: Display`, the checksummed text. -/
  displayAddress : Address → String
  /-- `Address: Debug`. -/
  debugAddress : Address → String
  /-- `format_units` of an amount with that many decimals. -/
  formatUnits : ℕ → ℕ → Option String
  /-- A Unix time as `%Y-%m-%d %H:%M UTC`, when it is in the calendar's range. -/
  minuteText : ℕ → Option String
  /-- `DateTime<Utc>: Display` of a Unix time. -/
  secondText : ℕ → Option String
  /-- The decimal text of the floating-point quotient of two integers, with the
  given number of fractional digits or the shortest text. -/
  quotientText : ℕ → ℕ → Option ℕ → String

/-- Texts for addresses without letters, where the checksum changes nothing, and
for the first second of the epoch. -/
def plainFormats : Formats where
  parseAddress text := match Hex.decodeHex text with
    | .ok bytes => if hlength : bytes.length = 20 then some ⟨bytes, hlength⟩ else none
    | .error _ => none
  displayAddress address := "0x" ++ Hex.encode address.val
  debugAddress address := "0x" ++ Hex.encode address.val
  formatUnits amount decimals :=
    let fraction := toString (amount % 10 ^ decimals)
    let zeros := String.ofList (List.replicate (decimals - fraction.length) '0')
    some (toString (amount / 10 ^ decimals) ++ "." ++ zeros ++ fraction)
  minuteText seconds := if seconds = 0 then some "1970-01-01 00:00 UTC" else none
  secondText seconds := if seconds = 0 then some "1970-01-01 00:00:00 UTC" else none
  quotientText value divisor _ := toString (value / divisor)

/-! ## Amounts -/

def trimTrailingZeros (text : String) : String :=
  if text.toList.contains '.' then
    String.ofList ((text.toList.reverse.dropWhile (· == '0')).dropWhile (· == '.')).reverse
  else text

def Formats.formatEther (formats : Formats) (wei : ℕ) : String :=
  trimTrailingZeros ((formats.formatUnits wei 18).getD (toString wei))

def Formats.formatGwei (formats : Formats) (wei : ℕ) : String :=
  trimTrailingZeros ((formats.formatUnits wei 9).getD (toString wei))

/-- `0x` and the lower-case hexadecimal digits of the bytes. -/
def hexText (bytes : Bytes) : String := "0x" ++ Hex.encode bytes

/-! ## Fields -/

/-- A text field whose fallback is the text itself. -/
def textField (label text : String) : SignablePayloadField :=
  .textV2 ⟨text, label⟩ ⟨text⟩

/-- The label and the text can be recovered from a text field. -/
theorem textField_inj {label other left right : String} :
    textField label left = textField other right ↔ label = other ∧ left = right := by
  constructor
  · intro heq
    cases heq
    exact ⟨rfl, rfl⟩
  · rintro ⟨rfl, rfl⟩
    rfl

def plainField (field : SignablePayloadField) : AnnotatedPayloadField := ⟨field, none, none⟩

def textRow (label text : String) : AnnotatedPayloadField := plainField (textField label text)

/-- A preview that repeats its label as the title. -/
def previewField (label text : String) (expanded : Option (List AnnotatedPayloadField)) :
    SignablePayloadField :=
  .previewLayout ⟨text, label⟩ ⟨some ⟨label⟩, some ⟨text⟩, none, expanded.map fun rows => ⟨rows⟩⟩

end VisualSignParser.Ethereum
