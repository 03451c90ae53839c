import VisualSignParser.Codec.Framing
import Mathlib.Data.Nat.Digits.Lemmas
import Mathlib.Data.List.GetD
import Mathlib.Data.List.TakeWhile

/-!
# Base 58 text

The bytes of a key are one large number, written with 58 digits.  Every zero
byte in front is written as a digit of its own, so a text stands for the bytes
it was read into and for no others.
-/

namespace VisualSignParser.Base58

open VisualSignParser.Framing

/-- The digits of a number in another base, most significant first.  The zeros
in front are kept one by one. -/
def rebase (source target : ℕ) (digits : List ℕ) : List ℕ :=
  List.replicate (digits.takeWhile (· = 0)).length 0 ++
    (Nat.digits target (Nat.ofDigits source (digits.dropWhile (· = 0)).reverse)).reverse

theorem rebase_lt {source target : ℕ} (htarget : 1 < target) (digits : List ℕ) :
    ∀ digit ∈ rebase source target digits, digit < target := by
  intro digit hdigit
  rcases List.mem_append.1 hdigit with hzero | hnumber
  · rw [(List.mem_replicate.1 hzero).2]
    omega
  · exact Nat.digits_lt_base htarget (List.mem_reverse.1 hnumber)

/-- The zeros in front and the number behind them. -/
theorem split_zeros (count : ℕ) {digits : List ℕ} (hhead : ∀ head ∈ digits.head?, head ≠ 0) :
    (List.replicate count 0 ++ digits).takeWhile (· = 0) = List.replicate count 0 ∧
      (List.replicate count 0 ++ digits).dropWhile (· = 0) = digits := by
  have hzeros : ∀ digit ∈ List.replicate count 0, decide (digit = 0) = true := by
    intro digit hdigit
    rw [(List.mem_replicate.1 hdigit).2]
    rfl
  rw [List.takeWhile_append_of_pos hzeros, List.dropWhile_append_of_pos hzeros]
  cases digits with
  | nil => exact ⟨List.append_nil _, rfl⟩
  | cons head digits =>
      have hne : decide (head = 0) = false := decide_eq_false (hhead head rfl)
      rw [List.takeWhile_cons, List.dropWhile_cons, hne]
      exact ⟨List.append_nil _, rfl⟩

theorem head_reverse_digits_ne_zero (base number : ℕ) :
    ∀ head ∈ (Nat.digits base number).reverse.head?, head ≠ 0 := by
  intro head hhead
  rw [List.head?_reverse] at hhead
  have hnil : Nat.digits base number ≠ [] := by
    intro hnil
    rw [hnil] at hhead
    cases hhead
  have hnumber : number ≠ 0 := Nat.digits_ne_nil_iff_ne_zero.1 hnil
  rw [List.getLast?_eq_some_getLast hnil] at hhead
  rw [← Option.some.inj hhead]
  exact Nat.getLast_digit_ne_zero base hnumber

theorem rebase_rebase {source target : ℕ} (hsource : 1 < source) {digits : List ℕ}
    (hdigits : ∀ digit ∈ digits, digit < source) :
    rebase target source (rebase source target digits) = digits := by
  obtain ⟨hzeros, hnumber⟩ := split_zeros (digits.takeWhile (· = 0)).length
    (head_reverse_digits_ne_zero target
      (Nat.ofDigits source (digits.dropWhile (· = 0)).reverse))
  have hback : Nat.digits source (Nat.ofDigits source (digits.dropWhile (· = 0)).reverse) =
      (digits.dropWhile (· = 0)).reverse := by
    apply Nat.digits_ofDigits source hsource
    · intro digit hdigit
      exact hdigits digit ((List.dropWhile_sublist _).subset (List.mem_reverse.1 hdigit))
    · intro hnil
      rw [List.getLast_reverse]
      simpa using List.head_dropWhile_not (fun digit => decide (digit = 0))
        (List.reverse_ne_nil_iff.1 hnil)
  have hkept : List.replicate (digits.takeWhile (· = 0)).length 0 = digits.takeWhile (· = 0) := by
    symm
    apply List.eq_replicate_of_mem
    intro digit hdigit
    simpa using List.mem_takeWhile_imp hdigit
  rw [rebase, rebase, hzeros, hnumber, List.reverse_reverse, Nat.ofDigits_digits, hback,
    List.reverse_reverse, List.length_replicate, hkept]
  exact List.takeWhile_append_dropWhile

/-! ## Text -/

/-- No zero, no capital o or i, no small l. -/
def alphabet : List Char := "123456789ABCDEFGHJKLMNPQRSTUVWXYZabcdefghijkmnopqrstuvwxyz".toList

def encode (bytes : Bytes) : String :=
  String.ofList <| (rebase 256 58 (bytes.map UInt8.toNat)).map fun digit => alphabet.getD digit '1'

def decode (text : String) : Option Bytes :=
  (text.toList.mapM fun char => alphabet.idxOf? char).map fun digits =>
    (rebase 58 256 digits).map UInt8.ofNat

theorem encode_injective : Function.Injective encode := by
  intro left right heq
  have hdigits {bytes : Bytes} : ((encode bytes).toList.map fun char => alphabet.idxOf char) =
      rebase 256 58 (bytes.map UInt8.toNat) := by
    have hdigit : ∀ digit < 58, alphabet.idxOf (alphabet.getD digit '1') = digit := by decide
    rw [encode, String.toList_ofList, List.map_map]
    refine (List.map_congr_left ?_).trans (List.map_id _)
    intro digit hmem
    exact hdigit digit (rebase_lt (by decide) _ digit hmem)
  have hbyte {bytes : Bytes} : ∀ digit ∈ bytes.map UInt8.toNat, digit < 256 := by
    intro digit hmem
    obtain ⟨byte, -, rfl⟩ := List.mem_map.1 hmem
    exact byte.toNat_lt
  have hrebased : rebase 256 58 (left.map UInt8.toNat) = rebase 256 58 (right.map UInt8.toNat) := by
    rw [← hdigits, heq, hdigits]
  apply List.map_injective_iff.2 (fun _ _ => UInt8.toNat_inj.1)
  have hback := congrArg (rebase 58 256) hrebased
  rwa [rebase_rebase (by decide) hbyte, rebase_rebase (by decide) hbyte] at hback

theorem mem_alphabet_of_mem_encode {bytes : Bytes} {char : Char}
    (hchar : char ∈ (encode bytes).toList) : char ∈ alphabet := by
  rw [encode, String.toList_ofList] at hchar
  obtain ⟨digit, hdigit, rfl⟩ := List.mem_map.1 hchar
  have hlt : digit < alphabet.length := rebase_lt (by decide) _ digit hdigit
  rw [List.getD_eq_getElem alphabet '1' hlt]
  exact List.getElem_mem hlt

/-- A character that reads as a digit is the character of the digit. -/
theorem getD_of_idxOf? {char : Char} {digit : ℕ} (hdigit : alphabet.idxOf? char = some digit) :
    digit < 58 ∧ alphabet.getD digit '1' = char := by
  obtain ⟨hlt, hchar, -⟩ := List.findIdx?_eq_some_iff_getElem.1 hdigit
  rw [List.getD_eq_getElem alphabet '1' hlt]
  exact ⟨hlt, beq_iff_eq.1 hchar⟩

theorem digits_of_mapM {chars : List Char} {digits : List ℕ}
    (hdigits : (chars.mapM fun char => alphabet.idxOf? char) = some digits) :
    (∀ digit ∈ digits, digit < 58) ∧
      (digits.map fun digit => alphabet.getD digit '1') = chars := by
  induction chars generalizing digits with
  | nil =>
      rw [List.mapM_nil] at hdigits
      rw [← Option.some.inj hdigits]
      exact ⟨fun digit hdigit => absurd hdigit List.not_mem_nil, rfl⟩
  | cons char chars ih =>
      rw [List.mapM_cons] at hdigits
      obtain ⟨first, hfirst, hdigits⟩ := Option.bind_eq_some_iff.1 hdigits
      obtain ⟨others, hothers, hdigits⟩ := Option.bind_eq_some_iff.1 hdigits
      obtain ⟨hlt, hchar⟩ := getD_of_idxOf? hfirst
      obtain ⟨hall, hchars⟩ := ih hothers
      rw [← Option.some.inj hdigits, List.map_cons, hchar, hchars]
      exact ⟨List.forall_mem_cons.2 ⟨hlt, hall⟩, rfl⟩

/-- A text that was read is written back as it was. -/
theorem encode_of_decode {text : String} {bytes : Bytes} (hbytes : decode text = some bytes) :
    encode bytes = text := by
  obtain ⟨digits, hdigits, rfl⟩ := Option.map_eq_some_iff.1 hbytes
  obtain ⟨hlt, hchars⟩ := digits_of_mapM hdigits
  have hbytes : ((rebase 58 256 digits).map UInt8.ofNat).map UInt8.toNat = rebase 58 256 digits := by
    rw [List.map_map]
    refine (List.map_congr_left ?_).trans (List.map_id _)
    intro digit hdigit
    exact UInt8.toNat_ofNat_of_lt' (rebase_lt (by decide) digits digit hdigit)
  rw [encode, hbytes, rebase_rebase (by decide) hlt, hchars, String.ofList_toList]

end VisualSignParser.Base58
