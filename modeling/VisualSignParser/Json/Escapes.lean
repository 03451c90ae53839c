import VisualSignParser.Json.Value
import Mathlib.Data.Bool.AllAny
import Mathlib.Data.List.Chain

/-!
# Escapes in the text of a document

A scan of a document's text for a two-character escape also meets the escaped
backslashes: `\` is written `\\`, and whatever followed it in the string follows
its second half in the text.  For strings of printable characters and line
breaks the text has a backslash before one of the sought letters exactly when
one of the strings has.
-/

namespace VisualSignParser.Json

/-! ## Texts of a document, put together -/

/-- A character the writer emits outside strings. -/
def isStructural (char : Char) : Bool :=
  isNumberChar char || "nulltruefalse[]\x7b\x7d,:".toList.contains char

/-- What holds of words of structural characters and of every written string,
and of two texts together when of each, holds of the text of a document. -/
theorem render_of_append {Q : List Char → Prop}
    (hwords : ∀ word : List Char, word.all isStructural = true → Q word)
    (happend : ∀ left right, Q left → Q right → Q (left ++ right)) (value : Value)
    (htexts : ∀ text ∈ value.texts, Q (renderString text)) : Q value.render := by
  have hcons (char : Char) (text : List Char) (hchar : isStructural char = true)
      (htext : Q text) : Q (char :: text) :=
    happend [char] text (hwords [char] (by simp [hchar])) htext
  have hcomma (last : Bool) : Q (if last then [] else [',']) := by
    cases last with
    | true => exact hwords [] (by decide)
    | false => exact hwords [','] (by decide)
  induction value using Value.induction with
  | null => exact hwords _ (by decide)
  | bool flag => cases flag <;> exact hwords _ (by decide)
  | number number =>
      apply hwords
      rw [List.all_eq_true]
      intro char hchar
      rw [isStructural, number.all_isNumberChar char hchar, Bool.true_or]
  | string text => exact htexts text (List.mem_singleton_self text)
  | array items ih =>
      apply hcons '[' _ (by decide)
      rw [Value.texts] at htexts
      induction items with
      | nil => exact hwords [']'] (by decide)
      | cons item items ihItems =>
          simp only [itemsTexts, List.mem_append] at htexts
          have hitem : Q item.render :=
            ih item (List.mem_cons_self ..) fun text htext => htexts text (.inl htext)
          have hitems : Q (renderItems items) :=
            ihItems (fun other hmem => ih other (List.mem_cons_of_mem _ hmem))
              fun text htext => htexts text (.inr htext)
          exact happend _ _ (happend _ _ hitem (hcomma _)) hitems
  | object members ih =>
      apply hcons '\x7b' _ (by decide)
      rw [Value.texts] at htexts
      induction members with
      | nil => exact hwords ['\x7d'] (by decide)
      | cons entry members ihMembers =>
          obtain ⟨key, value⟩ := entry
          simp only [membersTexts, List.cons_append, List.mem_cons, List.mem_append] at htexts
          have hvalue : Q value.render := ih (key, value) (List.mem_cons_self ..)
            fun text htext => htexts text (.inr (.inl htext))
          have hentry : Q (renderString key ++ ':' :: value.render) :=
            happend _ _ (htexts key (.inl rfl)) (hcons ':' _ (by decide) hvalue)
          have hmembers : Q (renderMembers members) :=
            ihMembers (fun other hmem => ih other (List.mem_cons_of_mem _ hmem))
              fun text htext => htexts text (.inr (.inr htext))
          exact happend _ _ (happend _ _ hentry (hcomma _)) hmembers

/-! ## Backslashes before letters -/

variable {letters : List Char}

/-- No backslash stands directly before one of `letters`. -/
def Unescaped (letters text : List Char) : Prop :=
  text.IsChain fun first second => first = '\\' → second ∉ letters

theorem unescaped_iff {text : List Char} :
    Unescaped letters text ↔ ∀ letter ∈ letters, ¬['\\', letter] <:+: text := by
  constructor
  · intro hunescaped letter hletter hpair
    exact List.isChain_pair.1 ( List.IsChain.infix hunescaped hpair) rfl hletter
  · intro hnone
    induction text with
    | nil => exact List.isChain_nil
    | cons first rest ih =>
        apply List.isChain_cons.2 ⟨?_, ih fun letter hletter hpair =>
          hnone letter hletter (hpair.trans (List.suffix_cons _ _).isInfix)⟩
        rintro second hsecond rfl hmem
        obtain ⟨others, rfl⟩ := List.head?_eq_some_iff.1 hsecond
        exact hnone second hmem ⟨[], others, rfl⟩

theorem Unescaped.part {text part : List Char} (htext : Unescaped letters text)
    (hpart : part <:+: text) : Unescaped letters part :=
  List.IsChain.infix htext hpart

/-- Unescaped, and what follows cannot be escaped by it either. -/
def Sealed (letters text : List Char) : Prop :=
  Unescaped letters text ∧ text.getLast? ≠ some '\\'

theorem sealed_append {left right : List Char} (hleft : Sealed letters left)
    (hright : Sealed letters right) : Sealed letters (left ++ right) := by
  constructor
  · apply hleft.1.append hright.1
    rintro last hlast second - rfl
    exact absurd hlast hleft.2
  · rw [List.getLast?_append]
    intro hlast
    cases hend : right.getLast? with
    | none =>
        rw [hend, Option.none_or] at hlast
        exact hleft.2 hlast
    | some last =>
        rw [hend, Option.some_or] at hlast
        exact hright.2 (hend.trans hlast)

theorem sealed_of_not_mem {text : List Char} (hnone : '\\' ∉ text) : Sealed letters text := by
  constructor
  · apply unescaped_iff.2
    intro letter _ hpair
    exact hnone (hpair.subset (List.mem_cons_self ..))
  · intro hlast
    exact hnone (List.mem_of_getLast? hlast)

/-! ## Strings of printable characters and line breaks -/

/-- A line break, or no control character below `0x20`. -/
def Shown (char : Char) : Prop := 0x20 ≤ char.toNat ∨ char = '\n'

/-- A shown character is written as itself, or as a backslash and a mark. -/
theorem escapeChar_of_shown {char : Char} (hshown : Shown char) :
    (char ≠ '\\' ∧ escapeChar char = [char]) ∨
      ∃ mark ∈ ['"', '\\', 'n'], escapeChar char = ['\\', mark] ∧ (mark = '\\' → char = '\\') := by
  have hcontrol (code : ℕ) (hcode : code < 0x20) (hbreak : code ≠ 0x0a) : char.toNat ≠ code := by
    rintro rfl
    rcases hshown with hprintable | rfl
    · omega
    · exact hbreak rfl
  unfold escapeChar
  split_ifs with hquote hbackslash hb ht hn hf hr hc
  · exact .inr ⟨'"', by decide, rfl, fun hmark => absurd hmark (by decide)⟩
  · exact .inr ⟨'\\', by decide, rfl, fun _ => hbackslash⟩
  · exact absurd hb (hcontrol _ (by omega) (by omega))
  · exact absurd ht (hcontrol _ (by omega) (by omega))
  · exact .inr ⟨'n', by decide, rfl, fun hmark => absurd hmark (by decide)⟩
  · exact absurd hf (hcontrol _ (by omega) (by omega))
  · exact absurd hr (hcontrol _ (by omega) (by omega))
  · exact absurd rfl (hcontrol char.toNat hc hn)
  · exact .inl ⟨hbackslash, rfl⟩

section Letters

variable (hraw : ∀ letter ∈ letters, escapeChar letter = [letter]) (hbreak : 'n' ∉ letters)

include hraw

/-- The letters after a backslash in a string are still after one in its text. -/
theorem unescaped_of_renderString {text : String}
    (hrender : Unescaped letters (renderString text)) : Unescaped letters text.toList := by
  rw [unescaped_iff] at hrender ⊢
  rintro letter hletter ⟨before, after, hsplit⟩
  apply hrender letter hletter
  use '"' :: before.flatMap escapeChar ++ ['\\'], after.flatMap escapeChar ++ ['"']
  have hbackslash : escapeChar '\\' = ['\\', '\\'] := by decide
  simp [renderString, ← hsplit, hraw letter hletter, hbackslash]

include hbreak

theorem mark_not_mem {mark : Char} (hmark : mark ∈ ['"', '\\', 'n']) : mark ∉ letters := by
  intro hmem
  have hself := hraw mark hmem
  simp only [List.mem_cons, List.not_mem_nil, or_false] at hmark
  rcases hmark with rfl | rfl | rfl
  · exact absurd hself (by decide)
  · exact absurd hself (by decide)
  · exact hbreak hmem

theorem unescaped_flatMap_escapeChar {text : List Char} (hshown : ∀ char ∈ text, Shown char)
    (htext : Unescaped letters text) :
    Unescaped letters (text.flatMap escapeChar ++ ['"']) := by
  induction text with
  | nil => exact List.isChain_singleton _
  | cons char text ih =>
      obtain ⟨hnext, hrest⟩ := List.isChain_cons.1 htext
      rw [List.forall_mem_cons] at hshown
      rw [List.flatMap_cons, List.append_assoc]
      apply List.IsChain.append _ (ih hshown.2 hrest)
      · -- Only the escape of a backslash ends in one.
        intro last hlast second hsecond hbackslash
        have hchar : char = '\\' := by
          rcases escapeChar_of_shown hshown.1 with ⟨hne, hescape⟩ | ⟨mark, -, hescape, hmark⟩
          · rw [hescape] at hlast
            exact (Option.some.inj hlast).trans hbackslash
          · rw [hescape] at hlast
            exact hmark ((Option.some.inj hlast).trans hbackslash)
        cases text with
        | nil =>
            rw [← Option.some.inj hsecond]
            exact mark_not_mem hraw hbreak (by decide)
        | cons next others =>
            rcases escapeChar_of_shown (hshown.2 next (List.mem_cons_self ..)) with
              ⟨-, hescape⟩ | ⟨mark, -, hescape, -⟩
            · rw [List.flatMap_cons, hescape] at hsecond
              rw [← Option.some.inj hsecond]
              exact hnext next rfl hchar
            · rw [List.flatMap_cons, hescape] at hsecond
              rw [← Option.some.inj hsecond]
              exact mark_not_mem hraw hbreak (by decide)
      · rcases escapeChar_of_shown hshown.1 with ⟨-, hescape⟩ | ⟨mark, hmark, hescape, -⟩
        · rw [hescape]
          exact List.isChain_singleton _
        · rw [hescape]
          exact List.isChain_pair.2 fun _ => mark_not_mem hraw hbreak hmark

theorem sealed_renderString {text : String} (hshown : ∀ char ∈ text.toList, Shown char)
    (htext : Unescaped letters text.toList) : Sealed letters (renderString text) := by
  constructor
  · apply List.isChain_cons.2 ⟨_, unescaped_flatMap_escapeChar hraw hbreak hshown htext⟩
    intro second _ hquote
    exact absurd hquote (by decide)
  · rw [renderString, List.getLast?_append]
    exact fun hlast => absurd (Option.some.inj hlast) (by decide)

/-- For a document of shown characters, the text has a backslash before one of
the letters exactly when a string or key has. -/
theorem unescaped_render_iff {value : Value}
    (hshown : ∀ text ∈ value.texts, ∀ char ∈ text.toList, Shown char) :
    Unescaped letters value.render ↔ ∀ text ∈ value.texts, Unescaped letters text.toList := by
  constructor
  · intro hrender text htext
    exact unescaped_of_renderString hraw
      (hrender.part (renderString_infix_render value text htext))
  · intro htexts
    refine (render_of_append (Q := Sealed letters) ?_ (fun _ _ => sealed_append) value ?_).1
    · intro word hword
      apply sealed_of_not_mem
      intro hmem
      exact absurd (List.all_eq_true.1 hword _ hmem) (by decide)
    · intro text htext
      exact sealed_renderString hraw hbreak (hshown text htext) (htexts text htext)

end Letters

/-! ## Printable texts -/

def Printable (char : Char) : Prop := 0x20 ≤ char.toNat ∧ char.toNat ≤ 0x7e

instance (char : Char) : Decidable (Printable char) := inferInstanceAs (Decidable (_ ∧ _))

theorem printable_of_isDigit {char : Char} (hdigit : char.isDigit = true) : Printable char := by
  have hbounds : 48 ≤ char.val ∧ char.val ≤ 57 := by simpa [Char.isDigit] using hdigit
  exact ⟨Nat.le_trans (by decide) (UInt32.le_iff_toNat_le.1 hbounds.1),
    Nat.le_trans (UInt32.le_iff_toNat_le.1 hbounds.2) (by decide)⟩

theorem printable_of_isNumberChar {char : Char} (hchar : isNumberChar char = true) :
    Printable char := by
  simp only [isNumberChar, Bool.or_eq_true, beq_iff_eq] at hchar
  rcases hchar with ((((hdigit | rfl) | rfl) | rfl) | rfl) | rfl
  · exact printable_of_isDigit hdigit
  all_goals decide

theorem printable_of_isStructural {char : Char} (hchar : isStructural char = true) :
    Printable char := by
  have hwords : ∀ other ∈ "nulltruefalse[]\x7b\x7d,:".toList, Printable other :=
    List.all_iff_forall_prop.1 (by decide)
  rw [isStructural, Bool.or_eq_true, List.contains_iff_mem] at hchar
  rcases hchar with hnumber | hword
  · exact printable_of_isNumberChar hnumber
  · exact hwords char hword

/-- The text of a document of shown ASCII characters is printable. -/
theorem printable_render {value : Value}
    (hshown : ∀ text ∈ value.texts, ∀ char ∈ text.toList, Printable char ∨ char = '\n') :
    ∀ char ∈ value.render, Printable char := by
  refine render_of_append (Q := fun text => ∀ char ∈ text, Printable char) ?_ ?_ value ?_
  · intro word hword char hchar
    exact printable_of_isStructural (List.all_eq_true.1 hword char hchar)
  · intro left right hleft hright
    exact List.forall_mem_append.2 ⟨hleft, hright⟩
  · intro text htext
    have hflat : ∀ char ∈ text.toList.flatMap escapeChar, Printable char := by
      rw [List.forall_mem_flatMap]
      intro char hchar
      have hshownChar : Shown char := (hshown text htext char hchar).imp_left And.left
      rcases escapeChar_of_shown hshownChar with ⟨-, hescape⟩ | ⟨mark, hmark, hescape, -⟩
      · rw [hescape, List.forall_mem_singleton]
        rcases hshown text htext char hchar with hprintable | rfl
        · exact hprintable
        · exact absurd hescape (by decide)
      · have hmarks : ∀ other ∈ ['"', '\\', 'n'], Printable other :=
          List.all_iff_forall_prop.1 (by decide)
        rw [hescape, List.forall_mem_cons, List.forall_mem_singleton]
        exact ⟨by decide, hmarks mark hmark⟩
    rw [renderString, List.cons_append, List.forall_mem_cons, List.forall_mem_append,
      List.forall_mem_singleton]
    exact ⟨by decide, hflat, by decide⟩

end VisualSignParser.Json
