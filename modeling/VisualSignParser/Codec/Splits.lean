import Mathlib.Data.List.Infix
import Mathlib.Data.List.TakeWhile

/-!
# Splitting and trimming lists

A list is cut at its first or at its last separator, or loses the blanks at its
ends.  Each operation is determined by the parts it returns: the lemmas say
which parts a list can be cut into, so that a result is read off the list
without unfolding the recursion.
-/

namespace VisualSignParser.Splits

variable {A : Type} {separates blank : A → Bool}

/-- What stands before and behind the first separator: `str::split_once`. -/
def splitFirst (separates : A → Bool) : List A → Option (List A × List A)
  | [] => none
  | item :: rest =>
      if separates item then some ([], rest)
      else (splitFirst separates rest).map fun parts => (item :: parts.1, parts.2)

theorem splitFirst_eq_some_iff {list before after : List A} :
    splitFirst separates list = some (before, after) ↔
      ∃ separator, list = before ++ separator :: after ∧ separates separator = true ∧
        ∀ item ∈ before, separates item = false := by
  induction list generalizing before with
  | nil => simp [splitFirst]
  | cons item rest ih =>
      rw [splitFirst]
      by_cases hitem : separates item = true
      · rw [if_pos hitem]
        constructor
        · rintro ⟨⟩
          exact ⟨item, rfl, hitem, fun _ hmem => absurd hmem List.not_mem_nil⟩
        · rintro ⟨separator, hlist, -, hbefore⟩
          cases before with
          | nil =>
              obtain ⟨rfl, rfl⟩ := List.cons.inj hlist
              rfl
          | cons first _ =>
              obtain ⟨rfl, -⟩ := List.cons.inj hlist
              rw [hbefore item List.mem_cons_self] at hitem
              cases hitem
      · rw [if_neg hitem, Option.map_eq_some_iff]
        constructor
        · rintro ⟨⟨tail, behind⟩, htail, hparts⟩
          obtain ⟨rfl, rfl⟩ := Prod.mk.inj hparts
          obtain ⟨separator, rfl, hseparator, hbefore⟩ := ih.1 htail
          exact ⟨separator, rfl, hseparator,
            List.forall_mem_cons.2 ⟨Bool.eq_false_iff.2 hitem, hbefore⟩⟩
        · rintro ⟨separator, hlist, hseparator, hbefore⟩
          cases before with
          | nil =>
              obtain ⟨rfl, -⟩ := List.cons.inj hlist
              exact absurd hseparator hitem
          | cons first before =>
              obtain ⟨rfl, rfl⟩ := List.cons.inj hlist
              exact ⟨(before, after),
                ih.2 ⟨separator, rfl, hseparator, (List.forall_mem_cons.1 hbefore).2⟩, rfl⟩

/-- What stands before and behind the last separator: `str::rsplit_once`. -/
def splitLast (separates : A → Bool) (list : List A) : Option (List A × List A) :=
  (splitFirst separates list.reverse).map fun parts => (parts.2.reverse, parts.1.reverse)

theorem splitLast_eq_some_iff {list before after : List A} :
    splitLast separates list = some (before, after) ↔
      ∃ separator, list = before ++ separator :: after ∧ separates separator = true ∧
        ∀ item ∈ after, separates item = false := by
  rw [splitLast, Option.map_eq_some_iff]
  constructor
  · rintro ⟨⟨behind, front⟩, hsplit, hparts⟩
    obtain ⟨rfl, rfl⟩ := Prod.mk.inj hparts
    obtain ⟨separator, hlist, hseparator, hbehind⟩ := splitFirst_eq_some_iff.1 hsplit
    have hreverse := congrArg List.reverse hlist
    simp only [List.reverse_reverse, List.reverse_append, List.reverse_cons, List.append_assoc,
      List.singleton_append] at hreverse
    exact ⟨separator, hreverse, hseparator, fun item hitem =>
      hbehind item (List.mem_reverse.1 hitem)⟩
  · rintro ⟨separator, rfl, hseparator, hafter⟩
    refine ⟨(after.reverse, before.reverse), splitFirst_eq_some_iff.2 ⟨separator, ?_, hseparator,
      fun item hitem => hafter item (List.mem_reverse.1 hitem)⟩, ?_⟩
    · rw [List.reverse_append, List.reverse_cons, List.append_assoc, List.singleton_append]
    · rw [List.reverse_reverse, List.reverse_reverse]

/-! ## Splitting at every separator -/

theorem forall_mem_splitOn [BEq A] [LawfulBEq A] {separator : A} {list part : List A}
    (hpart : part ∈ list.splitOn separator) : separator ∉ part := by
  induction list generalizing part with
  | nil =>
      rw [List.mem_singleton.1 hpart]
      exact List.not_mem_nil
  | cons item rest ih =>
      rw [List.splitOn_cons_eq_if_modifyHead] at hpart
      split_ifs at hpart with hitem
      · rcases List.mem_cons.1 hpart with rfl | hrest
        · exact List.not_mem_nil
        · exact ih hrest
      · cases hsplit : rest.splitOn separator with
        | nil => exact absurd hsplit (List.splitOn_ne_nil _ _)
        | cons first others =>
            rw [hsplit] at ih hpart
            rcases List.mem_cons.1 hpart with rfl | hothers
            · rintro (_ | ⟨_, hmem⟩)
              · exact hitem (BEq.rfl)
              · exact ih List.mem_cons_self hmem
            · exact ih (List.mem_cons_of_mem _ hothers)

/-- A list is split into parts without a separator, which make it up again. -/
theorem splitOn_eq_iff [BEq A] [LawfulBEq A] {separator : A} {list : List A} {parts : List (List A)}
    (hparts : parts ≠ []) :
    list.splitOn separator = parts ↔
      list = [separator].intercalate parts ∧ ∀ part ∈ parts, separator ∉ part := by
  constructor
  · rintro rfl
    exact ⟨(List.intercalate_splitOn separator).symm, fun _ => forall_mem_splitOn⟩
  · rintro ⟨rfl, hfree⟩
    exact List.splitOn_intercalate separator hfree hparts

/-! ## Trimming -/

/-- The list without the blanks at its two ends. -/
def trimBoth (blank : A → Bool) (list : List A) : List A :=
  ((list.dropWhile blank).reverse.dropWhile blank).reverse

/-- Neither the first nor the last item is a blank. -/
def Trimmed (blank : A → Bool) (list : List A) : Prop :=
  (∀ first ∈ list.head?, blank first = false) ∧ ∀ last ∈ list.getLast?, blank last = false

theorem dropWhile_head {list : List A} :
    ∀ first ∈ (list.dropWhile blank).head?, blank first = false := by
  intro first hfirst
  cases hdrop : list.dropWhile blank with
  | nil => simp [hdrop] at hfirst
  | cons item rest =>
      have hhead := List.head?_dropWhile_not blank list
      rw [hdrop] at hfirst hhead
      obtain rfl : item = first := by simpa using hfirst
      simpa using hhead

theorem dropWhile_append_trimmed {ends list : List A} (hends : ∀ item ∈ ends, blank item = true)
    (hlist : ∀ first ∈ list.head?, blank first = false) :
    (ends ++ list).dropWhile blank = list := by
  rw [List.dropWhile_append_of_pos hends, List.dropWhile_eq_self_iff]
  cases list with
  | nil => simp
  | cons first rest =>
      intro _
      simpa using hlist first rfl

/-- What is trimmed is the list between its blank ends. -/
theorem trimBoth_append {front list back : List A} (hfront : ∀ item ∈ front, blank item = true)
    (hlist : Trimmed blank list) (hback : ∀ item ∈ back, blank item = true)
    (hnonempty : list ≠ []) : trimBoth blank (front ++ list ++ back) = list := by
  have hhead : ∀ first ∈ (list ++ back).head?, blank first = false := by
    rw [List.head?_append_of_ne_nil _ hnonempty]
    exact hlist.1
  have hreverse : (list ++ back).reverse = back.reverse ++ list.reverse := List.reverse_append
  rw [trimBoth, List.append_assoc, dropWhile_append_trimmed hfront hhead, hreverse,
    dropWhile_append_trimmed, List.reverse_reverse]
  · exact fun item hitem => hback item (List.mem_reverse.1 hitem)
  · rw [List.head?_reverse]
    exact hlist.2

theorem trimBoth_eq_self {list : List A} (hlist : Trimmed blank list) :
    trimBoth blank list = list := by
  by_cases hnonempty : list = []
  · rw [hnonempty]
    rfl
  · have hnone : ∀ item ∈ ([] : List A), blank item = true := List.forall_mem_nil _
    have hends := trimBoth_append hnone hlist hnone hnonempty
    rwa [List.nil_append, List.append_nil] at hends

theorem trimmed_trimBoth (list : List A) : Trimmed blank (trimBoth blank list) := by
  constructor
  · intro first hfirst
    rw [trimBoth, List.head?_reverse] at hfirst
    -- the last of what is left of the reversed list is the last of the reversed list
    have hsuffix : (list.dropWhile blank).reverse.dropWhile blank <:+ (list.dropWhile blank).reverse :=
      List.dropWhile_suffix _
    obtain ⟨dropped, hdropped⟩ := hsuffix
    have hlast : (list.dropWhile blank).reverse.getLast? = some first := by
      rw [← hdropped, List.getLast?_append, hfirst]
      rfl
    rw [List.getLast?_reverse] at hlast
    exact dropWhile_head first hlast
  · intro last hlast
    rw [trimBoth, List.getLast?_reverse] at hlast
    exact dropWhile_head last hlast

/-- Trimming takes blanks off the ends and nothing else. -/
theorem exists_trimBoth (blank : A → Bool) (list : List A) :
    ∃ front back, list = front ++ trimBoth blank list ++ back ∧
      (∀ item ∈ front, blank item = true) ∧ ∀ item ∈ back, blank item = true := by
  have hblank (items : List A) : ∀ item ∈ items.takeWhile blank, blank item = true :=
    fun _ hitem => List.mem_takeWhile_imp hitem
  refine ⟨list.takeWhile blank, ((list.dropWhile blank).reverse.takeWhile blank).reverse, ?_,
    hblank list, fun item hitem => hblank _ item (List.mem_reverse.1 hitem)⟩
  have hback : trimBoth blank list ++ ((list.dropWhile blank).reverse.takeWhile blank).reverse =
      list.dropWhile blank := by
    rw [trimBoth, ← List.reverse_append, List.takeWhile_append_dropWhile, List.reverse_reverse]
  rw [List.append_assoc, hback, List.takeWhile_append_dropWhile]

end VisualSignParser.Splits
