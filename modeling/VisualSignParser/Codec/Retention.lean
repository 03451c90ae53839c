import Mathlib.Data.List.Sort
import Mathlib.Order.Basic

/-!
# Keeping the newest

Items are sorted by a key, the greatest first, and all behind the first few are
given up.  Where the keys differ, an item is given up exactly when enough others
are greater, which does not mention the order of the list.
-/

namespace VisualSignParser.Retention

variable {A K : Type} [LinearOrder K] {key : A → K} {list : List A}

/-- The keys decrease strictly. -/
def Descending (key : A → K) (list : List A) : Prop :=
  list.Pairwise fun left right => key right < key left

/-- The items with a greater key than the given one. -/
def newer (key : A → K) (item : A) (list : List A) : ℕ :=
  list.countP fun other => decide (key item < key other)

/-- In a descending list, the greater items are those in front. -/
theorem newer_append {item : A} {before after : List A}
    (hlist : Descending key (before ++ item :: after)) :
    newer key item (before ++ item :: after) = before.length := by
  obtain ⟨-, hafter, hbefore⟩ := List.pairwise_append.1 hlist
  have hgreater : before.countP (fun other => decide (key item < key other)) = before.length := by
    rw [List.countP_eq_length]
    exact fun other hother => decide_eq_true (hbefore other hother item List.mem_cons_self)
  have hless : (item :: after).countP (fun other => decide (key item < key other)) = 0 := by
    rw [List.countP_eq_zero]
    intro other hother
    rw [decide_eq_true_eq, not_lt]
    rcases List.mem_cons.1 hother with rfl | hmem
    · exact le_rfl
    · exact le_of_lt ((List.pairwise_cons.1 hafter).1 other hmem)
  rw [newer, List.countP_append, hgreater, hless, Nat.add_zero]

theorem mem_drop_iff (hlist : Descending key list) {keep : ℕ} {item : A} :
    item ∈ list.drop keep ↔ item ∈ list ∧ keep ≤ newer key item list := by
  constructor
  · intro hitem
    have hmem := List.mem_of_mem_drop hitem
    refine ⟨hmem, ?_⟩
    obtain ⟨before, after, hdrop⟩ := List.append_of_mem hitem
    have hsplit : list = (list.take keep ++ before) ++ item :: after := by
      rw [List.append_assoc, ← hdrop, List.take_append_drop]
    have hkeep : keep ≤ list.length := by
      by_contra hshort
      rw [List.drop_of_length_le (by omega)] at hitem
      exact List.not_mem_nil hitem
    rw [hsplit] at hlist
    rw [hsplit, newer_append hlist, List.length_append, List.length_take]
    omega
  · rintro ⟨hmem, hkeep⟩
    obtain ⟨before, after, rfl⟩ := List.append_of_mem hmem
    rw [newer_append hlist] at hkeep
    rw [List.drop_append_of_le_length hkeep]
    exact List.mem_append_right _ List.mem_cons_self

/-- The comparison that puts the greatest key first. -/
def newestFirst (key : A → K) (left right : A) : Bool := decide (key right ≤ key left)

theorem descending_mergeSort (hkeys : (list.map key).Nodup) :
    Descending key (list.mergeSort (newestFirst key)) := by
  have hsorted : (list.mergeSort (newestFirst key)).Pairwise fun left right =>
      newestFirst key left right = true := by
    apply List.pairwise_mergeSort
    · intro left middle right hleft hright
      simp only [newestFirst, decide_eq_true_eq] at hleft hright ⊢
      exact hright.trans hleft
    · intro left right
      simp only [newestFirst, Bool.or_eq_true, decide_eq_true_eq]
      exact le_total _ _
  have hnodup : ((list.mergeSort (newestFirst key)).map key).Nodup :=
    ((List.mergeSort_perm list _).map key).nodup_iff.2 hkeys
  have hdistinct : (list.mergeSort (newestFirst key)).Pairwise fun left right =>
      key left ≠ key right := List.pairwise_map.1 hnodup
  refine (hsorted.and hdistinct).imp fun {left right} hboth => ?_
  exact lt_of_le_of_ne (of_decide_eq_true hboth.1) (Ne.symm hboth.2)

theorem newer_perm {other : List A} (hperm : list.Perm other) (item : A) :
    newer key item list = newer key item other :=
  hperm.countP_eq _

/-- Of the items that can be given up at all, those go that enough others exceed. -/
theorem mem_drop_filter_mergeSort (hkeys : (list.map key).Nodup) (eligible : A → Bool) {keep : ℕ}
    {item : A} :
    item ∈ ((list.mergeSort (newestFirst key)).filter eligible).drop keep ↔
      item ∈ list.filter eligible ∧ keep ≤ newer key item (list.filter eligible) := by
  have hperm : ((list.mergeSort (newestFirst key)).filter eligible).Perm (list.filter eligible) :=
    (List.mergeSort_perm list _).filter eligible
  rw [mem_drop_iff ((descending_mergeSort hkeys).filter eligible), hperm.mem_iff,
    newer_perm hperm]

end VisualSignParser.Retention
