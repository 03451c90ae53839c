import Mathlib.Data.List.Forall2

/-!
# Lists related position by position

What a pass over a list returns stands beside what it was given.  What is returned
has its partner in the list, and a key is looked up at its partner.
-/

namespace VisualSignParser.Pointwise

variable {A B K V : Type} {R : A → B → Prop}

theorem exists_left_of_mem {left : List A} {right : List B} (hall : List.Forall₂ R left right)
    {value : B} (hvalue : value ∈ right) : ∃ partner ∈ left, R partner value := by
  induction hall with
  | nil => cases hvalue
  | cons hfirst hrest ih =>
      rcases List.mem_cons.1 hvalue with rfl | hmem
      · exact ⟨_, List.mem_cons_self, hfirst⟩
      · obtain ⟨partner, hpartner, hrelated⟩ := ih hmem
        exact ⟨partner, List.mem_cons_of_mem _ hpartner, hrelated⟩

/-- Three lists in step: what holds of a value and its partner, and of the partner
and its own, is passed on. -/
theorem forall₂_trans {C : Type} {S : B → C → Prop} {T : A → C → Prop} {left : List A}
    {middle : List B} {right : List C} (hleft : List.Forall₂ R left middle)
    (hright : List.Forall₂ S middle right)
    (hstep : ∀ value partner last, R value partner → S partner last → T value last) :
    List.Forall₂ T left right := by
  induction hleft generalizing right with
  | nil =>
      cases hright
      exact .nil
  | cons hfirst hrest ih =>
      cases hright with
      | cons hpartner hlast => exact .cons (hstep _ _ _ hfirst hpartner) (ih hlast)

theorem lookup_of_forall₂ [BEq K] [LawfulBEq K] {R : K → V → Prop} {keys : List K}
    {pairs : List (K × V)}
    (hpairs : List.Forall₂ (fun key pair => pair.1 = key ∧ R key pair.2) keys pairs) {key : K}
    (hkey : key ∈ keys) : ∃ value, pairs.lookup key = some value ∧ R key value := by
  induction hpairs with
  | nil => cases hkey
  | @cons first pair keys pairs hfirst hrest ih =>
      obtain ⟨found, value⟩ := pair
      obtain ⟨rfl, hvalue⟩ := hfirst
      rw [List.lookup_cons]
      by_cases hsame : key = found
      · subst hsame
        exact ⟨value, by simp, hvalue⟩
      · rw [beq_eq_false_iff_ne.2 hsame]
        exact ih ((List.mem_cons.1 hkey).resolve_left hsame)

/-- A value that determines its key determines the pair. -/
theorem eq_of_values_eq {R : K → V → Prop}
    (hunique : ∀ key other value, R key value → R other value → key = other)
    {left right : List (K × V)} (hleft : ∀ pair ∈ left, R pair.1 pair.2)
    (hright : ∀ pair ∈ right, R pair.1 pair.2)
    (hsame : left.map Prod.snd = right.map Prod.snd) : left = right := by
  have hpair : ∀ (first second : K × V), R first.1 first.2 → R second.1 second.2 →
      first.2 = second.2 → first = second := by
    intro first second hfirst hsecond hvalue
    rw [← hvalue] at hsecond
    exact Prod.ext (hunique _ _ _ hfirst hsecond) hvalue
  induction left generalizing right with
  | nil => exact (List.map_eq_nil_iff.1 hsame.symm).symm
  | cons first rest ih =>
      cases right with
      | nil => cases hsame
      | cons second others =>
          rw [List.map_cons, List.map_cons, List.cons.injEq] at hsame
          rw [List.forall_mem_cons] at hleft hright
          rw [hpair first second hleft.1 hright.1 hsame.1, ih hleft.2 hright.2 hsame.2]

end VisualSignParser.Pointwise
