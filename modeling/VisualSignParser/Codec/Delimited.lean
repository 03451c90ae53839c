import Mathlib.Data.List.Basic
import Mathlib.Data.List.Infix

/-!
# Texts cut off by delimiters

A value written inside a list is followed by a separator or a closing bracket.
Two values are separable when, whatever follows their texts behind a delimiter,
equal texts come from equal values.  Texts without delimiters are separable as
soon as they differ, and separable elements make separable lists.
-/

namespace VisualSignParser.Delimited

variable {A C : Type} {isDelimiter : C → Bool} {text : A → List C}

/-- Nothing, or a delimiter first. -/
def Ends (isDelimiter : C → Bool) (rest : List C) : Prop :=
  ∀ first ∈ rest.head?, isDelimiter first = true

/-- Something, and no delimiter first. -/
def Opens (isDelimiter : C → Bool) (written : List C) : Prop :=
  ∃ first others, written = first :: others ∧ isDelimiter first = false

/-- Something without delimiters. -/
def Plain (isDelimiter : C → Bool) (written : List C) : Prop :=
  written ≠ [] ∧ ∀ char ∈ written, isDelimiter char = false

instance (written : List C) : Decidable (Plain isDelimiter written) :=
  inferInstanceAs (Decidable (_ ∧ _))

theorem Plain.opens {written : List C} (hplain : Plain isDelimiter written) :
    Opens isDelimiter written := by
  obtain ⟨hne, hchars⟩ := hplain
  cases written with
  | nil => exact absurd rfl hne
  | cons first others => exact ⟨first, others, rfl, hchars first (List.mem_cons_self ..)⟩

theorem Plain.append {left right : List C} (hleft : Plain isDelimiter left)
    (hright : ∀ char ∈ right, isDelimiter char = false) : Plain isDelimiter (left ++ right) :=
  ⟨List.append_ne_nil_of_left_ne_nil hleft.1 right, List.forall_mem_append.2 ⟨hleft.2, hright⟩⟩

/-- Whatever follows behind a delimiter, equal texts come from equal values. -/
def Separable (isDelimiter : C → Bool) (text : A → List C) (left right : A) : Prop :=
  ∀ leftRest rightRest, Ends isDelimiter leftRest → Ends isDelimiter rightRest →
    text left ++ leftRest = text right ++ rightRest → left = right ∧ leftRest = rightRest

theorem ends_nil : Ends isDelimiter [] := by
  intro first hfirst
  cases hfirst

theorem ends_cons {first : C} {rest : List C} (hfirst : isDelimiter first = true) :
    Ends isDelimiter (first :: rest) := by
  intro other hother
  rwa [← Option.some.inj hother]

/-- Separable values have different texts. -/
theorem Separable.eq_of_text_eq {left right : A}
    (hseparable : Separable isDelimiter text left right)
    (htext : text left = text right) : left = right :=
  (hseparable [] [] ends_nil ends_nil (by rw [htext])).1

/-! ## Texts without delimiters -/

theorem heads_eq {left right leftRest rightRest : List C}
    (hleft : ∀ char ∈ left, isDelimiter char = false)
    (hright : ∀ char ∈ right, isDelimiter char = false)
    (hleftRest : Ends isDelimiter leftRest) (hrightRest : Ends isDelimiter rightRest)
    (heq : left ++ leftRest = right ++ rightRest) : left = right ∧ leftRest = rightRest := by
  induction left generalizing right with
  | nil =>
      cases right with
      | nil => exact ⟨rfl, heq⟩
      | cons first right =>
          rw [List.nil_append] at heq
          have hfirst : isDelimiter first = true := hleftRest first (by rw [heq]; rfl)
          exact absurd hfirst (by rw [hright first (List.mem_cons_self ..)]; decide)
  | cons first left ih =>
      rw [List.forall_mem_cons] at hleft
      cases right with
      | nil =>
          rw [List.nil_append] at heq
          have hfirst : isDelimiter first = true := hrightRest first (by rw [← heq]; rfl)
          exact absurd hfirst (by rw [hleft.1]; decide)
      | cons other right =>
          rw [List.forall_mem_cons] at hright
          obtain ⟨hfirst, hrest⟩ := List.cons.inj heq
          obtain ⟨hheads, hrests⟩ := ih hleft.2 hright.2 hrest
          exact ⟨by rw [hfirst, hheads], hrests⟩

theorem separable_of_plain {left right : A} (hleft : Plain isDelimiter (text left))
    (hright : Plain isDelimiter (text right)) (hvalue : text left = text right → left = right) :
    Separable isDelimiter text left right := by
  intro leftRest rightRest hleftRest hrightRest heq
  obtain ⟨htexts, hrests⟩ := heads_eq hleft.2 hright.2 hleftRest hrightRest heq
  exact ⟨hvalue htexts, hrests⟩

/-! ## Lists of texts -/

/-- The texts of the values with the separator between them. -/
def joined (text : A → List C) (separator : List C) (values : List A) : List C :=
  separator.intercalate (values.map text)

theorem joined_singleton (separator : List C) (value : A) :
    joined text separator [value] = text value :=
  List.intercalate_singleton

theorem joined_cons_cons (separator : List C) (value next : A) (values : List A) :
    joined text separator (value :: next :: values) =
      text value ++ (separator ++ joined text separator (next :: values)) := by
  rw [joined, List.map_cons, List.map_cons, List.intercalate_cons_cons, List.append_assoc]
  rfl

/-- What stands behind the first of some values, up to the rest behind the
closing bracket. -/
def behindFirst (text : A → List C) (separator : List C) (close : C) (rest : List C) :
    List A → List C
  | [] => close :: rest
  | next :: values => separator ++ (joined text separator (next :: values) ++ close :: rest)

theorem joined_cons_append (separator : List C) (close : C) (rest : List C) (value : A)
    (values : List A) :
    joined text separator (value :: values) ++ close :: rest =
      text value ++ behindFirst text separator close rest values := by
  cases values with
  | nil => rw [joined_singleton, behindFirst]
  | cons next values => rw [joined_cons_cons, behindFirst, List.append_assoc, List.append_assoc]

section Joined

variable {first close : C} {others : List C} (hfirst : isDelimiter first = true)
  (hclose : isDelimiter close = true) (hne : first ≠ close)

include hclose

/-- The closing bracket of an empty list is no first character of an element. -/
theorem close_ne_joined {separator : List C} {value : A} {values : List A}
    {rest valuesRest : List C} (hvalue : Opens isDelimiter (text value)) :
    close :: rest ≠ joined text separator (value :: values) ++ close :: valuesRest := by
  intro heq
  obtain ⟨opening, more, htext, hopening⟩ := hvalue
  rw [joined_cons_append, htext] at heq
  rw [← (List.cons.inj heq).1, hclose] at hopening
  cases hopening

include hfirst

theorem ends_behindFirst (rest : List C) (values : List A) :
    Ends isDelimiter (behindFirst text (first :: others) close rest values) := by
  cases values with
  | nil => exact ends_cons hclose
  | cons next values => exact ends_cons hfirst

include hne

/-- Lists of separable elements are told apart up to their closing bracket. -/
theorem joined_inj {lefts rights : List A} {leftRest rightRest : List C}
    (hpairs : ∀ pair ∈ lefts.zip rights, Separable isDelimiter text pair.1 pair.2)
    (hlefts : ∀ value ∈ lefts, Opens isDelimiter (text value))
    (hrights : ∀ value ∈ rights, Opens isDelimiter (text value))
    (heq : joined text (first :: others) lefts ++ close :: leftRest =
      joined text (first :: others) rights ++ close :: rightRest) :
    lefts = rights ∧ leftRest = rightRest := by
  induction lefts generalizing rights with
  | nil =>
      cases rights with
      | nil => exact ⟨rfl, (List.cons.inj heq).2⟩
      | cons right rights =>
          exact absurd heq (close_ne_joined hclose (hrights right (List.mem_cons_self ..)))
  | cons left lefts ih =>
      cases rights with
      | nil => exact absurd heq.symm (close_ne_joined hclose (hlefts left (List.mem_cons_self ..)))
      | cons right rights =>
          rw [List.zip_cons_cons, List.forall_mem_cons] at hpairs
          rw [List.forall_mem_cons] at hlefts hrights
          rw [joined_cons_append, joined_cons_append] at heq
          obtain ⟨(rfl : left = right), hbehind⟩ := hpairs.1 _ _
            (ends_behindFirst hfirst hclose _ _) (ends_behindFirst hfirst hclose _ _) heq
          cases lefts with
          | nil =>
              cases rights with
              | nil => exact ⟨rfl, (List.cons.inj hbehind).2⟩
              | cons next rights => exact absurd (List.cons.inj hbehind).1.symm hne
          | cons nextLeft lefts =>
              cases rights with
              | nil => exact absurd (List.cons.inj hbehind).1 hne
              | cons nextRight rights =>
                  have hjoined := List.append_cancel_left hbehind
                  obtain ⟨hlists, hrests⟩ := ih hpairs.2 hlefts.2 hrights.2 hjoined
                  exact ⟨by rw [hlists], hrests⟩

/-- Bracketed lists of separable elements are told apart, whatever follows. -/
theorem bracketed_inj {opening : C} {lefts rights : List A} {leftRest rightRest : List C}
    (hpairs : ∀ pair ∈ lefts.zip rights, Separable isDelimiter text pair.1 pair.2)
    (hlefts : ∀ value ∈ lefts, Opens isDelimiter (text value))
    (hrights : ∀ value ∈ rights, Opens isDelimiter (text value))
    (heq : opening :: (joined text (first :: others) lefts ++ [close]) ++ leftRest =
      opening :: (joined text (first :: others) rights ++ [close]) ++ rightRest) :
    lefts = rights ∧ leftRest = rightRest := by
  apply joined_inj hfirst hclose hne hpairs hlefts hrights
  simpa using heq

end Joined

/-! ## Closed texts -/

theorem eq_false_of_not_mem [BEq C] [LawfulBEq C] {close : C} {written : List C}
    (hclose : close ∉ written) : ∀ char ∈ written, (char == close) = false := by
  intro char hchar
  exact beq_false_of_ne (ne_of_mem_of_not_mem hchar hclose)

/-- Texts that are closed by a delimiter are told apart one after another. -/
theorem closed_inj {close : C} (hclose : isDelimiter close = true)
    (htext : ∀ value, ∀ char ∈ text value, isDelimiter char = false)
    (hinjective : Function.Injective text) {lefts rights : List A}
    (heq : (lefts.flatMap fun value => text value ++ [close]) =
      rights.flatMap fun value => text value ++ [close]) : lefts = rights := by
  induction lefts generalizing rights with
  | nil =>
      cases rights with
      | nil => rfl
      | cons right rights => simp at heq
  | cons left lefts ih =>
      cases rights with
      | nil => simp at heq
      | cons right rights =>
          rw [List.flatMap_cons, List.flatMap_cons, List.append_assoc, List.append_assoc] at heq
          obtain ⟨hfirst, hrest⟩ := heads_eq (htext left) (htext right)
            (ends_cons hclose) (ends_cons hclose) heq
          rw [hinjective hfirst, ih (List.cons.inj hrest).2]

/-! ## Headed groups -/

/-- A delimiter, and no other behind it. -/
def Headed (isDelimiter : C → Bool) (written : List C) : Prop :=
  ∃ first others, written = first :: others ∧ isDelimiter first = true ∧
    ∀ other ∈ others, isDelimiter other = false

theorem ends_flatten_headed {groups : List (List C)}
    (hgroups : ∀ group ∈ groups, Headed isDelimiter group) : Ends isDelimiter groups.flatten := by
  cases groups with
  | nil => exact ends_nil
  | cons group groups =>
      obtain ⟨first, others, rfl, hfirst, -⟩ := hgroups group (List.mem_cons_self ..)
      exact ends_cons hfirst

/-- Groups that each start with a delimiter are found again in one list. -/
theorem headed_inj {lefts rights : List (List C)}
    (hlefts : ∀ group ∈ lefts, Headed isDelimiter group)
    (hrights : ∀ group ∈ rights, Headed isDelimiter group)
    (heq : lefts.flatten = rights.flatten) : lefts = rights := by
  induction lefts generalizing rights with
  | nil =>
      cases rights with
      | nil => rfl
      | cons right rights =>
          obtain ⟨first, others, rfl, -⟩ := hrights right (List.mem_cons_self ..)
          cases heq
  | cons left lefts ih =>
      rw [List.forall_mem_cons] at hlefts
      obtain ⟨⟨leftFirst, leftOthers, rfl, -, hleft⟩, hlefts⟩ := hlefts
      cases rights with
      | nil => cases heq
      | cons right rights =>
          rw [List.forall_mem_cons] at hrights
          obtain ⟨⟨rightFirst, rightOthers, rfl, -, hright⟩, hrights⟩ := hrights
          obtain ⟨hfirst, htail⟩ := List.cons.inj heq
          obtain ⟨hothers, hrest⟩ := heads_eq hleft hright (ends_flatten_headed hlefts)
            (ends_flatten_headed hrights) htail
          rw [hfirst, hothers, ih hlefts hrights hrest]

end VisualSignParser.Delimited
