import Mathlib.Data.List.Forall2

/-!
# Early returns

A function that leaves on its first failed check succeeds exactly when every
check does.  These lemmas turn such a function into the conjunction of its
checks, in the order in which they are made.
-/

namespace VisualSignParser.Outcome

variable {E F A B : Type}

/-- Leave with `error` unless the condition holds. -/
def require (condition : Prop) [Decidable condition] (error : E) : Except E Unit :=
  if condition then .ok () else .error error

/-- `Option::ok_or`. -/
def okOr (error : E) : Option A → Except E A
  | some value => .ok value
  | none => .error error

theorem ok_bind (value : A) (rest : A → Except E B) : (Except.ok value >>= rest) = rest value := rfl

theorem error_bind (error : E) (rest : A → Except E B) :
    (Except.error error >>= rest) = .error error := rfl

/-- Two steps in a row succeed with a result exactly if the first succeeds with some
value and the second succeeds for that value. -/
theorem bind_eq_ok {step : Except E A} {rest : A → Except E B} {result : B} :
    (step >>= rest) = .ok result ↔ ∃ value, step = .ok value ∧ rest value = .ok result := by
  cases step with
  | error error =>
      constructor
      · intro hresult
        cases hresult
      · rintro ⟨value, hvalue, -⟩
        cases hvalue
  | ok value =>
      constructor
      · intro hresult
        exact ⟨value, rfl, hresult⟩
      · rintro ⟨other, hvalue, hresult⟩
        cases hvalue
        exact hresult

/-- A step before one that always succeeds decides alone. -/
theorem bind_isOk_iff {step : Except E A} {rest : A → Except E B}
    (hrest : ∀ value, ∃ result, rest value = .ok result) :
    (∃ result, (step >>= rest) = .ok result) ↔ ∃ value, step = .ok value := by
  constructor
  · rintro ⟨result, hresult⟩
    obtain ⟨value, hvalue, -⟩ := bind_eq_ok.1 hresult
    exact ⟨value, hvalue⟩
  · rintro ⟨value, hvalue⟩
    obtain ⟨result, hresult⟩ := hrest value
    exact ⟨result, bind_eq_ok.2 ⟨value, hvalue, hresult⟩⟩

/-- Converting the value of a step does not change whether the step succeeds. -/
theorem bind_pure_isOk_iff {step : Except E A} {convert : A → B} :
    (∃ result, (step >>= fun value => pure (convert value)) = .ok result) ↔
      ∃ value, step = .ok value :=
  bind_isOk_iff fun value => ⟨convert value, rfl⟩

/-- A check in front of a step succeeds together with it exactly if the condition
holds and the step succeeds. -/
theorem require_bind_isOk_iff {condition : Prop} [Decidable condition] {error : E}
    {rest : Unit → Except E B} :
    (∃ result, (require condition error >>= rest) = .ok result) ↔
      condition ∧ ∃ result, rest () = .ok result := by
  unfold require
  by_cases hcondition : condition
  · simp [hcondition, ok_bind]
  · simp [hcondition, error_bind]

/-- What follows a step only matters where the step succeeds. -/
theorem bind_congr_ok {step : Except E A} {left right : A → Except E B}
    (hrest : ∀ value, step = .ok value → left value = right value) :
    (step >>= left) = (step >>= right) := by
  cases step with
  | error error => rfl
  | ok value => exact hrest value rfl

theorem require_eq_ok {condition : Prop} [Decidable condition] {error : E} {result : Unit} :
    require condition error = .ok result ↔ condition := by
  unfold require
  by_cases hcondition : condition <;> simp [hcondition]

theorem okOr_eq_ok {error : E} {option : Option A} {value : A} :
    okOr error option = .ok value ↔ option = some value := by
  cases option <;> simp [okOr]

/-- Another error does not change what a step succeeds with. -/
theorem mapError_eq_ok {convert : E → F} {step : Except E A} {value : A} :
    step.mapError convert = .ok value ↔ step = .ok value := by
  cases step with
  | error error =>
      constructor
      · intro hvalue
        change Except.error (convert error) = .ok value at hvalue
        cases hvalue
      · intro hvalue
        cases hvalue
  | ok result =>
      change Except.ok result = .ok value ↔ _
      rw [Except.ok.injEq, Except.ok.injEq]

theorem mapError_map (convertError : E → F) (convert : A → B) (step : Except E A) :
    (step.map convert).mapError convertError = (step.mapError convertError).map convert := by
  cases step <;> rfl

theorem toOption_eq_some {result : Except E A} {value : A} :
    result.toOption = some value ↔ result = .ok value := by
  cases result <;> simp [Except.toOption]

theorem pure_eq_ok {value result : A} : (pure value : Except E A) = .ok result ↔ value = result := by
  simp [pure, Except.pure]

theorem map_eq_ok {convert : A → B} {step : Except E A} {result : B} :
    step.map convert = .ok result ↔ ∃ value, step = .ok value ∧ convert value = result := by
  cases step with
  | error error =>
      constructor
      · intro hresult
        change Except.error error = .ok result at hresult
        cases hresult
      · rintro ⟨value, hvalue, -⟩
        cases hvalue
  | ok value =>
      change Except.ok (convert value) = .ok result ↔ _
      simp only [Except.ok.injEq, exists_eq_left']

/-- A pass over a list succeeds when every step does. -/
theorem mapM_eq_ok {step : A → Except E B} {list : List A} {results : List B} :
    list.mapM step = .ok results ↔
      List.Forall₂ (fun value result => step value = .ok result) list results := by
  induction list generalizing results with
  | nil =>
      rw [List.mapM_nil, pure_eq_ok]
      constructor
      · rintro rfl
        exact .nil
      · intro hnil
        cases hnil
        rfl
  | cons first rest ih =>
      simp only [List.mapM_cons, bind_eq_ok, pure_eq_ok, ih]
      constructor
      · rintro ⟨value, hvalue, values, hvalues, rfl⟩
        exact .cons hvalue hvalues
      · intro hall
        cases hall with
        | cons hfirst hrest => exact ⟨_, hfirst, _, hrest, rfl⟩

/-- Related results exist for a list exactly if each of its values has a related
result, by induction on the list. -/
theorem exists_forall₂_iff {R : A → B → Prop} {list : List A} :
    (∃ results, List.Forall₂ R list results) ↔ ∀ value ∈ list, ∃ result, R value result := by
  induction list with
  | nil => exact iff_of_true ⟨[], .nil⟩ (List.forall_mem_nil _)
  | cons first rest ih =>
      rw [List.forall_mem_cons, ← ih]
      constructor
      · rintro ⟨results, hall⟩
        cases hall with
        | cons hfirst hrest => exact ⟨⟨_, hfirst⟩, _, hrest⟩
      · rintro ⟨⟨result, hfirst⟩, results, hrest⟩
        exact ⟨result :: results, .cons hfirst hrest⟩

/-- A step succeeds for a list exactly if it succeeds for every value, since the
first failure ends the run. -/
theorem mapM_isOk_iff {step : A → Except E B} {list : List A} :
    (∃ results, list.mapM step = .ok results) ↔
      ∀ value ∈ list, ∃ result, step value = .ok result := by
  simp only [mapM_eq_ok, exists_forall₂_iff]

theorem mapM_congr {left right : A → Except E B} {list : List A}
    (hsteps : ∀ value ∈ list, left value = right value) : list.mapM left = list.mapM right := by
  induction list with
  | nil => rfl
  | cons first rest ih =>
      obtain ⟨hfirst, hrest⟩ := List.forall_mem_cons.1 hsteps
      rw [List.mapM_cons, List.mapM_cons, hfirst, ih hrest]

/-- What holds of the value, or of the error if there is one. -/
def Ends (result : Except E A) (Holds : A → Prop) (Leaves : E → Prop) : Prop :=
  match result with
  | .ok value => Holds value
  | .error error => Leaves error

/-- Two steps in a row keep their promise if the second keeps its own for every
value that the first promises, and failures of either are allowed. -/
theorem Ends.bind {step : Except E A} {rest : A → Except E B} {Between : A → Prop}
    {Holds : B → Prop} {Leaves : E → Prop} (hstep : Ends step Between Leaves)
    (hrest : ∀ value, Between value → Ends (rest value) Holds Leaves) :
    Ends (step >>= rest) Holds Leaves := by
  cases step with
  | error error => exact hstep
  | ok value => exact hrest value hstep

/-- A loop with early returns: what holds of the values passed so far holds at the end. -/
theorem foldlM_ends {step : B → A → Except E B} (Holds : List A → B → Prop) {Leaves : E → Prop}
    (hstep : ∀ seen state value, Holds seen state →
      Ends (step state value) (Holds (seen ++ [value])) Leaves)
    {seen : List A} {state : B} (hstate : Holds seen state) (list : List A) :
    Ends (list.foldlM step state) (Holds (seen ++ list)) Leaves := by
  induction list generalizing seen state with
  | nil =>
      rw [List.append_nil]
      exact hstate
  | cons value list ih =>
      rw [List.foldlM_cons, List.append_cons]
      exact (hstep seen state value hstate).bind fun next hnext => ih hnext

/-- A pass over the selected values, with an empty group for every other value. -/
theorem groups_of_mapM_filterMap {C : Type} {select : A → Option C} {step : C → Except E (List B)}
    {list : List A} {nested : List (List B)}
    (hnested : (list.filterMap select).mapM step = .ok nested) :
    ∃ groups, nested.flatten = groups.flatten ∧
      List.Forall₂ (fun value group => select value = none ∧ group = [] ∨
        ∃ selected, select value = some selected ∧ step selected = .ok group) list groups := by
  induction list generalizing nested with
  | nil =>
      rw [List.filterMap_nil, List.mapM_nil, pure_eq_ok] at hnested
      exact ⟨[], by rw [← hnested], .nil⟩
  | cons value list ih =>
      cases hselect : select value with
      | none =>
          rw [List.filterMap_cons_none hselect] at hnested
          obtain ⟨groups, hflatten, hgroups⟩ := ih hnested
          exact ⟨[] :: groups, hflatten, .cons (.inl ⟨hselect, rfl⟩) hgroups⟩
      | some selected =>
          rw [List.filterMap_cons_some hselect, mapM_eq_ok] at hnested
          cases hnested with
          | cons hfirst hrest =>
              obtain ⟨groups, hflatten, hgroups⟩ := ih (mapM_eq_ok.2 hrest)
              exact ⟨_ :: groups, by rw [List.flatten_cons, List.flatten_cons, hflatten],
                .cons (.inr ⟨selected, hselect, hfirst⟩) hgroups⟩

/-! ## Kinds of errors -/

/-- The result is an error of the kind. -/
def FailsWith (Leaves : E → Prop) (result : Except E A) : Prop :=
  ∃ error, result = .error error ∧ Leaves error

section FailsWith

variable {Leaves : E → Prop}

theorem failsWith_error {error : E} :
    FailsWith Leaves (.error error : Except E A) ↔ Leaves error := by
  constructor
  · rintro ⟨other, heq, hleaves⟩
    cases heq
    exact hleaves
  · exact fun hleaves => ⟨error, rfl, hleaves⟩

theorem not_failsWith_ok (value : A) : ¬FailsWith Leaves (.ok value) := by
  rintro ⟨error, heq, -⟩
  cases heq

theorem not_failsWith_of_isOk {result : Except E A} (hresult : ∃ value, result = .ok value) :
    ¬FailsWith Leaves result := by
  obtain ⟨value, rfl⟩ := hresult
  exact not_failsWith_ok value

/-- Two steps in a row fail in a certain way exactly if the first does, or it
succeeds and the second does for its value. -/
theorem failsWith_bind {step : Except E A} {rest : A → Except E B} :
    FailsWith Leaves (step >>= rest) ↔
      FailsWith Leaves step ∨ ∃ value, step = .ok value ∧ FailsWith Leaves (rest value) := by
  cases step with
  | error error => simp [error_bind, failsWith_error]
  | ok value => simp [ok_bind, not_failsWith_ok]

/-- What always succeeds behind a step adds no error. -/
theorem failsWith_bind_of_isOk {step : Except E A} {rest : A → Except E B}
    (hrest : ∀ value, ∃ result, rest value = .ok result) :
    FailsWith Leaves (step >>= rest) ↔ FailsWith Leaves step := by
  rw [failsWith_bind, or_iff_left]
  rintro ⟨value, -, hfails⟩
  exact not_failsWith_of_isOk (hrest value) hfails

theorem failsWith_bind_pure {step : Except E A} {convert : A → B} :
    FailsWith Leaves (step >>= fun value => pure (convert value)) ↔ FailsWith Leaves step :=
  failsWith_bind_of_isOk fun value => ⟨convert value, rfl⟩

/-- A check in front leaves with its own error, or what follows decides. -/
theorem failsWith_require_bind {condition : Prop} [Decidable condition] {error : E}
    {rest : Unit → Except E B} (hleaves : Leaves error) :
    FailsWith Leaves (require condition error >>= rest) ↔
      ¬condition ∨ FailsWith Leaves (rest ()) := by
  unfold require
  by_cases hcondition : condition
  · simp [hcondition, ok_bind]
  · simp [hcondition, error_bind, failsWith_error, hleaves]

/-- A failure with a converted error is a failure whose error is converted, so
conditions on errors are pulled back. -/
theorem failsWith_mapError {convert : F → E} {result : Except F A} :
    FailsWith Leaves (result.mapError convert) ↔
      FailsWith (fun error => Leaves (convert error)) result := by
  cases result with
  | error error =>
      have hkind : FailsWith (fun error => Leaves (convert error)) (.error error : Except F A) ↔
          Leaves (convert error) := failsWith_error
      rw [hkind]
      exact failsWith_error
  | ok value => exact iff_of_false (not_failsWith_ok value) (not_failsWith_ok value)

theorem failsWith_map {convert : A → B} {result : Except E A} :
    FailsWith Leaves (result.map convert) ↔ FailsWith Leaves result := by
  cases result with
  | error error => exact failsWith_error.trans failsWith_error.symm
  | ok value => exact iff_of_false (not_failsWith_ok _) (not_failsWith_ok value)

end FailsWith

/-- A value that stops a pass is met, and every value before it is passed. -/
inductive Met (Passes Stops : A → Prop) : List A → Prop where
  | here {value : A} {rest : List A} (hstops : Stops value) : Met Passes Stops (value :: rest)
  | later {value : A} {rest : List A} (hpasses : Passes value) (hrest : Met Passes Stops rest) :
      Met Passes Stops (value :: rest)

section Met

variable {Passes Stops : A → Prop}

theorem not_met_nil : ¬Met Passes Stops [] := by
  intro hmet
  cases hmet

/-- A stop is met in a list if the head is one, or if the head is passed and a stop
is met behind it. -/
theorem met_cons {value : A} {rest : List A} :
    Met Passes Stops (value :: rest) ↔ Stops value ∨ Passes value ∧ Met Passes Stops rest := by
  constructor
  · intro hmet
    cases hmet with
    | here hstops => exact .inl hstops
    | later hpasses hrest => exact .inr ⟨hpasses, hrest⟩
  · rintro (hstops | ⟨hpasses, hrest⟩)
    · exact .here hstops
    · exact .later hpasses hrest

/-- Stops are met in a converted list where their preimages are met in the list. -/
theorem met_map {convert : B → A} {list : List B} :
    Met Passes Stops (list.map convert) ↔
      Met (fun value => Passes (convert value)) (fun value => Stops (convert value)) list := by
  induction list with
  | nil => exact iff_of_false not_met_nil not_met_nil
  | cons value rest ih => rw [List.map_cons, met_cons, met_cons, ih]

/-- A value that is passed need not be looked at again for what stops. -/
theorem met_and_not {list : List A} :
    Met (fun value => ¬Stops value ∧ Passes value) Stops list ↔ Met Passes Stops list := by
  induction list with
  | nil => exact iff_of_false not_met_nil not_met_nil
  | cons value rest ih =>
      rw [met_cons, met_cons, ih]
      by_cases hstops : Stops value <;> simp [hstops]

/-- Where everything passes, one value that stops is enough. -/
theorem met_of_forall {list : List A} (hpasses : ∀ value ∈ list, Passes value) :
    Met Passes Stops list ↔ ∃ value ∈ list, Stops value := by
  induction list with
  | nil => simp [not_met_nil]
  | cons value rest ih =>
      obtain ⟨hvalue, hrest⟩ := List.forall_mem_cons.1 hpasses
      rw [met_cons, ih hrest, List.exists_mem_cons_iff, and_iff_right hvalue]

/-- One of two kinds of stops is met first or the other is: both are met by passing
the same values. -/
theorem met_or {Stops Others : A → Prop} {list : List A} :
    Met Passes (fun value => Stops value ∨ Others value) list ↔
      Met Passes Stops list ∨ Met Passes Others list := by
  induction list with
  | nil => simp [not_met_nil]
  | cons value rest ih =>
      rw [met_cons, met_cons, met_cons, ih, and_or_left, or_or_or_comm]

/-- What stops a pass first is met alone. -/
theorem not_met_of_met {Stops Others : A → Prop} {list : List A}
    (hstops : ∀ value, Stops value → ¬Passes value ∧ ¬Others value)
    (hothers : ∀ value, Others value → ¬Passes value) (hmet : Met Passes Stops list) :
    ¬Met Passes Others list := by
  induction hmet with
  | here hvalue =>
      rw [met_cons, not_or, not_and]
      exact ⟨(hstops _ hvalue).2, fun hpasses => absurd hpasses (hstops _ hvalue).1⟩
  | later hpasses hrest ih =>
      rw [met_cons, not_or, not_and]
      exact ⟨fun hvalue => hothers _ hvalue hpasses, fun _ => ih⟩

/-- The error of a pass is that of the first step that fails. -/
theorem failsWith_mapM {Leaves : E → Prop} {step : A → Except E B} {list : List A} :
    FailsWith Leaves (list.mapM step) ↔
      Met (fun value => ∃ result, step value = .ok result)
        (fun value => FailsWith Leaves (step value)) list := by
  induction list with
  | nil => exact iff_of_false (not_failsWith_ok []) not_met_nil
  | cons value rest ih =>
      rw [List.mapM_cons, failsWith_bind, met_cons, ← ih]
      simp only [failsWith_bind_pure]
      rw [exists_and_right]

end Met

end VisualSignParser.Outcome
