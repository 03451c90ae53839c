import VisualSignParser.Codec.Traced

/-!
# Events allowed by their history

What a program may do next often depends on what it has done before.  A run
leads from one condition on the history to another when it ends, when every
event is allowed by the events in front of it, and when the condition at the end
holds of the whole history.
-/

namespace VisualSignParser.Traced

variable {Event A B : Type}

/-- Every event is allowed by what happened before it. -/
def Permitted (Allowed : List Event → Event → Prop) (history : List Event) : List Event → Prop
  | [] => True
  | event :: rest => Allowed history event ∧ Permitted Allowed (history ++ [event]) rest

/-- The run ends, its events are allowed by their history, and the condition at
the end holds where the one at the start does. -/
def Leads (Allowed : List Event → Event → Prop) (Before : List Event → Prop)
    (run : Traced Event A) (After : A → List Event → Prop) : Prop :=
  ∀ history, Before history → ∃ value events, run.outcome = some (value, events) ∧
    Permitted Allowed history events ∧ After value (history ++ events)

variable {Allowed : List Event → Event → Prop} {Before Stronger : List Event → Prop}
  {After Weaker : A → List Event → Prop} {Finally : B → List Event → Prop}

theorem permitted_append {history first second : List Event} :
    Permitted Allowed history (first ++ second) ↔
      Permitted Allowed history first ∧ Permitted Allowed (history ++ first) second := by
  induction first generalizing history with
  | nil => simp [Permitted]
  | cons event first ih =>
      rw [List.cons_append, Permitted, Permitted, ih, and_assoc, List.append_assoc,
        List.singleton_append]

/-- An event is allowed by all that stands in front of it. -/
theorem Permitted.allowed {history before after : List Event} {event : Event}
    (hpermitted : Permitted Allowed history (before ++ event :: after)) :
    Allowed (history ++ before) event :=
  (permitted_append.1 hpermitted).2.1

theorem Permitted.exists_before {events : List Event} {event : Event}
    (hpermitted : Permitted Allowed [] events) (hevent : event ∈ events) :
    ∃ before, before ⊆ events ∧ Allowed before event := by
  obtain ⟨before, after, rfl⟩ := List.append_of_mem hevent
  exact ⟨before, List.subset_append_left before _, hpermitted.allowed⟩

theorem leads_pure {value : A} (hvalue : ∀ history, Before history → After value history) :
    Leads Allowed Before (pure value) After := by
  intro history hbefore
  refine ⟨value, [], rfl, trivial, ?_⟩
  rw [List.append_nil]
  exact hvalue history hbefore

theorem leads_emit {event : Event} {After : Unit → List Event → Prop}
    (hevent : ∀ history, Before history →
      Allowed history event ∧ After () (history ++ [event])) :
    Leads Allowed Before (emit event) After := fun history hbefore =>
  ⟨(), [event], rfl, ⟨(hevent history hbefore).1, trivial⟩, (hevent history hbefore).2⟩

theorem Leads.bind {run : Traced Event A} {next : A → Traced Event B}
    (hrun : Leads Allowed Before run After)
    (hnext : ∀ value, Leads Allowed (After value) (next value) Finally) :
    Leads Allowed Before (run >>= next) Finally := by
  intro history hbefore
  obtain ⟨value, events, hvalue, hevents, hafter⟩ := hrun history hbefore
  obtain ⟨result, later, hresult, hlater, hfinally⟩ := hnext value _ hafter
  refine ⟨result, events ++ later, ?_, permitted_append.2 ⟨hevents, hlater⟩, ?_⟩
  · change (andThen run next).outcome = _
    simp [andThen, hvalue, hresult]
  · rwa [← List.append_assoc]

theorem Leads.mono {run : Traced Event A} (hrun : Leads Allowed Before run After)
    (hbefore : ∀ history, Stronger history → Before history)
    (hafter : ∀ value history, After value history → Weaker value history) :
    Leads Allowed Stronger run Weaker := by
  intro history hstronger
  obtain ⟨value, events, hvalue, hevents, hholds⟩ := hrun history (hbefore history hstronger)
  exact ⟨value, events, hvalue, hevents, hafter value _ hholds⟩

section Failing

variable {E : Type} {Holds : A → List Event → Prop} {Finishes : B → List Event → Prop}
  {Fails : List Event → Prop}

/-- One condition for the value, and one for a failure. -/
def Ending (Holds : A → List Event → Prop) (Fails : List Event → Prop) :
    Except E A → List Event → Prop
  | .ok value, history => Holds value history
  | .error _, history => Fails history

/-- Both conditions at the end may be weakened. -/
theorem Leads.ending_mono {script : ExceptT E (Traced Event) A} {Less : A → List Event → Prop}
    {Broken : List Event → Prop} (hscript : Leads Allowed Before script.run (Ending Holds Broken))
    (hholds : ∀ value history, Holds value history → Less value history)
    (hfails : ∀ history, Broken history → Fails history) :
    Leads Allowed Before script.run (Ending Less Fails) := by
  refine hscript.mono (fun _ hbefore => hbefore) fun result history hresult => ?_
  cases result with
  | ok value => exact hholds value history hresult
  | error error => exact hfails history hresult

/-- A part that may fail and the rest behind it, which is left out after a failure. -/
theorem Leads.ending_bind {step : ExceptT E (Traced Event) A}
    {next : A → ExceptT E (Traced Event) B}
    (hstep : Leads Allowed Before step.run (Ending Holds Fails))
    (hnext : ∀ value, Leads Allowed (Holds value) (next value).run (Ending Finishes Fails)) :
    Leads Allowed Before (step >>= next).run (Ending Finishes Fails) := by
  rw [ExceptT.run_bind]
  apply hstep.bind
  intro result
  cases result with
  | ok value => exact hnext value
  | error error => exact leads_pure fun _ hfails => hfails

/-- The same, with the condition between the two parts. -/
theorem leads_through (Between : A → List Event → Prop) {step : ExceptT E (Traced Event) A}
    {next : A → ExceptT E (Traced Event) B}
    (hstep : Leads Allowed Before step.run (Ending Between Fails))
    (hnext : ∀ value, Leads Allowed (Between value) (next value).run (Ending Finishes Fails)) :
    Leads Allowed Before (step >>= next).run (Ending Finishes Fails) :=
  hstep.ending_bind hnext

theorem leads_value {value : A} (hvalue : ∀ history, Before history → Holds value history) :
    Leads Allowed Before (pure value : ExceptT E (Traced Event) A).run (Ending Holds Fails) :=
  leads_pure hvalue

theorem leads_event {event : Event} {Holds : Unit → List Event → Prop}
    (hevent : ∀ history, Before history → Allowed history event ∧ Holds () (history ++ [event])) :
    Leads Allowed Before (ExceptT.lift (emit event) : ExceptT E (Traced Event) Unit).run
      (Ending Holds Fails) := by
  rw [ExceptT.run_lift, map_eq_pure_bind]
  exact (leads_emit hevent).bind fun _ => leads_pure fun _ hholds => hholds

/-- A result that is already there. -/
theorem leads_result {result : Except E A}
    (hok : ∀ value history, result = .ok value → Before history → Holds value history)
    (herror : ∀ error history, result = .error error → Before history → Fails history) :
    Leads Allowed Before (ExceptT.mk (pure result) : ExceptT E (Traced Event) A).run
      (Ending Holds Fails) := by
  cases result with
  | ok value => exact leads_pure fun history hbefore => hok value history rfl hbefore
  | error error => exact leads_pure fun history hbefore => herror error history rfl hbefore

/-- A failure that is kept for later is a value. -/
theorem leads_kept {script : ExceptT E (Traced Event) A} {Broken : List Event → Prop}
    (hscript : Leads Allowed Before script.run (Ending Holds Broken)) :
    Leads Allowed Before (ExceptT.lift script.run : ExceptT E (Traced Event) (Except E A)).run
      (Ending (Ending Holds Broken) Fails) := by
  rw [ExceptT.run_lift, map_eq_pure_bind]
  exact hscript.bind fun _ => leads_pure fun _ hholds => hholds

/-- A loop over a list keeps what each of its passes keeps. -/
theorem leads_forM {I : Type} {body : I → ExceptT E (Traced Event) PUnit}
    (hbody : ∀ item, Leads Allowed Before (body item).run (Ending (fun _ => Before) Fails))
    (items : List I) :
    Leads Allowed Before (items.forM body).run (Ending (fun _ => Before) Fails) := by
  induction items with
  | nil => exact leads_value fun _ hbefore => hbefore
  | cons item items ih => exact (hbody item).ending_bind fun _ => ih

end Failing

end VisualSignParser.Traced
