import Mathlib.Data.List.Forall2
import Mathlib.Data.Option.Basic

/-!
# Computations with a trace

A recursive program is run with fuel and leaves an event for each of its calls.
Without fuel, or after a panic, there is no result.  The rules below follow the
text of a program: they show that a run ends, that all of its events are allowed
and that its value is as required.
-/

namespace VisualSignParser

/-- A value together with the events on the way to it, if the run ends. -/
@[ext]
structure Traced (Event A : Type) where
  outcome : Option (A × List Event)

namespace Traced

variable {Event A B : Type}

/-- The events of the second part come behind those of the first. -/
def andThen (run : Traced Event A) (next : A → Traced Event B) : Traced Event B :=
  ⟨run.outcome.bind fun step =>
    (next step.1).outcome.map fun last => (last.1, step.2 ++ last.2)⟩

instance : Monad (Traced Event) where
  pure value := ⟨some (value, [])⟩
  bind := andThen

theorem pure_andThen (value : A) (next : A → Traced Event B) :
    andThen ⟨some (value, [])⟩ next = next value := by
  ext1
  exact Option.map_id_apply

theorem andThen_pure (run : Traced Event A) :
    (andThen run fun value => ⟨some (value, [])⟩) = run := by
  ext1
  cases hrun : run.outcome with
  | none => simp [andThen, hrun]
  | some step => simp [andThen, hrun]

theorem andThen_assoc {C : Type} (run : Traced Event A) (next : A → Traced Event B)
    (last : B → Traced Event C) :
    andThen (andThen run next) last = andThen run fun value => andThen (next value) last := by
  ext1
  cases hrun : run.outcome with
  | none => simp [andThen, hrun]
  | some step =>
      cases hnext : (next step.1).outcome with
      | none => simp [andThen, hrun, hnext]
      | some middle =>
          cases hlast : (last middle.1).outcome with
          | none => simp [andThen, hrun, hnext, hlast]
          | some final => simp [andThen, hrun, hnext, hlast]

instance : LawfulMonad (Traced Event) :=
  LawfulMonad.mk' (Traced Event) andThen_pure pure_andThen andThen_assoc

/-- A run that leaves one event. -/
def emit (event : Event) : Traced Event Unit := ⟨some ((), [event])⟩

/-- A run that does not end. -/
def stuck : Traced Event A := ⟨none⟩

/-! ## Rules -/

/-- The run ends, its events are allowed and its value is as required. -/
def Meets (Allowed : Event → Prop) (Required : A → Prop) (run : Traced Event A) : Prop :=
  ∃ value events, run.outcome = some (value, events) ∧ (∀ event ∈ events, Allowed event) ∧
    Required value

variable {Allowed : Event → Prop} {Required Weaker : A → Prop} {Ensured : B → Prop}

theorem meets_pure {value : A} (hvalue : Required value) :
    Meets Allowed Required (pure value : Traced Event A) :=
  ⟨value, [], rfl, fun _ hevent => absurd hevent List.not_mem_nil, hvalue⟩

theorem meets_emit {event : Event} (hevent : Allowed event) :
    Meets Allowed (fun _ => True) (emit event) := by
  refine ⟨(), [event], rfl, ?_, trivial⟩
  intro other hother
  rw [List.mem_singleton.1 hother]
  exact hevent

theorem Meets.mono {run : Traced Event A} (hrun : Meets Allowed Required run)
    (hweaker : ∀ value, Required value → Weaker value) : Meets Allowed Weaker run := by
  obtain ⟨value, events, hvalue, hevents, hrequired⟩ := hrun
  exact ⟨value, events, hvalue, hevents, hweaker value hrequired⟩

theorem Meets.bind {run : Traced Event A} {next : A → Traced Event B}
    (hrun : Meets Allowed Required run)
    (hnext : ∀ value, Required value → Meets Allowed Ensured (next value)) :
    Meets Allowed Ensured (run >>= next) := by
  obtain ⟨value, events, hvalue, hevents, hrequired⟩ := hrun
  obtain ⟨result, later, hresult, hlater, hensured⟩ := hnext value hrequired
  refine ⟨result, events ++ later, ?_, ?_, hensured⟩
  · change (andThen run next).outcome = _
    simp [andThen, hvalue, hresult]
  · intro event hevent
    rcases List.mem_append.1 hevent with hfirst | hsecond
    · exact hevents event hfirst
    · exact hlater event hsecond

/-- A pass over a list meets what each of its steps meets. -/
theorem meets_mapM {step : A → Traced Event B} {Related : A → B → Prop} {list : List A}
    (hstep : ∀ value ∈ list, Meets Allowed (Related value) (step value)) :
    Meets Allowed (fun results => List.Forall₂ Related list results) (list.mapM step) := by
  induction list with
  | nil => exact meets_pure .nil
  | cons first rest ih =>
      obtain ⟨hfirst, hrest⟩ := List.forall_mem_cons.1 hstep
      rw [List.mapM_cons]
      apply hfirst.bind
      intro result hresult
      apply (ih hrest).bind
      intro results hresults
      exact meets_pure (.cons hresult hresults)

/-! ## Runs that may fail -/

variable {E : Type}

/-- A failure of the first part is the failure of the whole. -/
theorem Meets.run_bind {step : ExceptT E (Traced Event) A}
    {next : A → ExceptT E (Traced Event) B} {First : Except E A → Prop}
    {Whole : Except E B → Prop} (hstep : Meets Allowed First step.run)
    (hok : ∀ value, First (.ok value) → Meets Allowed Whole (next value).run)
    (herror : ∀ error, First (.error error) → Whole (.error error)) :
    Meets Allowed Whole (step >>= next).run := by
  rw [ExceptT.run_bind]
  apply hstep.bind
  intro result hresult
  cases result with
  | ok value => exact hok value hresult
  | error error => exact meets_pure (herror error hresult)

theorem Meets.run_lift {run : Traced Event A} (hrun : Meets Allowed Required run) :
    Meets Allowed (fun result => ∃ value, result = .ok value ∧ Required value)
      (ExceptT.lift run : ExceptT E (Traced Event) A).run := by
  rw [ExceptT.run_lift, map_eq_pure_bind]
  apply hrun.bind
  intro value hvalue
  exact meets_pure ⟨value, rfl, hvalue⟩

end Traced

end VisualSignParser
