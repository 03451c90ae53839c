import Mathlib.Data.Nat.Notation
import Mathlib.Data.Option.Basic

/-!
# Chains of partial steps

A step that may be undefined is taken again and again from a start.  A chain that
comes back to a point it has passed never ends.  A loop is a body that returns or
goes on with another state.
-/

namespace VisualSignParser.Chain

section Steps

variable {State : Type} (next : State → Option State)

/-- Where the given number of steps leads. -/
def after : ℕ → State → Option State
  | 0, start => some start
  | count + 1, start => (next start).bind (after count)

/-- The chain passes a point to which it comes back. -/
def Revisits (start : State) : Prop :=
  ∃ reach period point, after next reach start = some point ∧
    after next (period + 1) point = some point

variable {next} {start point : State}

theorem after_add (reach count : ℕ) (start : State) :
    after next (reach + count) start = (after next reach start).bind (after next count) := by
  induction reach generalizing start with
  | zero => rw [Nat.zero_add, after, Option.bind_some]
  | succ reach ih =>
      rw [Nat.add_right_comm, after, after, Option.bind_assoc]
      exact Option.bind_congr fun following _ => ih following

theorem isSome_after_of_le {few many : ℕ} (hle : few ≤ many)
    (hmany : (after next many start).isSome) : (after next few start).isSome := by
  obtain ⟨rest, rfl⟩ := Nat.exists_eq_add_of_le hle
  rw [after_add] at hmany
  exact Option.isSome_of_isSome_bind hmany

/-- A step can be taken from every point but the last. -/
theorem isSome_next_of_after {count : ℕ} (hafter : after next count start = some point)
    (hlonger : (after next (count + 1) start).isSome) : (next point).isSome := by
  rw [after_add, hafter, Option.bind_some, after] at hlonger
  exact Option.isSome_of_isSome_bind hlonger

theorem after_mul_of_cycle {period : ℕ} (hcycle : after next period point = some point)
    (rounds : ℕ) : after next (rounds * period) point = some point := by
  induction rounds with
  | zero => rw [Nat.zero_mul, after]
  | succ rounds ih => rw [Nat.succ_mul, after_add, ih, Option.bind_some, hcycle]

/-- A chain that comes back to a point has every length. -/
theorem Revisits.isSome_after (hrevisits : Revisits next start) (count : ℕ) :
    (after next count start).isSome := by
  obtain ⟨reach, period, point, hreach, hcycle⟩ := hrevisits
  have hround : after next (count * (period + 1)) point = some point :=
    after_mul_of_cycle hcycle count
  have hlong : (after next (reach + count * (period + 1)) start).isSome := by
    rw [after_add, hreach, Option.bind_some, hround, Option.isSome_some]
  have hle : count ≤ reach + count * (period + 1) :=
    Nat.le_trans (Nat.le_mul_of_pos_right count (Nat.succ_pos period)) (Nat.le_add_left _ _)
  exact isSome_after_of_le hle hlong

end Steps

section Loops

variable {State Result : Type} {body : State → State ⊕ Result}

/-- The loop returns the result in the given number of rounds. -/
inductive Returns (body : State → State ⊕ Result) : State → ℕ → Result → Prop where
  | done {state : State} {result : Result} (hbody : body state = .inr result) :
      Returns body state 1 result
  | again {state following : State} {rounds : ℕ} {result : Result}
      (hbody : body state = .inl following) (hrest : Returns body following rounds result) :
      Returns body state (rounds + 1) result

/-- A loop has one result, after one number of rounds. -/
theorem Returns.unique {state : State} {rounds other : ℕ} {result another : Result}
    (hreturns : Returns body state rounds result) (hother : Returns body state other another) :
    rounds = other ∧ result = another := by
  induction hreturns generalizing other with
  | done hbody =>
      cases hother with
      | done hsame => exact ⟨rfl, Sum.inr.inj (hbody.symm.trans hsame)⟩
      | again hgoes hrest => cases hbody.symm.trans hgoes
  | again hbody hrest ih =>
      cases hother with
      | done hstops => cases hbody.symm.trans hstops
      | again hsame hotherRest =>
          rw [← Sum.inl.inj (hbody.symm.trans hsame)] at hotherRest
          obtain ⟨hrounds, hresult⟩ := ih hotherRest
          exact ⟨congrArg (· + 1) hrounds, hresult⟩

end Loops

end VisualSignParser.Chain
