import VisualSignParser.Json.Canonical
import VisualSignParser.VisualSign.KeyOrder

/-!
# Canonical arguments of an instruction

The parsed arguments of an instruction are signed over as compact text, so
their keys are sorted at every depth whatever map the JSON crate was built
with.  This walk sorts the members first and canonicalizes them in that order,
where the payload's own sorter does both the other way round; they are the same
function.
-/

namespace VisualSignParser.Solana

open VisualSignParser.Json
open VisualSignParser.OrderedMap
open VisualSignParser.VisualSign

mutual

def canonicalizeValue (backing : Backing) : Value → Value
  | .object members => .object (canonicalizeMap backing members)
  | .array items => .array (items.attach.map fun item => canonicalizeValue backing item.1)
  | value => value
termination_by value => 2 * value.depth
decreasing_by
  · simp only [Value.depth]
    omega
  · have hitem := itemsDepth_le_iff.1 le_rfl item.1 item.2
    simp only [Value.depth]
    omega

/-- The members are sorted by reference and inserted into a new map in that
order. -/
def canonicalizeMap (backing : Backing) (members : List (String × Value)) :
    List (String × Value) :=
  backing.collect ((collectSorted members).attach.map fun entry =>
    (entry.1.1, canonicalizeValue backing entry.1.2))
termination_by 2 * membersDepth members + 1
decreasing_by
  have hentry := membersDepth_le_iff.1 le_rfl entry.1 (mem_of_mem_collectSorted entry.2)
  omega

end

/-- Writing a map as text never fails, so the fallback text is never used. -/
def canonicalArgsJson (backing : Backing) (args : List (String × Value)) : String :=
  String.ofList (Value.object (canonicalizeMap backing args)).render

/-! ## One canonical form -/

theorem canonicalizeValue_array (backing : Backing) (items : List Value) :
    canonicalizeValue backing (.array items) =
      .array (items.map (canonicalizeValue backing)) := by
  rw [canonicalizeValue]
  exact congrArg Value.array List.attach_map_val

theorem canonicalizeMap_eq (backing : Backing) (members : List (String × Value)) :
    canonicalizeMap backing members = backing.collect
      ((collectSorted members).map fun entry =>
        (entry.1, canonicalizeValue backing entry.2)) := by
  rw [canonicalizeMap]
  exact congrArg backing.collect (List.attach_map_val (f := fun entry : String × Value =>
    (entry.1, canonicalizeValue backing entry.2)))

/-- Sorting members and then changing their values is the same as changing
their values and then sorting. -/
theorem collect_map_collectSorted (backing : Backing) {members : List (String × Value)}
    (hdistinct : DistinctKeys members) (transform : Value → Value) :
    backing.collect ((collectSorted members).map fun entry => (entry.1, transform entry.2)) =
      collectSorted (members.map fun entry => (entry.1, transform entry.2)) := by
  have hmapped := (distinctKeys_map transform).2 hdistinct
  have hascending : Ascending
      ((collectSorted members).map fun entry => (entry.1, transform entry.2)) := by
    rw [ascending_iff_keys, List.map_map]
    exact ascending_iff_keys.1 (ascending_collectSorted members)
  calc
    backing.collect ((collectSorted members).map fun entry => (entry.1, transform entry.2)) =
        (collectSorted members).map fun entry => (entry.1, transform entry.2) :=
      backing.collect_of_ascending hascending
    _ = collectSorted ((collectSorted members).map fun entry => (entry.1, transform entry.2)) :=
      (collectSorted_of_ascending hascending).symm
    _ = collectSorted (members.map fun entry => (entry.1, transform entry.2)) :=
      collectSorted_eq_of_perm hmapped ((collectSorted_perm hdistinct).map _)

theorem canonicalizeValue_eq_canon (backing : Backing) {value : Value}
    (hdistinct : value.Distinct) : canonicalizeValue backing value = value.canon := by
  induction value using Value.induction with
  | array items ih =>
      rw [distinct_array] at hdistinct
      rw [canonicalizeValue_array, canon_array]
      exact congrArg Value.array
        (List.map_congr_left fun item hmem => ih item hmem (hdistinct item hmem))
  | object members ih =>
      rw [distinct_object] at hdistinct
      rw [canonicalizeValue, canonicalizeMap_eq, canon_object, canonMembers,
        collect_map_collectSorted backing hdistinct.1]
      apply congrArg fun entries => Value.object (collectSorted entries)
      apply List.map_congr_left
      intro entry hmem
      rw [ih entry hmem (hdistinct.2 entry hmem)]
  | null => simp [canonicalizeValue, Value.rebuild]
  | bool flag => simp [canonicalizeValue, Value.rebuild]
  | number number => simp [canonicalizeValue, Value.rebuild]
  | string text => simp [canonicalizeValue, Value.rebuild]

/-- Sorting a value in memory keeps what stands at the end of every path, leaves
no keys to sort and depends on the value only up to key order; the arguments of
an instruction are written as the text of the same sorted value. -/
theorem canonicalization_agrees (backing : Backing) (value : MapValue) :
    (∀ path, (sortJsonAlphabetically backing value.1).nodeAt path = value.1.nodeAt path) ∧
    (sortJsonAlphabetically backing value.1).Ordered ∧
    sortJsonAlphabetically backing (sortJsonAlphabetically backing value.1) =
      sortJsonAlphabetically backing value.1 ∧
    (∀ other : MapValue,
      sortJsonAlphabetically backing other.1 = sortJsonAlphabetically backing value.1 ↔
        ∀ path, other.1.nodeAt path = value.1.nodeAt path) ∧
    canonicalizeValue backing value.1 = sortJsonAlphabetically backing value.1 ∧
    ∀ args, value.1 = .object args →
      canonicalArgsJson backing args =
        String.ofList (sortJsonAlphabetically backing value.1).render := by
  simp only [sortJsonAlphabetically_eq_canon]
  have hordered := ordered_canon value.2
  refine ⟨fun path => nodeAt_canon path value.2, hordered, rebuild_of_ordered .sorted hordered,
    fun other => canon_eq_iff_nodeAt value.2 other.2,
    canonicalizeValue_eq_canon backing value.2, ?_⟩
  intro args hargs
  have hvalue := canonicalizeValue_eq_canon backing value.2
  rw [hargs, canonicalizeValue] at hvalue
  rw [canonicalArgsJson, hargs, hvalue]

end VisualSignParser.Solana
