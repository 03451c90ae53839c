import VisualSignParser.Codec.OrderedMap
import VisualSignParser.Json.Value
import Mathlib.Data.String.Basic

/-!
# Key order of JSON objects

An object map is backed either by a tree map or by an insertion-ordered map,
and a document is rebuilt through that backing each time it becomes a value in
memory.  `canon` sorts the keys of every object.  For documents without
repeated keys the tree-map backing sorts, the insertion-ordered backing changes
nothing, and a document is its own sorted form exactly when its keys ascend at
every depth.
-/

namespace VisualSignParser.Json

open VisualSignParser.OrderedMap

/-- How the object map of the JSON crate is backed. -/
inductive Backing where
  | sorted
  | insertion
  deriving DecidableEq

def Backing.collect (backing : Backing) (members : List (String × Value)) :
    List (String × Value) :=
  match backing with
  | .sorted => collectSorted members
  | .insertion => collectInserted members

mutual

/-- The in-memory value of a document under a backing. -/
def Value.rebuild (backing : Backing) : Value → Value
  | .null => .null
  | .bool flag => .bool flag
  | .number number => .number number
  | .string text => .string text
  | .array items => .array (rebuildItems backing items)
  | .object members => .object (backing.collect (rebuildMembers backing members))

def rebuildItems (backing : Backing) : List Value → List Value
  | [] => []
  | item :: items => item.rebuild backing :: rebuildItems backing items

def rebuildMembers (backing : Backing) : List (String × Value) → List (String × Value)
  | [] => []
  | (key, value) :: members => (key, value.rebuild backing) :: rebuildMembers backing members

end

/-- The document with the keys of every object in ascending order. -/
abbrev Value.canon : Value → Value := Value.rebuild .sorted

/-- The items of an array are rebuilt one by one and keep their places. -/
theorem rebuildItems_eq (backing : Backing) (items : List Value) :
    rebuildItems backing items = items.map (Value.rebuild backing) := by
  induction items with
  | nil => rfl
  | cons item items ih => rw [rebuildItems, ih, List.map_cons]

/-- The members of an object are rebuilt value by value, with the keys as they are. -/
theorem rebuildMembers_eq (backing : Backing) (members : List (String × Value)) :
    rebuildMembers backing members =
      members.map fun entry => (entry.1, entry.2.rebuild backing) := by
  induction members with
  | nil => rfl
  | cons entry members ih => rw [rebuildMembers, ih, List.map_cons]

theorem rebuild_array (backing : Backing) (items : List Value) :
    (Value.array items).rebuild backing = .array (items.map (Value.rebuild backing)) := by
  rw [Value.rebuild, rebuildItems_eq]

/-- An object is rebuilt from the inside: its values first, and then the map that
collects them in the order of its backing. -/
theorem rebuild_object (backing : Backing) (members : List (String × Value)) :
    (Value.object members).rebuild backing =
      .object (backing.collect (members.map fun entry => (entry.1, entry.2.rebuild backing))) := by
  rw [Value.rebuild, rebuildMembers_eq]

/-! ## Ordered documents and documents without repeated keys -/

mutual

/-- The keys of every object ascend strictly. -/
def Value.Ordered : Value → Prop
  | .null => True
  | .bool _ => True
  | .number _ => True
  | .string _ => True
  | .array items => ItemsOrdered items
  | .object members => Ascending members ∧ MembersOrdered members

def ItemsOrdered : List Value → Prop
  | [] => True
  | item :: items => item.Ordered ∧ ItemsOrdered items

def MembersOrdered : List (String × Value) → Prop
  | [] => True
  | (_, value) :: members => value.Ordered ∧ MembersOrdered members

end

mutual

/-- No object repeats a key. -/
def Value.Distinct : Value → Prop
  | .null => True
  | .bool _ => True
  | .number _ => True
  | .string _ => True
  | .array items => ItemsDistinct items
  | .object members => DistinctKeys members ∧ MembersDistinct members

def ItemsDistinct : List Value → Prop
  | [] => True
  | item :: items => item.Distinct ∧ ItemsDistinct items

def MembersDistinct : List (String × Value) → Prop
  | [] => True
  | (_, value) :: members => value.Distinct ∧ MembersDistinct members

end

theorem itemsOrdered_iff (items : List Value) :
    ItemsOrdered items ↔ ∀ item ∈ items, item.Ordered := by
  induction items with
  | nil => simp [ItemsOrdered]
  | cons item items ih => simp [ItemsOrdered, ih]

theorem membersOrdered_iff (members : List (String × Value)) :
    MembersOrdered members ↔ ∀ entry ∈ members, entry.2.Ordered := by
  induction members with
  | nil => simp [MembersOrdered]
  | cons entry members ih => simp [MembersOrdered, ih]

theorem itemsDistinct_iff (items : List Value) :
    ItemsDistinct items ↔ ∀ item ∈ items, item.Distinct := by
  induction items with
  | nil => simp [ItemsDistinct]
  | cons item items ih => simp [ItemsDistinct, ih]

theorem membersDistinct_iff (members : List (String × Value)) :
    MembersDistinct members ↔ ∀ entry ∈ members, entry.2.Distinct := by
  induction members with
  | nil => simp [MembersDistinct]
  | cons entry members ih => simp [MembersDistinct, ih]

theorem ordered_array (items : List Value) :
    (Value.array items).Ordered ↔ ∀ item ∈ items, item.Ordered := by
  rw [Value.Ordered, itemsOrdered_iff]

/-- The keys of an object ascend and those within its values do as well; this is
what a document in canonical order is. -/
theorem ordered_object (members : List (String × Value)) :
    (Value.object members).Ordered ↔
      Ascending members ∧ ∀ entry ∈ members, entry.2.Ordered := by
  rw [Value.Ordered, membersOrdered_iff]

theorem distinct_array (items : List Value) :
    (Value.array items).Distinct ↔ ∀ item ∈ items, item.Distinct := by
  rw [Value.Distinct, itemsDistinct_iff]

/-- No key of an object occurs twice, nor does one within its values. -/
theorem distinct_object (members : List (String × Value)) :
    (Value.object members).Distinct ↔
      DistinctKeys members ∧ ∀ entry ∈ members, entry.2.Distinct := by
  rw [Value.Distinct, membersDistinct_iff]

/-- A change to the values alone leaves the keys as they are, and with them whether
they are distinct. -/
theorem distinctKeys_map {members : List (String × Value)} (transform : Value → Value) :
    DistinctKeys (members.map fun entry => (entry.1, transform entry.2)) ↔
      DistinctKeys members := by
  unfold DistinctKeys
  rw [List.pairwise_map]

/-- Keys in ascending order are distinct, on every level of the document. -/
theorem Value.Ordered.distinct {value : Value} (hordered : value.Ordered) : value.Distinct := by
  induction value using Value.induction with
  | null => trivial
  | bool flag => trivial
  | number number => trivial
  | string text => trivial
  | array items ih =>
      rw [ordered_array] at hordered
      exact (distinct_array items).2 fun item hitem => ih item hitem (hordered item hitem)
  | object members ih =>
      rw [ordered_object] at hordered
      exact (distinct_object members).2 ⟨hordered.1.distinctKeys,
        fun entry hentry => ih entry hentry (hordered.2 entry hentry)⟩

/-! ## Rebuilding -/

/-- Neither backing changes members whose keys ascend. -/
theorem Backing.collect_of_ascending (backing : Backing) {members : List (String × Value)}
    (hmembers : Ascending members) : backing.collect members = members := by
  cases backing with
  | sorted => exact collectSorted_of_ascending hmembers
  | insertion => exact collectInserted_of_distinctKeys hmembers.distinctKeys

/-- Rebuilding changes nothing in an ordered document, whatever the backing. -/
theorem rebuild_of_ordered (backing : Backing) {value : Value} (hordered : value.Ordered) :
    value.rebuild backing = value := by
  induction value using Value.induction with
  | null => rfl
  | bool flag => rfl
  | number number => rfl
  | string text => rfl
  | array items ih =>
      rw [ordered_array] at hordered
      have hitems : items.map (Value.rebuild backing) = items :=
        (List.map_congr_left fun item hitem => ih item hitem (hordered item hitem)).trans
          (List.map_id items)
      rw [rebuild_array, hitems]
  | object members ih =>
      rw [ordered_object] at hordered
      have hmembers : (members.map fun entry => (entry.1, entry.2.rebuild backing)) = members := by
        apply Eq.trans _ (List.map_id members)
        apply List.map_congr_left
        intro entry hentry
        rw [ih entry hentry (hordered.2 entry hentry)]
        rfl
      rw [rebuild_object, hmembers, backing.collect_of_ascending hordered.1]

/-- The insertion-ordered backing keeps a document without repeated keys. -/
theorem rebuild_insertion {value : Value} (hdistinct : value.Distinct) :
    value.rebuild .insertion = value := by
  induction value using Value.induction with
  | null => rfl
  | bool flag => rfl
  | number number => rfl
  | string text => rfl
  | array items ih =>
      rw [distinct_array] at hdistinct
      have hitems : items.map (Value.rebuild .insertion) = items :=
        (List.map_congr_left fun item hitem => ih item hitem (hdistinct item hitem)).trans
          (List.map_id items)
      rw [rebuild_array, hitems]
  | object members ih =>
      rw [distinct_object] at hdistinct
      have hmembers : (members.map fun entry => (entry.1, entry.2.rebuild .insertion)) =
          members := by
        apply Eq.trans _ (List.map_id members)
        apply List.map_congr_left
        intro entry hentry
        rw [ih entry hentry (hdistinct.2 entry hentry)]
        rfl
      rw [rebuild_object, hmembers, Backing.collect,
        collectInserted_of_distinctKeys hdistinct.1]

/-- The members of a sorted object. -/
def canonMembers (members : List (String × Value)) : List (String × Value) :=
  collectSorted (members.map fun entry => (entry.1, entry.2.canon))

theorem canon_object (members : List (String × Value)) :
    (Value.object members).canon = .object (canonMembers members) :=
  rebuild_object .sorted members

theorem canon_array (items : List Value) :
    (Value.array items).canon = .array (items.map Value.canon) :=
  rebuild_array .sorted items

/-- The canonical members of an object are its members with canonical values, in
another order. -/
theorem canonMembers_perm {members : List (String × Value)} (hdistinct : DistinctKeys members) :
    (canonMembers members).Perm (members.map fun entry => (entry.1, entry.2.canon)) :=
  collectSorted_perm ((distinctKeys_map Value.canon).2 hdistinct)

/-- The canonical form has its keys in ascending order on every level, by induction
on the document. -/
theorem ordered_canon {value : Value} (hdistinct : value.Distinct) : value.canon.Ordered := by
  induction value using Value.induction with
  | null => trivial
  | bool flag => trivial
  | number number => trivial
  | string text => trivial
  | array items ih =>
      rw [distinct_array] at hdistinct
      rw [canon_array, ordered_array]
      intro item hitem
      obtain ⟨source, hsource, rfl⟩ := List.mem_map.1 hitem
      exact ih source hsource (hdistinct source hsource)
  | object members ih =>
      rw [distinct_object] at hdistinct
      rw [canon_object, ordered_object]
      apply And.intro (ascending_collectSorted _)
      intro entry hentry
      obtain ⟨source, hsource, rfl⟩ :=
        List.mem_map.1 ((canonMembers_perm hdistinct.1).mem_iff.1 hentry)
      exact ih source hsource (hdistinct.2 source hsource)

/-- A document without repeated keys is its own canonical form exactly if its keys
are in order already, so the form can be checked without computing it. -/
theorem canon_eq_self_iff {value : Value} (hdistinct : value.Distinct) :
    value.canon = value ↔ value.Ordered := by
  constructor
  · intro heq
    exact heq ▸ ordered_canon hdistinct
  · exact rebuild_of_ordered .sorted

theorem distinct_rebuild (backing : Backing) {value : Value} (hdistinct : value.Distinct) :
    (value.rebuild backing).Distinct := by
  cases backing with
  | sorted => exact (ordered_canon hdistinct).distinct
  | insertion => rwa [rebuild_insertion hdistinct]

/-- Sorting undoes whatever the backing did. -/
theorem canon_rebuild (backing : Backing) {value : Value} (hdistinct : value.Distinct) :
    (value.rebuild backing).canon = value.canon := by
  cases backing with
  | sorted => exact rebuild_of_ordered .sorted (ordered_canon hdistinct)
  | insertion => rw [rebuild_insertion hdistinct]

/-! ## Depth and strings are kept -/

theorem itemsDepth_le_iff {items : List Value} {bound : ℕ} :
    itemsDepth items ≤ bound ↔ ∀ item ∈ items, item.depth ≤ bound := by
  induction items with
  | nil => simp [itemsDepth]
  | cons item items ih => simp [itemsDepth, ih]

theorem membersDepth_le_iff {members : List (String × Value)} {bound : ℕ} :
    membersDepth members ≤ bound ↔ ∀ entry ∈ members, entry.2.depth ≤ bound := by
  induction members with
  | nil => simp [membersDepth]
  | cons entry members ih => simp [membersDepth, ih]

theorem depth_canon {value : Value} (hdistinct : value.Distinct) :
    value.canon.depth = value.depth := by
  induction value using Value.induction with
  | null => rfl
  | bool flag => rfl
  | number number => rfl
  | string text => rfl
  | array items ih =>
      rw [distinct_array] at hdistinct
      rw [canon_array, Value.depth, Value.depth, Nat.add_right_cancel_iff]
      apply Nat.le_antisymm (itemsDepth_le_iff.2 _) (itemsDepth_le_iff.2 _)
      · intro item hitem
        obtain ⟨source, hsource, rfl⟩ := List.mem_map.1 hitem
        rw [ih source hsource (hdistinct source hsource)]
        exact itemsDepth_le_iff.1 le_rfl source hsource
      · intro item hitem
        rw [← ih item hitem (hdistinct item hitem)]
        exact itemsDepth_le_iff.1 le_rfl _ (List.mem_map_of_mem hitem)
  | object members ih =>
      rw [distinct_object] at hdistinct
      have hperm := canonMembers_perm hdistinct.1
      rw [canon_object, Value.depth, Value.depth, Nat.add_right_cancel_iff]
      apply Nat.le_antisymm (membersDepth_le_iff.2 _) (membersDepth_le_iff.2 _)
      · intro entry hentry
        obtain ⟨source, hsource, rfl⟩ := List.mem_map.1 (hperm.mem_iff.1 hentry)
        rw [ih source hsource (hdistinct.2 source hsource)]
        exact membersDepth_le_iff.1 le_rfl source hsource
      · intro entry hentry
        rw [← ih entry hentry (hdistinct.2 entry hentry)]
        exact membersDepth_le_iff.1 le_rfl (entry.1, entry.2.canon)
          (hperm.mem_iff.2 (List.mem_map.2 ⟨entry, hentry, rfl⟩))

theorem depth_rebuild (backing : Backing) {value : Value} (hdistinct : value.Distinct) :
    (value.rebuild backing).depth = value.depth := by
  cases backing with
  | sorted => exact depth_canon hdistinct
  | insertion => rw [rebuild_insertion hdistinct]

section Texts

variable {P : String → Prop}

theorem forall_texts_string {written : String} :
    (∀ text ∈ (Value.string written).texts, P text) ↔ P written := by
  rw [Value.texts, List.forall_mem_singleton]

theorem forall_texts_array {items : List Value} :
    (∀ text ∈ (Value.array items).texts, P text) ↔
      ∀ item ∈ items, ∀ text ∈ item.texts, P text := by
  rw [Value.texts, itemsTexts_eq, List.forall_mem_flatMap]

theorem forall_texts_object {members : List (String × Value)} :
    (∀ text ∈ (Value.object members).texts, P text) ↔
      ∀ entry ∈ members, P entry.1 ∧ ∀ text ∈ entry.2.texts, P text := by
  rw [Value.texts, membersTexts_eq, List.forall_mem_flatMap]
  exact forall₂_congr fun entry _ => List.forall_mem_cons

theorem forall_texts_canon {value : Value} (hdistinct : value.Distinct) :
    (∀ text ∈ value.canon.texts, P text) ↔ ∀ text ∈ value.texts, P text := by
  induction value using Value.induction with
  | null => rfl
  | bool flag => rfl
  | number number => rfl
  | string text => rfl
  | array items ih =>
      rw [distinct_array] at hdistinct
      rw [canon_array, forall_texts_array, forall_texts_array, List.forall_mem_map]
      exact forall₂_congr fun item hitem => ih item hitem (hdistinct item hitem)
  | object members ih =>
      rw [distinct_object] at hdistinct
      have hperm := canonMembers_perm hdistinct.1
      rw [canon_object, forall_texts_object, forall_texts_object]
      simp only [hperm.mem_iff, List.forall_mem_map]
      apply forall₂_congr
      intro entry hentry
      rw [ih entry hentry (hdistinct.2 entry hentry)]

theorem forall_texts_rebuild (backing : Backing) {value : Value} (hdistinct : value.Distinct) :
    (∀ text ∈ (value.rebuild backing).texts, P text) ↔ ∀ text ∈ value.texts, P text := by
  cases backing with
  | sorted => exact forall_texts_canon hdistinct
  | insertion => rw [rebuild_insertion hdistinct]

theorem forall_texts_collectSorted {members : List (String × Value)}
    (hdistinct : DistinctKeys members) :
    (∀ text ∈ (Value.object (collectSorted members)).texts, P text) ↔
      ∀ text ∈ (Value.object members).texts, P text := by
  rw [forall_texts_object, forall_texts_object]
  simp only [(collectSorted_perm hdistinct).mem_iff]

end Texts

/-- Reading a key of a sorted object gives the sorted value under that key. -/
theorem uniqueEntry_canon {members : List (String × Value)} (hdistinct : DistinctKeys members)
    (key : String) :
    uniqueEntry key (canonMembers members) =
      (uniqueEntry key members).map (Option.map Value.canon) := by
  rw [uniqueEntry_eq_of_perm key ((distinctKeys_map Value.canon).2 hdistinct)
    (canonMembers_perm hdistinct), uniqueEntry, uniqueEntry, List.filter_map]
  have hkeep : ((fun entry : String × Value => decide (entry.1 = key)) ∘
      fun entry : String × Value => (entry.1, entry.2.canon)) =
        fun entry => decide (entry.1 = key) := rfl
  rw [hkeep]
  cases members.filter fun entry => decide (entry.1 = key) with
  | nil => rfl
  | cons first rest => cases rest <;> rfl

/-! ## Objects collected into a tree map -/

section Collected

variable {members : List (String × Value)}

theorem distinct_collectSorted (hdistinct : (Value.object members).Distinct) :
    (Value.object (collectSorted members)).Distinct := by
  rw [distinct_object] at hdistinct ⊢
  apply And.intro (ascending_collectSorted members).distinctKeys
  intro entry hentry
  exact hdistinct.2 entry ((collectSorted_perm hdistinct.1).mem_iff.1 hentry)

theorem ordered_collectSorted (hdistinct : DistinctKeys members) :
    (Value.object (collectSorted members)).Ordered ↔ ∀ entry ∈ members, entry.2.Ordered := by
  rw [ordered_object]
  constructor
  · intro hordered entry hentry
    exact hordered.2 entry ((collectSorted_perm hdistinct).mem_iff.2 hentry)
  · intro hordered
    apply And.intro (ascending_collectSorted members)
    intro entry hentry
    exact hordered entry ((collectSorted_perm hdistinct).mem_iff.1 hentry)

theorem depth_collectSorted (hdistinct : DistinctKeys members) :
    (Value.object (collectSorted members)).depth = (Value.object members).depth := by
  have hperm := collectSorted_perm hdistinct
  rw [Value.depth, Value.depth, Nat.add_right_cancel_iff]
  apply Nat.le_antisymm (membersDepth_le_iff.2 _) (membersDepth_le_iff.2 _)
  · intro entry hentry
    exact membersDepth_le_iff.1 le_rfl entry (hperm.mem_iff.1 hentry)
  · intro entry hentry
    exact membersDepth_le_iff.1 le_rfl entry (hperm.mem_iff.2 hentry)

/-- Sorting the members first does not change the sorted document. -/
theorem canon_collectSorted (hdistinct : DistinctKeys members) :
    (Value.object (collectSorted members)).canon = (Value.object members).canon := by
  have heq : canonMembers (collectSorted members) = canonMembers members := by
    apply collectSorted_eq_of_perm ((distinctKeys_map Value.canon).2 hdistinct)
    exact (collectSorted_perm hdistinct).map _
  rw [canon_object, canon_object, heq]

end Collected

end VisualSignParser.Json
