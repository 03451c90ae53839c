import VisualSignParser.Json.KeyOrder
import Mathlib.Data.Finset.Image

/-!
# The sorted form of a value

A value in memory is read by paths of keys and positions; at the end of a path
stands a leaf, an array of some length or an object with some keys.  Sorting
the keys of every object changes nothing of that, and two values read alike
along every path have the same sorted form: it depends on a value only up to
the order of its keys.
-/

namespace VisualSignParser.Json

open VisualSignParser.OrderedMap

/-- A value in memory: an object map holds each key once. -/
abbrev MapValue := {value : Value // value.Distinct}

/-- One step down into a value. -/
inductive Step where
  | key (name : String)
  | index (position : ℕ)

/-- What a value is apart from the values in it. -/
inductive Node where
  | null
  | bool (flag : Bool)
  | number (number : Number)
  | string (text : String)
  | array (length : ℕ)
  | object (keys : Finset String)

def Value.node : Value → Node
  | .null => .null
  | .bool flag => .bool flag
  | .number written => .number written
  | .string text => .string text
  | .array items => .array items.length
  | .object members => .object (members.map Prod.fst).toFinset

/-- The value one step down, if there is one. -/
def Value.child : Step → Value → Option Value
  | .key name, .object members => lookup name members
  | .index position, .array items => items[position]?
  | _, _ => none

/-- The value at the end of a path. -/
def Value.follow : List Step → Value → Option Value
  | [], value => some value
  | step :: path, value => (value.child step).bind (Value.follow path)

/-- What stands at the end of a path. -/
def Value.nodeAt (path : List Step) (value : Value) : Option Node :=
  (value.follow path).map Value.node

theorem nodeAt_cons (step : Step) (path : List Step) (value : Value) :
    value.nodeAt (step :: path) = (value.child step).bind (Value.nodeAt path) := by
  rw [Value.nodeAt, Value.follow]
  cases value.child step <;> rfl

/-! ## Sorting and paths -/

theorem distinct_child {step : Step} {value child : Value} (hdistinct : value.Distinct)
    (hchild : value.child step = some child) : child.Distinct := by
  unfold Value.child at hchild
  split at hchild
  · rw [distinct_object] at hdistinct
    exact hdistinct.2 _ ((mem_iff_lookup hdistinct.1).2 hchild)
  · rw [distinct_array] at hdistinct
    exact hdistinct child (List.mem_of_getElem? hchild)
  · cases hchild

theorem node_canon {value : Value} (hdistinct : value.Distinct) :
    value.canon.node = value.node := by
  cases value with
  | array items =>
      rw [canon_array, Value.node, Value.node, List.length_map]
  | object members =>
      rw [distinct_object] at hdistinct
      have hkeys := (canonMembers_perm hdistinct.1).map Prod.fst
      rw [List.map_map] at hkeys
      rw [canon_object, Value.node, Value.node, List.toFinset_eq_of_perm _ _ hkeys]
      rfl
  | _ => rfl

theorem child_canon (step : Step) {value : Value} (hdistinct : value.Distinct) :
    value.canon.child step = (value.child step).map Value.canon := by
  cases value with
  | array items =>
      rw [canon_array]
      cases step with
      | key name => rfl
      | index position => exact List.getElem?_map ..
  | object members =>
      rw [distinct_object] at hdistinct
      rw [canon_object]
      cases step with
      | key name =>
          have hmapped := (distinctKeys_map Value.canon).2 hdistinct.1
          exact (lookup_eq_of_perm hmapped (canonMembers_perm hdistinct.1) name).trans
            (lookup_map Value.canon name members)
      | index position => rfl
  | _ => cases step <;> rfl

/-- Sorting keeps what stands at the end of every path. -/
theorem nodeAt_canon (path : List Step) {value : Value} (hdistinct : value.Distinct) :
    value.canon.nodeAt path = value.nodeAt path := by
  induction path generalizing value with
  | nil => exact congrArg some (node_canon hdistinct)
  | cons step path ih =>
      rw [nodeAt_cons, nodeAt_cons, child_canon step hdistinct]
      cases hchild : value.child step with
      | none => rfl
      | some child => exact ih (distinct_child hdistinct hchild)

/-! ## Values read alike -/

/-- Children of values that are read alike are read alike. -/
theorem nodeAt_child {value other child : Value} {step : Step}
    (halike : ∀ path, other.nodeAt path = value.nodeAt path)
    (hchild : value.child step = some child) :
    ∃ otherChild, other.child step = some otherChild ∧
      ∀ path, otherChild.nodeAt path = child.nodeAt path := by
  have hstep (path : List Step) :
      (other.child step).bind (Value.nodeAt path) = child.nodeAt path := by
    have hpath := halike (step :: path)
    rwa [nodeAt_cons, nodeAt_cons, hchild] at hpath
  cases hother : other.child step with
  | none =>
      have hroot := hstep []
      rw [hother] at hroot
      cases hroot
  | some otherChild => exact ⟨otherChild, rfl, fun path => by rw [← hstep path, hother]; rfl⟩

/-- Objects with the same sorted value under each key have the same sorted
members. -/
theorem canonMembers_eq {members others : List (String × Value)}
    (hmembers : DistinctKeys members) (hothers : DistinctKeys others)
    (hlookup : ∀ key, (lookup key others).map Value.canon =
      (lookup key members).map Value.canon) :
    canonMembers others = canonMembers members := by
  have hmappedMembers := (distinctKeys_map Value.canon).2 hmembers
  have hmappedOthers := (distinctKeys_map Value.canon).2 hothers
  have hnodup {entries : List (String × Value)} (hentries : DistinctKeys entries) :
      entries.Nodup := hentries.imp fun hne heq => hne (congrArg Prod.fst heq)
  apply collectSorted_eq_of_perm hmappedMembers
  apply (List.perm_ext_iff_of_nodup (hnodup hmappedOthers) (hnodup hmappedMembers)).2
  rintro ⟨key, value⟩
  rw [mem_iff_lookup hmappedOthers, mem_iff_lookup hmappedMembers, lookup_map, lookup_map,
    hlookup key]

theorem canon_eq_of_nodeAt {value other : Value} (hvalue : value.Distinct)
    (hother : other.Distinct) (halike : ∀ path, other.nodeAt path = value.nodeAt path) :
    other.canon = value.canon := by
  induction value using Value.induction generalizing other with
  | array items ih =>
      have hroot : other.node = _ := Option.some.inj (halike [])
      cases other with
      | array others =>
          rw [distinct_array] at hvalue hother
          have hlength : others.length = items.length := Node.array.inj hroot
          rw [canon_array, canon_array, Value.array.injEq]
          apply List.ext_getElem?
          intro position
          rw [List.getElem?_map, List.getElem?_map]
          cases hitem : items[position]? with
          | none =>
              rw [List.getElem?_eq_none_iff, ← hlength] at hitem
              rw [List.getElem?_eq_none hitem]
          | some item =>
              obtain ⟨otherItem, hotherItem, hitems⟩ :=
                nodeAt_child halike
                  (show (Value.array items).child (.index position) = _ from hitem)
              change others[position]? = some otherItem at hotherItem
              have hmem := List.mem_of_getElem? hitem
              rw [hotherItem, Option.map_some, Option.map_some,
                ih item hmem (hvalue item hmem) (hother _ (List.mem_of_getElem? hotherItem)) hitems]
      | _ => cases hroot
  | object members ih =>
      have hroot : other.node = _ := Option.some.inj (halike [])
      cases other with
      | object others =>
          rw [distinct_object] at hvalue hother
          have hkeys : (others.map Prod.fst).toFinset = (members.map Prod.fst).toFinset :=
            Node.object.inj hroot
          rw [canon_object, canon_object, canonMembers_eq hvalue.1 hother.1]
          intro key
          cases hentry : lookup key members with
          | none =>
              rw [lookup_eq_none, ← List.mem_toFinset, ← hkeys, List.mem_toFinset] at hentry
              rw [lookup_eq_none.2 hentry]
          | some child =>
              obtain ⟨otherChild, hotherEntry, hchildren⟩ :=
                nodeAt_child halike (show (Value.object members).child (.key key) = _ from hentry)
              change lookup key others = some otherChild at hotherEntry
              have hmem := (mem_iff_lookup hvalue.1).2 hentry
              have hotherMem := (mem_iff_lookup hother.1).2 hotherEntry
              rw [hotherEntry, Option.map_some, Option.map_some, ih _ hmem (hvalue.2 _ hmem)
                (hother.2 _ hotherMem) hchildren]
      | _ => cases hroot
  | _ =>
      -- A leaf is its own node.
      have hroot : other.node = _ := Option.some.inj (halike [])
      cases other <;> cases hroot
      rfl

/-- Two values have the same sorted form exactly when they are read alike. -/
theorem canon_eq_iff_nodeAt {value other : Value} (hvalue : value.Distinct)
    (hother : other.Distinct) :
    other.canon = value.canon ↔ ∀ path, other.nodeAt path = value.nodeAt path := by
  constructor
  · intro hcanon path
    rw [← nodeAt_canon path hother, hcanon, nodeAt_canon path hvalue]
  · exact canon_eq_of_nodeAt hvalue hother

end VisualSignParser.Json
