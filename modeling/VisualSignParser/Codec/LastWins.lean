import Mathlib.Data.List.Induction
import VisualSignParser.Codec.OrderedMap

/-!
# Maps that are filled by insertions

A later insertion takes the place of an earlier one of the same key, so that a key
has the value it was last given.  A counter of the keys that were new is the
number of the entries.
-/

namespace VisualSignParser.OrderedMap

variable {K V : Type} [LinearOrder K]

/-- The value that a key is last given. -/
def lastOf (key : K) (entries : List (K × V)) : Option V :=
  (entries.reverse.find? fun entry => entry.1 = key).map Prod.snd

theorem lastOf_append (key : K) (entries : List (K × V)) (entry : K × V) :
    lastOf key (entries ++ [entry]) =
      if entry.1 = key then some entry.2 else lastOf key entries := by
  rw [lastOf, List.reverse_append, List.reverse_singleton, List.singleton_append, List.find?_cons]
  by_cases hkey : entry.1 = key
  · rw [if_pos hkey, decide_eq_true hkey]
    rfl
  · rw [if_neg hkey, decide_eq_false hkey]
    rfl

theorem lastOf_append_list (key : K) (first second : List (K × V)) :
    lastOf key (first ++ second) = (lastOf key second).or (lastOf key first) := by
  rw [lastOf, List.reverse_append, List.find?_append, Option.map_or]
  rfl

/-- No entry behind the last one has its key. -/
theorem lastOf_eq_some_iff {key : K} {entries : List (K × V)} {value : V} :
    lastOf key entries = some value ↔
      ∃ before after, entries = before ++ (key, value) :: after ∧ key ∉ after.map Prod.fst := by
  induction entries using List.reverseRecOn with
  | nil => simp [lastOf]
  | append_singleton entries entry ih =>
      rw [lastOf_append]
      by_cases hkey : entry.1 = key
      · rw [if_pos hkey]
        constructor
        · intro hvalue
          refine ⟨entries, [], ?_, List.not_mem_nil⟩
          rw [← hkey, ← Option.some.inj hvalue]
        · rintro ⟨before, after, hentries, hafter⟩
          cases after using List.reverseRecOn with
          | nil =>
              have hlast := List.singleton_inj.1 (List.append_inj' hentries rfl).2
              rw [hlast]
          | append_singleton after last =>
              rw [← List.cons_append, ← List.append_assoc] at hentries
              have hlast := List.singleton_inj.1 (List.append_inj' hentries rfl).2
              rw [List.map_append, List.mem_append, not_or] at hafter
              exact absurd (by rw [← hlast, ← hkey]; exact List.mem_singleton_self _) hafter.2
      · rw [if_neg hkey, ih]
        constructor
        · rintro ⟨before, after, rfl, hafter⟩
          refine ⟨before, after ++ [entry], by rw [List.append_assoc, List.cons_append], ?_⟩
          rw [List.map_append, List.mem_append, not_or]
          exact ⟨hafter, fun hmem => hkey (List.mem_singleton.1 hmem).symm⟩
        · rintro ⟨before, after, hentries, hafter⟩
          cases after using List.reverseRecOn with
          | nil =>
              have hlast := List.singleton_inj.1 (List.append_inj' hentries rfl).2
              exact absurd (congrArg Prod.fst hlast) hkey
          | append_singleton after last =>
              rw [← List.cons_append, ← List.append_assoc] at hentries
              refine ⟨before, after, (List.append_inj' hentries rfl).1, fun hmem => hafter ?_⟩
              rw [List.map_append]
              exact List.mem_append_left _ hmem

/-- The last item of a list that is chosen for the key. -/
theorem lastOf_filterMap_eq_some_iff {A : Type} {choose : A → Option (K × V)} {items : List A}
    {key : K} {value : V} :
    lastOf key (items.filterMap choose) = some value ↔
      ∃ before item after, items = before ++ item :: after ∧ choose item = some (key, value) ∧
        ∀ later ∈ after, ∀ other, choose later ≠ some (key, other) := by
  have hfresh (after : List A) : key ∉ (after.filterMap choose).map Prod.fst ↔
      ∀ later ∈ after, ∀ other, choose later ≠ some (key, other) := by
    simp only [List.mem_map, List.mem_filterMap, not_exists, not_and]
    constructor
    · intro hnone later hlater other hchosen
      exact hnone (key, other) ⟨later, hlater, hchosen⟩ rfl
    · rintro hnone ⟨found, other⟩ ⟨later, hlater, hchosen⟩ rfl
      exact hnone later hlater other hchosen
  rw [lastOf_eq_some_iff]
  constructor
  · rintro ⟨before, after, hitems, hafter⟩
    obtain ⟨front, rest, rfl, -, hrest⟩ := List.filterMap_eq_append_iff.1 hitems
    obtain ⟨skipped, item, behind, rfl, -, hitem, rfl⟩ := List.filterMap_eq_cons_iff.1 hrest
    exact ⟨front ++ skipped, item, behind, (List.append_assoc ..).symm, hitem, (hfresh _).1 hafter⟩
  · rintro ⟨before, item, after, rfl, hitem, hafter⟩
    refine ⟨before.filterMap choose, after.filterMap choose, ?_, (hfresh _).2 hafter⟩
    rw [List.filterMap_append, List.filterMap_cons_some hitem]

namespace BTreeMap

/-- `FromIterator` and the loops that insert one entry after the other. -/
def insertAll (map : BTreeMap K V) (entries : List (K × V)) : BTreeMap K V :=
  entries.foldl (fun map entry => map.insert entry.1 entry.2) map

theorem insertAll_append (map : BTreeMap K V) (entries : List (K × V)) (entry : K × V) :
    map.insertAll (entries ++ [entry]) = (map.insertAll entries).insert entry.1 entry.2 := by
  rw [insertAll, List.foldl_append]
  rfl

/-- The last entry of a key is the one that stays. -/
theorem get_insertAll (map : BTreeMap K V) (entries : List (K × V)) (key : K) :
    (map.insertAll entries).get key = (lastOf key entries).or (map.get key) := by
  induction entries using List.reverseRecOn with
  | nil => rfl
  | append_singleton entries entry ih =>
      rw [insertAll_append, get_insert, lastOf_append, ih]
      split_ifs <;> rfl

/-- Where keys that come together are renamed to one, the greatest of them stays. -/
theorem get_insertAll_renamed {L : Type} [LinearOrder L] (rename : K → L) (map : BTreeMap K V)
    {key : L} {value : V} :
    (BTreeMap.empty.insertAll (map.entries.map fun entry => (rename entry.1, entry.2))).get key =
        some value ↔
      ∃ own, rename own = key ∧ map.get own = some value ∧
        ∀ other otherValue, rename other = key → map.get other = some otherValue → other ≤ own := by
  have hmap : (map.entries.map fun entry => (rename entry.1, entry.2)) =
      map.entries.filterMap fun entry => some (rename entry.1, entry.2) := by
    rw [List.filterMap_eq_map']
  have hascending {before after : List (K × V)} {own : K × V}
      (hentries : map.entries = before ++ own :: after) :
      (∀ entry ∈ before, entry.1 < own.1) ∧ ∀ entry ∈ after, own.1 < entry.1 := by
    have hpairs : Ascending (before ++ own :: after) := hentries ▸ map.ascending
    obtain ⟨-, hbehind, hcross⟩ := List.pairwise_append.1 hpairs
    exact ⟨fun entry hentry => hcross entry hentry own List.mem_cons_self,
      (List.pairwise_cons.1 hbehind).1⟩
  rw [get_insertAll, get_empty, Option.or_none, hmap, lastOf_filterMap_eq_some_iff]
  constructor
  · rintro ⟨before, ⟨own, found⟩, after, hentries, hitem, hafter⟩
    obtain ⟨rfl, rfl⟩ := Prod.mk.inj (Option.some.inj hitem)
    refine ⟨own, rfl, (mem_entries_iff map).1 ?_, fun other otherValue hother hget => ?_⟩
    · rw [hentries]
      exact List.mem_append_right _ List.mem_cons_self
    · have hmem := (mem_entries_iff map).2 hget
      rw [hentries] at hmem
      rcases List.mem_append.1 hmem with hbefore | hbehind
      · exact ((hascending hentries).1 _ hbefore).le
      · rcases List.mem_cons.1 hbehind with hsame | hlater
        · exact (congrArg Prod.fst hsame).le
        · exact absurd (congrArg (fun key => some (key, otherValue)) hother)
            (hafter _ hlater otherValue)
  · rintro ⟨own, rfl, hget, hgreatest⟩
    obtain ⟨before, after, hentries⟩ := List.append_of_mem ((mem_entries_iff map).2 hget)
    refine ⟨before, (own, value), after, hentries, rfl, ?_⟩
    rintro ⟨later, found⟩ hlater other hsame
    obtain ⟨hname, rfl⟩ := Prod.mk.inj (Option.some.inj hsame)
    have hmem : (later, found) ∈ map.entries := by
      rw [hentries]
      exact List.mem_append_right _ (List.mem_cons_of_mem _ hlater)
    exact absurd (hgreatest later found hname ((mem_entries_iff map).1 hmem))
      (not_le.2 ((hascending hentries).2 _ hlater))

/-- A key is new exactly if the map grows. -/
theorem length_insert (map : BTreeMap K V) (key : K) (value : V) :
    (map.insert key value).entries.length =
      map.entries.length + if (map.get key).isSome = true then 0 else 1 := by
  rw [insert, get]
  have hascending := map.ascending
  dsimp only
  generalize map.entries = entries at hascending ⊢
  induction entries with
  | nil => rfl
  | cons head entries ih =>
      obtain ⟨hhead, hrest⟩ := List.pairwise_cons.1 hascending
      rw [insertSorted]
      by_cases hlt : key < head.1
      · have hnone : (head :: entries).find? (fun entry => entry.1 = key) = none := by
          apply List.find?_eq_none.2
          intro entry hentry hsame
          have hgreater : key < entry.1 := by
            rcases List.mem_cons.1 hentry with rfl | hmem
            · exact hlt
            · exact hlt.trans (hhead entry hmem)
          exact hgreater.ne' (of_decide_eq_true hsame)
        rw [if_pos hlt, hnone]
        rfl
      · rw [if_neg hlt]
        by_cases hsame : key = head.1
        · rw [if_pos hsame, List.find?_cons_of_pos (by simpa using hsame.symm)]
          rfl
        · rw [if_neg hsame, List.find?_cons_of_neg (by simpa using Ne.symm hsame),
            List.length_cons, ih hrest, List.length_cons, Nat.add_right_comm]

end BTreeMap

end VisualSignParser.OrderedMap
