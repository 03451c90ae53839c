import Mathlib.Data.List.Pairwise
import Mathlib.Data.List.Perm.Subperm
import Mathlib.Data.List.Sort

/-!
# Maps as lists of entries

The two map types the parser's formats are built on: a tree map, which keeps
its entries in strictly ascending key order, and an insertion-ordered map,
which appends a new key and replaces the value of a key it holds.  Collecting
entries with distinct keys permutes them into key order in the first and keeps
them as they are in the second.
-/

namespace VisualSignParser.OrderedMap

variable {K V : Type} [LinearOrder K]

def Ascending (entries : List (K × V)) : Prop :=
  entries.Pairwise fun left right => left.1 < right.1

/-- Rust's `BTreeMap`. -/
structure BTreeMap (K V : Type) [LinearOrder K] where
  entries : List (K × V)
  ascending : Ascending entries

/-- `BTreeMap::insert` on the entries. -/
def insertSorted (key : K) (value : V) : List (K × V) → List (K × V)
  | [] => [(key, value)]
  | entry :: entries =>
      if key < entry.1 then (key, value) :: entry :: entries
      else if key = entry.1 then (key, value) :: entries
      else entry :: insertSorted key value entries

/-- `IndexMap::insert` on the entries. -/
def insertLast (key : K) (value : V) : List (K × V) → List (K × V)
  | [] => [(key, value)]
  | entry :: entries =>
      if key = entry.1 then (entry.1, value) :: entries
      else entry :: insertLast key value entries

/-- Collect entries into a tree map. -/
def collectSorted (entries : List (K × V)) : List (K × V) :=
  entries.foldl (fun collected entry => insertSorted entry.1 entry.2 collected) []

/-- Collect entries into an insertion-ordered map. -/
def collectInserted (entries : List (K × V)) : List (K × V) :=
  entries.foldl (fun collected entry => insertLast entry.1 entry.2 collected) []

/-! ## Insertion -/

/-- Inserting brings in no entry but the new one; what else is in the result was
there before. -/
theorem mem_insertSorted {key : K} {value : V} {entries : List (K × V)} {entry : K × V}
    (hentry : entry ∈ insertSorted key value entries) : entry = (key, value) ∨ entry ∈ entries := by
  induction entries with
  | nil => exact .inl (List.mem_singleton.1 hentry)
  | cons head entries ih =>
      rw [insertSorted] at hentry
      split_ifs at hentry
      · exact List.mem_cons.1 hentry
      · exact (List.mem_cons.1 hentry).imp_right (List.mem_cons_of_mem _)
      · rcases List.mem_cons.1 hentry with rfl | hmem
        · exact .inr (List.mem_cons_self ..)
        · exact (ih hmem).imp_right (List.mem_cons_of_mem _)

theorem key_mem_insertSorted {key : K} {value : V} {entries : List (K × V)} {entry : K × V}
    (hentry : entry ∈ insertSorted key value entries) : entry.1 = key ∨ entry ∈ entries :=
  (mem_insertSorted hentry).imp_left (congrArg Prod.fst)

/-- Insertion adds its key and keeps the others. -/
theorem mem_keys_insertSorted {key other : K} {value : V} {entries : List (K × V)} :
    other ∈ (insertSorted key value entries).map Prod.fst ↔
      other = key ∨ other ∈ entries.map Prod.fst := by
  induction entries with
  | nil => simp [insertSorted]
  | cons head entries ih =>
      rw [insertSorted]
      split_ifs with hlt heq
      · rw [List.map_cons, List.mem_cons]
      · simp [heq]
      · rw [List.map_cons, List.mem_cons, ih, List.map_cons, List.mem_cons]
        exact or_left_comm

/-- Inserting keeps the keys in ascending order, whether the key is new or its value
is replaced; by induction on the entries. -/
theorem ascending_insertSorted (key : K) (value : V) {entries : List (K × V)}
    (hentries : Ascending entries) : Ascending (insertSorted key value entries) := by
  induction entries with
  | nil => exact List.pairwise_singleton ..
  | cons head entries ih =>
      obtain ⟨hhead, htail⟩ := List.pairwise_cons.1 hentries
      rw [insertSorted]
      split_ifs with hlt heq
      · apply List.pairwise_cons.2
        constructor
        · intro entry hentry
          rcases List.mem_cons.1 hentry with rfl | hmem
          · exact hlt
          · exact hlt.trans (hhead entry hmem)
        · exact hentries
      · apply List.pairwise_cons.2
        constructor
        · intro entry hentry
          rw [heq]
          exact hhead entry hentry
        · exact htail
      · apply List.pairwise_cons.2
        constructor
        · intro entry hentry
          rcases key_mem_insertSorted hentry with hkey | hmem
          · rw [hkey]
            exact lt_of_le_of_ne (not_lt.1 hlt) (Ne.symm heq)
          · exact hhead entry hmem
        · exact ih htail

/-- A key that is not there yet is added to the entries, which are otherwise only
reordered. -/
theorem insertSorted_perm {key : K} {value : V} {entries : List (K × V)}
    (hfresh : ∀ entry ∈ entries, entry.1 ≠ key) :
    (insertSorted key value entries).Perm ((key, value) :: entries) := by
  induction entries with
  | nil => exact List.Perm.refl _
  | cons head entries ih =>
      have htail := ih fun entry hmem => hfresh entry (List.mem_cons_of_mem _ hmem)
      rw [insertSorted]
      split_ifs with hlt heq
      · exact List.Perm.refl _
      · exact absurd heq.symm (hfresh head (List.mem_cons_self ..))
      · exact (htail.cons head).trans (List.Perm.swap ..)

/-- A fresh key is inserted at the end, behind all entries that were there. -/
theorem insertLast_eq_append {key : K} {value : V} {entries : List (K × V)}
    (hfresh : ∀ entry ∈ entries, entry.1 ≠ key) :
    insertLast key value entries = entries ++ [(key, value)] := by
  induction entries with
  | nil => rfl
  | cons head entries ih =>
      have hhead := hfresh head (List.mem_cons_self ..)
      have htail := ih fun entry hmem => hfresh entry (List.mem_cons_of_mem _ hmem)
      rw [insertLast, if_neg (Ne.symm hhead), htail, List.cons_append]

/-! ## Collection -/

theorem ascending_foldl (entries : List (K × V)) {collected : List (K × V)}
    (hcollected : Ascending collected) :
    Ascending (entries.foldl
      (fun collected entry => insertSorted entry.1 entry.2 collected) collected) := by
  induction entries generalizing collected with
  | nil => exact hcollected
  | cons head entries ih => exact ih (ascending_insertSorted _ _ hcollected)

/-- Whatever the order in which entries come in, they are collected in the ascending
order of their keys. -/
theorem ascending_collectSorted (entries : List (K × V)) : Ascending (collectSorted entries) :=
  ascending_foldl entries List.Pairwise.nil

theorem ascending_iff_keys {entries : List (K × V)} :
    Ascending entries ↔ (entries.map Prod.fst).Pairwise (· < ·) :=
  List.pairwise_map.symm

/-- A tree map has the keys of the entries it is collected from. -/
theorem mem_keys_collectSorted {key : K} {entries : List (K × V)} :
    key ∈ (collectSorted entries).map Prod.fst ↔ key ∈ entries.map Prod.fst := by
  have hfoldl (collected : List (K × V)) :
      key ∈ (entries.foldl (fun collected entry => insertSorted entry.1 entry.2 collected)
        collected).map Prod.fst ↔
          key ∈ collected.map Prod.fst ∨ key ∈ entries.map Prod.fst := by
    induction entries generalizing collected with
    | nil => simp
    | cons head entries ih =>
        rw [List.foldl_cons, ih, mem_keys_insertSorted, List.map_cons, List.mem_cons, or_assoc,
          or_left_comm]
  rw [collectSorted, hfoldl]
  simp

/-- A tree map has no key twice. -/
theorem nodup_keys_collectSorted (entries : List (K × V)) :
    ((collectSorted entries).map Prod.fst).Nodup :=
  List.Pairwise.imp (fun hlt => ne_of_lt hlt)
    (ascending_iff_keys.1 (ascending_collectSorted entries))

/-- The keys are pairwise distinct. -/
def DistinctKeys (entries : List (K × V)) : Prop :=
  entries.Pairwise fun left right => left.1 ≠ right.1

theorem Ascending.distinctKeys {entries : List (K × V)} (hentries : Ascending entries) :
    DistinctKeys entries :=
  List.Pairwise.imp (fun hlt => ne_of_lt hlt) hentries

/-- Entries with distinct keys are all kept when they are inserted one after the
other into entries with other keys. -/
theorem foldl_insertSorted_perm {entries collected : List (K × V)}
    (hdistinct : DistinctKeys (collected ++ entries)) :
    (entries.foldl (fun collected entry => insertSorted entry.1 entry.2 collected)
      collected).Perm (collected ++ entries) := by
  induction entries generalizing collected with
  | nil => simp
  | cons head entries ih =>
      obtain ⟨-, -, hcross⟩ := List.pairwise_append.1 hdistinct
      have hfresh : ∀ entry ∈ collected, entry.1 ≠ head.1 := fun entry hmem =>
        hcross entry hmem head (List.mem_cons_self ..)
      have hinsert : (insertSorted head.1 head.2 collected).Perm (head :: collected) :=
        insertSorted_perm hfresh
      have hmove : (collected ++ head :: entries).Perm
          (insertSorted head.1 head.2 collected ++ entries) :=
        List.perm_middle.trans (hinsert.symm.append_right entries)
      have hsymm : ∀ {left right : K × V}, left.1 ≠ right.1 → right.1 ≠ left.1 := fun h => h.symm
      have hnext : DistinctKeys (insertSorted head.1 head.2 collected ++ entries) :=
        (hmove.pairwise_iff hsymm).1 hdistinct
      exact (ih hnext).trans hmove.symm

/-- Nothing is lost in collecting entries with distinct keys; they are put into
another order only. -/
theorem collectSorted_perm {entries : List (K × V)} (hdistinct : DistinctKeys entries) :
    (collectSorted entries).Perm entries :=
  foldl_insertSorted_perm (by simpa using hdistinct)

/-- Two ascending lists with the same entries are equal. -/
theorem Ascending.eq_of_perm {left right : List (K × V)} (hleft : Ascending left)
    (hright : Ascending right) (hperm : left.Perm right) : left = right :=
  hperm.eq_of_pairwise (fun _ _ _ _ hlt hgt => absurd (hlt.trans hgt) (lt_irrefl _)) hleft hright

/-- Entries that are in ascending order already are collected as they are, so
collecting twice is collecting once. -/
theorem collectSorted_of_ascending {entries : List (K × V)} (hentries : Ascending entries) :
    collectSorted entries = entries :=
  (ascending_collectSorted entries).eq_of_perm hentries
    (collectSorted_perm hentries.distinctKeys)

/-- Where no key is repeated, the order of the entries does not matter. -/
theorem collectSorted_eq_of_perm {left right : List (K × V)} (hright : DistinctKeys right)
    (hperm : left.Perm right) : collectSorted left = collectSorted right := by
  have hsymm : ∀ {first second : K × V}, first.1 ≠ second.1 → second.1 ≠ first.1 :=
    fun hne => hne.symm
  have hleft : DistinctKeys left := (hperm.pairwise_iff hsymm).2 hright
  have hsorted : (collectSorted left).Perm (collectSorted right) := by
    calc
      (collectSorted left).Perm left := collectSorted_perm hleft
      List.Perm _ right := hperm
      List.Perm _ (collectSorted right) := (collectSorted_perm hright).symm
  exact (ascending_collectSorted left).eq_of_perm (ascending_collectSorted right) hsorted

/-- Collecting entries that were already collected, and more behind them. -/
theorem collectSorted_append {entries others : List (K × V)}
    (hdistinct : DistinctKeys (entries ++ others)) :
    collectSorted (collectSorted entries ++ others) = collectSorted (entries ++ others) := by
  have hentries : DistinctKeys entries := (List.pairwise_append.1 hdistinct).1
  apply collectSorted_eq_of_perm hdistinct
  exact (collectSorted_perm hentries).append_right others

/-- Entries with distinct keys, inserted one after the other, are appended in their
order. -/
theorem foldl_insertLast {entries collected : List (K × V)}
    (hdistinct : DistinctKeys (collected ++ entries)) :
    entries.foldl (fun collected entry => insertLast entry.1 entry.2 collected) collected =
      collected ++ entries := by
  induction entries generalizing collected with
  | nil => simp
  | cons head entries ih =>
      obtain ⟨-, -, hcross⟩ := List.pairwise_append.1 hdistinct
      have hfresh : ∀ entry ∈ collected, entry.1 ≠ head.1 := fun entry hmem =>
        hcross entry hmem head (List.mem_cons_self ..)
      have hassoc : collected ++ head :: entries = (collected ++ [head]) ++ entries := by simp
      rw [List.foldl_cons, insertLast_eq_append hfresh, hassoc]
      exact ih (hassoc ▸ hdistinct)

/-- A map that keeps the order of insertion has the entries in the order they came
in, if no key comes in twice. -/
theorem collectInserted_of_distinctKeys {entries : List (K × V)}
    (hdistinct : DistinctKeys entries) : collectInserted entries = entries :=
  foldl_insertLast (by simpa using hdistinct)

theorem mem_of_mem_collectSorted {entries : List (K × V)} {entry : K × V}
    (hentry : entry ∈ collectSorted entries) : entry ∈ entries := by
  have hfoldl (collected : List (K × V)) (hmem : entry ∈ entries.foldl
      (fun collected entry => insertSorted entry.1 entry.2 collected) collected) :
      entry ∈ collected ∨ entry ∈ entries := by
    clear hentry
    induction entries generalizing collected with
    | nil => exact .inl hmem
    | cons head entries ih =>
        rcases ih _ hmem with hcollected | hentries
        · rcases mem_insertSorted hcollected with rfl | hbefore
          · exact .inr (List.mem_cons_self ..)
          · exact .inl hbefore
        · exact .inr (List.mem_cons_of_mem _ hentries)
  exact (hfoldl [] hentry).resolve_left List.not_mem_nil

/-- Nothing is overwritten if as many entries are collected as there were. -/
theorem nodup_keys_of_length_le {entries : List (K × V)}
    (hlength : entries.length ≤ (collectSorted entries).length) : (entries.map Prod.fst).Nodup := by
  have hnodup := nodup_keys_collectSorted entries
  have hsubset : (collectSorted entries).map Prod.fst ⊆ entries.map Prod.fst :=
    List.map_subset _ fun _ => mem_of_mem_collectSorted
  have hperm := (hnodup.subperm hsubset).perm_of_length_le (by simpa using hlength)
  exact hperm.nodup_iff.1 hnodup

/-- Collecting makes a list no longer; it is shorter by the entries whose keys occur
again. -/
theorem length_collectSorted_le (entries : List (K × V)) :
    (collectSorted entries).length ≤ entries.length := by
  have hnodup : (collectSorted entries).Nodup :=
    List.Pairwise.imp (fun hlt heq => absurd (congrArg Prod.fst heq) (ne_of_lt hlt))
      (ascending_collectSorted entries)
  exact (hnodup.subperm fun _ => mem_of_mem_collectSorted).length_le

/-! ## Reading one key -/

/-- The value of the first entry with the key. -/
def lookup (key : K) (entries : List (K × V)) : Option V :=
  (entries.find? fun entry => entry.1 = key).map Prod.snd

omit [LinearOrder K] in
theorem key_of_find? [DecidableEq K] {entries : List (K × V)} {key : K} {entry : K × V}
    (hfind : entries.find? (fun entry => entry.1 = key) = some entry) : entry.1 = key := by
  simpa using List.find?_some hfind

/-- Where no key is repeated, every entry is found under its key. -/
theorem mem_iff_lookup {entries : List (K × V)} (hdistinct : DistinctKeys entries) {key : K}
    {value : V} : (key, value) ∈ entries ↔ lookup key entries = some value := by
  rw [lookup, Option.map_eq_some_iff]
  constructor
  · intro hmem
    have hsome : (entries.find? fun entry => entry.1 = key).isSome = true := by
      apply List.find?_isSome.2
      exact ⟨(key, value), hmem, decide_eq_true rfl⟩
    obtain ⟨entry, hfind⟩ := Option.isSome_iff_exists.1 hsome
    refine ⟨entry, hfind, ?_⟩
    by_contra hvalue
    -- Two entries with one key are the same entry.
    have hkey : entry.1 = key := key_of_find? hfind
    have hne : entry ≠ (key, value) := fun heq => hvalue (congrArg Prod.snd heq)
    have hsymm : Std.Symm fun left right : K × V => left.1 ≠ right.1 := ⟨fun _ _ hne => hne.symm⟩
    exact hdistinct.forall (List.mem_of_find?_eq_some hfind) hmem hne hkey
  · rintro ⟨entry, hfind, rfl⟩
    have hkey : entry.1 = key := key_of_find? hfind
    rw [← hkey]
    exact List.mem_of_find?_eq_some hfind

/-- The value under a key does not depend on the order of the entries, as long as no
key occurs twice. -/
theorem lookup_eq_of_perm {left right : List (K × V)} (hdistinct : DistinctKeys right)
    (hperm : left.Perm right) (key : K) : lookup key left = lookup key right := by
  have hsymm : ∀ {first second : K × V}, first.1 ≠ second.1 → second.1 ≠ first.1 :=
    fun hne => hne.symm
  have hleft : DistinctKeys left := (hperm.pairwise_iff hsymm).2 hdistinct
  apply Option.ext
  intro value
  rw [← mem_iff_lookup hleft, hperm.mem_iff, mem_iff_lookup hdistinct]

/-- Looking a key up in the collected entries gives the value it has in the entries
themselves. -/
theorem lookup_collectSorted {entries : List (K × V)} (hdistinct : DistinctKeys entries) (key : K) :
    lookup key (collectSorted entries) = lookup key entries :=
  lookup_eq_of_perm hdistinct (collectSorted_perm hdistinct) key

/-- A change to every value changes the value that is found, and nothing about which
keys are found. -/
theorem lookup_map {W : Type} (transform : V → W) (key : K) (entries : List (K × V)) :
    lookup key (entries.map fun entry => (entry.1, transform entry.2)) =
      (lookup key entries).map transform := by
  rw [lookup, lookup, List.find?_map, Option.map_map, Option.map_map]
  rfl

theorem lookup_eq_none {key : K} {entries : List (K × V)} :
    lookup key entries = none ↔ key ∉ entries.map Prod.fst := by
  simp only [lookup, Option.map_eq_none_iff, List.find?_eq_none, decide_eq_true_eq, List.mem_map,
    not_exists, not_and]

/-- The value under a key, if there is one; `none` when the key is repeated. -/
def uniqueEntry (key : K) (entries : List (K × V)) : Option (Option V) :=
  match entries.filter fun entry => entry.1 = key with
  | [] => some none
  | [entry] => some (some entry.2)
  | _ => none

/-- The entries under one key are the same in both orders, because there is at most
one of them. -/
theorem filter_eq_of_perm {left right : List (K × V)} (key : K) (hdistinct : DistinctKeys right)
    (hperm : left.Perm right) :
    (left.filter fun entry => entry.1 = key) = right.filter fun entry => entry.1 = key := by
  have hfilter := hperm.filter fun entry => entry.1 = key
  have hpair : (right.filter fun entry => entry.1 = key).Pairwise fun _ _ => False := by
    apply List.Pairwise.imp_of_mem _ (List.Pairwise.filter _ hdistinct)
    intro first second hfirst hsecond hne
    simp only [List.mem_filter, decide_eq_true_eq] at hfirst hsecond
    exact hne (hfirst.2.trans hsecond.2.symm)
  -- At most one entry is left, and a permutation of at most one entry is itself.
  generalize (right.filter fun entry => entry.1 = key) = kept at hfilter hpair
  cases kept with
  | nil => exact hfilter.eq_nil
  | cons head kept =>
      cases kept with
      | nil => exact List.perm_singleton.1 hfilter
      | cons next kept => exact absurd (List.mem_cons_self ..) ((List.pairwise_cons.1 hpair).1 next)

/-- Reading a key does not depend on the order of the entries. -/
theorem uniqueEntry_eq_of_perm {left right : List (K × V)} (key : K)
    (hdistinct : DistinctKeys right) (hperm : left.Perm right) :
    uniqueEntry key left = uniqueEntry key right := by
  rw [uniqueEntry, uniqueEntry, filter_eq_of_perm key hdistinct hperm]

/-! ## Tree maps -/

namespace BTreeMap

def empty : BTreeMap K V := ⟨[], List.Pairwise.nil⟩

def insert (map : BTreeMap K V) (key : K) (value : V) : BTreeMap K V :=
  ⟨insertSorted key value map.entries, ascending_insertSorted key value map.ascending⟩

def get (map : BTreeMap K V) (key : K) : Option V :=
  (map.entries.find? fun entry => entry.1 = key).map Prod.snd

theorem get_isSome (map : BTreeMap K V) (key : K) :
    (map.get key).isSome ↔ ∃ entry ∈ map.entries, entry.1 = key := by
  simp only [get, Option.isSome_map, List.find?_isSome, decide_eq_true_eq]

@[simp]
theorem get_empty (key : K) : (empty : BTreeMap K V).get key = none :=
  rfl

/-- A key that is looked up in a map is found with the inserted value if it is the
inserted key, and as before otherwise. -/
theorem get_insert (map : BTreeMap K V) (key other : K) (value : V) :
    (map.insert key value).get other = if key = other then some value else map.get other := by
  rw [get, get, insert]
  dsimp only
  generalize map.entries = entries
  by_cases hkey : key = other
  · rw [if_pos hkey]
    induction entries with
    | nil => simp [insertSorted, hkey]
    | cons head entries ih =>
        rw [insertSorted]
        split_ifs with hlt heq
        · rw [List.find?_cons_of_pos (by simpa using hkey), Option.map_some]
        · rw [List.find?_cons_of_pos (by simpa using hkey), Option.map_some]
        · rw [List.find?_cons_of_neg (by simpa [hkey] using Ne.symm heq), ih]
  · rw [if_neg hkey]
    induction entries with
    | nil => simp [insertSorted, hkey]
    | cons head entries ih =>
        rw [insertSorted]
        split_ifs with hlt heq
        · rw [List.find?_cons_of_neg (by simpa using hkey)]
        · rw [List.find?_cons_of_neg (by simpa using hkey),
            List.find?_cons_of_neg (by simpa [← heq] using hkey)]
        · by_cases hhead : head.1 = other
          · rw [List.find?_cons_of_pos (by simpa using hhead),
              List.find?_cons_of_pos (by simpa using hhead)]
          · rw [List.find?_cons_of_neg (by simpa using hhead),
              List.find?_cons_of_neg (by simpa using hhead), ih]

theorem get_insert_self (map : BTreeMap K V) (key : K) (value : V) :
    (map.insert key value).get key = some value := by
  rw [get_insert, if_pos rfl]

theorem get_insert_of_ne (map : BTreeMap K V) {key other : K} (value : V) (hne : key ≠ other) :
    (map.insert key value).get other = map.get other := by
  rw [get_insert, if_neg hne]

/-- One value for several keys. -/
theorem get_foldl_insert (map : BTreeMap K V) (keys : List K) (value : V) (key : K) :
    (keys.foldl (fun map key => map.insert key value) map).get key =
      if key ∈ keys then some value else map.get key := by
  induction keys generalizing map with
  | nil => rfl
  | cons first keys ih =>
      rw [List.foldl_cons, ih, get_insert]
      by_cases hfirst : first = key
      · simp [hfirst]
      · simp [hfirst, Ne.symm hfirst]

/-- Inserting entries into a map one by one is inserting them into its sorted list
of entries. -/
theorem entries_foldl_insert (map : BTreeMap K V) (entries : List (K × V)) :
    (entries.foldl (fun map entry => map.insert entry.1 entry.2) map).entries =
      entries.foldl (fun collected entry => insertSorted entry.1 entry.2 collected) map.entries := by
  induction entries generalizing map with
  | nil => rfl
  | cons entry entries ih => exact ih (map.insert entry.1 entry.2)

theorem mem_entries_iff (map : BTreeMap K V) {key : K} {value : V} :
    (key, value) ∈ map.entries ↔ map.get key = some value :=
  mem_iff_lookup map.ascending.distinctKeys

/-- A tree map is determined by what it holds under each key. -/
theorem ext_get {left right : BTreeMap K V} (hget : ∀ key, left.get key = right.get key) :
    left = right := by
  have hnodup (map : BTreeMap K V) : map.entries.Nodup :=
    List.Pairwise.imp (fun hlt heq => absurd (congrArg Prod.fst heq) (ne_of_lt hlt)) map.ascending
  have hperm : left.entries.Perm right.entries := by
    apply (List.perm_ext_iff_of_nodup (hnodup left) (hnodup right)).2
    rintro ⟨key, value⟩
    rw [mem_entries_iff, mem_entries_iff, hget]
  cases left with
  | mk leftEntries hleft =>
      cases right with
      | mk rightEntries hright =>
          have hentries : leftEntries = rightEntries := hleft.eq_of_perm hright hperm
          subst hentries
          rfl

/-- The entries that are kept, in the same order. -/
def filter (map : BTreeMap K V) (keep : V → Bool) : BTreeMap K V :=
  ⟨map.entries.filter fun entry => keep entry.2, map.ascending.filter _⟩

/-- Filtering the entries by their values filters what is found under a key. -/
theorem get_filter (map : BTreeMap K V) (keep : V → Bool) (key : K) :
    (map.filter keep).get key = (map.get key).filter keep := by
  apply Option.ext
  intro value
  rw [← mem_entries_iff, Option.filter_eq_some_iff, ← mem_entries_iff]
  exact List.mem_filter

/-- The entries whose keys are kept, in the same order. -/
def filterKeys (map : BTreeMap K V) (keep : K → Bool) : BTreeMap K V :=
  ⟨map.entries.filter fun entry => keep entry.1, map.ascending.filter _⟩

/-- A key that is kept has the value it had before the others were filtered out. -/
theorem get_filterKeys (map : BTreeMap K V) {keep : K → Bool} {key : K} (hkeep : keep key) :
    (map.filterKeys keep).get key = map.get key := by
  apply Option.ext
  intro value
  rw [← mem_entries_iff, ← mem_entries_iff, filterKeys, List.mem_filter]
  exact and_iff_left hkeep

/-- A key that is filtered out is found no more. -/
theorem get_filterKeys_of_not (map : BTreeMap K V) {keep : K → Bool} {key : K}
    (hkeep : keep key = false) : (map.filterKeys keep).get key = none := by
  rw [Option.eq_none_iff_forall_not_mem]
  intro value hvalue
  have hentry := List.mem_filter.1 ((mem_entries_iff (map.filterKeys keep)).2 hvalue)
  exact Bool.false_ne_true (hkeep.symm.trans hentry.2)

/-! ## Loops that insert -/

/-- Insert the entries of another map, which replace the ones under the same keys. -/
def extend (map other : BTreeMap K V) : BTreeMap K V :=
  other.entries.foldl (fun out entry => out.insert entry.1 entry.2) map

section FilterMap

variable {W : Type}

/-- Go through the entries of a map and insert what is chosen for each. -/
def insertChosen (choose : K → V → Option W) (out : BTreeMap K W) (entry : K × V) :
    BTreeMap K W :=
  match choose entry.1 entry.2 with
  | some value => out.insert entry.1 value
  | none => out

/-- An entry for which nothing is chosen leaves the map as it is, and any other
replaces the value under its key. -/
theorem get_insertChosen (choose : K → V → Option W) (out : BTreeMap K W) (entry : K × V)
    (key : K) :
    (insertChosen choose out entry).get key =
      if entry.1 = key then (choose entry.1 entry.2).or (out.get key) else out.get key := by
  rw [insertChosen]
  cases choose entry.1 entry.2 with
  | none =>
      rw [Option.none_or, ite_self]
  | some value =>
      rw [Option.some_or]
      exact get_insert out entry.1 key value

/-- Over entries with distinct keys, the value under a key is what is chosen for the
entry of that key, or else the value that was there. -/
theorem get_foldl_insertChosen (choose : K → V → Option W) {entries : List (K × V)}
    (hdistinct : DistinctKeys entries) (out : BTreeMap K W) (key : K) :
    (entries.foldl (insertChosen choose) out).get key =
      ((entries.find? fun entry => entry.1 = key).bind fun entry => choose entry.1 entry.2).or
        (out.get key) := by
  induction entries generalizing out with
  | nil => rfl
  | cons head entries ih =>
      obtain ⟨hhead, htail⟩ := List.pairwise_cons.1 hdistinct
      rw [List.foldl_cons, ih htail, get_insertChosen]
      by_cases hkey : head.1 = key
      · have hnone : entries.find? (fun entry => entry.1 = key) = none := by
          apply List.find?_eq_none.2
          intro entry hentry
          rw [← hkey]
          simpa using (hhead entry hentry).symm
        rw [if_pos hkey, hnone, List.find?_cons_of_pos (by simpa using hkey)]
        rfl
      · rw [if_neg hkey, List.find?_cons_of_neg (by simpa using hkey)]

/-- What such a loop leaves under a key depends on the entry of that key only. -/
theorem get_foldl_insertChosen_empty (choose : K → V → Option W) (map : BTreeMap K V) (key : K) :
    (map.entries.foldl (insertChosen choose) empty).get key =
      (map.get key).bind fun value => choose key value := by
  rw [get_foldl_insertChosen choose map.ascending.distinctKeys, get_empty, Option.or_none, get,
    Option.bind_map]
  cases hfind : map.entries.find? fun entry => entry.1 = key with
  | none => rfl
  | some entry =>
      have hkey : entry.1 = key := key_of_find? hfind
      rw [← hkey]
      rfl

end FilterMap

/-- In an extended map the entries of the extension come first, and those of the map
where the extension has none. -/
theorem get_extend (map other : BTreeMap K V) (key : K) :
    (map.extend other).get key = (other.get key).or (map.get key) := by
  calc
    (map.extend other).get key =
        (other.entries.foldl (insertChosen fun _ value => some value) map).get key := rfl
    _ = ((other.entries.find? fun entry => entry.1 = key).bind fun entry => some entry.2).or
          (map.get key) := get_foldl_insertChosen _ other.ascending.distinctKeys map key
    _ = (other.get key).or (map.get key) := by
      rw [get.eq_def other, Option.map_eq_bind]
      rfl

end BTreeMap

end VisualSignParser.OrderedMap
