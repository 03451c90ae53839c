import Mathlib.Data.List.Basic
import Mathlib.Tactic.Common

/-!
# Code trees in a table

A code tree has the symbols at its leaves, and the code of a symbol is the path to
its leaf.  A table keeps the nodes of the tree by index.  A decoder walks over the
table bit by bit and starts at the root again after every leaf; on a table that
represents a tree it finds what the paths spell.
-/

namespace VisualSignParser.CodeTables

variable {A : Type}

inductive CodeTree (A : Type) where
  | leaf (symbol : A)
  | node (left right : CodeTree A)

def CodeTree.size : CodeTree A → ℕ
  | leaf _ => 1
  | node left right => left.size + right.size + 1

theorem CodeTree.size_pos (tree : CodeTree A) : 0 < tree.size := by
  cases tree <;> exact Nat.succ_pos _

/-- The path to a leaf with the symbol; a set bit leads to the right. -/
inductive Path : CodeTree A → List Bool → A → Prop
  | leaf (symbol : A) : Path (.leaf symbol) [] symbol
  | left {left right : CodeTree A} {path : List Bool} {symbol : A} (hpath : Path left path symbol) :
      Path (.node left right) (false :: path) symbol
  | right {left right : CodeTree A} {path : List Bool} {symbol : A} (hpath : Path right path symbol) :
      Path (.node left right) (true :: path) symbol

/-- The paths of the symbols, one behind the other. -/
inductive Spells (tree : CodeTree A) : List A → List Bool → Prop
  | nil : Spells tree [] []
  | cons {symbol : A} {symbols : List A} {path bits : List Bool}
      (hpath : Path tree path symbol) (hspells : Spells tree symbols bits) :
      Spells tree (symbol :: symbols) (path ++ bits)

/-! ## Tables -/

inductive Node (A : Type) where
  | leaf (symbol : A)
  | inner (left right : ℕ)

/-- The node at the index is the root of the tree. -/
def Represents (table : ℕ → Option (Node A)) : ℕ → CodeTree A → Prop
  | index, .leaf symbol => table index = some (.leaf symbol)
  | index, .node left right => ∃ leftIndex rightIndex,
      table index = some (.inner leftIndex rightIndex) ∧
      Represents table leftIndex left ∧ Represents table rightIndex right

/-- The nodes of a tree behind those of its subtrees, from an index on. -/
def postorder : ℕ → CodeTree A → List (Node A)
  | _, .leaf symbol => [.leaf symbol]
  | first, .node left right => postorder first left ++ (postorder (first + left.size) right ++
      [.inner (first + left.size - 1) (first + left.size + right.size - 1)])

@[simp]
theorem length_postorder (first : ℕ) (tree : CodeTree A) :
    (postorder first tree).length = tree.size := by
  induction tree generalizing first with
  | leaf symbol => rfl
  | node left right hleft hright =>
      simp only [postorder, List.length_append, hleft, hright, List.length_singleton, CodeTree.size]
      omega

/-- Nodes refer to indexes in front of their own. -/
theorem lt_of_mem_postorder {first : ℕ} {tree : CodeTree A} {left right : ℕ}
    (hnode : Node.inner left right ∈ postorder first tree) :
    left < first + tree.size ∧ right < first + tree.size := by
  induction tree generalizing first with
  | leaf symbol => simp [postorder] at hnode
  | node leftTree rightTree hleft hright =>
      simp only [postorder, List.mem_append, List.mem_singleton, Node.inner.injEq] at hnode
      rw [CodeTree.size]
      rcases hnode with hnode | hnode | ⟨rfl, rfl⟩
      · have hbounds := hleft hnode
        omega
      · have hbounds := hright hnode
        omega
      · have hpos := leftTree.size_pos
        omega

/-- The root is the last node in the order. -/
theorem represents_postorder {table : ℕ → Option (Node A)} {first : ℕ} {tree : CodeTree A}
    (htable : ∀ offset < tree.size, table (first + offset) = (postorder first tree)[offset]?) :
    Represents table (first + tree.size - 1) tree := by
  induction tree generalizing first with
  | leaf symbol => exact htable 0 Nat.one_pos
  | node left right hleft hright =>
      have hleftPos := left.size_pos
      have hrightPos := right.size_pos
      refine ⟨first + left.size - 1, first + left.size + right.size - 1, ?_, ?_, ?_⟩
      · refine (htable (left.size + right.size) (Nat.lt_succ_self _)).trans ?_
        simp [postorder]
      · apply hleft
        intro offset hoffset
        rw [htable offset (by rw [CodeTree.size]; omega), postorder,
          List.getElem?_append_left (by rwa [length_postorder])]
      · apply hright
        intro offset hoffset
        rw [Nat.add_assoc, htable (left.size + offset) (by rw [CodeTree.size]; omega), postorder,
          List.getElem?_append_right (by simp), length_postorder, Nat.add_sub_cancel_left,
          List.getElem?_append_left (by rwa [length_postorder])]

/-! ## The decoder -/

/-- One node for every bit; the walk stops at the number of symbols. -/
def walk (table : ℕ → Option (Node A)) (root limit : ℕ) : List Bool → ℕ → List A →
    Option (List A)
  | [], _, symbols => some symbols
  | bit :: bits, index, symbols =>
      if symbols.length = limit then some symbols
      else match table index with
        | some (.inner left right) =>
            let next := if bit then right else left
            match table next with
            | some (.leaf symbol) => walk table root limit bits root (symbols ++ [symbol])
            | some (.inner _ _) => walk table root limit bits next symbols
            | none => none
        | _ => none

section Walk

variable {table : ℕ → Option (Node A)} {root limit : ℕ}

theorem walk_inner {left right index : ℕ} {bit : Bool} {bits : List Bool} {symbols : List A}
    (hindex : table index = some (.inner left right)) (hlimit : symbols.length ≠ limit) :
    walk table root limit (bit :: bits) index symbols =
      match table (if bit then right else left) with
      | some (.leaf symbol) => walk table root limit bits root (symbols ++ [symbol])
      | some (.inner _ _) => walk table root limit bits (if bit then right else left) symbols
      | none => none := by
  rw [walk, if_neg hlimit, hindex]

/-- What follows a turn: the subtree is the leaf, or it is walked itself. -/
theorem walk_subtree {next : ℕ} {subtree : CodeTree A} {path bits : List Bool} {symbol : A}
    {symbols : List A} (hsubtree : Represents table next subtree)
    (hpath : Path subtree path symbol)
    (hwalk : (∃ left right, subtree = .node left right) →
      walk table root limit (path ++ bits) next symbols =
        walk table root limit bits root (symbols ++ [symbol])) :
    (match table next with
      | some (.leaf symbol) => walk table root limit (path ++ bits) root (symbols ++ [symbol])
      | some (.inner _ _) => walk table root limit (path ++ bits) next symbols
      | none => none) = walk table root limit bits root (symbols ++ [symbol]) := by
  cases subtree with
  | leaf symbol =>
      have hleaf : table next = some (.leaf symbol) := hsubtree
      cases hpath
      rw [hleaf]
      rfl
  | node left right =>
      obtain ⟨_, _, htable, -, -⟩ := hsubtree
      rw [htable]
      exact hwalk ⟨left, right, rfl⟩

/-- A path is walked to its leaf. -/
theorem walk_path {tree : CodeTree A} {index : ℕ} {path : List Bool} {symbol : A} {symbols : List A}
    (hrepresents : Represents table index tree) (hinner : ∃ left right, tree = .node left right)
    (hpath : Path tree path symbol) (hlimit : symbols.length ≠ limit) (bits : List Bool) :
    walk table root limit (path ++ bits) index symbols =
      walk table root limit bits root (symbols ++ [symbol]) := by
  induction hpath generalizing index with
  | leaf symbol =>
      obtain ⟨left, right, htree⟩ := hinner
      cases htree
  | left hpath ih =>
      obtain ⟨_, _, htable, hleft, -⟩ := hrepresents
      rw [List.cons_append, walk_inner htable hlimit]
      exact walk_subtree hleft hpath fun hinner => ih hleft hinner
  | right hpath ih =>
      obtain ⟨_, _, htable, -, hright⟩ := hrepresents
      rw [List.cons_append, walk_inner htable hlimit]
      exact walk_subtree hright hpath fun hinner => ih hright hinner

theorem walk_spells {left right : CodeTree A} (hroot : Represents table root (.node left right))
    {symbols found : List A} {bits : List Bool} (hspells : Spells (.node left right) symbols bits)
    (hlimit : found.length + symbols.length = limit) (padding : List Bool) :
    walk table root limit (bits ++ padding) root found = some (found ++ symbols) := by
  induction hspells generalizing found with
  | nil =>
      rw [List.append_nil]
      cases padding with
      | nil => rfl
      | cons bit bits => exact if_pos hlimit
  | cons hpath hspells ih =>
      rw [List.length_cons] at hlimit
      rw [List.append_assoc, walk_path hroot ⟨left, right, rfl⟩ hpath (by omega), ih (by simp; omega),
        List.append_assoc, List.singleton_append]

end Walk

end VisualSignParser.CodeTables
