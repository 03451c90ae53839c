import VisualSignParser.Codec.Base64
import VisualSignParser.Codec.Checked
import VisualSignParser.Codec.CodeTables
import VisualSignParser.VisualSign.FieldBuilders

/-!
# Origins of web authentications

The authority of a wallet may be a web authentication, whose origin comes
compressed: a code tree of three bytes for every node, with the root last, and the
paths of the origin as bits.  Tree, bits and lengths all come from the payload.
-/

namespace VisualSignParser.Solana.Swig.Origin

open VisualSignParser.CodeTables
open VisualSignParser.Cursor
open VisualSignParser.Framing
open VisualSignParser.VisualSign

abbrev Read (A : Type) := Except (Fault VisualSignError) A

/-! ## The decoder of the origin -/

def bitMasks : List UInt8 := [0x80, 0x40, 0x20, 0x10, 0x08, 0x04, 0x02, 0x01]

def byteBits (byte : UInt8) : List Bool := bitMasks.map fun mask => decide (byte &&& mask ≠ 0)

/-- The two loops over the bytes and over the masks. -/
def traverse (treeData : Bytes) (nodeCount rootIndex decodedLen : ℕ) :
    List Bool → ℕ → Bytes → Read Bytes
  | [], _, decoded => return decoded
  | bit :: bits, currentNodeIndex, decoded =>
      if decoded.length = decodedLen then return decoded
      else do
        let nodeType ← byteAt treeData (currentNodeIndex * 3)
        check (nodeType ≠ 0) (.decodeError "Unexpected leaf node in Huffman tree traversal")
        let leftOrChar ← byteAt treeData (currentNodeIndex * 3 + 1)
        let right ← byteAt treeData (currentNodeIndex * 3 + 2)
        let nextNodeIndex := if bit then right.toNat else leftOrChar.toNat
        check (nextNodeIndex < nodeCount) (.decodeError "Huffman traversal exceeded node count")
        let nextType ← byteAt treeData (nextNodeIndex * 3)
        if nextType = 0 then do
          let char ← byteAt treeData (nextNodeIndex * 3 + 1)
          traverse treeData nodeCount rootIndex decodedLen bits rootIndex (decoded ++ [char])
        else traverse treeData nodeCount rootIndex decodedLen bits nextNodeIndex decoded

def decodeHuffmanOrigin (treeData encodedData : Bytes) (decodedLen : ℕ) : Read String := do
  check (¬treeData.isEmpty ∧ treeData.length % 3 = 0)
    (.decodeError "Invalid WebAuthn Huffman tree")
  let nodeCount := treeData.length / 3
  let rootIndex := nodeCount - 1
  let decoded ← traverse treeData nodeCount rootIndex decodedLen (encodedData.flatMap byteBits)
    rootIndex []
  check (decoded.length = decodedLen) (.decodeError "Decoded origin length mismatch")
  match ofUtf8Bytes decoded with
  | some origin => return origin
  | none => .error (.failed (.decodeError "WebAuthn origin contained invalid UTF-8"))

/-! ## The payload -/

def webAuthnFieldName : UInt8 → Option String
  | 1 => some "type"
  | 2 => some "challenge"
  | 3 => some "origin"
  | 4 => some "crossOrigin"
  | _ => none

def formatWebAuthnFieldOrder (order : Bytes) : String :=
  let names := order.filterMap webAuthnFieldName
  if names.isEmpty then "None" else ", ".intercalate names

def decodeWebauthnPayload (payload : Bytes) (fields : List AnnotatedPayloadField) :
    Read (List AnnotatedPayloadField) := do
  check (6 ≤ payload.length) (.decodeError "WebAuthn payload too short")
  let authLen ← uintAt payload 2 2
  check (4 + authLen + 4 + 2 + 2 + 2 ≤ payload.length)
    (.decodeError "WebAuthn payload truncated")
  let authenticatorData ← slice payload 4 (4 + authLen)
  let offset := 4 + authLen
  let fieldOrder ← slice payload offset (offset + 4)
  let offset := offset + 4
  check (offset + 2 ≤ payload.length) (.decodeError "WebAuthn payload missing origin length")
  let originLen ← uintAt payload offset 2
  let offset := offset + 2
  check (offset + 2 ≤ payload.length)
    (.decodeError "WebAuthn payload missing huffman tree length")
  let huffmanTreeLen ← uintAt payload offset 2
  let offset := offset + 2
  check (offset + 2 ≤ payload.length) (.decodeError "WebAuthn payload missing encoded length")
  let huffmanEncodedLen ← uintAt payload offset 2
  let offset := offset + 2
  check (offset + huffmanTreeLen + huffmanEncodedLen ≤ payload.length)
    (.decodeError "WebAuthn payload missing huffman data")
  let huffmanTree ← slice payload offset (offset + huffmanTreeLen)
  let huffmanEncoded ← slice payload (offset + huffmanTreeLen)
    (offset + huffmanTreeLen + huffmanEncodedLen)
  let origin ← decodeHuffmanOrigin huffmanTree huffmanEncoded originLen
  return fields ++ [
    createTextField "WebAuthn Authenticator Data (base64)" (Base64.encode authenticatorData),
    createTextField "WebAuthn Field Order" (formatWebAuthnFieldOrder fieldOrder),
    createTextField "WebAuthn Origin" origin,
    createTextField "WebAuthn Huffman Tree Length" (toString huffmanTreeLen),
    createTextField "WebAuthn Huffman Encoded Length" (toString huffmanEncodedLen)]

/-! ## Trees in bytes -/

/-- The node at an index, as the decoder reads it. -/
def nodeAt (treeData : Bytes) (index : ℕ) : Option (Node UInt8) :=
  match treeData.drop (index * 3) with
  | nodeType :: leftOrChar :: right :: _ =>
      some (if nodeType = 0 then .leaf leftOrChar else .inner leftOrChar.toNat right.toNat)
  | _ => none

/-- A tree in the node format: whole nodes, and the root is the last of them. -/
structure Serialised (treeData : Bytes) (tree : CodeTree UInt8) : Prop where
  whole : treeData.length % 3 = 0
  root : Represents (nodeAt treeData) (treeData.length / 3 - 1) tree

/-- The three bytes of a node that is in the tree. -/
theorem exists_node {treeData : Bytes} {index : ℕ} (hindex : index < treeData.length / 3) :
    ∃ nodeType leftOrChar right,
      (byteAt treeData (index * 3) : Read UInt8) = .ok nodeType ∧
      (byteAt treeData (index * 3 + 1) : Read UInt8) = .ok leftOrChar ∧
      (byteAt treeData (index * 3 + 2) : Read UInt8) = .ok right ∧
      nodeAt treeData index =
        some (if nodeType = 0 then .leaf leftOrChar else .inner leftOrChar.toNat right.toNat) := by
  have hget (offset : ℕ) : treeData[index * 3 + offset]? = (treeData.drop (index * 3))[offset]? :=
    List.getElem?_drop.symm
  have hlength : 3 ≤ (treeData.drop (index * 3)).length := by
    rw [List.length_drop]
    omega
  have hfirst := hget 0
  rw [Nat.add_zero] at hfirst
  unfold nodeAt byteAt
  rw [hfirst, hget 1, hget 2]
  match treeData.drop (index * 3), hlength with
  | nodeType :: leftOrChar :: right :: _, _ => exact ⟨_, _, _, rfl, rfl, rfl, rfl⟩

theorem nodeAt_of_le {treeData : Bytes} {index : ℕ} (hindex : treeData.length / 3 ≤ index) :
    nodeAt treeData index = none := by
  have hlength : (treeData.drop (index * 3)).length < 3 := by
    rw [List.length_drop]
    omega
  unfold nodeAt
  split
  · rename_i hdrop
    rw [hdrop] at hlength
    simp only [List.length_cons] at hlength
    omega
  · rfl

/-! ## The walk over the bytes -/

section Traverse

variable {treeData : Bytes} {rootIndex decodedLen : ℕ}

/-- The loop is the walk over the table of the nodes. -/
theorem traverse_eq_ok_iff (hroot : rootIndex < treeData.length / 3) {bits : List Bool}
    {index : ℕ} (hindex : index < treeData.length / 3) {decoded result : Bytes} :
    traverse treeData (treeData.length / 3) rootIndex decodedLen bits index decoded =
        .ok result ↔
      walk (nodeAt treeData) rootIndex decodedLen bits index decoded = some result := by
  induction bits generalizing index decoded with
  | nil => simp [traverse, walk, Outcome.pure_eq_ok]
  | cons bit bits ih =>
      rw [traverse, walk]
      by_cases hfull : decoded.length = decodedLen
      · simp [hfull, Outcome.pure_eq_ok]
      · obtain ⟨nodeType, leftOrChar, right, htype, hleft, hright, hnode⟩ := exists_node hindex
        rw [if_neg hfull, if_neg hfull, htype, hleft, hright, hnode]
        by_cases hleaf : nodeType = 0
        · simp [hleaf, check, Outcome.require, Outcome.ok_bind, Outcome.error_bind]
        · generalize hnext : (if bit then right.toNat else leftOrChar.toNat) = next
          by_cases hcount : next < treeData.length / 3
          · obtain ⟨nextType, char, _, hnextType, hchar, -, hnextNode⟩ := exists_node hcount
            simp only [hleaf, check, Outcome.require, Outcome.ok_bind, hnext, hcount,
              hnextType, hchar, hnextNode, if_true, if_false, not_false_eq_true, ne_eq]
            by_cases hnextLeaf : nextType = 0
            · simp only [hnextLeaf, if_true]
              exact ih hroot
            · simp only [hnextLeaf, if_false]
              exact ih hcount
          · simp [hleaf, check, Outcome.require, Outcome.ok_bind, Outcome.error_bind, hnext,
              hcount, nodeAt_of_le (not_lt.1 hcount)]

theorem meets_traverse (hroot : rootIndex < treeData.length / 3) (bits : List Bool)
    {index : ℕ} (hindex : index < treeData.length / 3) (decoded : Bytes) :
    Meets (traverse treeData (treeData.length / 3) rootIndex decodedLen bits index decoded)
      fun _ => True := by
  induction bits generalizing index decoded with
  | nil => exact meets_pure trivial
  | cons bit bits ih =>
      rw [traverse]
      by_cases hfull : decoded.length = decodedLen
      · rw [if_pos hfull]
        exact meets_pure trivial
      · rw [if_neg hfull]
        apply (meets_byteAt (by omega)).bind
        intro nodeType _
        apply (meets_check _).bind
        intro _ _
        apply (meets_byteAt (by omega)).bind
        intro leftOrChar _
        apply (meets_byteAt (by omega)).bind
        intro right _
        apply (meets_check _).bind
        intro _ hnext
        apply (meets_byteAt (by omega)).bind
        intro nextType _
        by_cases hleaf : nextType = 0
        · rw [if_pos hleaf]
          apply (meets_byteAt (by omega)).bind
          intro char _
          exact ih hroot _
        · rw [if_neg hleaf]
          exact ih hnext decoded

end Traverse

/-! ## What is accepted -/

theorem meets_decodeHuffmanOrigin (treeData encodedData : Bytes) (decodedLen : ℕ) :
    Meets (decodeHuffmanOrigin treeData encodedData decodedLen) fun origin =>
      (utf8Bytes origin).length = decodedLen := by
  apply (meets_check _).bind
  rintro _ ⟨hnonempty, hwhole⟩
  have hroot : treeData.length / 3 - 1 < treeData.length / 3 := by
    have hpos := List.length_pos_iff.2 (mt List.isEmpty_iff.2 hnonempty)
    omega
  apply (meets_traverse hroot _ hroot []).bind
  intro decoded _
  apply (meets_check _).bind
  intro _ hlength
  cases horigin : ofUtf8Bytes decoded with
  | none => exact meets_failed _
  | some origin =>
      apply meets_pure
      rw [utf8Bytes_of_ofUtf8Bytes horigin]
      exact hlength

/-- The origin that is shown has the length that the payload announces. -/
structure ShowsOrigin (payload : Bytes) (fields shown : List AnnotatedPayloadField) : Prop where
  before : fields <+: shown
  origin : ∃ authLen originLen origin, (uintAt payload 2 2 : Read ℕ) = .ok authLen ∧
    (uintAt payload (4 + authLen + 4) 2 : Read ℕ) = .ok originLen ∧
    (utf8Bytes origin).length = originLen ∧ createTextField "WebAuthn Origin" origin ∈ shown

theorem meets_decodeWebauthnPayload (payload : Bytes) (fields : List AnnotatedPayloadField) :
    Meets (decodeWebauthnPayload payload fields) (ShowsOrigin payload fields) := by
  apply (meets_check _).bind
  intro _ hshort
  apply (meets_uintAt (by omega)).attach.bind
  rintro authLen ⟨hauthLen, -⟩
  apply (meets_check _).bind
  intro _ htruncated
  apply (meets_slice (Nat.le_add_right ..) (by omega)).bind
  intro authenticatorData _
  apply (meets_slice (Nat.le_add_right ..) (by omega)).bind
  intro fieldOrder _
  apply (meets_check _).bind
  intro _ horiginLen
  apply (meets_uintAt (by omega)).attach.bind
  rintro originLen ⟨horigin, -⟩
  apply (meets_check _).bind
  intro _ htreeLen
  apply (meets_uintAt (by omega)).bind
  intro huffmanTreeLen _
  apply (meets_check _).bind
  intro _ hencodedLen
  apply (meets_uintAt (by omega)).bind
  intro huffmanEncodedLen _
  apply (meets_check _).bind
  intro _ hdata
  apply (meets_slice (Nat.le_add_right ..) (by omega)).bind
  intro huffmanTree _
  apply (meets_slice (Nat.le_add_right ..) (by omega)).bind
  intro huffmanEncoded _
  apply (meets_decodeHuffmanOrigin huffmanTree huffmanEncoded originLen).bind
  intro origin hlength
  apply meets_pure
  exact ⟨List.prefix_append .., authLen, originLen, origin, hauthLen, horigin, hlength, by simp⟩

/-! ## What is decoded -/

/-- Nodes in the node format; an index takes one byte. -/
def writeNode : Node UInt8 → Bytes
  | .leaf symbol => [0, symbol, 0]
  | .inner left right => [1, UInt8.ofNat left, UInt8.ofNat right]

def writeTree (tree : CodeTree UInt8) : Bytes := (postorder 0 tree).flatMap writeNode

theorem drop_flatMap_writeNode (nodes : List (Node UInt8)) (index : ℕ) :
    (nodes.flatMap writeNode).drop (index * 3) = (nodes.drop index).flatMap writeNode := by
  induction index generalizing nodes with
  | zero => rw [Nat.zero_mul, List.drop_zero, List.drop_zero]
  | succ index ih =>
      cases nodes with
      | nil => simp
      | cons node nodes =>
          have hlength : (writeNode node).length = 3 := by cases node <;> rfl
          rw [List.drop_succ_cons, ← ih, List.flatMap_cons, Nat.succ_mul, Nat.add_comm,
            ← List.drop_drop, List.drop_left' hlength]

theorem nodeAt_flatMap_writeNode {nodes : List (Node UInt8)} {index : ℕ} {node : Node UInt8}
    (hnode : nodes[index]? = some node)
    (hbytes : ∀ left right, node = .inner left right → left < 256 ∧ right < 256) :
    nodeAt (nodes.flatMap writeNode) index = some node := by
  have hdrop : nodes.drop index = node :: nodes.drop (index + 1) := by
    obtain ⟨hindex, rfl⟩ := List.getElem?_eq_some_iff.1 hnode
    exact List.drop_eq_getElem_cons hindex
  rw [nodeAt, drop_flatMap_writeNode, hdrop, List.flatMap_cons]
  cases node with
  | leaf symbol => rfl
  | inner left right =>
      obtain ⟨hleft, hright⟩ := hbytes left right rfl
      change some (Node.inner (UInt8.ofNat left).toNat (UInt8.ofNat right).toNat) = _
      rw [UInt8.toNat_ofNat', UInt8.toNat_ofNat', Nat.mod_eq_of_lt hleft,
        Nat.mod_eq_of_lt hright]

theorem length_writeTree (tree : CodeTree UInt8) : (writeTree tree).length = tree.size * 3 := by
  have hlength (nodes : List (Node UInt8)) :
      (nodes.flatMap writeNode).length = nodes.length * 3 := by
    induction nodes with
    | nil => rfl
    | cons node nodes ih =>
        have hnode : (writeNode node).length = 3 := by cases node <;> rfl
        rw [List.flatMap_cons, List.length_append, ih, hnode, List.length_cons, Nat.succ_mul,
          Nat.add_comm]
  rw [writeTree, hlength, length_postorder]

theorem serialised_writeTree {tree : CodeTree UInt8} (hsize : tree.size ≤ 256) :
    Serialised (writeTree tree) tree := by
  constructor
  · rw [length_writeTree, Nat.mul_mod_left]
  · rw [length_writeTree, Nat.mul_div_cancel _ (by decide), ← Nat.zero_add tree.size]
    apply represents_postorder
    intro offset hoffset
    rw [Nat.zero_add, List.getElem?_eq_getElem (by rwa [length_postorder])]
    apply nodeAt_flatMap_writeNode (List.getElem?_eq_getElem _)
    intro left right hinner
    have hmem := List.getElem_mem (l := postorder 0 tree) (n := offset) (by
      rwa [length_postorder])
    have hbounds := lt_of_mem_postorder (hinner ▸ hmem)
    omega

/-- The paths of a text are decoded, whatever follows them. -/
theorem decodeHuffmanOrigin_of_spells {treeData : Bytes} {left right : CodeTree UInt8}
    (htree : Serialised treeData (.node left right)) {text : String} {bits padding : List Bool}
    (hspells : Spells (.node left right) (utf8Bytes text) bits) {encodedData : Bytes}
    (hencoded : encodedData.flatMap byteBits = bits ++ padding) :
    decodeHuffmanOrigin treeData encodedData (utf8Bytes text).length = .ok text := by
  have hroot : treeData.length / 3 - 1 < treeData.length / 3 := by
    by_contra hroot
    obtain ⟨_, _, hnode, -, -⟩ := htree.root
    rw [nodeAt_of_le (not_lt.1 hroot)] at hnode
    cases hnode
  have hnonempty : ¬treeData.isEmpty := by
    intro hempty
    rw [List.isEmpty_iff.1 hempty] at hroot
    exact absurd hroot (by decide)
  have hwalk : walk (nodeAt treeData) (treeData.length / 3 - 1) (utf8Bytes text).length
      (encodedData.flatMap byteBits) (treeData.length / 3 - 1) [] = some (utf8Bytes text) := by
    rw [hencoded]
    exact walk_spells htree.root hspells (Nat.zero_add _) padding
  refine Outcome.bind_eq_ok.2 ⟨(), Outcome.require_eq_ok.2 ⟨hnonempty, htree.whole⟩, ?_⟩
  refine Outcome.bind_eq_ok.2 ⟨utf8Bytes text, (traverse_eq_ok_iff hroot hroot).2 hwalk, ?_⟩
  refine Outcome.bind_eq_ok.2 ⟨(), Outcome.require_eq_ok.2 rfl, ?_⟩
  rw [ofUtf8Bytes_utf8Bytes]
  rfl

/-- Every tree of up to 256 nodes has a serialised form, the paths of a text are
decoded with every such form, and on other payloads nothing is read out of bounds
and no text of another length is shown. -/
theorem origin_decoded :
    (∀ tree : CodeTree UInt8, tree.size ≤ 256 → Serialised (writeTree tree) tree) ∧
    (∀ treeData left right, Serialised treeData (.node left right) →
      ∀ text bits padding, Spells (.node left right) (utf8Bytes text) bits →
      ∀ encodedData : Bytes, encodedData.flatMap byteBits = bits ++ padding →
        decodeHuffmanOrigin treeData encodedData (utf8Bytes text).length = .ok text) ∧
    (∀ treeData encodedData decodedLen,
      decodeHuffmanOrigin treeData encodedData decodedLen ≠ .error .panicked ∧
      ∀ origin, decodeHuffmanOrigin treeData encodedData decodedLen = .ok origin →
        (utf8Bytes origin).length = decodedLen) ∧
    ∀ payload fields, decodeWebauthnPayload payload fields ≠ .error .panicked ∧
      ∀ shown, decodeWebauthnPayload payload fields = .ok shown →
        ShowsOrigin payload fields shown :=
  ⟨fun _ hsize => serialised_writeTree hsize,
    fun _ _ _ htree _ _ _ hspells _ hencoded => decodeHuffmanOrigin_of_spells htree hspells hencoded,
    meets_decodeHuffmanOrigin, meets_decodeWebauthnPayload⟩

/-- Two leaves and the root, and the bits 0, 1 in front of six others. -/
theorem origin_decoded_ab :
    decodeHuffmanOrigin [0, 97, 0, 0, 98, 0, 1, 0, 1] [0b01111111] 2 = .ok "ab" := by
  have htree : Serialised (writeTree (.node (.leaf 97) (.leaf 98))) (.node (.leaf 97) (.leaf 98)) :=
    origin_decoded.1 _ (by decide)
  have hfirst : Path (.node (.leaf (97 : UInt8)) (.leaf 98)) [false] 97 := .left (.leaf 97)
  have hsecond : Path (.node (.leaf (97 : UInt8)) (.leaf 98)) [true] 98 := .right (.leaf 98)
  have hspells : Spells (.node (.leaf 97) (.leaf 98)) (utf8Bytes "ab") [false, true] :=
    .cons hfirst (.cons hsecond .nil)
  exact origin_decoded.2.1 _ _ _ htree "ab" _ (List.replicate 6 true) hspells [0b01111111] (by decide)

end VisualSignParser.Solana.Swig.Origin
