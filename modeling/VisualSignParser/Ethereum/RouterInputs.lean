import Mathlib.Data.List.InsertIdx
import VisualSignParser.Ethereum.UniversalRouter

/-!
# Commands and their inputs

Unknown command bytes are left out of the entries, but each entry keeps the input
at the position of its own byte.  The entries are the known commands paired with
their inputs; what a pair does not contain cannot change its entry, except that
entries without a decoder of their own are numbered in the order of the display.
-/

namespace VisualSignParser.Ethereum.UniversalRouter

open VisualSignParser.Framing
open VisualSignParser.VisualSign

/-! ## Pairs -/

/-- The known commands, each with the input at the position of its byte. -/
def shownPairs : Bytes → (ℕ → Option Bytes) → List (Command × Option Bytes)
  | [], _ => []
  | byte :: commands, inputAt =>
      ((Command.tryFrom byte).map fun cmd => (cmd, inputAt 0)).toList ++
        shownPairs commands fun index => inputAt (index + 1)

/-- The commands that are known, each with the input at its index in the byte
string, are the pairs that are shown, from whatever index the count starts. -/
theorem map_zipIdx_eq_shownPairs (commands : Bytes) (start : ℕ) (inputAt : ℕ → Option Bytes) :
    ((commands.zipIdx start).filterMap selectCommand).map
        (fun entry => (entry.2, inputAt entry.1)) =
      shownPairs commands fun index => inputAt (start + index) := by
  induction commands generalizing start with
  | nil => rfl
  | cons byte commands ih =>
      have hrest := ih (start + 1)
      simp only [Nat.add_right_comm start 1, Nat.add_assoc] at hrest
      rw [List.zipIdx_cons, shownPairs]
      cases hcmd : Command.tryFrom byte with
      | none =>
          rw [List.filterMap_cons_none (by rw [selectCommand, hcmd, Option.map_none]), hrest]
          rfl
      | some cmd =>
          rw [List.filterMap_cons_some (by rw [selectCommand, hcmd, Option.map_some]),
            List.map_cons, hrest]
          rfl

/-- The pairs of the source are those of the abstract table: an input is looked up
at the index of its byte, not at the place among the known commands. -/
theorem map_mapCommands (commands : Bytes) (inputAt : ℕ → Option Bytes) :
    (mapCommands commands).map (fun entry => (entry.2, inputAt entry.1)) =
      shownPairs commands inputAt := by
  rw [mapCommands, map_zipIdx_eq_shownPairs]
  simp only [Nat.zero_add]

/-- The pairs of two byte strings in a row are those of the first and those of the
second, whose inputs begin behind the first. -/
theorem shownPairs_append (front back : Bytes) (inputAt : ℕ → Option Bytes) :
    shownPairs (front ++ back) inputAt =
      shownPairs front inputAt ++ shownPairs back fun index => inputAt (front.length + index) := by
  induction front generalizing inputAt with
  | nil => simp [shownPairs]
  | cons byte front ih =>
      rw [List.cons_append, shownPairs, shownPairs, ih, List.append_assoc, List.length_cons]
      simp only [Nat.add_right_comm front.length 1]

/-- There are as many pairs as known command bytes; a byte that is not known has no
pair. -/
theorem length_shownPairs (commands : Bytes) (inputAt : ℕ → Option Bytes) :
    (shownPairs commands inputAt).length = commands.countP isKnown := by
  induction commands generalizing inputAt with
  | nil => rfl
  | cons byte commands ih =>
      rw [shownPairs, List.length_append, ih, List.countP_cons, isKnown, Nat.add_comm]
      cases Command.tryFrom byte <;> rfl

/-- Only the inputs of known commands matter. -/
theorem shownPairs_congr {commands : Bytes} {left right : ℕ → Option Bytes}
    (hagree : ∀ index byte, commands[index]? = some byte → isKnown byte = true →
      left index = right index) :
    shownPairs commands left = shownPairs commands right := by
  induction commands generalizing left right with
  | nil => rfl
  | cons byte commands ih =>
      have hrest : shownPairs commands (fun index => left (index + 1)) =
          shownPairs commands fun index => right (index + 1) :=
        ih fun index other hother hknown => hagree (index + 1) other (by simpa using hother) hknown
      rw [shownPairs, shownPairs, hrest]
      cases hcmd : Command.tryFrom byte with
      | none => rfl
      | some cmd =>
          have hfirst := hagree 0 byte rfl (by rw [isKnown, hcmd]; rfl)
          rw [Option.map_some, Option.map_some, hfirst]

/-- An unknown byte takes its input with it. -/
theorem shownPairs_insertIdx {commands : Bytes} {index : ℕ} {byte : UInt8}
    (hbyte : isKnown byte = false) (hindex : index ≤ commands.length)
    {left right : ℕ → Option Bytes} (hbefore : ∀ place < index, left place = right place)
    (hafter : ∀ place, index ≤ place → left (place + 1) = right place) :
    shownPairs (commands.insertIdx index byte) left = shownPairs commands right := by
  have hnone : Command.tryFrom byte = none := by
    rw [isKnown, ← Bool.not_eq_true, Option.isSome_iff_ne_none] at hbyte
    exact not_not.1 hbyte
  induction index generalizing commands left right with
  | zero =>
      rw [List.insertIdx_zero, shownPairs, hnone]
      exact congrArg (shownPairs commands) (funext fun place => hafter place (Nat.zero_le place))
  | succ index ih =>
      cases commands with
      | nil => simp at hindex
      | cons first commands =>
          rw [List.insertIdx_succ_cons, shownPairs, shownPairs, hbefore 0 (Nat.succ_pos index)]
          congr 1
          apply ih (by simpa using hindex)
          · intro place hplace
            exact hbefore (place + 1) (Nat.succ_lt_succ hplace)
          · intro place hplace
            exact hafter (place + 1) (Nat.succ_le_succ hplace)

/-- The front of the pairs comes from the front of the commands. -/
theorem take_shownPairs (commands : Bytes) (index : ℕ) (inputAt : ℕ → Option Bytes) :
    (shownPairs commands inputAt).take (displayIndex commands index) =
      shownPairs (commands.take index) inputAt := by
  conv_lhs => rw [← List.take_append_drop index commands, shownPairs_append]
  have hlength : displayIndex (commands.take index ++ commands.drop index) index =
      (shownPairs (commands.take index) inputAt).length := by
    rw [List.take_append_drop, length_shownPairs, displayIndex]
  rw [hlength, List.take_left]

/-! ## Entries -/

/-- The entry without the label that numbers it. -/
def unnumbered (entry : AnnotatedPayloadField) : AnnotatedPayloadField :=
  match entry.signablePayloadField with
  | .previewLayout common layout =>
      { entry with signablePayloadField := .previewLayout { common with label := "" } layout }
  | _ => entry

/-- Of two known commands the earlier one is displayed in front of the later one,
whatever unknown bytes stand between them. -/
theorem displayIndex_lt {commands : Bytes} {first second : ℕ} {byte : UInt8}
    (hbyte : commands[first]? = some byte) (hknown : isKnown byte = true) (hlt : first < second) :
    displayIndex commands first < displayIndex commands second := by
  have hnext : displayIndex commands (first + 1) = displayIndex commands first + 1 := by
    rw [displayIndex, displayIndex, List.take_add_one, hbyte, List.countP_append]
    simp [hknown]
  have hprefix : commands.take (first + 1) <+: commands.take second :=
    List.take_prefix_take_left hlt
  calc
    displayIndex commands first < displayIndex commands (first + 1) := by omega
    _ ≤ displayIndex commands second := hprefix.sublist.countP_le

section Entries

variable (formats : Formats) (chainId : ChainId) (registry : Option ContractRegistry)

/-- The entries are the pairs in order, numbered from one, and each is rendered from
its command and its input alone. -/
theorem commandEntries_eq (commands : Bytes) (inputs : List Bytes) :
    commandEntries formats chainId registry commands inputs =
      (shownPairs commands fun index => inputs[index]?).zipIdx.map fun entry =>
        commandEntry formats chainId registry (entry.2 + 1) entry.1.1 entry.1.2 := by
  rw [← map_mapCommands, List.zipIdx_map, List.map_map, commandEntries]
  rfl

/-- Two entries for one command and one input differ in their numbers only, which is
what makes entries comparable between two transactions. -/
theorem unnumbered_commandEntry (cmd : Command) (input : Option Bytes) (left right : ℕ) :
    unnumbered (commandEntry formats chainId registry left cmd input) =
      unnumbered (commandEntry formats chainId registry right cmd input) := by
  rw [commandEntry, commandEntry]
  cases commandField formats chainId registry cmd input <;> rfl

/-- The entry of a known byte stands at the place that the known bytes in front of
it leave, and shows the input at the index of the byte. -/
theorem getElem?_commandEntries {commands : Bytes} {inputs : List Bytes} {index : ℕ}
    {byte : UInt8} {cmd : Command} (hbyte : commands[index]? = some byte) (hcmd : Command.tryFrom byte = some cmd) :
    (commandEntries formats chainId registry commands inputs)[displayIndex commands index]? =
      some (commandEntry formats chainId registry (displayIndex commands index + 1) cmd
        inputs[index]?) :=
  (listsKnownCommands_commandEntries formats chainId registry ⟨commands, inputs, none⟩).entry
    index byte cmd hbyte hcmd

theorem take_zipIdx {A : Type} (list : List A) (count start : ℕ) :
    (list.zipIdx start).take count = (list.take count).zipIdx start := by
  apply List.ext_getElem?
  intro index
  rw [List.getElem?_take, List.getElem?_zipIdx, List.getElem?_zipIdx, List.getElem?_take]
  split_ifs <;> rfl

/-- The entries in front of a position come from the commands and inputs in front
of it. -/
theorem take_commandEntries_congr {commands : Bytes} {left right : List Bytes} {index : ℕ}
    (hbefore : ∀ place < index, left[place]? = right[place]?) :
    (commandEntries formats chainId registry commands left).take (displayIndex commands index) =
      (commandEntries formats chainId registry commands right).take
        (displayIndex commands index) := by
  have hpairs : shownPairs (commands.take index) (fun place => left[place]?) =
      shownPairs (commands.take index) fun place => right[place]? := by
    apply shownPairs_congr
    intro place byte hbyte _
    apply hbefore
    by_contra hplace
    rw [List.getElem?_take, if_neg hplace] at hbyte
    cases hbyte
  rw [commandEntries_eq, commandEntries_eq, ← List.map_take, ← List.map_take, take_zipIdx,
    take_zipIdx, take_shownPairs, take_shownPairs, hpairs]

/-- An unknown byte together with an input at the same index can be put in anywhere
without a change to what is displayed. -/
theorem commandEntries_insertIdx {commands : Bytes} {index : ℕ} {byte : UInt8}
    (hbyte : isKnown byte = false) (hindex : index ≤ commands.length) (inputs : List Bytes)
    (input : Bytes) :
    commandEntries formats chainId registry (commands.insertIdx index byte)
        (inputs.insertIdx index input) =
      commandEntries formats chainId registry commands inputs := by
  rw [commandEntries_eq, commandEntries_eq, shownPairs_insertIdx hbyte hindex]
  · intro place hplace
    exact List.getElem?_insertIdx_of_lt hplace
  · intro place hplace
    rw [List.getElem?_insertIdx_of_gt (Nat.lt_succ_of_le hplace), Nat.succ_sub_one]

/-- An unknown byte can be taken out together with the input at its index, and the
display stays as it was. -/
theorem commandEntries_eraseIdx {commands : Bytes} {index : ℕ} {byte : UInt8}
    (hplace : commands[index]? = some byte) (hbyte : isKnown byte = false) (inputs : List Bytes) :
    commandEntries formats chainId registry (commands.eraseIdx index) (inputs.eraseIdx index) =
      commandEntries formats chainId registry commands inputs := by
  obtain ⟨hindex, rfl⟩ := List.getElem?_eq_some_iff.1 hplace
  have hcommands := List.insertIdx_eraseIdx_getElem hindex
  have hlength : index ≤ (commands.eraseIdx index).length := by
    rw [List.length_eraseIdx_of_lt hindex]
    omega
  conv_rhs => rw [← hcommands]
  rw [commandEntries_eq, commandEntries_eq, shownPairs_insertIdx hbyte hlength]
  · intro place hplace
    exact (List.getElem?_eraseIdx_of_lt hplace).symm
  · intro place hplace
    exact (List.getElem?_eraseIdx_of_ge hplace).symm

/-- The entries follow the known bytes in order, each made of its own byte, its own
input and, in its label only, its own number.  Inputs of unknown bytes may change,
and may come and go with their bytes; one that comes or goes alone leaves the entries
in front of it as they are. -/
structure InputsAligned (commands : Bytes) (inputs : List Bytes) : Prop where
  length_eq : (commandEntries formats chainId registry commands inputs).length =
    commands.countP isKnown
  entry : ∀ index byte cmd, commands[index]? = some byte → Command.tryFrom byte = some cmd →
    (commandEntries formats chainId registry commands inputs)[displayIndex commands index]? =
      some (commandEntry formats chainId registry (displayIndex commands index + 1) cmd
        inputs[index]?)
  number : ∀ cmd input left right,
    unnumbered (commandEntry formats chainId registry left cmd input) =
      unnumbered (commandEntry formats chainId registry right cmd input)
  order : ∀ first second byte, commands[first]? = some byte → isKnown byte = true →
    first < second → displayIndex commands first < displayIndex commands second
  changed : ∀ others : List Bytes, (∀ (index : ℕ) byte, commands[index]? = some byte →
      isKnown byte = true → others[index]? = inputs[index]?) →
    commandEntries formats chainId registry commands others =
      commandEntries formats chainId registry commands inputs
  inserted : ∀ index byte input, isKnown byte = false → index ≤ commands.length →
    commandEntries formats chainId registry (commands.insertIdx index byte)
        (inputs.insertIdx index input) =
      commandEntries formats chainId registry commands inputs
  removed : ∀ index byte, commands[index]? = some byte → isKnown byte = false →
    commandEntries formats chainId registry (commands.eraseIdx index) (inputs.eraseIdx index) =
      commandEntries formats chainId registry commands inputs
  insertedAlone : ∀ index input,
    (commandEntries formats chainId registry commands (inputs.insertIdx index input)).take
        (displayIndex commands index) =
      (commandEntries formats chainId registry commands inputs).take (displayIndex commands index)
  removedAlone : ∀ index,
    (commandEntries formats chainId registry commands (inputs.eraseIdx index)).take
        (displayIndex commands index) =
      (commandEntries formats chainId registry commands inputs).take (displayIndex commands index)

end Entries

/-- Commands and inputs stay aligned: there is one entry for each known byte, it
shows the input at the index of that byte, and unknown bytes with their inputs can
come and go without a trace. -/
theorem inputs_aligned (formats : Formats) (chainId : ChainId) (registry : Option ContractRegistry)
    (commands : Bytes) (inputs : List Bytes) :
    InputsAligned formats chainId registry commands inputs where
  length_eq :=
    (listsKnownCommands_commandEntries formats chainId registry ⟨commands, inputs, none⟩).length_eq
  entry _ _ _ := getElem?_commandEntries formats chainId registry
  number := unnumbered_commandEntry formats chainId registry
  order _ _ _ := displayIndex_lt
  changed others hagree := by
    rw [commandEntries_eq, commandEntries_eq, shownPairs_congr hagree]
  inserted _ _ input hbyte hindex :=
    commandEntries_insertIdx formats chainId registry hbyte hindex inputs input
  removed _ _ hplace hbyte := commandEntries_eraseIdx formats chainId registry hplace hbyte inputs
  insertedAlone _ _ :=
    take_commandEntries_congr formats chainId registry fun _ hplace =>
      List.getElem?_insertIdx_of_lt hplace
  removedAlone _ :=
    take_commandEntries_congr formats chainId registry fun _ hplace =>
      List.getElem?_eraseIdx_of_lt hplace

/-- Fallback texts and labels of the entries on mainnet. -/
def entryTexts (commands : Bytes) (inputs : List Bytes) : List SignablePayloadFieldCommon :=
  (commandEntries plainFormats 1 none commands inputs).map fun entry =>
    entry.signablePayloadField.common

/-- Entries of one byte and one input differ by their numbers, and an input that is
removed alone from the place of an unknown byte shifts those behind it. -/
theorem entries_not_aligned :
    entryTexts [0x21, 0x21] [[], []] =
        [⟨"ExecuteSubPlan input: 0x", "Command 1"⟩, ⟨"ExecuteSubPlan input: 0x", "Command 2"⟩] ∧
      isKnown 0xff = false ∧
      entryTexts [0xff, 0x21] [[1], [2]] = [⟨"ExecuteSubPlan input: 0x02", "Command 1"⟩] ∧
      entryTexts [0xff, 0x21] ([[1], [2]].eraseIdx 0) =
        [⟨"ExecuteSubPlan input: None", "Command 1"⟩] := by
  decide +kernel

end VisualSignParser.Ethereum.UniversalRouter
