import VisualSignParser.Near.Render
import VisualSignParser.VisualSign.Shape

/-!
# Assets by the texts they are shown under

Without metadata of the request an asset is shown under the symbol of the seed
behind it or, when there is none, under its id.  No two seeds share a symbol, so
the text of an amount gives back the number and the asset.  What it does not
give back is the form of the asset: a token that the verifier contract holds as
a multi-token is shown as the token.
-/

namespace VisualSignParser.Near

open VisualSignParser.OrderedMap
open VisualSignParser.Outcome
open VisualSignParser.VisualSign
open VisualSignParser.Ethereum (LayeredRegistry)

section Assets

variable (isNep141 : String → Bool)

/-- The seed whose metadata an asset is shown with. -/
def seedBehind (assetId : String) : Option (String × String × UInt8) :=
  match findSeed assetId with
  | some seed => some seed
  | none =>
      match _hinner : mtUnderlyingNep141 isNep141 assetId with
      | some inner => seedBehind inner
      | none => none
termination_by assetId.toList.length
decreasing_by exact length_mtUnderlyingNep141 _hinner

/-- The seed of an asset is its own or that of the asset it wraps, however deep it
is wrapped. -/
theorem seedBehind_eq (assetId : String) :
    seedBehind isNep141 assetId =
      (findSeed assetId).or
        ((mtUnderlyingNep141 isNep141 assetId).bind (seedBehind isNep141)) := by
  rw [seedBehind]
  cases findSeed assetId with
  | some seed => rfl
  | none =>
      dsimp only
      split
      · next inner hinner => rw [hinner]; rfl
      · next hinner => rw [hinner]; rfl

/-- The asset that is shown: the token itself for a token held as a multi-token. -/
def shownAsset (assetId : String) : String :=
  match seedBehind isNep141 assetId with
  | some seed => seed.1
  | none => assetId

theorem seedBehind_mem (assetId : String) {seed : String × String × UInt8}
    (hseed : seedBehind isNep141 assetId = some seed) : seed ∈ seeds := by
  induction assetId using (underlying_induction isNep141) with
  | hstep assetId ih =>
      rw [seedBehind_eq] at hseed
      cases hfind : findSeed assetId with
      | some found =>
          rw [hfind, Option.some_or] at hseed
          rw [← Option.some.inj hseed]
          exact List.mem_of_find?_eq_some hfind
      | none =>
          rw [hfind, Option.none_or] at hseed
          obtain ⟨inner, hinner, hseed⟩ := Option.bind_eq_some_iff.1 hseed
          exact ih inner hinner hseed

/-- An asset has seeded decimals when there is a seed behind it. -/
theorem seededDecimals_eq_map (assetId : String) :
    seededDecimals isNep141 assetId = (seedBehind isNep141 assetId).map fun seed => seed.2.2 := by
  induction assetId using (underlying_induction isNep141) with
  | hstep assetId ih =>
      rw [seededDecimals_eq, seedBehind_eq]
      cases findSeed assetId with
      | some seed => rfl
      | none =>
          cases hinner : mtUnderlyingNep141 isNep141 assetId with
          | none => rfl
          | some inner => exact ih inner hinner

/-- Without metadata of the request only the seeds speak. -/
theorem resolve_of_no_metadata (assetId : String) :
    resolve isNep141 (requestLayers none) assetId =
      (seedBehind isNep141 assetId).map fun seed => ⟨seed.2.1, seed.2.2, .seed⟩ := by
  have husable : ∀ seed ∈ seeds, usable ⟨seed.2.1, seed.2.2, .seed⟩ =
      some ⟨seed.2.1, seed.2.2, .seed⟩ := by decide
  induction assetId using (underlying_induction isNep141) with
  | hstep assetId ih =>
      rw [resolve_eq, lookup_requestLayers, seedBehind_eq]
      change (seedMeta assetId).or _ = _
      cases hfind : findSeed assetId with
      | some seed =>
          rw [seedMeta, hfind, Option.bind_some, husable seed (List.mem_of_find?_eq_some hfind)]
          rfl
      | none =>
          rw [seedMeta, hfind, Option.bind_none, Option.none_or, Option.none_or]
          cases hinner : mtUnderlyingNep141 isNep141 assetId with
          | none => rfl
          | some inner => exact ih inner hinner

/-- Only the multi-token form of a seeded asset is shown as another asset. -/
theorem shownAsset_eq_self {assetId : String}
    (hform : mtUnderlyingNep141 isNep141 assetId = none ∨
      seededDecimals isNep141 assetId = none) :
    shownAsset isNep141 assetId = assetId := by
  rw [shownAsset]
  cases hseed : seedBehind isNep141 assetId with
  | none => rfl
  | some seed =>
      rcases hform with hform | hform
      · rw [seedBehind_eq, hform, Option.bind_none, Option.or_none] at hseed
        simpa using List.find?_some hseed
      · rw [seededDecimals_eq_map, hseed] at hform
        cases hform

/-- The one field of an amount. -/
def assetField (label assetId : String) (raw : ℕ) : SignablePayloadField :=
  match seedBehind isNep141 assetId with
  | some seed => .amountV2 ⟨formatUnits raw seed.2.2 ++ " " ++ seed.2.1, label⟩
      ⟨formatUnits raw seed.2.2, some seed.2.1⟩
  | none => textField label (toString raw ++ " (unresolved " ++ charsetSafe assetId ++ ")")

@[simp]
theorem label_assetField (label assetId : String) (raw : ℕ) :
    (assetField isNep141 label assetId raw).common.label = label := by
  rw [assetField]
  cases seedBehind isNep141 assetId <;> rfl

variable {isNep141}

theorem amountField_eq_ok {label amount abbreviation : String} {field : SignablePayloadField}
    (hfield : amountField label amount abbreviation = .ok field) :
    field = .amountV2 ⟨amount ++ " " ++ abbreviation, label⟩ ⟨amount, some abbreviation⟩ := by
  obtain ⟨annotated, hannotated, hfield⟩ := map_eq_ok.1 hfield
  obtain ⟨⟨⟩, -, hannotated⟩ := bind_eq_ok.1 hannotated
  split_ifs at hannotated
  rw [← hfield, ← pure_eq_ok.1 hannotated]
  rfl

/-- Without metadata an amount is shown by one field, made of the seed behind the
asset or of its raw name. -/
theorem tokenAmountField_of_no_metadata {label assetId : String} {raw : ℕ} {fields : Fields}
    (hfields : tokenAmountField isNep141 (requestLayers none) label assetId raw = .ok fields) :
    fields = [assetField isNep141 label assetId raw] := by
  rw [tokenAmountField, resolve_of_no_metadata] at hfields
  rw [assetField]
  cases hseed : seedBehind isNep141 assetId with
  | none =>
      rw [hseed] at hfields
      exact (pure_eq_ok.1 hfields).symm
  | some seed =>
      rw [hseed] at hfields
      obtain ⟨amount, hamount, hfields⟩ := bind_eq_ok.1 hfields
      rw [← pure_eq_ok.1 hfields, amountField_eq_ok hamount]

/-- A field gives back its label, the asset it shows and the number. -/
theorem assetField_injective {label otherLabel left right : String} {raw other : ℕ}
    (hleft : charsetSafe left = left) (hright : charsetSafe right = right)
    (heq : assetField isNep141 label left raw = assetField isNep141 otherLabel right other) :
    label = otherLabel ∧ shownAsset isNep141 left = shownAsset isNep141 right ∧ raw = other := by
  have hlabel := congrArg (fun field => field.common.label) heq
  simp only [label_assetField] at hlabel
  refine ⟨hlabel, ?_⟩
  rw [assetField, assetField] at heq
  rw [shownAsset, shownAsset]
  cases hleftSeed : seedBehind isNep141 left with
  | some seed =>
      cases hrightSeed : seedBehind isNep141 right with
      | some found =>
          rw [hleftSeed, hrightSeed] at heq
          simp only [SignablePayloadField.amountV2.injEq, SignablePayloadFieldAmountV2.mk.injEq,
            Option.some.injEq] at heq
          obtain ⟨-, hamount, hsymbol⟩ := heq
          have hsame := seeds_symbol_injective seed (seedBehind_mem isNep141 left hleftSeed) found
            (seedBehind_mem isNep141 right hrightSeed) hsymbol
          rw [hsame] at hamount ⊢
          exact ⟨rfl, Decimal.trimmedText_injective _ hamount⟩
      | none =>
          rw [hleftSeed, hrightSeed] at heq
          cases heq
  | none =>
      cases hrightSeed : seedBehind isNep141 right with
      | some found =>
          rw [hleftSeed, hrightSeed] at heq
          cases heq
      | none =>
          rw [hleftSeed, hrightSeed, hleft, hright] at heq
          have htext := congrArg (fun field => field.common.fallbackText.toList) heq
          change (toString raw ++ " (unresolved " ++ left ++ ")").toList =
            (toString other ++ " (unresolved " ++ right ++ ")").toList at htext
          simp only [String.toList_append, Decimal.toList_toString, List.append_assoc] at htext
          have hspace : ' '.isDigit = false := by decide
          obtain ⟨hraw, hrest⟩ := Decimal.append_cons_inj (Decimal.not_mem_toDigits hspace raw)
            (Decimal.not_mem_toDigits hspace other) htext
          change "(unresolved ".toList ++ (left.toList ++ ")".toList) =
            "(unresolved ".toList ++ (right.toList ++ ")".toList) at hrest
          have hid := List.append_cancel_right (List.append_cancel_left hrest)
          exact ⟨String.toList_injective hid, Decimal.toDigits_injective hraw⟩

/-! ## Maps of assets -/

theorem flatten_of_mapM {V : Type} {step : V → Except VisualSignError Fields}
    {field : V → SignablePayloadField} {entries : List V} {lists : List Fields}
    (hstep : ∀ entry fields, step entry = .ok fields → fields = [field entry])
    (hlists : entries.mapM step = .ok lists) : lists.flatten = entries.map field := by
  have hall := mapM_eq_ok.1 hlists
  induction hall with
  | nil => rfl
  | cons hentry hrest ih =>
      rw [List.flatten_cons, hstep _ _ hentry, ih (mapM_eq_ok.2 hrest)]
      rfl

/-- Entries that are shown by the same fields show the same assets and values. -/
theorem shown_of_map_eq {V : Type} {field : String × V → SignablePayloadField}
    {left right : List (String × V)}
    (hfield : ∀ entry other, charsetSafe entry.1 = entry.1 → charsetSafe other.1 = other.1 →
      field entry = field other →
      shownAsset isNep141 entry.1 = shownAsset isNep141 other.1 ∧ entry.2 = other.2)
    (hleft : ∀ entry ∈ left, charsetSafe entry.1 = entry.1)
    (hright : ∀ entry ∈ right, charsetSafe entry.1 = entry.1)
    (heq : left.map field = right.map field) :
    (left.map fun entry => (shownAsset isNep141 entry.1, entry.2)) =
      right.map fun entry => (shownAsset isNep141 entry.1, entry.2) := by
  induction left generalizing right with
  | nil =>
      rw [List.map_eq_nil_iff.1 heq.symm]
  | cons entry left ih =>
      cases right with
      | nil => cases heq
      | cons other right =>
          obtain ⟨hhead, htail⟩ := List.cons.inj heq
          obtain ⟨hasset, hvalue⟩ := hfield entry other (hleft entry List.mem_cons_self)
            (hright other List.mem_cons_self) hhead
          rw [List.map_cons, List.map_cons, hasset, hvalue,
            ih (fun entry hentry => hleft entry (List.mem_cons_of_mem _ hentry))
              (fun entry hentry => hright entry (List.mem_cons_of_mem _ hentry)) htail]

/-- The field of a change: its label tells the sign. -/
def deltaField (isNep141 : String → Bool) (entry : String × ℤ) : SignablePayloadField :=
  assetField isNep141 (if entry.2 < 0 then "Send" else "Receive") entry.1 entry.2.natAbs

theorem deltaField_injective (entry other : String × ℤ) (hentry : charsetSafe entry.1 = entry.1)
    (hother : charsetSafe other.1 = other.1)
    (heq : deltaField isNep141 entry = deltaField isNep141 other) :
    shownAsset isNep141 entry.1 = shownAsset isNep141 other.1 ∧ entry.2 = other.2 := by
  obtain ⟨hlabel, hasset, habs⟩ := assetField_injective hentry hother heq
  have hsign : entry.2 < 0 ↔ other.2 < 0 := by
    by_cases hleft : entry.2 < 0 <;> by_cases hright : other.2 < 0 <;>
      simp [hleft, hright] at hlabel ⊢
  exact ⟨hasset, by omega⟩

/-- The labels of the fields that show amounts. -/
def isAmountLabel (field : SignablePayloadField) : Bool :=
  field.common.label = "Send" || field.common.label = "Receive" || field.common.label = "Amount"

theorem not_isAmountLabel_memoFields {memo : Option String} {field : SignablePayloadField}
    (hfield : field ∈ memoFields memo) : ¬ isAmountLabel field = true := by
  rw [memoFields] at hfield
  cases hmemo : nonemptyFiltered memo with
  | none =>
      rw [hmemo] at hfield
      cases hfield
  | some text =>
      rw [hmemo] at hfield
      rw [List.mem_singleton.1 hfield]
      exact Bool.false_ne_true

/-- A token diff is shown by its changes and then by fields of other labels. -/
theorem renderTokenDiff_of_no_metadata {tokenDiff : TokenDiff} {fields : Fields}
    (hfields : renderTokenDiff isNep141 (requestLayers none) tokenDiff = .ok fields) :
    ∃ rest, fields = tokenDiff.diff.entries.map (deltaField isNep141) ++ rest ∧
      tokenDiff.diff.entries ≠ [] ∧ ∀ field ∈ rest, ¬ isAmountLabel field = true := by
  obtain ⟨⟨⟩, hentries, hfields⟩ := bind_eq_ok.1 hfields
  obtain ⟨amounts, hamounts, hfields⟩ := bind_eq_ok.1 hfields
  have hflatten : amounts.flatten = tokenDiff.diff.entries.map (deltaField isNep141) := by
    apply flatten_of_mapM _ hamounts
    intro entry fields hentry
    rw [diffEntryFields] at hentry
    by_cases hzero : entry.2 = 0
    · rw [if_pos hzero] at hentry
      cases hentry
    · rw [if_neg hzero] at hentry
      exact tokenAmountField_of_no_metadata hentry
  rw [hflatten, List.append_assoc] at hfields
  refine ⟨_, (pure_eq_ok.1 hfields).symm, ?_, ?_⟩
  · simpa using require_eq_ok.1 hentries
  · intro field hfield
    rcases List.mem_append.1 hfield with hfield | hfield
    · exact not_isAmountLabel_memoFields hfield
    · cases hreferral : tokenDiff.referral with
      | none =>
          rw [hreferral] at hfield
          cases hfield
      | some referral =>
          rw [hreferral] at hfield
          rw [List.mem_singleton.1 hfield]
          exact Bool.false_ne_true

/-- A transfer is shown by its receiver, its amounts and then by fields of other
labels. -/
theorem renderTransfer_of_no_metadata {transfer : Transfer} {fields : Fields}
    (hfields : renderTransfer isNep141 (requestLayers none) transfer = .ok fields) :
    ∃ rest, fields = textField "To" transfer.receiverId ::
      (transfer.tokens.entries.map (fun entry => assetField isNep141 "Amount" entry.1 entry.2) ++
        rest) ∧
      ∀ field ∈ rest, ¬ isAmountLabel field = true := by
  obtain ⟨amounts, hamounts, hfields⟩ := bind_eq_ok.1 hfields
  have hflatten : amounts.flatten =
      transfer.tokens.entries.map fun entry => assetField isNep141 "Amount" entry.1 entry.2 := by
    apply flatten_of_mapM _ hamounts
    intro entry fields hentry
    exact tokenAmountField_of_no_metadata hentry
  rw [hflatten, List.append_assoc] at hfields
  refine ⟨_, (pure_eq_ok.1 hfields).symm, ?_⟩
  intro field hfield
  rcases List.mem_append.1 hfield with hfield | hfield
  · exact not_isAmountLabel_memoFields hfield
  · cases hnotification : transfer.notification with
    | none =>
        rw [hnotification] at hfield
        cases hfield
    | some notification =>
        rw [hnotification] at hfield
        rcases List.mem_cons.1 hfield with hfield | hfield
        · rw [hfield]
          exact Bool.false_ne_true
        · split_ifs at hfield
          · rw [List.mem_singleton.1 hfield]
            exact Bool.false_ne_true
          · cases hfield

/-- The map of a token diff or of a transfer. -/
inductive TokenMap where
  | deltas (diff : Amounts ℤ)
  | amounts (tokens : Amounts ℕ)

namespace TokenMap

def assets : TokenMap → List String
  | deltas diff => diff.entries.map Prod.fst
  | amounts tokens => tokens.entries.map Prod.fst

/-- The assets that are shown, with their amounts. -/
def shown (isNep141 : String → Bool) : TokenMap → List (String × ℤ) ⊕ List (String × ℕ)
  | deltas diff => .inl (diff.entries.map fun entry => (shownAsset isNep141 entry.1, entry.2))
  | amounts tokens => .inr (tokens.entries.map fun entry => (shownAsset isNep141 entry.1, entry.2))

end TokenMap

def Intent.tokenMap : Intent → Option TokenMap
  | .tokenDiff changes => some (.deltas changes.diff)
  | .transfer sent => some (.amounts sent.tokens)
  | _ => none

theorem shown_deltas_of_same_fields {left right : TokenDiff} {fields : Fields}
    (hleftSafe : ∀ entry ∈ left.diff.entries, charsetSafe entry.1 = entry.1)
    (hrightSafe : ∀ entry ∈ right.diff.entries, charsetSafe entry.1 = entry.1)
    (hleft : renderTokenDiff isNep141 (requestLayers none) left = .ok fields)
    (hright : renderTokenDiff isNep141 (requestLayers none) right = .ok fields) :
    (TokenMap.deltas left.diff).shown isNep141 = (TokenMap.deltas right.diff).shown isNep141 := by
  obtain ⟨leftRest, hleftFields, -, hleftRest⟩ := renderTokenDiff_of_no_metadata hleft
  obtain ⟨rightRest, hrightFields, -, hrightRest⟩ := renderTokenDiff_of_no_metadata hright
  have hamount : ∀ (tokenDiff : TokenDiff),
      ∀ field ∈ tokenDiff.diff.entries.map (deltaField isNep141), isAmountLabel field = true := by
    intro tokenDiff field hfield
    obtain ⟨entry, -, hfield⟩ := List.mem_map.1 hfield
    rw [← hfield, isAmountLabel, deltaField, label_assetField]
    by_cases hsign : entry.2 < 0 <;> simp [hsign]
  have heads := Decimal.heads_of_append_eq (hamount left) (hamount right) hleftRest hrightRest
    (hleftFields.symm.trans hrightFields)
  exact congrArg Sum.inl (shown_of_map_eq deltaField_injective hleftSafe hrightSafe heads)

theorem shown_amounts_of_same_fields {left right : Transfer} {fields : Fields}
    (hleftSafe : ∀ entry ∈ left.tokens.entries, charsetSafe entry.1 = entry.1)
    (hrightSafe : ∀ entry ∈ right.tokens.entries, charsetSafe entry.1 = entry.1)
    (hleft : renderTransfer isNep141 (requestLayers none) left = .ok fields)
    (hright : renderTransfer isNep141 (requestLayers none) right = .ok fields) :
    (TokenMap.amounts left.tokens).shown isNep141 =
      (TokenMap.amounts right.tokens).shown isNep141 := by
  obtain ⟨leftRest, hleftFields, hleftRest⟩ := renderTransfer_of_no_metadata hleft
  obtain ⟨rightRest, hrightFields, hrightRest⟩ := renderTransfer_of_no_metadata hright
  have hamount : ∀ (transfer : Transfer), ∀ field ∈ transfer.tokens.entries.map
      (fun entry => assetField isNep141 "Amount" entry.1 entry.2), isAmountLabel field = true := by
    intro transfer field hfield
    obtain ⟨entry, -, hfield⟩ := List.mem_map.1 hfield
    rw [← hfield, isAmountLabel, label_assetField]
    rfl
  have heads := Decimal.heads_of_append_eq (hamount left) (hamount right) hleftRest hrightRest
    (List.tail_eq_of_cons_eq (hleftFields.symm.trans hrightFields))
  refine congrArg Sum.inr (shown_of_map_eq ?_ hleftSafe hrightSafe heads)
  intro entry other hentry hother heq
  exact (assetField_injective hentry hother heq).2

/-- A change is never shown where a transfer shows its receiver. -/
theorem tokenDiff_ne_transfer {tokenDiff : TokenDiff} {transfer : Transfer} {fields : Fields}
    (hdiff : renderTokenDiff isNep141 (requestLayers none) tokenDiff = .ok fields)
    (htransfer : renderTransfer isNep141 (requestLayers none) transfer = .ok fields) : False := by
  obtain ⟨leftRest, hleft, hentries, -⟩ := renderTokenDiff_of_no_metadata hdiff
  obtain ⟨rightRest, hright, -⟩ := renderTransfer_of_no_metadata htransfer
  obtain ⟨entry, entries, hcons⟩ := List.exists_cons_of_ne_nil hentries
  rw [hright, hcons, List.map_cons, List.cons_append] at hleft
  have hlabel := congrArg (fun field => field.common.label) (List.head_eq_of_cons_eq hleft)
  rw [deltaField] at hlabel
  simp only [label_assetField] at hlabel
  change "To" = _ at hlabel
  by_cases hsign : entry.2 < 0 <;> simp [hsign] at hlabel

theorem tokenMap_cases {intent : Intent} {map : TokenMap} (hmap : intent.tokenMap = some map) :
    (∃ tokenDiff, intent = .tokenDiff tokenDiff ∧ map = .deltas tokenDiff.diff) ∨
      ∃ transfer, intent = .transfer transfer ∧ map = .amounts transfer.tokens := by
  cases intent with
  | tokenDiff tokenDiff => exact .inl ⟨tokenDiff, rfl, (Option.some.inj hmap).symm⟩
  | transfer transfer => exact .inr ⟨transfer, rfl, (Option.some.inj hmap).symm⟩
  | _ => cases hmap

/-- Neither kind of intent comes with a warning. -/
theorem renderIntentBody_of_tokenMap {registry : LayeredRegistry NearTokenRegistry}
    {intent : Intent} {map : TokenMap} {fields : Fields} (hmap : intent.tokenMap = some map)
    (hfields : renderIntent isNep141 registry intent = .ok fields) :
    renderIntentBody isNep141 registry intent = .ok fields := by
  obtain ⟨body, hbody, hfields⟩ := bind_eq_ok.1 hfields
  have hwarning : accountControlWarning intent = [] := by
    obtain ⟨_, rfl, -⟩ | ⟨_, rfl, -⟩ := tokenMap_cases hmap <;> rfl
  rw [hwarning, List.append_nil] at hfields
  rw [hbody, pure_eq_ok.1 hfields]

/-- Intents of one kind with the same fields show the same assets with the same
amounts, provided that the asset names are printable. -/
theorem shown_of_same_fields {left right : Intent} {leftMap rightMap : TokenMap}
    {fields : Fields} (hleftMap : left.tokenMap = some leftMap)
    (hrightMap : right.tokenMap = some rightMap)
    (hleftSafe : ∀ assetId ∈ leftMap.assets, charsetSafe assetId = assetId)
    (hrightSafe : ∀ assetId ∈ rightMap.assets, charsetSafe assetId = assetId)
    (hleft : renderIntent isNep141 (requestLayers none) left = .ok fields)
    (hright : renderIntent isNep141 (requestLayers none) right = .ok fields) :
    leftMap.shown isNep141 = rightMap.shown isNep141 := by
  replace hleft := renderIntentBody_of_tokenMap hleftMap hleft
  replace hright := renderIntentBody_of_tokenMap hrightMap hright
  obtain ⟨leftDiff, rfl, rfl⟩ | ⟨leftTransfer, rfl, rfl⟩ := tokenMap_cases hleftMap
  · obtain ⟨rightDiff, rfl, rfl⟩ | ⟨rightTransfer, rfl, rfl⟩ := tokenMap_cases hrightMap
    · exact shown_deltas_of_same_fields (List.forall_mem_map.1 hleftSafe)
        (List.forall_mem_map.1 hrightSafe) hleft hright
    · exact (tokenDiff_ne_transfer hleft hright).elim
  · obtain ⟨rightDiff, rfl, rfl⟩ | ⟨rightTransfer, rfl, rfl⟩ := tokenMap_cases hrightMap
    · exact (tokenDiff_ne_transfer hright hleft).elim
    · exact shown_amounts_of_same_fields (List.forall_mem_map.1 hleftSafe)
        (List.forall_mem_map.1 hrightSafe) hleft hright

theorem map_shown_eq_self {V : Type} {entries : List (String × V)}
    (hself : ∀ assetId ∈ entries.map Prod.fst, shownAsset isNep141 assetId = assetId) :
    (entries.map fun entry => (shownAsset isNep141 entry.1, entry.2)) = entries := by
  refine (List.map_congr_left ?_).trans (List.map_id entries)
  intro entry hentry
  rw [hself entry.1 (List.mem_map_of_mem hentry)]
  rfl

/-- Maps without an asset that is shown as another are given back by what they show. -/
theorem TokenMap.eq_of_shown {left right : TokenMap}
    (hleft : ∀ assetId ∈ left.assets, shownAsset isNep141 assetId = assetId)
    (hright : ∀ assetId ∈ right.assets, shownAsset isNep141 assetId = assetId)
    (hshown : left.shown isNep141 = right.shown isNep141) : left = right := by
  cases left with
  | deltas left =>
      cases right with
      | deltas right =>
          have hentries := Sum.inl.inj hshown
          rw [map_shown_eq_self hleft, map_shown_eq_self hright] at hentries
          rw [Amounts.ext hentries]
      | amounts right => cases hshown
  | amounts left =>
      cases right with
      | deltas right => cases hshown
      | amounts right =>
          have hentries := Sum.inr.inj hshown
          rw [map_shown_eq_self hleft, map_shown_eq_self hright] at hentries
          rw [Amounts.ext hentries]

/-- Intents with the same fields have maps that show the same: position by
position the amounts agree, and the assets do up to the multi-token form of a
seeded asset.  Without such a form the maps are equal. -/
theorem tokenMaps_of_same_fields (isNep141 : String → Bool) {left right : Intent}
    {leftMap rightMap : TokenMap} {fields : Fields}
    (hleftMap : left.tokenMap = some leftMap) (hrightMap : right.tokenMap = some rightMap)
    (hleftSafe : ∀ assetId ∈ leftMap.assets, charsetSafe assetId = assetId)
    (hrightSafe : ∀ assetId ∈ rightMap.assets, charsetSafe assetId = assetId)
    (hleft : renderIntent isNep141 (requestLayers none) left = .ok fields)
    (hright : renderIntent isNep141 (requestLayers none) right = .ok fields) :
    leftMap.shown isNep141 = rightMap.shown isNep141 ∧
      ((∀ assetId ∈ leftMap.assets ++ rightMap.assets,
        mtUnderlyingNep141 isNep141 assetId = none ∨ seededDecimals isNep141 assetId = none) →
        leftMap = rightMap) := by
  have hshown := shown_of_same_fields hleftMap hrightMap hleftSafe hrightSafe hleft hright
  refine ⟨hshown, ?_⟩
  intro hforms
  apply TokenMap.eq_of_shown _ _ hshown
  · intro assetId hasset
    exact shownAsset_eq_self isNep141 (hforms assetId (List.mem_append_left _ hasset))
  · intro assetId hasset
    exact shownAsset_eq_self isNep141 (hforms assetId (List.mem_append_right _ hasset))

end Assets

/-- Texts of fungible tokens start with the name of their standard. -/
def spellsNep141 (text : String) : Bool := (Text.stripStart "nep141:" text).isSome

/-- The amount of a single asset. -/
def amountOf (assetId : String) (amount : ℕ) : Amounts ℕ :=
  ⟨[(assetId, amount)], by simp [DistinctKeys]⟩

def transferOf (assetId : String) (amount : ℕ) : Intent :=
  .transfer ⟨"bob.near", amountOf assetId amount, none, none⟩

def oneWrappedNear : Fields :=
  [textField "To" "bob.near", .amountV2 ⟨"1 wNEAR", "Amount"⟩ ⟨"1", some "wNEAR"⟩]

theorem renderIntent_of_wrapped {assetId : String}
    (hresolve : resolve spellsNep141 (requestLayers none) assetId = some ⟨"wNEAR", 24, .seed⟩) :
    renderIntent spellsNep141 (requestLayers none) (transferOf assetId (10 ^ 24)) =
      .ok oneWrappedNear := by
  have hamount : amountField "Amount" (formatUnits (10 ^ 24) 24) "wNEAR" =
      .ok (.amountV2 ⟨"1 wNEAR", "Amount"⟩ ⟨"1", some "wNEAR"⟩) := by
    have hunits : formatUnits (10 ^ 24) 24 = "1" := by decide +kernel
    rw [hunits]
    rfl
  have htoken : tokenAmountField spellsNep141 (requestLayers none) "Amount" assetId (10 ^ 24) =
      .ok [.amountV2 ⟨"1 wNEAR", "Amount"⟩ ⟨"1", some "wNEAR"⟩] := by
    rw [tokenAmountField, hresolve]
    dsimp only
    rw [hamount]
    rfl
  rw [transferOf, renderIntent, renderIntentBody, renderTransfer, amountOf, List.mapM_cons, htoken]
  rfl

theorem resolve_wrapped :
    resolve spellsNep141 (requestLayers none) "nep141:wrap.near" = some ⟨"wNEAR", 24, .seed⟩ ∧
      resolve spellsNep141 (requestLayers none) "nep245:intents.near:nep141:wrap.near" =
        some ⟨"wNEAR", 24, .seed⟩ := by
  decide +kernel

theorem tokenMaps_of_same_fields_wrapped :
    (TokenMap.amounts (amountOf "nep141:wrap.near" (10 ^ 24))).shown spellsNep141 =
      (TokenMap.amounts (amountOf "nep245:intents.near:nep141:wrap.near" (10 ^ 24))).shown
        spellsNep141 := by
  refine (tokenMaps_of_same_fields spellsNep141 rfl rfl ?_ ?_
    (renderIntent_of_wrapped resolve_wrapped.1) (renderIntent_of_wrapped resolve_wrapped.2)).1
  · decide
  · decide

/-- The verifier's multi-token form of a seeded token is shown as the token. -/
theorem multiToken_shown_as_token :
    ¬ ∀ (left right : Intent) (leftMap rightMap : TokenMap) (fields : Fields),
      left.tokenMap = some leftMap → right.tokenMap = some rightMap →
      (∀ assetId ∈ leftMap.assets, charsetSafe assetId = assetId) →
      (∀ assetId ∈ rightMap.assets, charsetSafe assetId = assetId) →
      renderIntent spellsNep141 (requestLayers none) left = .ok fields →
      renderIntent spellsNep141 (requestLayers none) right = .ok fields →
      leftMap = rightMap := by
  intro hinjective
  have hmaps := hinjective _ _ _ _ _ rfl rfl (by decide) (by decide)
    (renderIntent_of_wrapped resolve_wrapped.1) (renderIntent_of_wrapped resolve_wrapped.2)
  have hassets := congrArg TokenMap.assets hmaps
  exact absurd hassets (by decide)

end VisualSignParser.Near
