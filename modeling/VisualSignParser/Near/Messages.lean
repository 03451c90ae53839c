import VisualSignParser.Near.Render

/-!
# Messages of intents

A message turns a withdrawal or a transfer into a call of the receiver, whatever the
message says.  It is shown whenever it is there, and an empty one by a marker that no
filtered text can be.
-/

namespace VisualSignParser.Near

open VisualSignParser.Outcome
open VisualSignParser.VisualSign
open VisualSignParser.Ethereum (LayeredRegistry)

/-! ## Texts of messages -/

/-- The marker has a character that a filter never leaves. -/
theorem charsetSafe_ne_emptyValue (text : String) : charsetSafe text ≠ emptyValue := by
  intro heq
  have hmem : '\\' ∈ (charsetSafe text).toList := by
    rw [heq]
    decide
  rw [charsetSafe, String.toList_ofList] at hmem
  obtain ⟨char, -, hchar⟩ := List.mem_map.1 hmem
  split_ifs at hchar with hdisplay
  · rw [hchar] at hdisplay
    exact absurd hdisplay (by decide)
  · exact absurd hchar (by decide)

/-- Messages that are shown as they are are told apart. -/
theorem presentValue_inj {left right : String} (hleft : charsetSafe left = left)
    (hright : charsetSafe right = right) (heq : presentValue left = presentValue right) :
    left = right := by
  rw [presentValue, presentValue] at heq
  split_ifs at heq with hleftEmpty hrightEmpty hrightEmpty
  · rw [← hleft, ← hright, hleftEmpty, hrightEmpty]
  · exact absurd heq.symm (charsetSafe_ne_emptyValue right)
  · exact absurd heq (charsetSafe_ne_emptyValue left)
  · rw [← hleft, ← hright, heq]

/-! ## Messages among the fields -/

/-- The text of a field under the label of a message. -/
def messageText : SignablePayloadField → Option String
  | .textV2 common textV2 => if common.label = "Message" then some textV2.text else none
  | _ => none

def messageTexts (fields : Fields) : List String := fields.filterMap messageText

theorem messageTexts_append (left right : Fields) :
    messageTexts (left ++ right) = messageTexts left ++ messageTexts right :=
  List.filterMap_append

theorem messageTexts_flatten {groups : List Fields}
    (hgroups : ∀ group ∈ groups, messageTexts group = []) : messageTexts groups.flatten = [] := by
  rw [messageTexts, List.filterMap_flatten, List.flatten_eq_nil_iff]
  intro texts htexts
  obtain ⟨group, hgroup, rfl⟩ := List.mem_map.1 htexts
  exact hgroups group hgroup

theorem messageTexts_memoFields (memo : Option String) : messageTexts (memoFields memo) = [] := by
  rw [memoFields]
  cases nonemptyFiltered memo <;> rfl

theorem messageText_amountField {label amount abbreviation : String} {field : SignablePayloadField}
    (hfield : amountField label amount abbreviation = .ok field) : messageText field = none := by
  obtain ⟨annotated, hannotated, rfl⟩ := map_eq_ok.1 hfield
  obtain ⟨-, -, hannotated⟩ := bind_eq_ok.1 hannotated
  split at hannotated
  · cases hannotated
  · rw [← pure_eq_ok.1 hannotated]
    rfl

section Fields

variable {isNep141 : String → Bool} {registry : LayeredRegistry NearTokenRegistry}

theorem messageTexts_tokenAmountField {assetId : String} {raw : ℕ} {fields : Fields}
    (hfields : tokenAmountField isNep141 registry "Amount" assetId raw = .ok fields) :
    messageTexts fields = [] := by
  rw [tokenAmountField] at hfields
  cases hfound : resolve isNep141 registry assetId with
  | none =>
      rw [hfound] at hfields
      rw [← pure_eq_ok.1 hfields]
      rfl
  | some found =>
      rw [hfound] at hfields
      obtain ⟨amount, hamount, hfields⟩ := bind_eq_ok.1 hfields
      have hquiet := messageText_amountField hamount
      cases hcause : found.provenance.unverifiedCause with
      | none =>
          rw [hcause] at hfields
          rw [← pure_eq_ok.1 hfields, messageTexts, List.filterMap_cons_none hquiet]
          rfl
      | some cause =>
          rw [hcause] at hfields
          rw [← pure_eq_ok.1 hfields, messageTexts, List.filterMap_cons_none hquiet]
          rfl

theorem messageTexts_mapM {A : Type} {step : A → Except VisualSignError Fields} {list : List A}
    {groups : List Fields}
    (hstep : ∀ value fields, step value = .ok fields → messageTexts fields = [])
    (hgroups : list.mapM step = .ok groups) : messageTexts groups.flatten = [] := by
  apply messageTexts_flatten
  have hall := mapM_eq_ok.1 hgroups
  induction hall with
  | nil => exact List.forall_mem_nil _
  | cons hvalue hrest ih =>
      exact List.forall_mem_cons.2 ⟨hstep _ _ hvalue, ih (mapM_eq_ok.2 hrest)⟩

theorem messageTexts_details (memo msg : Option String) :
    messageTexts (memoFields memo ++
      (match msg with
        | some msg => [textField "Message" (presentValue msg)]
        | none => [])) = (msg.map presentValue).toList := by
  rw [messageTexts_append, messageTexts_memoFields, List.nil_append]
  cases msg <;> rfl

/-- The message is the only detail under its label. -/
theorem messageTexts_withdrawCallDetails {details : WithdrawDetails} {fields : Fields}
    (hfields : withdrawCallDetails details = .ok fields) :
    messageTexts fields = (details.msg.map presentValue).toList := by
  obtain ⟨memo, msg, deposit⟩ := details
  cases deposit with
  | none =>
      rw [← pure_eq_ok.1 hfields, List.append_nil]
      exact messageTexts_details memo msg
  | some deposit =>
      obtain ⟨field, hfield, hfields⟩ := bind_eq_ok.1 hfields
      have hlast : messageTexts [field] = [] :=
        List.filterMap_cons_none (messageText_amountField hfield)
      rw [← pure_eq_ok.1 hfields]
      refine (messageTexts_append _ _).trans ?_
      rw [hlast, List.append_nil]
      exact messageTexts_details memo msg

end Fields

/-! ## Intents with a message -/

/-- A transfer and the withdrawals of tokens have a message or room for one; a withdrawal
of the native token has neither. -/
def Intent.TakesMessage : Intent → Prop
  | .transfer _ => True
  | .ftWithdraw _ => True
  | .nftWithdraw _ => True
  | .mtWithdraw _ => True
  | _ => False

def Intent.message : Intent → Option String
  | .transfer body => body.notification.map NotifyOnTransfer.msg
  | .ftWithdraw body => body.details.msg
  | .nftWithdraw body => body.details.msg
  | .mtWithdraw body => body.details.msg
  | _ => none

/-- The notification with another message; a contract that it initializes stays. -/
def notificationWith (msg : Option String) (notification : Option NotifyOnTransfer) :
    Option NotifyOnTransfer :=
  msg.map fun text => ⟨text, (notification.map NotifyOnTransfer.stateInit).getD false⟩

/-- The same intent with another message, or with none. -/
def Intent.withMessage (msg : Option String) : Intent → Intent
  | .transfer body =>
      .transfer { body with notification := notificationWith msg body.notification }
  | .ftWithdraw body => .ftWithdraw { body with details := { body.details with msg := msg } }
  | .nftWithdraw body => .nftWithdraw { body with details := { body.details with msg := msg } }
  | .mtWithdraw body => .mtWithdraw { body with details := { body.details with msg := msg } }
  | intent => intent

theorem takesMessage_withMessage {intent : Intent} (htakes : intent.TakesMessage)
    (msg : Option String) : (intent.withMessage msg).TakesMessage := by
  cases intent <;> exact htakes

theorem message_withMessage {intent : Intent} (htakes : intent.TakesMessage)
    (msg : Option String) : (intent.withMessage msg).message = msg := by
  cases intent with
  | transfer body => cases msg <;> rfl
  | ftWithdraw body => rfl
  | nftWithdraw body => rfl
  | mtWithdraw body => rfl
  | tokenDiff body => cases htakes
  | nativeWithdraw body => cases htakes
  | addPublicKey publicKey => cases htakes
  | removePublicKey publicKey => cases htakes
  | setAuthByPredecessorId enabled => cases htakes
  | storageDeposit deposit => cases htakes
  | authCall call => cases htakes

section Intents

variable {isNep141 : String → Bool} {registry : LayeredRegistry NearTokenRegistry}

theorem messageTexts_renderTransfer {transfer : Transfer} {fields : Fields}
    (hfields : renderTransfer isNep141 registry transfer = .ok fields) :
    messageTexts fields =
      ((transfer.notification.map NotifyOnTransfer.msg).map presentValue).toList := by
  unfold renderTransfer at hfields
  obtain ⟨amounts, hamounts, hfields⟩ := bind_eq_ok.1 hfields
  have hquiet : messageTexts (textField "To" transfer.receiverId :: amounts.flatten) = [] :=
    messageTexts_mapM (fun _ _ => messageTexts_tokenAmountField) hamounts
  rw [← pure_eq_ok.1 hfields, messageTexts_append, messageTexts_append, hquiet,
    messageTexts_memoFields]
  cases transfer.notification with
  | none => rfl
  | some notification =>
      obtain ⟨msg, stateInit⟩ := notification
      cases stateInit <;> rfl

theorem messageTexts_renderFtWithdraw {withdraw : FtWithdraw} {fields : Fields}
    (hfields : renderFtWithdraw isNep141 registry withdraw = .ok fields) :
    messageTexts fields = (withdraw.details.msg.map presentValue).toList := by
  obtain ⟨amount, hamount, hfields⟩ := bind_eq_ok.1 hfields
  obtain ⟨details, hdetails, hfields⟩ := bind_eq_ok.1 hfields
  rw [← pure_eq_ok.1 hfields, ← messageTexts_withdrawCallDetails hdetails]
  change messageTexts (amount ++ details) = _
  rw [messageTexts_append, messageTexts_tokenAmountField hamount, List.nil_append]

theorem messageTexts_renderNftWithdraw {withdraw : NftWithdraw} {fields : Fields}
    (hfields : renderNftWithdraw withdraw = .ok fields) :
    messageTexts fields = (withdraw.details.msg.map presentValue).toList := by
  obtain ⟨details, hdetails, hfields⟩ := bind_eq_ok.1 hfields
  rw [← pure_eq_ok.1 hfields, ← messageTexts_withdrawCallDetails hdetails]
  rfl

theorem messageTexts_renderMtWithdraw {withdraw : MtWithdraw} {fields : Fields}
    (hfields : renderMtWithdraw isNep141 registry withdraw = .ok fields) :
    messageTexts fields = (withdraw.details.msg.map presentValue).toList := by
  unfold renderMtWithdraw at hfields
  obtain ⟨-, -, hfields⟩ := bind_eq_ok.1 hfields
  obtain ⟨amounts, hamounts, hfields⟩ := bind_eq_ok.1 hfields
  obtain ⟨details, hdetails, hfields⟩ := bind_eq_ok.1 hfields
  have hquiet : messageTexts amounts.flatten = [] := by
    apply messageTexts_mapM _ hamounts
    intro entry entryFields hentry
    obtain ⟨amount, hamount, hentry⟩ := bind_eq_ok.1 hentry
    rw [← pure_eq_ok.1 hentry]
    change messageTexts amount = []
    exact messageTexts_tokenAmountField hamount
  rw [← pure_eq_ok.1 hfields, ← messageTexts_withdrawCallDetails hdetails]
  change messageTexts (amounts.flatten ++ details) = _
  rw [messageTexts_append, hquiet, List.nil_append]

/-- What is shown under the label of a message is the message. -/
theorem messageTexts_renderIntent {intent : Intent} (htakes : intent.TakesMessage) {fields : Fields}
    (hfields : renderIntent isNep141 registry intent = .ok fields) :
    messageTexts fields = (intent.message.map presentValue).toList := by
  obtain ⟨body, hbody, hfields⟩ := bind_eq_ok.1 hfields
  have hwarning : messageTexts (accountControlWarning intent) = [] := by
    cases intent with
    | setAuthByPredecessorId enabled => cases htakes
    | _ => rfl
  rw [← pure_eq_ok.1 hfields, messageTexts_append, hwarning, List.append_nil]
  cases intent with
  | transfer transfer => exact messageTexts_renderTransfer hbody
  | ftWithdraw withdraw => exact messageTexts_renderFtWithdraw hbody
  | nftWithdraw withdraw => exact messageTexts_renderNftWithdraw hbody
  | mtWithdraw withdraw => exact messageTexts_renderMtWithdraw hbody
  | tokenDiff diff => cases htakes
  | nativeWithdraw withdraw => cases htakes
  | addPublicKey publicKey => cases htakes
  | removePublicKey publicKey => cases htakes
  | setAuthByPredecessorId enabled => cases htakes
  | storageDeposit deposit => cases htakes
  | authCall call => cases htakes

/-- A message never makes an intent fail. -/
theorem renderIntent_withMessage_isOk {intent : Intent} {fields : Fields}
    (hfields : renderIntent isNep141 registry intent = .ok fields) (msg : Option String) :
    ∃ shown, renderIntent isNep141 registry (intent.withMessage msg) = .ok shown := by
  obtain ⟨body, hbody, -⟩ := bind_eq_ok.1 hfields
  have hshown : ∃ shown,
      renderIntentBody isNep141 registry (intent.withMessage msg) = .ok shown := by
    cases intent with
    | transfer transfer =>
        obtain ⟨amounts, hamounts, -⟩ := bind_eq_ok.1 hbody
        exact ⟨_, bind_eq_ok.2 ⟨amounts, hamounts, rfl⟩⟩
    | ftWithdraw withdraw =>
        obtain ⟨amount, hamount, -⟩ := bind_eq_ok.1 hbody
        obtain ⟨details, hdetails⟩ := withdrawCallDetails_isOk { withdraw.details with msg := msg }
        exact ⟨_, bind_eq_ok.2 ⟨amount, hamount, bind_eq_ok.2 ⟨details, hdetails, rfl⟩⟩⟩
    | nftWithdraw withdraw =>
        obtain ⟨details, hdetails⟩ := withdrawCallDetails_isOk { withdraw.details with msg := msg }
        exact ⟨_, bind_eq_ok.2 ⟨details, hdetails, rfl⟩⟩
    | mtWithdraw withdraw =>
        obtain ⟨checked, hchecked, hbody⟩ := bind_eq_ok.1 hbody
        obtain ⟨amounts, hamounts, -⟩ := bind_eq_ok.1 hbody
        obtain ⟨details, hdetails⟩ := withdrawCallDetails_isOk { withdraw.details with msg := msg }
        exact ⟨_, bind_eq_ok.2 ⟨checked, hchecked, bind_eq_ok.2 ⟨amounts, hamounts,
          bind_eq_ok.2 ⟨details, hdetails, rfl⟩⟩⟩⟩
    | tokenDiff diff => exact ⟨body, hbody⟩
    | nativeWithdraw withdraw => exact ⟨body, hbody⟩
    | addPublicKey publicKey => exact ⟨body, hbody⟩
    | removePublicKey publicKey => exact ⟨body, hbody⟩
    | setAuthByPredecessorId enabled => exact ⟨body, hbody⟩
    | storageDeposit deposit => exact ⟨body, hbody⟩
    | authCall call => exact ⟨body, hbody⟩
  obtain ⟨shown, hshown⟩ := hshown
  exact ⟨_, bind_eq_ok.2 ⟨shown, hshown, rfl⟩⟩

/-- Withdrawals and transfers that are shown alike have a message both or neither, and
the messages are the same if nothing in them is filtered. -/
theorem messages_of_same_fields {otherRegistry : LayeredRegistry NearTokenRegistry}
    {left right : Intent} {fields : Fields} (hleft : left.TakesMessage) (hright : right.TakesMessage)
    (hleftFields : renderIntent isNep141 registry left = .ok fields)
    (hrightFields : renderIntent isNep141 otherRegistry right = .ok fields) :
    left.message.map presentValue = right.message.map presentValue := by
  have htexts : (left.message.map presentValue).toList =
      (right.message.map presentValue).toList := by
    rw [← messageTexts_renderIntent hleft hleftFields, messageTexts_renderIntent hright hrightFields]
  have hhead := congrArg List.head? htexts
  rwa [Option.head?_toList, Option.head?_toList] at hhead

/-- A message changes neither whether an intent can be shown, nor can it be missed: no
message is shown like its absence, and two messages that nothing is filtered from are
shown differently. -/
theorem messages_visible {intent : Intent} {fields : Fields} (htakes : intent.TakesMessage)
    (hfields : renderIntent isNep141 registry intent = .ok fields) :
    (∀ msg, ∃ shown, renderIntent isNep141 registry (intent.withMessage msg) = .ok shown) ∧
    (∀ text, renderIntent isNep141 registry (intent.withMessage none) ≠
      renderIntent isNep141 registry (intent.withMessage (some text))) ∧
    ∀ left right, charsetSafe left = left → charsetSafe right = right → left ≠ right →
      renderIntent isNep141 registry (intent.withMessage (some left)) ≠
        renderIntent isNep141 registry (intent.withMessage (some right)) := by
  have hsame (left right : Option String)
      (heq : renderIntent isNep141 registry (intent.withMessage left) =
        renderIntent isNep141 registry (intent.withMessage right)) :
      left.map presentValue = right.map presentValue := by
    obtain ⟨shown, hshown⟩ := renderIntent_withMessage_isOk hfields left
    have hmessages := messages_of_same_fields (takesMessage_withMessage htakes left)
      (takesMessage_withMessage htakes right) hshown (heq.symm.trans hshown)
    rwa [message_withMessage htakes, message_withMessage htakes] at hmessages
  refine ⟨fun msg => renderIntent_withMessage_isOk hfields msg, ?_, ?_⟩
  · intro text heq
    cases hsame none (some text) heq
  · intro left right hleft hright hne heq
    exact hne (presentValue_inj hleft hright (Option.some.inj (hsame _ _ heq)))

end Intents

/-- One wNEAR to Bob. -/
def wrappedTransfer : Intent :=
  .transfer ⟨"bob.near", ⟨[("nep141:wrap.near", 10 ^ 24)], List.pairwise_singleton ..⟩, none, none⟩

/-- A transfer with a message that names the marker and with an empty one. -/
theorem messages_visible_transfer :
    wrappedTransfer.TakesMessage ∧
    renderIntent (·.startsWith "nep141:") (requestLayers none)
        (wrappedTransfer.withMessage (some "(empty)")) ≠
      renderIntent (·.startsWith "nep141:") (requestLayers none)
        (wrappedTransfer.withMessage (some "")) := by
  have hshown : (renderIntent (·.startsWith "nep141:") (requestLayers none)
      wrappedTransfer).toBool = true := by
    decide +kernel
  obtain ⟨fields, hfields⟩ : ∃ fields, renderIntent (·.startsWith "nep141:") (requestLayers none)
      wrappedTransfer = .ok fields := by
    cases hrender : renderIntent (·.startsWith "nep141:") (requestLayers none) wrappedTransfer with
    | ok fields => exact ⟨fields, rfl⟩
    | error error =>
        rw [hrender] at hshown
        cases hshown
  have htakes : wrappedTransfer.TakesMessage := trivial
  exact ⟨htakes, (messages_visible htakes hfields).2.2 "(empty)" "" (by decide) (by decide)
    (by decide)⟩

end VisualSignParser.Near
