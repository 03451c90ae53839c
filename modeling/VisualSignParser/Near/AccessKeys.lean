import VisualSignParser.Codec.Text
import VisualSignParser.Near.Actions

/-!
# Permissions of access keys

An access key is shown by the name of its permission and by the bounds of it.  A method
stands on a line of its own, so a list of methods is read back from its lines.  The list
that bounds nothing is shown by a phrase, and a method can have the phrase as its name.
-/

namespace VisualSignParser.Near

open VisualSignParser.Outcome
open VisualSignParser.VisualSign

/-! ## Printable texts -/

/-- Every character of the text is shown as it is. -/
def Printable (text : String) : Prop := text.toList.all isDisplayChar = true

instance (text : String) : Decidable (Printable text) :=
  inferInstanceAs (Decidable (text.toList.all isDisplayChar = true))

theorem Printable.isDisplayChar {text : String} (htext : Printable text) :
    ∀ char ∈ text.toList, Near.isDisplayChar char = true :=
  List.all_eq_true.1 htext

theorem charsetSafe_of_printable {text : String} (htext : Printable text) :
    charsetSafe text = text := by
  have hchars : Text.AllChars (fun char => (if isDisplayChar char then char else '?') = char)
      text := fun char hchar => if_pos (htext.isDisplayChar char hchar)
  exact Text.ofList_map_eq_self hchars

theorem newline_not_mem_of_printable {text : String} (htext : Printable text) :
    '\n' ∉ text.toList := by
  intro hmem
  exact absurd (htext.isDisplayChar _ hmem) (by decide)

theorem map_charsetSafe_of_printable {names : List String}
    (hnames : ∀ name ∈ names, Printable name) : names.map charsetSafe = names := by
  calc
    names.map charsetSafe = names.map id :=
      List.map_congr_left fun name hname => charsetSafe_of_printable (hnames name hname)
    _ = names := List.map_id _

/-! ## Lines -/

/-- The lines of a text are found again if there is one. -/
theorem splitOn_lines {names : List String} (hnames : ∀ name ∈ names, '\n' ∉ name.toList)
    (hne : names ≠ []) :
    ("\n".intercalate names).toList.splitOn '\n' = names.map String.toList := by
  rw [String.toList_intercalate]
  apply List.splitOn_intercalate
  · intro line hline
    obtain ⟨name, hname, rfl⟩ := List.mem_map.1 hline
    exact hnames name hname
  · exact fun hnil => hne (List.map_eq_nil_iff.1 hnil)

/-- A list of lines can be recovered from its text, if no line has a line break and
none of the lists is empty. -/
theorem lines_inj {left right : List String} (hleft : ∀ name ∈ left, '\n' ∉ name.toList)
    (hright : ∀ name ∈ right, '\n' ∉ name.toList) (hleftNe : left ≠ []) (hrightNe : right ≠ [])
    (heq : "\n".intercalate left = "\n".intercalate right) : left = right := by
  have hlines : left.map String.toList = right.map String.toList := by
    rw [← splitOn_lines hleft hleftNe, heq, splitOn_lines hright hrightNe]
  exact List.map_injective_iff.2 (fun _ _ => String.toList_injective) hlines

/-- Lines that make up one line without a break are that line. -/
theorem eq_singleton_of_lines {names : List String} {line : String}
    (hnames : ∀ name ∈ names, '\n' ∉ name.toList) (hline : '\n' ∉ line.toList)
    (hne : names ≠ []) (heq : "\n".intercalate names = line) : names = [line] := by
  apply lines_inj hnames _ hne (List.cons_ne_nil _ _)
  · rw [heq, String.intercalate_singleton]
  · exact List.forall_mem_singleton.2 hline

/-! ## Bounds of a function call -/

def methodsText (methodNames : List String) : String :=
  if methodNames.isEmpty then "Any method" else "\n".intercalate (methodNames.map charsetSafe)

theorem methodsText_nil : methodsText [] = "Any method" := rfl

/-- A list of printable names that is not empty is shown as it is, one name on each
line. -/
theorem methodsText_of_printable {methodNames : List String}
    (hnames : ∀ name ∈ methodNames, Printable name) (hne : methodNames ≠ []) :
    methodsText methodNames = "\n".intercalate methodNames := by
  have hempty : methodNames.isEmpty = false := by
    simpa using hne
  rw [methodsText, hempty, map_charsetSafe_of_printable hnames]
  rfl

/-- Methods that are shown alike are the same, unless one list is empty and the other has
the phrase for that as its only name. -/
theorem methodsText_eq_iff {left right : List String} (hleft : ∀ name ∈ left, Printable name)
    (hright : ∀ name ∈ right, Printable name) :
    methodsText left = methodsText right ↔
      left = right ∨ (left = [] ∧ right = ["Any method"]) ∨
        (right = [] ∧ left = ["Any method"]) := by
  have hnewline (names : List String) (hnames : ∀ name ∈ names, Printable name) :
      ∀ name ∈ names, '\n' ∉ name.toList :=
    fun name hname => newline_not_mem_of_printable (hnames name hname)
  constructor
  · intro heq
    by_cases hleftNil : left = []
    · by_cases hrightNil : right = []
      · exact .inl (hleftNil.trans hrightNil.symm)
      · rw [hleftNil, methodsText_nil, methodsText_of_printable hright hrightNil] at heq
        exact .inr (.inl ⟨hleftNil, eq_singleton_of_lines (hnewline right hright) (by decide)
          hrightNil heq.symm⟩)
    · by_cases hrightNil : right = []
      · rw [hrightNil, methodsText_nil, methodsText_of_printable hleft hleftNil] at heq
        exact .inr (.inr ⟨hrightNil, eq_singleton_of_lines (hnewline left hleft) (by decide)
          hleftNil heq⟩)
      · rw [methodsText_of_printable hleft hleftNil,
          methodsText_of_printable hright hrightNil] at heq
        exact .inl (lines_inj (hnewline left hleft) (hnewline right hright) hleftNil hrightNil heq)
  · rintro (rfl | ⟨rfl, rfl⟩ | ⟨rfl, rfl⟩) <;> rfl

/-- The field of an amount of the native token. -/
def nearAmount (label : String) (yocto : ℕ) : SignablePayloadField :=
  .amountV2 ⟨formatUnits yocto nearDecimals ++ " " ++ nearSymbol, label⟩
    ⟨formatUnits yocto nearDecimals, some nearSymbol⟩

theorem nearAmountField_eq (label : String) (yocto : ℕ) :
    nearAmountField label yocto = .ok (nearAmount label yocto) :=
  amountField_formatUnits label yocto nearDecimals (by decide)

theorem nearAmount_injective (label : String) : Function.Injective (nearAmount label) := by
  intro left right heq
  simp only [nearAmount, SignablePayloadField.amountV2.injEq] at heq
  have hamount : formatUnits left nearDecimals = formatUnits right nearDecimals :=
    congrArg SignablePayloadFieldAmountV2.amount heq.2
  exact Decimal.trimmedText_injective _ hamount

/-- The field of an allowance; without one nothing is bounded. -/
def allowanceField : Option ℕ → SignablePayloadField
  | some allowance => nearAmount "Allowance" allowance
  | none => textField "Allowance" "Unlimited"

/-- The allowance can be recovered from its field, where an unlimited one has a text
that no amount has. -/
theorem allowanceField_injective : Function.Injective allowanceField := by
  intro left right heq
  cases left with
  | none =>
      cases right with
      | none => rfl
      | some right => cases heq
  | some left =>
      cases right with
      | none => cases heq
      | some right => rw [nearAmount_injective "Allowance" heq]

def boundFields (permission : FunctionCallPermission) : Fields :=
  [addressField "Contract" (charsetSafe permission.receiverId),
    textField "Allowed Methods" (methodsText permission.methodNames),
    allowanceField permission.allowance]

theorem functionCallPermissionFields_eq (permission : FunctionCallPermission) :
    functionCallPermissionFields permission = .ok (boundFields permission) := by
  obtain ⟨allowance, receiverId, methodNames⟩ := permission
  cases allowance with
  | none => rfl
  | some allowance =>
      rw [functionCallPermissionFields]
      dsimp only
      rw [nearAmountField_eq]
      rfl

/-- The receiver and every method are shown as they are. -/
def FunctionCallPermission.Printable (permission : FunctionCallPermission) : Prop :=
  Near.Printable permission.receiverId ∧ ∀ name ∈ permission.methodNames, Near.Printable name

/-- Any method is allowed here, and there only the one that is named as any method is
shown.  Nothing else differs. -/
def FunctionCallPermission.AnyMethodNamed (left right : FunctionCallPermission) : Prop :=
  left.methodNames = [] ∧ right = { left with methodNames := ["Any method"] }

theorem FunctionCallPermission.AnyMethodNamed.ne {left right : FunctionCallPermission}
    (hnamed : left.AnyMethodNamed right) : left ≠ right := by
  rintro rfl
  have hmethods := congrArg FunctionCallPermission.methodNames hnamed.2
  rw [hnamed.1] at hmethods
  cases hmethods

/-- The name of any method is the phrase for it. -/
theorem FunctionCallPermission.AnyMethodNamed.boundFields_eq {left right : FunctionCallPermission}
    (hnamed : left.AnyMethodNamed right) : boundFields left = boundFields right := by
  rw [hnamed.2, boundFields, boundFields, hnamed.1]
  rfl

/-- Two printable permissions have the same fields exactly if they are the same, or
one allows any method and the other only the method with that name. -/
theorem boundFields_eq_iff {left right : FunctionCallPermission} (hleft : left.Printable)
    (hright : right.Printable) :
    boundFields left = boundFields right ↔
      left = right ∨ left.AnyMethodNamed right ∨ right.AnyMethodNamed left := by
  obtain ⟨leftAllowance, leftReceiver, leftMethods⟩ := left
  obtain ⟨rightAllowance, rightReceiver, rightMethods⟩ := right
  have hfields : boundFields ⟨leftAllowance, leftReceiver, leftMethods⟩ =
      boundFields ⟨rightAllowance, rightReceiver, rightMethods⟩ ↔
      leftReceiver = rightReceiver ∧ methodsText leftMethods = methodsText rightMethods ∧
        leftAllowance = rightAllowance := by
    constructor
    · intro heq
      obtain ⟨haddress, heq⟩ := List.cons.inj heq
      obtain ⟨hmethods, heq⟩ := List.cons.inj heq
      obtain ⟨hallowance, -⟩ := List.cons.inj heq
      have hreceiver : charsetSafe leftReceiver = charsetSafe rightReceiver := by
        simpa [addressField, createAddressField, annotateField] using haddress
      rw [charsetSafe_of_printable hleft.1, charsetSafe_of_printable hright.1] at hreceiver
      have htexts : methodsText leftMethods = methodsText rightMethods := by
        simpa [textField, createTextField, annotateField] using hmethods
      exact ⟨hreceiver, htexts, allowanceField_injective hallowance⟩
    · rintro ⟨rfl, hmethods, rfl⟩
      rw [boundFields, boundFields, hmethods]
  rw [hfields, methodsText_eq_iff hleft.2 hright.2]
  simp only [FunctionCallPermission.AnyMethodNamed, FunctionCallPermission.mk.injEq]
  constructor
  · rintro ⟨rfl, hmethods | ⟨rfl, rfl⟩ | ⟨rfl, rfl⟩, rfl⟩
    · exact .inl ⟨rfl, rfl, hmethods⟩
    · exact .inr (.inl ⟨rfl, rfl, rfl, rfl⟩)
    · exact .inr (.inr ⟨rfl, rfl, rfl, rfl⟩)
  · rintro (⟨rfl, rfl, rfl⟩ | ⟨rfl, rfl, rfl, rfl⟩ | ⟨rfl, rfl, rfl, rfl⟩)
    · exact ⟨rfl, .inl rfl, rfl⟩
    · exact ⟨rfl, .inr (.inl ⟨rfl, rfl⟩), rfl⟩
    · exact ⟨rfl, .inr (.inr ⟨rfl, rfl⟩), rfl⟩

/-! ## Gas keys -/

def gasFields (info : GasKeyInfo) : Fields :=
  [nearAmount "Gas Key Balance" info.balance,
    .number ⟨toString info.numNonces, "Gas Key Nonces"⟩ ⟨toString info.numNonces⟩]

theorem gasKeyInfoFields_eq (info : GasKeyInfo) :
    gasKeyInfoFields info = .ok (gasFields info) := by
  rw [gasKeyInfoFields, nearAmountField_eq, numberField, createNumberField,
    validateNumberString_toString]
  rfl

/-- The balance and the number of nonces of a gas key can be recovered from its
fields. -/
theorem gasFields_injective : Function.Injective gasFields := by
  intro left right heq
  obtain ⟨hbalance, heq⟩ := List.cons.inj heq
  obtain ⟨hnonces, -⟩ := List.cons.inj heq
  simp only [SignablePayloadField.number.injEq] at hnonces
  have htexts : toString left.numNonces = toString right.numNonces :=
    congrArg SignablePayloadFieldNumber.number hnonces.2
  obtain ⟨balance, numNonces⟩ := left
  cases nearAmount_injective _ hbalance
  cases Decimal.toString_injective htexts
  rfl

/-! ## Permissions -/

/-- The bounds of a permission that has some are shown as they are. -/
def AccessKeyPermission.Printable : AccessKeyPermission → Prop
  | .functionCall permission => permission.Printable
  | .gasKeyFunctionCall _ permission => permission.Printable
  | .fullAccess => True
  | .gasKeyFullAccess _ => True

/-- Both permissions call functions with the same gas, and the bounds of one are those of
the other but for the name of any method. -/
inductive AccessKeyPermission.AnyMethodNamed :
    AccessKeyPermission → AccessKeyPermission → Prop where
  | functionCall {left right : FunctionCallPermission} (hnamed : left.AnyMethodNamed right) :
      AnyMethodNamed (.functionCall left) (.functionCall right)
  | gasKeyFunctionCall (info : GasKeyInfo) {left right : FunctionCallPermission}
      (hnamed : left.AnyMethodNamed right) :
      AnyMethodNamed (.gasKeyFunctionCall info left) (.gasKeyFunctionCall info right)

def permissionText : AccessKeyPermission → String
  | .fullAccess => "Full Access"
  | .functionCall _ => "Function Call"
  | .gasKeyFullAccess _ => "Gas Key (Full Access)"
  | .gasKeyFunctionCall _ _ => "Gas Key (Function Call)"

/-- What stands behind the name of a permission. -/
def scopeFields : AccessKeyPermission → Fields
  | .fullAccess => []
  | .functionCall permission => boundFields permission
  | .gasKeyFullAccess info => gasFields info
  | .gasKeyFunctionCall info permission => gasFields info ++ boundFields permission

/-- Every permission can be shown. -/
theorem permissionFields_eq (permission : AccessKeyPermission) :
    permissionFields permission =
      .ok (textField "Permission" (permissionText permission) :: scopeFields permission) := by
  cases permission with
  | fullAccess => rfl
  | functionCall permission =>
      rw [permissionFields, functionCallPermissionFields_eq]
      rfl
  | gasKeyFullAccess info =>
      rw [permissionFields, gasKeyInfoFields_eq]
      rfl
  | gasKeyFunctionCall info permission =>
      rw [permissionFields, gasKeyInfoFields_eq, functionCallPermissionFields_eq]
      rfl

/-- Permissions have the same fields exactly if their kinds and their scopes are
shown alike. -/
theorem permissionFields_eq_iff {left right : AccessKeyPermission} :
    permissionFields left = permissionFields right ↔
      permissionText left = permissionText right ∧ scopeFields left = scopeFields right := by
  rw [permissionFields_eq, permissionFields_eq, Except.ok.injEq, List.cons.injEq]
  simp [textField, createTextField, annotateField]

theorem AccessKeyPermission.AnyMethodNamed.ne {left right : AccessKeyPermission}
    (hnamed : left.AnyMethodNamed right) : left ≠ right := by
  rintro heq
  cases hnamed with
  | functionCall hnamed => exact hnamed.ne (AccessKeyPermission.functionCall.inj heq)
  | gasKeyFunctionCall info hnamed =>
      exact hnamed.ne (AccessKeyPermission.gasKeyFunctionCall.inj heq).2

theorem AccessKeyPermission.AnyMethodNamed.shownAlike {left right : AccessKeyPermission}
    (hnamed : left.AnyMethodNamed right) :
    permissionText left = permissionText right ∧ scopeFields left = scopeFields right := by
  cases hnamed with
  | functionCall hnamed => exact ⟨rfl, hnamed.boundFields_eq⟩
  | gasKeyFunctionCall info hnamed =>
      exact ⟨rfl, congrArg (gasFields info ++ ·) hnamed.boundFields_eq⟩

/-- What printable permissions have in common when they are shown alike. -/
theorem permissionFields_eq_iff_of_printable {left right : AccessKeyPermission}
    (hleft : left.Printable) (hright : right.Printable) :
    permissionFields left = permissionFields right ↔
      left = right ∨ left.AnyMethodNamed right ∨ right.AnyMethodNamed left := by
  rw [permissionFields_eq_iff]
  constructor
  · rintro ⟨htext, hscope⟩
    -- the name of the permission decides the constructor
    cases left with
    | functionCall left =>
        cases right with
        | functionCall right =>
            rcases (boundFields_eq_iff hleft hright).1 hscope with rfl | hnamed | hnamed
            · exact .inl rfl
            · exact .inr (.inl (.functionCall hnamed))
            · exact .inr (.inr (.functionCall hnamed))
        | _ => simp [permissionText] at htext
    | fullAccess =>
        cases right with
        | fullAccess => exact .inl rfl
        | _ => simp [permissionText] at htext
    | gasKeyFunctionCall leftInfo left =>
        cases right with
        | gasKeyFunctionCall rightInfo right =>
            obtain ⟨hgas, hbounds⟩ := List.append_inj hscope rfl
            cases gasFields_injective hgas
            rcases (boundFields_eq_iff hleft hright).1 hbounds with rfl | hnamed | hnamed
            · exact .inl rfl
            · exact .inr (.inl (.gasKeyFunctionCall _ hnamed))
            · exact .inr (.inr (.gasKeyFunctionCall _ hnamed))
        | _ => simp [permissionText] at htext
    | gasKeyFullAccess leftInfo =>
        cases right with
        | gasKeyFullAccess rightInfo =>
            cases gasFields_injective hscope
            exact .inl rfl
        | _ => simp [permissionText] at htext
  · rintro (rfl | hnamed | hnamed)
    · exact ⟨rfl, rfl⟩
    · exact hnamed.shownAlike
    · exact ⟨hnamed.shownAlike.1.symm, hnamed.shownAlike.2.symm⟩

/-- Printable permissions are told apart unless one is for any method and the other for
the method of that name. -/
theorem permissions_told_apart_iff {left right : AccessKeyPermission} (hleft : left.Printable)
    (hright : right.Printable) :
    (permissionFields left = permissionFields right → left = right) ↔
      ¬left.AnyMethodNamed right ∧ ¬right.AnyMethodNamed left := by
  rw [permissionFields_eq_iff_of_printable hleft hright]
  constructor
  · intro hsame
    exact ⟨fun hnamed => hnamed.ne (hsame (.inr (.inl hnamed))),
      fun hnamed => hnamed.ne (hsame (.inr (.inr hnamed))).symm⟩
  · rintro ⟨hleftNamed, hrightNamed⟩ (heq | hnamed | hnamed)
    · exact heq
    · exact absurd hnamed hleftNamed
    · exact absurd hnamed hrightNamed

/-- One method and two methods on a contract are shown differently. -/
theorem permissions_told_apart_transfer :
    (AccessKeyPermission.functionCall ⟨none, "contract.near", ["ft_transfer"]⟩).Printable ∧
    (AccessKeyPermission.functionCall ⟨none, "contract.near", ["ft_transfer", ""]⟩).Printable ∧
    permissionFields (.functionCall ⟨none, "contract.near", ["ft_transfer"]⟩) ≠
      permissionFields (.functionCall ⟨none, "contract.near", ["ft_transfer", ""]⟩) := by
  have hleft : (AccessKeyPermission.functionCall ⟨none, "contract.near", ["ft_transfer"]⟩).Printable :=
    ⟨by decide, List.forall_mem_singleton.2 (by decide)⟩
  have hright :
      (AccessKeyPermission.functionCall ⟨none, "contract.near", ["ft_transfer", ""]⟩).Printable :=
    ⟨by decide, List.forall_mem_cons.2 ⟨by decide, List.forall_mem_singleton.2 (by decide)⟩⟩
  refine ⟨hleft, hright, fun heq => ?_⟩
  have hsame := (permissions_told_apart_iff hleft hright).2
    ⟨fun hnamed => ?_, fun hnamed => ?_⟩ heq
  · cases hsame
  · cases hnamed with
    | functionCall hnamed => cases hnamed.1
  · cases hnamed with
    | functionCall hnamed => cases hnamed.1

/-- A key for any method is shown as one for a single method. -/
theorem any_method_shown_as_one :
    (AccessKeyPermission.functionCall ⟨none, "contract.near", []⟩).Printable ∧
    (AccessKeyPermission.functionCall ⟨none, "contract.near", ["Any method"]⟩).Printable ∧
    permissionFields (.functionCall ⟨none, "contract.near", []⟩) =
      permissionFields (.functionCall ⟨none, "contract.near", ["Any method"]⟩) ∧
    AccessKeyPermission.functionCall ⟨none, "contract.near", []⟩ ≠
      .functionCall ⟨none, "contract.near", ["Any method"]⟩ := by
  refine ⟨⟨by decide, List.forall_mem_nil _⟩,
    ⟨by decide, List.forall_mem_singleton.2 (by decide)⟩, by rfl, fun heq => ?_⟩
  cases heq

end VisualSignParser.Near
