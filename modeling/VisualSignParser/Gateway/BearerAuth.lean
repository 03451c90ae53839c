import VisualSignParser.Codec.AsciiBytes
import VisualSignParser.Codec.Splits
import VisualSignParser.Codec.Text
import VisualSignParser.Gateway.Environment

/-!
# The bearer gate

Every route but the health probe can be put behind a shared token.  The token
comes from a variable or from a file, is trimmed, and is refused at startup if
no client could send it.  A request is let through when its header holds the
token behind the scheme and some blanks.
-/

namespace VisualSignParser.Gateway

open VisualSignParser.Framing
open VisualSignParser.Outcome
open VisualSignParser.Splits
open VisualSignParser.Text

def minTokenBytes : ℕ := 16

def maxBearerFileSize : ℕ := 4096

inductive AuthError where
  | bothSet
  | readFile (path message : String)
  | fileTooLarge (path : String) (max : ℕ)
  | empty (origin : String)
  | notUnicode (var : String)
  | invalidHeaderBytes (origin : String)
  | tooShort (len min : ℕ)
  deriving DecidableEq

def AuthError.display : AuthError → String
  | bothSet =>
      "both GATEWAY_AUTH_BEARER_TOKEN and GATEWAY_AUTH_BEARER_FILE are set; choose one"
  | readFile path message =>
      "failed to read GATEWAY_AUTH_BEARER_FILE=" ++ path ++ ": " ++ message
  | fileTooLarge path max =>
      "GATEWAY_AUTH_BEARER_FILE=" ++ path ++ " exceeds maximum size (" ++ toString max ++ " bytes)"
  | empty origin => "bearer token from " ++ origin ++ " is empty after trim"
  | notUnicode var => var ++ " contains invalid (non-UTF-8) bytes"
  | invalidHeaderBytes origin =>
      "bearer token from " ++ origin ++ " contains bytes illegal in an HTTP header value"
  | tooShort len min =>
      "bearer token is " ++ toString len ++ " bytes; must be at least " ++ toString min ++ " bytes"

/-! ## Headers -/

/-- The bytes `HeaderValue::from_str` takes. -/
def isHeaderByte (byte : UInt8) : Bool := (32 ≤ byte && byte != 127) || byte == 9

/-- The bytes `HeaderValue::to_str` takes. -/
def isVisibleAscii (byte : UInt8) : Bool := (32 ≤ byte && byte < 127) || byte == 9

/-- `HeaderValue::to_str(..).ok()`. -/
def headerToStr (value : Bytes) : Option String :=
  if value.all isVisibleAscii then ofUtf8Bytes value else none

theorem isVisibleAscii_iff {byte : UInt8} :
    isVisibleAscii byte = true ↔ isHeaderByte byte = true ∧ byte.toNat < 128 := by
  simp only [isVisibleAscii, isHeaderByte, Bool.or_eq_true, Bool.and_eq_true, decide_eq_true_eq,
    beq_iff_eq, bne_iff_ne, ne_eq, UInt8.le_iff_toNat_le, UInt8.lt_iff_toNat_lt,
    ← UInt8.toNat_inj, UInt8.reduceToNat]
  omega

theorem headerToStr_eq_some {value : Bytes} {text : String} :
    headerToStr value = some text ↔
      value = utf8Bytes text ∧ ∀ byte ∈ value, isVisibleAscii byte = true := by
  rw [headerToStr]
  split_ifs with hvisible
  · rw [List.all_eq_true] at hvisible
    constructor
    · intro htext
      exact ⟨(utf8Bytes_of_ofUtf8Bytes htext).symm, hvisible⟩
    · rintro ⟨rfl, -⟩
      exact ofUtf8Bytes_utf8Bytes text
  · rw [List.all_eq_true] at hvisible
    exact iff_of_false nofun fun htext => hvisible htext.2

/-- Blanks that can stand in a header. -/
def IsBlank (char : Char) : Prop := char = ' ' ∨ char = '\t'

/-- The two blanks are the white space among the visible characters. -/
theorem isBlank_iff {char : Char} :
    IsBlank char ↔
      (char.toNat < 128 ∧ isVisibleAscii (asciiByte char) = true) ∧ isWhitespace char = true := by
  have hcode (other : Char) : char = other ↔ char.toNat = other.toNat :=
    ⟨congrArg Char.toNat, fun heq => Char.toNat_inj.1 heq⟩
  have hspace : ' '.toNat = 32 := rfl
  have htab : '\t'.toNat = 9 := rfl
  by_cases hascii : char.toNat < 128
  · have hbyte := asciiByte_toNat hascii
    simp only [IsBlank, hcode, hspace, htab, isVisibleAscii, isWhitespace, Bool.or_eq_true,
      Bool.and_eq_true, decide_eq_true_eq, beq_iff_eq, UInt8.le_iff_toNat_le,
      UInt8.lt_iff_toNat_lt, ← UInt8.toNat_inj, hbyte, UInt8.reduceToNat]
    omega
  · simp only [IsBlank, hcode, hspace, htab]
    omega

/-! ## The token -/

/-- Texts that a client can send as credentials. -/
structure Sendable (text : String) : Prop where
  nonempty : text ≠ ""
  trimmed : trim text = text
  visible : ∀ byte ∈ utf8Bytes text, isVisibleAscii byte = true

/-- The stored token, which a client can send. -/
structure BearerToken where
  bytes : Bytes
  stored : ∃ text, Sendable text ∧ bytes = utf8Bytes text

theorem trim_trim (text : String) : trim (trim text) = trim text := by
  have htrim (text : String) : (trim text).toList = trimBoth isWhitespace text.toList :=
    String.toList_ofList
  apply String.toList_inj.1
  rw [htrim, htrim]
  exact trimBoth_eq_self (trimmed_trimBoth _)

/-- `HeaderValue::from_str` and `is_ascii` on the same text. -/
def IsLegal (text : String) : Prop :=
  (∀ byte ∈ utf8Bytes text, isHeaderByte byte = true) ∧ ∀ byte ∈ utf8Bytes text, byte.toNat < 128

instance (text : String) : Decidable (IsLegal text) :=
  inferInstanceAs (Decidable (_ ∧ _))

theorem isLegal_iff {text : String} :
    IsLegal text ↔ ∀ byte ∈ utf8Bytes text, isVisibleAscii byte = true := by
  rw [IsLegal, ← forall₂_and]
  exact forall₂_congr fun _ _ => isVisibleAscii_iff.symm

def BearerToken.trimAndStore (raw origin : String) : Except AuthError (Option BearerToken) :=
  if hempty : trim raw = "" then .error (.empty origin)
  else if hlegal : IsLegal (trim raw) then
    .ok (some ⟨utf8Bytes (trim raw), trim raw, ⟨hempty, trim_trim raw, isLegal_iff.1 hlegal⟩, rfl⟩)
  else .error (.invalidHeaderBytes origin)

def BearerToken.fromSources (inline fileContents : Option String) :
    Except AuthError (Option BearerToken) :=
  match inline, fileContents with
  | none, none => .ok none
  | some _, some _ => .error .bothSet
  | some raw, none => trimAndStore raw "GATEWAY_AUTH_BEARER_TOKEN"
  | none, some raw => trimAndStore raw "GATEWAY_AUTH_BEARER_FILE"

def BearerToken.readBearerFile (env : Environment) (path : String) : Except AuthError String :=
  readBoundedFile env path maxBearerFileSize .readFile .fileTooLarge

/-- The floor on the length is checked here alone. -/
def BearerToken.atLeast : Option BearerToken → Except AuthError Unit
  | some token => require (minTokenBytes ≤ token.bytes.length)
      (.tooShort token.bytes.length minTokenBytes)
  | none => .ok ()

def BearerToken.fromEnv (env : Environment) : Except AuthError (Option BearerToken) := do
  let inline ← checkedEnvVar env "GATEWAY_AUTH_BEARER_TOKEN" .notUnicode
  let filePath ← checkedEnvVar env "GATEWAY_AUTH_BEARER_FILE" .notUnicode
  require (¬(inline.isSome ∧ filePath.isSome)) .bothSet
  let fileContents ← filePath.mapM (readBearerFile env)
  let token ← fromSources inline fileContents
  atLeast token
  return token

/-! ## The decision -/

inductive AuthOutcome where
  | allow
  | deny
  deriving DecidableEq

def BearerToken.matches (token : BearerToken) (candidate : Bytes) : Bool :=
  if candidate.length ≠ token.bytes.length then false else candidate == token.bytes

def splitAuthScheme (header : String) : Option (String × String) :=
  (splitFirst isWhitespace header.toList).map fun parts =>
    (String.ofList parts.1, trimStart (String.ofList parts.2))

def evaluateRequest (path : String) (authorizationHeader : Option String)
    (expected : BearerToken) : AuthOutcome :=
  if path = "/health" then .allow
  else
    match authorizationHeader.bind splitAuthScheme with
    | some (scheme, rest) =>
        if eqIgnoreAsciiCase scheme "bearer" = true ∧ expected.matches (utf8Bytes rest) = true then
          .allow
        else .deny
    | none => .deny

/-- A request as far as the gate reads it: its path, and the values of its
`Authorization` headers in their order. -/
structure GatedRequest where
  path : String
  authorization : List Bytes

def requireBearerToken (token : BearerToken) (request : GatedRequest) : AuthOutcome :=
  evaluateRequest request.path (request.authorization.head?.bind headerToStr) token

theorem BearerToken.matches_iff {token : BearerToken} {candidate : Bytes} :
    token.matches candidate = true ↔ candidate = token.bytes := by
  rw [BearerToken.matches]
  split_ifs with hlength
  · exact iff_of_false nofun fun heq => hlength (congrArg List.length heq)
  · exact beq_iff_eq

theorem evaluateRequest_eq_allow {path : String} {header : Option String} {token : BearerToken} :
    evaluateRequest path header token = .allow ↔
      path = "/health" ∨ ∃ text scheme rest, header = some text ∧
        splitAuthScheme text = some (scheme, rest) ∧ eqIgnoreAsciiCase scheme "bearer" = true ∧
        utf8Bytes rest = token.bytes := by
  rw [evaluateRequest]
  split_ifs with hpath
  · exact iff_of_true rfl (.inl hpath)
  · rw [or_iff_right hpath]
    cases header with
    | none => simp
    | some text =>
        rw [Option.bind_some]
        cases hsplit : splitAuthScheme text with
        | none => simp [hsplit]
        | some parts =>
            obtain ⟨scheme, rest⟩ := parts
            simp [hsplit, BearerToken.matches_iff, and_assoc]

/-- The scheme ends at the first blank, and the credentials are what follows
all the blanks. -/
theorem splitAuthScheme_eq_some {text scheme rest : String} :
    splitAuthScheme text = some (scheme, rest) ↔
      ∃ blanks, text = scheme ++ blanks ++ rest ∧ blanks ≠ "" ∧
        (∀ char ∈ scheme.toList, isWhitespace char = false) ∧
        (∀ char ∈ blanks.toList, isWhitespace char = true) ∧ trimStart rest = rest := by
  rw [splitAuthScheme, Option.map_eq_some_iff]
  constructor
  · rintro ⟨⟨before, after⟩, hsplit, hparts⟩
    obtain ⟨rfl, rfl⟩ := Prod.mk.inj hparts
    obtain ⟨separator, htext, hseparator, hbefore⟩ := splitFirst_eq_some_iff.1 hsplit
    refine ⟨String.ofList (separator :: after.takeWhile isWhitespace), ?_, ?_, ?_, ?_, ?_⟩
    · apply String.toList_inj.1
      rw [htext]
      simp only [String.toList_append, String.toList_ofList, toList_trimStart, List.append_assoc,
        List.cons_append, List.takeWhile_append_dropWhile]
    · exact fun hempty => nomatch (congrArg String.toList hempty).symm.trans String.toList_ofList
    · rwa [String.toList_ofList]
    · rw [String.toList_ofList]
      exact List.forall_mem_cons.2 ⟨hseparator, fun _ hchar => List.mem_takeWhile_imp hchar⟩
    · rw [trimStart_eq_self_iff, toList_trimStart]
      exact dropWhile_head
  · rintro ⟨blanks, rfl, hnonempty, hscheme, hblanks, hrest⟩
    cases hlist : blanks.toList with
    | nil => exact absurd (String.toList_inj.1 (hlist.trans String.toList_empty.symm)) hnonempty
    | cons separator blanks' =>
        rw [hlist] at hblanks
        obtain ⟨hseparator, hblanks⟩ := List.forall_mem_cons.1 hblanks
        refine ⟨(scheme.toList, blanks' ++ rest.toList), splitFirst_eq_some_iff.2
          ⟨separator, ?_, hseparator, hscheme⟩, ?_⟩
        · rw [String.toList_append, String.toList_append, hlist, List.append_assoc,
            List.cons_append]
        · have hdrop : (blanks' ++ rest.toList).dropWhile isWhitespace = rest.toList :=
            dropWhile_append_trimmed hblanks (trimStart_eq_self_iff.1 hrest)
          rw [trimStart, String.toList_ofList, hdrop, String.ofList_toList, String.ofList_toList]

/-- The letters of the scheme are visible and no blanks. -/
theorem letter_of_scheme {scheme : String} (hscheme : eqIgnoreAsciiCase scheme "bearer" = true)
    {char : Char} (hchar : char ∈ scheme.toList) : 65 ≤ char.toNat ∧ char.toNat ≤ 122 := by
  rw [eqIgnoreAsciiCase, beq_iff_eq] at hscheme
  have hmem : char.toLower ∈ "bearer".toList.map Char.toLower := by
    rw [← hscheme]
    exact List.mem_map_of_mem hchar
  have hletters : ("bearer".toList.map Char.toLower).all
      (fun letter => decide (97 ≤ letter.toNat ∧ letter.toNat ≤ 122)) = true := by decide
  have hlower := of_decide_eq_true (List.all_eq_true.1 hletters _ hmem)
  unfold Char.toLower at hlower
  split_ifs at hlower with hupper
  · have hcode : 65 ≤ char.toNat ∧ char.toNat ≤ 90 := by
      rw [UInt32.le_iff_toNat_le, ge_iff_le, UInt32.le_iff_toNat_le] at hupper
      exact hupper
    omega
  · omega

theorem visible_of_letter {char : Char} (hletter : 65 ≤ char.toNat ∧ char.toNat ≤ 122) :
    (char.toNat < 128 ∧ isVisibleAscii (asciiByte char) = true) ∧ isWhitespace char = false := by
  have hascii : char.toNat < 128 := by omega
  have hbyte := asciiByte_toNat hascii
  refine ⟨⟨hascii, ?_⟩, ?_⟩
  · simp only [isVisibleAscii, Bool.or_eq_true, Bool.and_eq_true, decide_eq_true_eq, beq_iff_eq,
      UInt8.le_iff_toNat_le, UInt8.lt_iff_toNat_lt, ← UInt8.toNat_inj, hbyte, UInt8.reduceToNat]
    omega
  · rw [Bool.eq_false_iff]
    simp only [isWhitespace, Bool.or_eq_true, Bool.and_eq_true, decide_eq_true_eq, beq_iff_eq,
      ne_eq]
    omega

/-- A header that is read as text holds visible characters only. -/
theorem headerToStr_utf8Bytes {text : String} :
    headerToStr (utf8Bytes text) = some text ↔
      ∀ char ∈ text.toList, char.toNat < 128 ∧ isVisibleAscii (asciiByte char) = true := by
  rw [headerToStr_eq_some, and_iff_right rfl,
    forall_utf8Bytes fun byte hbyte => (isVisibleAscii_iff.1 hbyte).2]

/-- The scheme, some blanks and the token. -/
def BearerToken.Credentials (token : BearerToken) (value : Bytes) : Prop :=
  ∃ scheme blanks, value = utf8Bytes (scheme ++ blanks) ++ token.bytes ∧
    eqIgnoreAsciiCase scheme "bearer" = true ∧ blanks ≠ "" ∧ ∀ char ∈ blanks.toList, IsBlank char

/-- The gate lets a request through for the health path, and otherwise exactly
when the first of its headers holds the scheme in any case, at least one space
or tab, and the token. -/
theorem requireBearerToken_eq_allow_iff (token : BearerToken) (request : GatedRequest) :
    requireBearerToken token request = .allow ↔
      request.path = "/health" ∨
        ∃ value ∈ request.authorization.head?, token.Credentials value := by
  obtain ⟨stored, hsendable, hbytes⟩ := token.stored
  rw [requireBearerToken, evaluateRequest_eq_allow]
  refine or_congr_right ⟨?_, ?_⟩
  · rintro ⟨text, scheme, rest, hheader, hsplit, hscheme, hrest⟩
    obtain ⟨value, hvalue, htext⟩ := Option.bind_eq_some_iff.1 hheader
    obtain ⟨rfl, hvisible⟩ := headerToStr_eq_some.1 htext
    rw [forall_utf8Bytes fun byte hbyte => (isVisibleAscii_iff.1 hbyte).2] at hvisible
    obtain ⟨blanks, rfl, hnonempty, -, hblanks, -⟩ := splitAuthScheme_eq_some.1 hsplit
    refine ⟨_, hvalue, scheme, blanks, ?_, hscheme, hnonempty, fun char hchar => ?_⟩
    · rw [utf8Bytes_append, hrest]
    · have hmem : char ∈ (scheme ++ blanks ++ rest).toList := by
        rw [String.toList_append, String.toList_append]
        exact List.mem_append_left _ (List.mem_append_right _ hchar)
      exact isBlank_iff.2 ⟨hvisible char hmem, hblanks char hchar⟩
  · rintro ⟨value, hvalue, scheme, blanks, rfl, hscheme, hnonempty, hblanks⟩
    have hstored : trimStart stored = stored := by
      have htrimmed : Trimmed isWhitespace (trimBoth isWhitespace stored.toList) :=
        trimmed_trimBoth stored.toList
      have hhead := htrimmed.1
      have htrim : trimBoth isWhitespace stored.toList = stored.toList := by
        rw [← String.toList_ofList (l := trimBoth _ _)]
        exact congrArg String.toList hsendable.trimmed
      rw [htrim] at hhead
      exact trimStart_eq_self_iff.2 hhead
    refine ⟨scheme ++ blanks ++ stored, scheme, stored, ?_, splitAuthScheme_eq_some.2
      ⟨blanks, rfl, hnonempty, fun char hchar =>
        (visible_of_letter (letter_of_scheme hscheme hchar)).2, fun char hchar =>
        (isBlank_iff.1 (hblanks char hchar)).2, hstored⟩, hscheme, hbytes.symm⟩
    rw [hvalue, Option.bind_some, hbytes, ← utf8Bytes_append, headerToStr_utf8Bytes]
    have hvisible := hsendable.visible
    rw [forall_utf8Bytes fun byte hbyte => (isVisibleAscii_iff.1 hbyte).2] at hvisible
    intro char hchar
    rw [String.toList_append, String.toList_append, List.mem_append, List.mem_append] at hchar
    rcases hchar with (hchar | hchar) | hchar
    · exact (visible_of_letter (letter_of_scheme hscheme hchar)).1
    · exact (isBlank_iff.1 (hblanks char hchar)).1
    · exact hvisible char hchar

/-! ## Startup -/

/-- The environment supplies the text by one of the two ways and not by the other. -/
def Configured (env : Environment) (raw : String) : Prop :=
  (env.var "GATEWAY_AUTH_BEARER_TOKEN" = .present raw ∧
    env.var "GATEWAY_AUTH_BEARER_FILE" = .notPresent) ∨
  (env.var "GATEWAY_AUTH_BEARER_TOKEN" = .notPresent ∧
    ∃ path, env.var "GATEWAY_AUTH_BEARER_FILE" = .present path ∧
      env.file path = .opened (utf8Bytes raw) none ∧
      (utf8Bytes raw).length ≤ maxBearerFileSize)

/-- An environment supplies one text at most. -/
theorem Configured.unique {env : Environment} {raw other : String} (hraw : Configured env raw)
    (hother : Configured env other) : raw = other := by
  rcases hraw with ⟨hinline, -⟩ | ⟨hinline, path, hpath, hfile, -⟩ <;>
    rcases hother with ⟨hinline', -⟩ | ⟨hinline', path', hpath', hfile', -⟩
  · rw [hinline] at hinline'
    exact EnvVar.present.inj hinline'
  · rw [hinline] at hinline'
    cases hinline'
  · rw [hinline] at hinline'
    cases hinline'
  · obtain rfl := EnvVar.present.inj (hpath.symm.trans hpath')
    exact utf8Bytes_injective (FileState.opened.inj (hfile.symm.trans hfile')).1

/-- The gate an environment asks for: none, or one with the trimmed text as its token. -/
def Gated (env : Environment) : Option BearerToken → Prop
  | none => env.var "GATEWAY_AUTH_BEARER_TOKEN" = .notPresent ∧
      env.var "GATEWAY_AUTH_BEARER_FILE" = .notPresent
  | some token => ∃ raw, Configured env raw ∧ token.bytes = utf8Bytes (trim raw) ∧
      (∀ byte ∈ token.bytes, isVisibleAscii byte = true) ∧ minTokenBytes ≤ token.bytes.length

theorem BearerToken.trimAndStore_eq_ok {raw origin : String} {result : Option BearerToken} :
    trimAndStore raw origin = .ok result ↔
      ∃ token, result = some token ∧ trim raw ≠ "" ∧ token.bytes = utf8Bytes (trim raw) ∧
        ∀ byte ∈ token.bytes, isVisibleAscii byte = true := by
  unfold trimAndStore
  split_ifs with hempty hlegal
  · exact iff_of_false nofun fun ⟨_, _, hnonempty, _⟩ => hnonempty hempty
  · rw [Except.ok.injEq]
    constructor
    · rintro rfl
      exact ⟨_, rfl, hempty, rfl, isLegal_iff.1 hlegal⟩
    · rintro ⟨⟨_, _⟩, rfl, -, rfl, -⟩
      rfl
  · refine iff_of_false nofun fun ⟨token, _, _, hbytes, hvisible⟩ => hlegal ?_
    rw [hbytes] at hvisible
    exact isLegal_iff.2 hvisible

/-- Of a token that is long enough, nothing more is asked. -/
theorem BearerToken.trimAndStore_atLeast {raw origin : String} {result : Option BearerToken} :
    (trimAndStore raw origin = .ok result ∧ atLeast result = .ok ()) ↔
      ∃ token, result = some token ∧ token.bytes = utf8Bytes (trim raw) ∧
        (∀ byte ∈ token.bytes, isVisibleAscii byte = true) ∧
        minTokenBytes ≤ token.bytes.length := by
  rw [trimAndStore_eq_ok]
  constructor
  · rintro ⟨⟨token, rfl, -, hbytes, hvisible⟩, hlength⟩
    exact ⟨token, rfl, hbytes, hvisible, require_eq_ok.1 hlength⟩
  · rintro ⟨token, rfl, hbytes, hvisible, hlength⟩
    refine ⟨⟨token, rfl, fun hempty => ?_, hbytes, hvisible⟩, require_eq_ok.2 hlength⟩
    rw [hbytes, hempty] at hlength
    exact absurd hlength (by decide)

theorem BearerToken.fromSources_eq_ok {inline fileContents : Option String}
    {result : Option BearerToken} :
    (fromSources inline fileContents = .ok result ∧ atLeast result = .ok ()) ↔
      (inline = none ∧ fileContents = none ∧ result = none) ∨
        ∃ raw token, ((inline = some raw ∧ fileContents = none) ∨
            inline = none ∧ fileContents = some raw) ∧ result = some token ∧
          token.bytes = utf8Bytes (trim raw) ∧
          (∀ byte ∈ token.bytes, isVisibleAscii byte = true) ∧
          minTokenBytes ≤ token.bytes.length := by
  cases inline with
  | none =>
      cases fileContents with
      | none =>
          simp only [fromSources, Except.ok.injEq, true_and, reduceCtorEq, false_and, exists_const,
            exists_false, or_false, and_false]
          constructor
          · exact fun hresult => hresult.1.symm
          · rintro rfl
            exact ⟨rfl, rfl⟩
      | some raw => simp [fromSources, trimAndStore_atLeast]
  | some raw =>
      cases fileContents with
      | none => simp [fromSources, trimAndStore_atLeast]
      | some other => simp [fromSources]

/-- The file is read only where its variable names one. -/
theorem mapM_readBearerFile_eq_ok {env : Environment} {filePath contents : Option String} :
    filePath.mapM (BearerToken.readBearerFile env) = .ok contents ↔
      (filePath = none ∧ contents = none) ∨
        ∃ path raw, filePath = some path ∧ contents = some raw ∧
          env.file path = .opened (utf8Bytes raw) none ∧
          (utf8Bytes raw).length ≤ maxBearerFileSize := by
  cases filePath with
  | none =>
      change Except.ok none = .ok contents ↔ _
      simp [eq_comm]
  | some path =>
      change (BearerToken.readBearerFile env path).map some = .ok contents ↔ _
      simp only [map_eq_ok, BearerToken.readBearerFile, readBoundedFile_eq_ok, reduceCtorEq,
        false_and, false_or, Option.some.injEq]
      constructor
      · rintro ⟨raw, hfile, rfl⟩
        exact ⟨path, raw, rfl, rfl, hfile⟩
      · rintro ⟨_, raw, rfl, rfl, hfile⟩
        exact ⟨raw, hfile, rfl⟩

/-- The gateway starts with the gate its environment asks for, and with no
other: a malformed, an ambiguous or an unusable setting stops it. -/
theorem fromEnv_gated_iff (env : Environment) (result : Option BearerToken) :
    BearerToken.fromEnv env = .ok result ↔ Gated env result := by
  simp only [BearerToken.fromEnv, bind_eq_ok, require_eq_ok, pure_eq_ok, checkedEnvVar_eq_ok,
    mapM_readBearerFile_eq_ok]
  constructor
  · rintro ⟨inline, hinline, filePath, hfilePath, -, -, contents, hcontents, _, hsources, ⟨⟩,
      hatLeast, rfl⟩
    rcases BearerToken.fromSources_eq_ok.1 ⟨hsources, hatLeast⟩ with
      ⟨rfl, rfl, rfl⟩ | ⟨raw, token, hraw, rfl, htoken⟩
    · rcases hcontents with ⟨rfl, -⟩ | ⟨_, _, _, hnone, _⟩
      · exact ⟨hinline, hfilePath⟩
      · cases hnone
    · refine ⟨raw, ?_, htoken⟩
      rcases hraw with ⟨rfl, rfl⟩ | ⟨rfl, rfl⟩
      · rcases hcontents with ⟨rfl, -⟩ | ⟨_, _, _, hnone, _⟩
        · exact .inl ⟨hinline, hfilePath⟩
        · cases hnone
      · rcases hcontents with ⟨-, hnone⟩ | ⟨path, _, rfl, hsome, hfile⟩
        · cases hnone
        · cases hsome
          exact .inr ⟨hinline, path, hfilePath, hfile⟩
  · intro hgated
    cases result with
    | none =>
        obtain ⟨hsources, hatLeast⟩ := BearerToken.fromSources_eq_ok.2 (.inl ⟨rfl, rfl, rfl⟩)
        exact ⟨none, hgated.1, none, hgated.2, (), by simp, none, .inl ⟨rfl, rfl⟩, none, hsources,
          (), hatLeast, rfl⟩
    | some token =>
        obtain ⟨raw, hconfigured, htoken⟩ := hgated
        rcases hconfigured with ⟨hinline, hfilePath⟩ | ⟨hinline, path, hfilePath, hfile⟩
        · obtain ⟨hsources, hatLeast⟩ :=
            BearerToken.fromSources_eq_ok.2 (.inr ⟨raw, token, .inl ⟨rfl, rfl⟩, rfl, htoken⟩)
          exact ⟨some raw, hinline, none, hfilePath, (), by simp, none, .inl ⟨rfl, rfl⟩, some token,
            hsources, (), hatLeast, rfl⟩
        · obtain ⟨hsources, hatLeast⟩ :=
            BearerToken.fromSources_eq_ok.2 (.inr ⟨raw, token, .inr ⟨rfl, rfl⟩, rfl, htoken⟩)
          exact ⟨none, hinline, some path, hfilePath, (), by simp, some raw,
            .inr ⟨path, raw, rfl, rfl, hfile⟩, some token, hsources, (), hatLeast, rfl⟩

/-- A gateway that started with a token lets a request through for the health
path, and otherwise exactly when the first of its headers holds the scheme in
any case, at least one space or tab, and the trimmed text of its environment. -/
theorem gate_of_environment {env : Environment} {token : BearerToken}
    (hstart : BearerToken.fromEnv env = .ok (some token)) (request : GatedRequest) :
    requireBearerToken token request = .allow ↔
      request.path = "/health" ∨ ∃ raw scheme blanks, Configured env raw ∧
        request.authorization.head? = some (utf8Bytes (scheme ++ blanks ++ trim raw)) ∧
        eqIgnoreAsciiCase scheme "bearer" = true ∧ blanks ≠ "" ∧
        ∀ char ∈ blanks.toList, IsBlank char := by
  obtain ⟨raw, hconfigured, hbytes, -⟩ := (fromEnv_gated_iff env _).1 hstart
  rw [requireBearerToken_eq_allow_iff]
  refine or_congr_right ⟨?_, ?_⟩
  · rintro ⟨value, hvalue, scheme, blanks, rfl, hscheme⟩
    refine ⟨raw, scheme, blanks, hconfigured, ?_, hscheme⟩
    rw [utf8Bytes_append, ← hbytes]
    exact hvalue
  · rintro ⟨other, scheme, blanks, hother, hvalue, hscheme⟩
    refine ⟨_, hvalue, scheme, blanks, ?_, hscheme⟩
    rw [utf8Bytes_append, hbytes, hconfigured.unique hother]

/-- The token stands in a variable. -/
def tokenEnvironment : Environment where
  var key :=
    if key = "GATEWAY_AUTH_BEARER_TOKEN" then .present " local-dev-secret-token\n" else .notPresent
  file _ := .notOpened "No such file or directory (os error 2)"

theorem sendable_token : Sendable "local-dev-secret-token" where
  nonempty := by decide
  trimmed := by decide
  visible := List.all_eq_true.1 (by decide)

def devToken : BearerToken := ⟨utf8Bytes "local-dev-secret-token", _, sendable_token, rfl⟩

theorem devToken_started : BearerToken.fromEnv tokenEnvironment = .ok (some devToken) := by
  refine (fromEnv_gated_iff _ _).2 ⟨" local-dev-secret-token\n", .inl ⟨rfl, rfl⟩, ?_, ?_, ?_⟩
  · rfl
  · exact sendable_token.visible
  · decide

theorem gate_of_environment_dev :
    requireBearerToken devToken ⟨"/visualsign/api/v1/parse",
      [utf8Bytes ("bEARER" ++ " \t" ++ trim " local-dev-secret-token\n")]⟩ = .allow :=
  (gate_of_environment devToken_started _).2 (.inr ⟨_, "bEARER", " \t", .inl ⟨rfl, rfl⟩, rfl,
    by decide, by decide, by simp [IsBlank]⟩)

end VisualSignParser.Gateway
