import VisualSignParser.Codec.Framing
import VisualSignParser.Codec.Outcome

/-!
# The environment of the gateway

The gateway reads its settings from environment variables and from files the
variables name.  A variable that is set to bytes that are no text is an error,
never the absence of a setting, and a file is read up to a bound.
-/

namespace VisualSignParser.Gateway

open VisualSignParser.Framing
open VisualSignParser.Outcome

variable {E : Type}

/-- What `std::env::var` finds. -/
inductive EnvVar where
  | notPresent
  | present (value : String)
  | notUnicode
  deriving DecidableEq

/-- An open file delivers its bytes, and may fail behind the last of them. -/
inductive FileState where
  | notOpened (message : String)
  | opened (bytes : Bytes) (failure : Option String)
  deriving DecidableEq

/-- What the process is started with. -/
structure Environment where
  var : String → EnvVar
  file : String → FileState

def checkedEnvVar (env : Environment) (key : String) (notUnicode : String → E) :
    Except E (Option String) :=
  match env.var key with
  | .present value => .ok (some value)
  | .notPresent => .ok none
  | .notUnicode => .error (notUnicode key)

/-- `read_to_string` on the first `limit` bytes: a failure behind them is not met. -/
def readToString (limit : ℕ) (bytes : Bytes) (failure : Option String) : Except String String :=
  match failure with
  | some message =>
      if bytes.length < limit then .error message
      else okOr "stream did not contain valid UTF-8" (ofUtf8Bytes (bytes.take limit))
  | none => okOr "stream did not contain valid UTF-8" (ofUtf8Bytes (bytes.take limit))

def readBoundedFile (env : Environment) (path : String) (maxSize : ℕ)
    (readErr : String → String → E) (tooLargeErr : String → ℕ → E) : Except E String :=
  match env.file path with
  | .notOpened message => .error (readErr path message)
  | .opened bytes failure => do
      let contents ← (readToString (maxSize + 1) bytes failure).mapError (readErr path)
      require ((utf8Bytes contents).length ≤ maxSize) (tooLargeErr path maxSize)
      return contents

section Reading

variable {env : Environment} {key path : String} {maxSize : ℕ} {notUnicode : String → E}
  {readErr : String → String → E} {tooLargeErr : String → ℕ → E}

theorem checkedEnvVar_eq_ok {value : Option String} :
    checkedEnvVar env key notUnicode = .ok value ↔
      env.var key = value.elim .notPresent .present := by
  unfold checkedEnvVar
  cases env.var key <;> cases value <;> simp

/-- A file that is read is read whole: it holds the text and no more than the
bound allows, and nothing failed. -/
theorem readBoundedFile_eq_ok {contents : String} :
    readBoundedFile env path maxSize readErr tooLargeErr = .ok contents ↔
      env.file path = .opened (utf8Bytes contents) none ∧
        (utf8Bytes contents).length ≤ maxSize := by
  unfold readBoundedFile
  cases hfile : env.file path with
  | notOpened message => simp
  | opened bytes failure =>
      simp only [bind_eq_ok, mapError_eq_ok, require_eq_ok, pure_eq_ok, FileState.opened.injEq]
      constructor
      · rintro ⟨text, hread, -, hsize, rfl⟩
        refine ⟨?_, hsize⟩
        -- fewer bytes than the reader would take: none is left out
        have hwhole (htext : ofUtf8Bytes (bytes.take (maxSize + 1)) = some text) :
            bytes = utf8Bytes text ∧ bytes.length < maxSize + 1 := by
          have hbytes := utf8Bytes_of_ofUtf8Bytes htext
          rw [hbytes, List.length_take] at hsize
          rw [List.take_of_length_le (by omega)] at hbytes
          exact ⟨hbytes.symm, by omega⟩
        cases failure with
        | none => exact ⟨(hwhole (okOr_eq_ok.1 hread)).1, rfl⟩
        | some message =>
            rw [readToString] at hread
            split_ifs at hread with hlimit
            exact absurd (hwhole (okOr_eq_ok.1 hread)).2 hlimit
      · rintro ⟨⟨rfl, rfl⟩, hsize⟩
        refine ⟨contents, okOr_eq_ok.2 ?_, (), hsize, rfl⟩
        rw [List.take_of_length_le (by omega), ofUtf8Bytes_utf8Bytes]

end Reading

end VisualSignParser.Gateway
