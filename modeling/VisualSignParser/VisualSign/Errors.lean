import Mathlib.Data.Nat.Notation

/-!
# Errors of the conversion library
-/

namespace VisualSignParser.VisualSign

inductive TransactionParseError where
  | invalidFormat (message : String)
  | decodeError (message : String)
  | unsupportedVersion (message : String)
  | unsupportedEncoding (message : String)
  deriving DecidableEq

def TransactionParseError.display : TransactionParseError → String
  | .invalidFormat message => "Invalid transaction format: " ++ message
  | .decodeError message => "Decode error: " ++ message
  | .unsupportedVersion message => "Unsupported transaction version: " ++ message
  | .unsupportedEncoding message => "Unsupported encoding format: " ++ message

inductive VisualSignError where
  | parseError (error : TransactionParseError)
  | decodeError (message : String)
  | missingData (message : String)
  | conversionError (message : String)
  | missingField (name : String)
  | invalidNumberField (number : String)
  | emptyField (name : String)
  | validationError (message : String)
  | invariantViolation (message : String)
  | serializationError (message : String)
  deriving DecidableEq

def VisualSignError.display : VisualSignError → String
  | .parseError error => "Failed to parse transaction: " ++ error.display
  | .decodeError message => "Failed to decode instruction: " ++ message
  | .missingData message => "Missing required data: " ++ message
  | .conversionError message => "Conversion failed: " ++ message
  | .missingField name => "Missing required field '" ++ name ++ "'"
  | .invalidNumberField number =>
      "Invalid number field: '" ++ number ++ "' contains non-numeric characters or is empty."
  | .emptyField _ => "Empty field provided"
  | .validationError message => "Validation failed: " ++ message
  | .invariantViolation message => "Invariant violation: " ++ message
  | .serializationError message => "Serialization failed: " ++ message

end VisualSignParser.VisualSign
