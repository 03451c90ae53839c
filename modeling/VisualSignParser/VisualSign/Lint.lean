import Mathlib.Data.String.Basic
import VisualSignParser.Codec.OrderedMap
import VisualSignParser.VisualSign.FieldBuilders

/-!
# Lint rules

What a rule found is shown as a diagnostic field.  A configuration changes the
severity of single rules, and says whether a rule that found nothing is shown.
-/

namespace VisualSignParser.VisualSign

open VisualSignParser.OrderedMap

inductive Severity where
  | ok
  | warn
  | error
  | allow
  deriving DecidableEq

def Severity.asStr : Severity → String
  | ok => "ok"
  | warn => "warn"
  | error => "error"
  | allow => "allow"

structure LintConfig where
  overrides : BTreeMap String Severity
  reportAllRules : Bool

/-- `LintConfig::default`. -/
def LintConfig.standard : LintConfig := ⟨BTreeMap.empty, true⟩

namespace LintConfig

def severityFor (config : LintConfig) (rule : String) (default : Severity) : Severity :=
  (config.overrides.get rule).getD default

/-- A rule that is allowed is not reported either. -/
def shouldReportOk (config : LintConfig) (rule : String) : Bool :=
  if config.reportAllRules then
    match config.overrides.get rule with
    | some .allow => false
    | _ => true
  else false

end LintConfig

def createDiagnosticField (rule domain : String) (level : Severity) (message : String)
    (instructionIndex : Option UInt32) : AnnotatedPayloadField :=
  annotateField (.diagnostic ⟨level.asStr ++ ": " ++ message, rule⟩
    ⟨rule, domain, level.asStr, message, instructionIndex⟩)

end VisualSignParser.VisualSign
