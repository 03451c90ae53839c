import VisualSignParser.Codec.Radix
import VisualSignParser.Codec.Text

/-!
# The status report of the deployment tool

The tool reads what another program prints for people.  A report lists
deployments in blocks; a header names the one that is live.
-/

namespace VisualSignParser.Deploy

open VisualSignParser.Text

/-- A carriage return in front of a line feed belongs to the line end. -/
def stripReturn (line : List Char) : List Char :=
  if line.getLast? = some '\r' then line.dropLast else line

/-- `str::lines`: an empty last piece is no line. -/
def lines (text : String) : List String :=
  let pieces := text.toList.splitOn '\n'
  (pieces.dropLast.map stripReturn ++ (pieces.getLast?.toList.filter (· ≠ []))).map String.ofList

structure ParsedDeployment where
  id : String
  isLive : Bool
  deriving DecidableEq

/-- What the scan of a report has seen: the header, and the deployments in their order. -/
structure Scan where
  targeted : Option String
  ids : List String
  deriving DecidableEq

/-- A text unless it is empty. -/
def nonEmpty (text : String) : Option String := if text = "" then none else some text

def Scan.line (scan : Scan) (line : String) : Scan :=
  match stripStart "Targeted Deployment:" (trim line) with
  | some rest => { scan with targeted := nonEmpty (trim rest) }
  | none =>
      match stripStart "Deployment:" (trim line) with
      | some rest => { scan with ids := scan.ids ++ (nonEmpty (trim rest)).toList }
      | none => scan

def scanReport (status : String) : Scan := (lines status).foldl Scan.line ⟨none, []⟩

def parseDeployments (status : String) : List ParsedDeployment :=
  let scan := scanReport status
  scan.ids.map fun id => ⟨id, scan.targeted == some id⟩

/-- What a line adds to the deployments. -/
def listedOn (line : String) : Option String :=
  match stripStart "Targeted Deployment:" (trim line) with
  | some _ => none
  | none => (stripStart "Deployment:" (trim line)).bind fun rest => nonEmpty (trim rest)

/-- What a line says of the live deployment, if it is the header. -/
def targetedOn (line : String) : Option (Option String) :=
  (stripStart "Targeted Deployment:" (trim line)).map fun rest => nonEmpty (trim rest)

theorem Scan.line_eq (scan : Scan) (line : String) :
    scan.line line =
      ⟨(targetedOn line).getD scan.targeted, scan.ids ++ (listedOn line).toList⟩ := by
  unfold Scan.line targetedOn listedOn
  cases stripStart "Targeted Deployment:" (trim line) with
  | some rest => simp
  | none =>
      cases stripStart "Deployment:" (trim line) with
      | some rest => simp
      | none => simp

theorem ids_foldl (scan : Scan) (report : List String) :
    (report.foldl Scan.line scan).ids = scan.ids ++ report.filterMap listedOn := by
  induction report generalizing scan with
  | nil => simp
  | cons line report ih =>
      rw [List.foldl_cons, ih, Scan.line_eq]
      cases hline : listedOn line with
      | none => simp [hline]
      | some id => simp [hline]

/-- The last header decides. -/
theorem targeted_foldl (scan : Scan) (report : List String) :
    (report.foldl Scan.line scan).targeted =
      ((report.filterMap targetedOn).getLast?).getD scan.targeted := by
  induction report generalizing scan with
  | nil => rfl
  | cons line report ih =>
      rw [List.foldl_cons, ih, Scan.line_eq]
      cases hline : targetedOn line with
      | none => rw [List.filterMap_cons_none hline, Option.getD_none]
      | some target =>
          rw [List.filterMap_cons_some hline, List.getLast?_cons, Option.getD_some]
          rfl

/-- The deployments of a report, one for each of its lines that names one. -/
def listed (status : String) : List String := (lines status).filterMap listedOn

/-- The live deployment of a report: that of its last header. -/
def liveTarget (status : String) : Option String :=
  (((lines status).filterMap targetedOn).getLast?).getD none

theorem scanReport_eq (status : String) :
    scanReport status = ⟨liveTarget status, listed status⟩ := by
  have hids := ids_foldl ⟨none, []⟩ (lines status)
  have htargeted := targeted_foldl ⟨none, []⟩ (lines status)
  rw [List.nil_append] at hids
  exact congrArg₂ Scan.mk htargeted hids

theorem parseDeployments_eq (status : String) :
    parseDeployments status =
      (listed status).map fun id => ⟨id, liveTarget status == some id⟩ := by
  simp only [parseDeployments, scanReport_eq]

/-! ## Single facts of a report -/

/-- The pass of `deployment_health`: whether the lines stand in the block of the deployment. -/
def healthFrom (deployId : String) : Bool → List String → Option String
  | _, [] => none
  | inBlock, line :: rest =>
      match stripStart "Deployment:" (trim line) with
      | some id => healthFrom deployId (trim id == deployId) rest
      | none =>
          match inBlock, stripStart "Healthy / Desired Replicas:" (trim line) with
          | true, some ratio =>
              ((ratio.toList.splitOnP isWhitespace).find? (· ≠ [])).map String.ofList
          | _, _ => healthFrom deployId inBlock rest

def deploymentHealth (status deployId : String) : Option String :=
  healthFrom deployId false (lines status)

/-- What stands behind the first occurrence of the marker. -/
def behindMarker (marker : List Char) : List Char → Option (List Char)
  | [] => if marker = [] then some [] else none
  | char :: rest =>
      if marker <+: char :: rest then some ((char :: rest).drop marker.length)
      else behindMarker marker rest

/-- The trimmed remainder of the first line that has one behind the marker. -/
def parseAfter (haystack marker : String) : Option String :=
  (lines haystack).findSome? fun line =>
    (behindMarker marker.toList line.toList).bind fun rest => nonEmpty (trim (String.ofList rest))

end VisualSignParser.Deploy
