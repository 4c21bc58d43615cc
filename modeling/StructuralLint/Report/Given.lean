import StructuralLint.Report.Render

/-!
# Reports as they are given

A report that comes from elsewhere may have no list of findings at all. In what is written that must be
no different from an empty list, although JSON can tell the two apart (`null` and `[]`): a document is
made of reports that list their findings.
-/

namespace StructuralLint

/-- A report as it is given: the list of its findings may be missing. -/
structure GivenReport where
  /-- The name the file was asked for by. -/
  path : Text
  /-- Its findings; `none` if there is no list. -/
  findings : Option (List Diagnostic)
  deriving DecidableEq, Repr, Inhabited

namespace GivenReport

/-- The findings there are. -/
def diagnostics (r : GivenReport) : List Diagnostic :=
  r.findings.getD []

/-- The report with the findings there are. -/
def report (r : GivenReport) : Report :=
  ⟨r.path, r.diagnostics⟩

/-- The same report with an empty list in place of a missing one. -/
def listed (r : GivenReport) : GivenReport :=
  match r.findings with
  | none => { r with findings := some [] }
  | some _ => r

/-- A report as JSON; a missing list is `null`. -/
def toJson (r : GivenReport) : Json :=
  let list : Json :=
    match r.findings with
    | none => .null
    | some diagnostics => .array (diagnostics.map Diagnostic.toJson)
  .object [("path", .string r.path), ("diagnostics", list)]

/-- Writes a report as text, a line for each finding, up to the first line that is refused. -/
def writeText (sink : Sink) (r : GivenReport) : Sink × Option SinkFull :=
  if r.diagnostics.isEmpty then sink.writeAll [r.path ++ Text.ofString ": no errors found\n"]
  else sink.writeAll (r.diagnostics.map (Diagnostic.textLine r.path))

/-- Writes reports as text, up to the first one with a line that is refused. -/
def writeTexts (sink : Sink) : List GivenReport → Sink × Option SinkFull
  | [] => (sink, none)
  | r :: rs =>
    match r.writeText sink with
    | (sink, some e) => (sink, some e)
    | (sink, none) => writeTexts sink rs

/-- All reports and their summary as JSON. -/
def documentToJson (reports : List GivenReport) : Json :=
  .object
    [("files", .array (reports.map fun r => r.listed.toJson)),
     ("summary", (Summary.ofReports (reports.map report)).toJson)]

end GivenReport

/-- Writes reports as they are given to a sink. -/
def renderGiven (sink : Sink) (format : Format) (reports : List GivenReport) :
    Sink × Option RenderError :=
  match format with
  | .text =>
    let (sink, refused) := GivenReport.writeTexts sink reports
    (sink, refused.map .refused)
  | .json =>
    let document := (GivenReport.documentToJson reports).pretty 0 ++ Text.ofString "\n"
    let (sink, refused) := sink.writeAll [document]
    (sink, refused.map .refused)
  | .yaml => render sink .yaml (reports.map fun r => r.listed.report)

/-- Writes reports as they are given to a sink in the format with exactly the given name. -/
def renderGivenNamed (sink : Sink) (name : Text) (reports : List GivenReport) :
    Sink × Option RenderError :=
  match Format.ofName name with
  | .error e => (sink, some (.unknownFormat e))
  | .ok format => renderGiven sink format reports

end StructuralLint
