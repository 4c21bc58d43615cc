import StructuralLint.Json.Basic
import StructuralLint.Report.Basic
import StructuralLint.Report.Format
import StructuralLint.Report.Sink
import StructuralLint.Yaml.Style

/-!
# Rendering reports

Three ways to write the same reports. Text is one line per finding, or one line for a clean
file, each offered to the sink on its own. JSON and YAML write the list of files and the summary
as one document; JSON is a single piece, YAML comes in pieces of bounded size.
-/

namespace StructuralLint

/-- Why rendering failed. -/
inductive RenderError where
  /-- The sink refused a piece of text or JSON. -/
  | refused (cause : SinkFull)
  /-- The sink refused a piece of YAML. -/
  | refusedYaml (cause : SinkFull)
  /-- There is no such format. -/
  | unknownFormat (error : FormatError)
  deriving DecidableEq, Repr

/-- The wording of a rendering error. -/
def RenderError.message : RenderError → Text
  | refused cause => cause.message
  | refusedYaml cause => Text.ofString "yaml: write error: " ++ cause.message
  | unknownFormat e => e.message

/-! ### Text -/

/-- The line of a finding. -/
def Diagnostic.textLine (path : Text) (d : Diagnostic) : Text :=
  path ++ Text.ofString ":" ++ Text.ofInt d.line.toInt ++ Text.ofString ": " ++ d.severity.name ++
    Text.ofString " [" ++ d.code.name ++ Text.ofString "] " ++ d.message ++ Text.ofString "\n"

/-- The lines of a report. -/
def Report.textLines (r : Report) : List Text :=
  if r.hasErrors then r.diagnostics.map (Diagnostic.textLine r.path)
  else [r.path ++ Text.ofString ": no errors found\n"]

/-- The lines of all reports. -/
def textLines (reports : List Report) : List Text :=
  reports.flatMap Report.textLines

/-! ### JSON -/

/-- A finding as JSON. -/
def Diagnostic.toJson (d : Diagnostic) : Json :=
  .object
    [("line", .ofInt d.line.toInt), ("code", .string d.code.name),
     ("severity", .string d.severity.name), ("message", .string d.message)]

/-- A report as JSON. -/
def Report.toJson (r : Report) : Json :=
  .object [("path", .string r.path), ("diagnostics", .array (r.diagnostics.map Diagnostic.toJson))]

/-- A summary as JSON. -/
def Summary.toJson (s : Summary) : Json :=
  .object
    [("files", .ofInt s.files), ("diagnostics", .ofInt s.diagnostics), ("fatal", .ofInt s.fatal)]

/-- All reports and their summary as JSON. -/
def reportsToJson (reports : List Report) : Json :=
  .object
    [("files", .array (reports.map Report.toJson)), ("summary", (Summary.ofReports reports).toJson)]

/-- The JSON document of reports. -/
def jsonDocument (reports : List Report) : Text :=
  (reportsToJson reports).pretty 0 ++ Text.ofString "\n"

/-! ### YAML -/

/-- One mapping entry with a text as its value, at the given indentation. -/
def yamlEntry (indent : Nat) (key : String) (t : Text) : Text :=
  Text.ofString key ++ Text.ofString ": " ++ Yaml.writeScalar (indent + 2) t

/-- One mapping entry with a number as its value. -/
def yamlNumber (key : String) (n : Int) : Text :=
  Text.ofString key ++ Text.ofString ": " ++ Text.ofInt n ++ Text.ofString "\n"

/-- A finding as an item of a YAML list. -/
def Diagnostic.yamlItem (d : Diagnostic) : Text :=
  Text.ofString "      - " ++ yamlNumber "line" d.line.toInt ++
    Yaml.spaces 8 ++ yamlEntry 8 "code" d.code.name ++
    Yaml.spaces 8 ++ yamlEntry 8 "severity" d.severity.name ++
    Yaml.spaces 8 ++ yamlEntry 8 "message" d.message

/-- A report as an item of a YAML list. -/
def Report.yamlItem (r : Report) : Text :=
  Text.ofString "  - " ++ yamlEntry 4 "path" r.path ++
    (if r.diagnostics.isEmpty then Text.ofString "    diagnostics: []\n"
     else Text.ofString "    diagnostics:\n" ++ r.diagnostics.flatMap Diagnostic.yamlItem)

/-- The YAML document of reports. -/
def yamlDocument (reports : List Report) : Text :=
  let s := Summary.ofReports reports
  (if reports.isEmpty then Text.ofString "files: []\n"
   else Text.ofString "files:\n" ++ reports.flatMap Report.yamlItem) ++
  Text.ofString "summary:\n" ++
    Yaml.spaces 2 ++ yamlNumber "files" s.files ++
    Yaml.spaces 2 ++ yamlNumber "diagnostics" s.diagnostics ++
    Yaml.spaces 2 ++ yamlNumber "fatal" s.fatal

/-- The number of bytes after which a piece of YAML is passed on. -/
def yamlPieceSize : Nat := 123

/-- Cuts a document into pieces: each is the shortest that reaches `yamlPieceSize` bytes, but
the last, which is what remains. -/
def yamlPieces (document : Text) : List Text :=
  let (pieces, rest, _) := document.foldl
    (fun (acc : List Text × Text × Nat) r =>
      let (pieces, piece, size) := acc
      if yamlPieceSize ≤ size then (piece.reverse :: pieces, [r], r.size)
      else (pieces, r :: piece, size + r.size))
    ([], [], 0)
  (if rest.isEmpty then pieces else rest.reverse :: pieces).reverse

/-! ### All formats -/

/-- The pieces that a format offers to a sink, in order. -/
def renderPieces (format : Format) (reports : List Report) : List Text :=
  match format with
  | .text => textLines reports
  | .json => [jsonDocument reports]
  | .yaml => yamlPieces (yamlDocument reports)

/-- Writes reports to a sink. -/
def render (sink : Sink) (format : Format) (reports : List Report) :
    Sink × Option RenderError :=
  let (sink, refused) := sink.writeAll (renderPieces format reports)
  (sink, refused.map fun cause =>
    match format with
    | .yaml => .refusedYaml cause
    | .text | .json => .refused cause)

end StructuralLint
