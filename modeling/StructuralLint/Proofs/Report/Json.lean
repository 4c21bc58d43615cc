import Mathlib
import StructuralLint.Proofs.Json.RoundTrip
import StructuralLint.Proofs.Report.Text

/-!
# Reports as JSON, read back

What is written as JSON is one document, and whoever reads it has the reports again. Reading is in two
steps: the document is JSON (`Json.read`), and its members are looked up by their names, whatever their
order (`ReportDocument.ofJson?`). The list of a clean file must be a list here: `null` is refused, so that
what is read back was not written as `null`.

Strings have to be Unicode. A stray byte is written as the replacement character, and two reports that differ
in stray bytes only may be written alike.
-/

namespace StructuralLint

/-! ### Looking into JSON -/

namespace Json

/-- The value of the member of an object with the given name. -/
def member? (name : Text) : Json → Option Json
  | object members => members.lookup name
  | _ => none

/-- The text of a string. -/
def text? : Json → Option Text
  | string t => some t
  | _ => none

/-- The integer that a number is. -/
def int? : Json → Option Int
  | number literal => literal.scalars?.bind fun cs ↦ (String.ofList cs).toInt?
  | _ => none

/-- The items of an array. -/
def items? : Json → Option (List Json)
  | array items => some items
  | _ => none

end Json

/-- The finding that JSON describes; its line has 64 bits. -/
def Diagnostic.ofJson? (j : Json) : Option Diagnostic := do
  let line ← (← j.member? "line").int?
  let code ← (← j.member? "code").text?
  let severity ← (← j.member? "severity").text?
  let message ← (← j.member? "message").text?
  if Int64.minValue.toInt ≤ line ∧ line ≤ Int64.maxValue.toInt then
    some ⟨Int64.ofInt line, ⟨code⟩, ⟨severity⟩, message⟩
  else none

/-- The report that JSON describes. -/
def Report.ofJson? (j : Json) : Option Report := do
  let path ← (← j.member? "path").text?
  let diagnostics ← (← (← j.member? "diagnostics").items?).mapM Diagnostic.ofJson?
  some ⟨path, diagnostics⟩

/-- The summary that JSON describes. -/
def Summary.ofJson? (j : Json) : Option Summary := do
  let files ← (← (← j.member? "files").int?).toNat?
  let diagnostics ← (← (← j.member? "diagnostics").int?).toNat?
  let fatal ← (← (← j.member? "fatal").int?).toNat?
  some ⟨files, diagnostics, fatal⟩

/-- Reports and their summary as a reader has them. -/
structure ReportDocument where
  /-- A report for each file. -/
  files : List Report
  /-- What is said of all of them. -/
  summary : Summary
  deriving DecidableEq, Repr

/-- The reports and the summary that JSON describes. -/
def ReportDocument.ofJson? (j : Json) : Option ReportDocument := do
  let files ← (← (← j.member? "files").items?).mapM Report.ofJson?
  let summary ← Summary.ofJson? (← j.member? "summary")
  some ⟨files, summary⟩

/-! ### What is written can be read -/

theorem Text.scalars?_map_char (cs : List Char) : scalars? (cs.map .char) = some cs := by
  induction cs with
  | nil => rfl
  | cons c cs ih =>
    rw [scalars?] at ih ⊢
    rw [List.map_cons, List.foldr_cons, ih]

theorem Json.int?_ofInt (z : Int) : (ofInt z).int? = some z := by
  rw [ofInt, int?, Text.ofInt, Text.ofString, Text.scalars?_map_char, Option.bind_some,
    String.ofList_toList]
  exact Int.toInt?_repr z

theorem Diagnostic.ofJson?_toJson (d : Diagnostic) : ofJson? d.toJson = some d := by
  have hline : d.toJson.member? "line" = some (.ofInt d.line.toInt) := rfl
  have hcode : d.toJson.member? "code" = some (.string d.code.name) := rfl
  have hseverity : d.toJson.member? "severity" = some (.string d.severity.name) := rfl
  have hmessage : d.toJson.member? "message" = some (.string d.message) := rfl
  have hrange : Int64.minValue.toInt ≤ d.line.toInt ∧ d.line.toInt ≤ Int64.maxValue.toInt :=
    ⟨Int64.le_toInt d.line, Int64.toInt_le d.line⟩
  simp only [ofJson?, hline, hcode, hseverity, hmessage, Option.bind_eq_bind, Option.bind_some,
    Json.int?_ofInt, Json.text?, if_pos hrange, Int64.ofInt_toInt]

theorem mapM_map_eq_some {α β : Type} {read : β → Option α} {write : α → β}
    (h : ∀ a, read (write a) = some a) (as : List α) : (as.map write).mapM read = some as := by
  have hread : read ∘ write = fun a ↦ pure (id a) := funext h
  rw [List.mapM_map, hread, List.mapM_pure, List.map_id]
  rfl

theorem Report.ofJson?_toJson (r : Report) : ofJson? r.toJson = some r := by
  have hpath : r.toJson.member? "path" = some (.string r.path) := rfl
  have hdiagnostics : r.toJson.member? "diagnostics" =
      some (.array (r.diagnostics.map Diagnostic.toJson)) := rfl
  simp only [ofJson?, hpath, hdiagnostics, Option.bind_eq_bind, Option.bind_some, Json.text?,
    Json.items?, mapM_map_eq_some Diagnostic.ofJson?_toJson]

theorem Summary.ofJson?_toJson (s : Summary) : ofJson? s.toJson = some s := by
  have hfiles : s.toJson.member? "files" = some (.ofInt s.files) := rfl
  have hdiagnostics : s.toJson.member? "diagnostics" = some (.ofInt s.diagnostics) := rfl
  have hfatal : s.toJson.member? "fatal" = some (.ofInt s.fatal) := rfl
  simp only [ofJson?, hfiles, hdiagnostics, hfatal, Option.bind_eq_bind, Option.bind_some,
    Json.int?_ofInt]
  rfl

theorem ReportDocument.ofJson?_reportsToJson (reports : List Report) :
    ofJson? (reportsToJson reports) = some ⟨reports, Summary.ofReports reports⟩ := by
  have hfiles : (reportsToJson reports).member? "files" =
      some (.array (reports.map Report.toJson)) := rfl
  have hsummary : (reportsToJson reports).member? "summary" =
      some (Summary.ofReports reports).toJson := rfl
  simp only [ofJson?, hfiles, hsummary, Option.bind_eq_bind, Option.bind_some, Json.items?,
    mapM_map_eq_some Report.ofJson?_toJson, Summary.ofJson?_toJson]

/-! ### Unicode reports -/

/-- **A finding of Unicode texts.** -/
structure Diagnostic.IsUnicode (d : Diagnostic) : Prop where
  /-- Its code. -/
  code : d.code.name.IsUnicode
  /-- Its severity. -/
  severity : d.severity.name.IsUnicode
  /-- Its message. -/
  message : d.message.IsUnicode

/-- **A report of Unicode texts.** -/
structure Report.IsUnicode (r : Report) : Prop where
  /-- Its path. -/
  path : r.path.IsUnicode
  /-- Its findings. -/
  diagnostics : ∀ d ∈ r.diagnostics, d.IsUnicode

namespace Json

theorem readable_named {levels : ℕ} (members : List (String × Json))
    (h : ∀ member ∈ members, Readable levels member.2) :
    Readable (levels + 1) (object (members.map fun m ↦ (Text.ofString m.1, m.2))) := by
  refine .object ?_ ?_
  · rintro member hmember
    obtain ⟨m, -, rfl⟩ := List.mem_map.1 hmember
    exact Text.isUnicode_ofString m.1
  · rintro member hmember
    obtain ⟨m, hm, rfl⟩ := List.mem_map.1 hmember
    exact h m hm

theorem readable_array_map {levels : ℕ} {α : Type} {write : α → Json} {as : List α}
    (h : ∀ a ∈ as, Readable levels (write a)) : Readable (levels + 1) (array (as.map write)) := by
  refine .array fun j hj ↦ ?_
  obtain ⟨a, ha, rfl⟩ := List.mem_map.1 hj
  exact h a ha

end Json

open Json

theorem Diagnostic.IsUnicode.readable {d : Diagnostic} (h : d.IsUnicode) : Readable 1 d.toJson := by
  refine readable_named [("line", _), ("code", _), ("severity", _), ("message", _)] ?_
  simp only [List.forall_mem_cons, List.not_mem_nil, false_imp_iff, implies_true, and_true]
  exact ⟨.ofInt _, .string h.code, .string h.severity, .string h.message⟩

theorem Report.IsUnicode.readable {r : Report} (h : r.IsUnicode) : Readable 3 r.toJson := by
  refine readable_named [("path", _), ("diagnostics", _)] ?_
  simp only [List.forall_mem_cons, List.not_mem_nil, false_imp_iff, implies_true, and_true]
  exact ⟨.string h.path, readable_array_map fun d hd ↦ (h.diagnostics d hd).readable⟩

theorem Summary.readable (s : Summary) : Readable 4 s.toJson := by
  refine readable_named [("files", _), ("diagnostics", _), ("fatal", _)] ?_
  simp only [List.forall_mem_cons, List.not_mem_nil, false_imp_iff, implies_true, and_true]
  exact ⟨.ofInt _, .ofInt _, .ofInt _⟩

theorem readable_reportsToJson {reports : List Report} (h : ∀ r ∈ reports, r.IsUnicode) :
    Readable 5 (reportsToJson reports) := by
  refine readable_named [("files", _), ("summary", _)] ?_
  simp only [List.forall_mem_cons, List.not_mem_nil, false_imp_iff, implies_true, and_true]
  exact ⟨readable_array_map fun r hr ↦ (h r hr).readable, Summary.readable _⟩

/-- **The JSON document of reports is read back.** -/
theorem read_jsonDocument {reports : List Report} (h : ∀ r ∈ reports, r.IsUnicode) :
    Json.read (jsonDocument reports).toBytes = .ok (reportsToJson reports) := by
  rw [jsonDocument, Text.toBytes_append]
  exact (readable_reportsToJson h).read_pretty (by decide)

/-- **Reports with the same document are the same.** -/
theorem eq_of_toBytes_jsonDocument_eq {first second : List Report}
    (hfirst : ∀ r ∈ first, r.IsUnicode) (hsecond : ∀ r ∈ second, r.IsUnicode)
    (h : (jsonDocument first).toBytes = (jsonDocument second).toBytes) : first = second := by
  have hread := read_jsonDocument hfirst
  rw [h, read_jsonDocument hsecond] at hread
  have hdocument := congrArg ReportDocument.ofJson? (Except.ok.inj hread)
  rw [ReportDocument.ofJson?_reportsToJson, ReportDocument.ofJson?_reportsToJson] at hdocument
  exact congrArg ReportDocument.files (Option.some.inj hdocument).symm

open GivenReport

theorem renderGiven_json_unlimited (reports : List GivenReport) :
    renderGiven {} .json reports =
      (Sink.taking {} [jsonDocument (reports.map report)], none) := by
  rw [renderGiven_eq_render, render, renderPieces, Sink.writeAll_of_limit_none rfl]
  rfl

theorem content_json_unlimited (reports : List GivenReport) :
    (renderGiven {} .json reports).1.content = jsonDocument (reports.map report) := by
  rw [renderGiven_json_unlimited, Sink.content_taking]
  exact List.append_nil _

theorem summary_ofReports_map_report (reports : List GivenReport) :
    Summary.ofReports (reports.map report) =
      ⟨reports.length, (reports.map fun r ↦ r.diagnostics.length).sum,
        reports.countP fun r ↦ r.diagnostics.any Diagnostic.isFatal⟩ := by
  rw [Summary.ofReports, List.length_map, List.foldr_map, List.countP_map, List.sum_eq_foldr,
    List.foldr_map]
  rfl

theorem map_listed (reports : List GivenReport) :
    reports.map listed =
      (reports.map report).map fun r ↦ ⟨r.path, some r.diagnostics⟩ := by
  rw [List.map_map]
  refine List.map_congr_left fun r _ ↦ ?_
  rcases r with ⟨path, - | diagnostics⟩ <;> rfl

/-- **JSON output can be read back.** For reports of Unicode texts, one document is written; it is JSON,
and it describes the same reports, each with a list of findings whether one was given or not, and a summary
that counts them. So reports that are written alike are the same, but for missing lists. -/
theorem json_reads_back :
    (∀ reports : List GivenReport, (∀ r ∈ reports, r.report.IsUnicode) →
      ∃ document json, (renderGiven {} .json reports).2 = none ∧
        (renderGiven {} .json reports).1.pieces = [document] ∧
        Json.read document.toBytes = .ok json ∧
        ReportDocument.ofJson? json =
          some ⟨reports.map fun r ↦ ⟨r.path, r.diagnostics⟩,
            ⟨reports.length, (reports.map fun r ↦ r.diagnostics.length).sum,
              reports.countP fun r ↦ r.diagnostics.any Diagnostic.isFatal⟩⟩) ∧
    ∀ first second : List GivenReport, (∀ r ∈ first, r.report.IsUnicode) →
      (∀ r ∈ second, r.report.IsUnicode) →
      (renderGiven {} .json first).1.content.toBytes =
        (renderGiven {} .json second).1.content.toBytes →
      first.map listed = second.map listed := by
  have hunicode : ∀ {reports : List GivenReport}, (∀ r ∈ reports, r.report.IsUnicode) →
      ∀ r ∈ reports.map report, r.IsUnicode := fun h ↦ List.forall_mem_map.2 h
  refine ⟨fun reports hreports ↦ ?_, fun first second hfirst hsecond hbytes ↦ ?_⟩
  · refine ⟨jsonDocument (reports.map report), reportsToJson (reports.map report), ?_, ?_,
      read_jsonDocument (hunicode hreports), ?_⟩
    · rw [renderGiven_json_unlimited]
    · rw [renderGiven_json_unlimited]
      rfl
    · rw [ReportDocument.ofJson?_reportsToJson, summary_ofReports_map_report]
      rfl
  · rw [content_json_unlimited, content_json_unlimited] at hbytes
    rw [map_listed, map_listed,
      eq_of_toBytes_jsonDocument_eq (hunicode hfirst) (hunicode hsecond) hbytes]

/-- Texts with characters that are escaped, the least line and a missing list; and two lists of reports
that differ in a missing list. -/
theorem json_reads_back_escapes :
    (∃ document json,
      (renderGiven {} .json
        [⟨"\"\\<\u2028", some [⟨Int64.minValue, ⟨"\x01"⟩, .fatal, "\n"⟩]⟩, ⟨"clean", none⟩]).1.pieces =
          [document] ∧
      Json.read document.toBytes = .ok json ∧
      ReportDocument.ofJson? json =
        some ⟨[⟨"\"\\<\u2028", [⟨Int64.minValue, ⟨"\x01"⟩, .fatal, "\n"⟩]⟩, ⟨"clean", []⟩],
          ⟨2, 1, 1⟩⟩) ∧
    [GivenReport.mk "clean" none].map listed = [GivenReport.mk "clean" (some [])].map listed := by
  obtain ⟨hread, hsame⟩ := json_reads_back
  have hclean : Report.IsUnicode ⟨"clean", []⟩ := ⟨Text.isUnicode_ofString _, by simp⟩
  constructor
  · obtain ⟨document, json, -, hpieces, hjson, hdecoded⟩ := hread
      [⟨"\"\\<\u2028", some [⟨Int64.minValue, ⟨"\x01"⟩, .fatal, "\n"⟩]⟩, ⟨"clean", none⟩]
      (List.forall_mem_cons.2 ⟨⟨Text.isUnicode_ofString _, List.forall_mem_singleton.2
        ⟨Text.isUnicode_ofString _, Text.isUnicode_ofString _, Text.isUnicode_ofString _⟩⟩,
        List.forall_mem_singleton.2 hclean⟩)
    exact ⟨document, json, hpieces, hjson, hdecoded⟩
  · refine hsame _ _ (List.forall_mem_singleton.2 hclean) (List.forall_mem_singleton.2 hclean) ?_
    rw [content_json_unlimited, content_json_unlimited]
    rfl

end StructuralLint
