import StructuralLint.Proofs.Text.Utf8
import StructuralLint.Report.Given

/-!
# Reports as text

Text is written line by line, in two nested loops that both stop at the first line that is refused. All
that the loops do is offer the lines of the reports one after the other (`writeTexts_eq_writeAll`), so that
what is written is a matter of sinks: an unlimited sink takes everything, and a limited one the longest
prefix that fits (`writeAll_of_limit`). A shorter line further on, which would still fit, is not offered.

What a line says is spelled out apart from the renderer (`findingLine`, `cleanLine`): the path, the line
number in decimal, the severity, the code in brackets and the message.

A report whose list of findings is missing is written like one without findings, in every format
(`renderGiven_eq_render`).
-/

namespace StructuralLint

namespace Text

@[simp] theorem size_nil : size [] = 0 := rfl

theorem size_append (a b : Text) : size (a ++ b) = size a + size b := by
  induction a with
  | nil => rw [List.nil_append, size_nil, Nat.zero_add]
  | cons r a ih => rw [List.cons_append, size_cons, size_cons, ih, Nat.add_assoc]

end Text

namespace Sink

variable (s : Sink)

/-- The sink after it has taken some pieces. -/
def taking (pieces : List Text) : Sink :=
  { s with pieces := pieces.reverse ++ s.pieces, size := s.size + Text.size pieces.flatten }

@[simp] theorem limit_taking (pieces : List Text) : (s.taking pieces).limit = s.limit := rfl

@[simp] theorem size_taking (pieces : List Text) :
    (s.taking pieces).size = s.size + Text.size pieces.flatten := rfl

@[simp] theorem pieces_taking (pieces : List Text) :
    (s.taking pieces).pieces = pieces.reverse ++ s.pieces := rfl

theorem content_taking (pieces : List Text) :
    (s.taking pieces).content = s.content ++ pieces.flatten := by
  rw [content, pieces_taking, List.reverse_append, List.reverse_reverse, List.flatten_append]
  rfl

theorem taking_taking (A B : List Text) : (s.taking A).taking B = s.taking (A ++ B) := by
  simp only [taking, List.reverse_append, List.append_assoc, List.flatten_append, Text.size_append,
    Nat.add_assoc]

theorem write?_eq (piece : Text) :
    s.write? piece = if s.fits piece.size then .ok (s.taking [piece]) else .error {} := by
  rw [write?, taking]
  simp

variable {s}

theorem writeAll_cons_of_fits {piece : Text} (h : s.fits piece.size = true) (pieces : List Text) :
    s.writeAll (piece :: pieces) = (s.taking [piece]).writeAll pieces := by
  rw [writeAll, write?_eq, if_pos h]

theorem writeAll_cons_of_not_fits {piece : Text} (h : s.fits piece.size = false)
    (pieces : List Text) : s.writeAll (piece :: pieces) = (s, some {}) := by
  rw [writeAll, write?_eq, if_neg (by simp [h])]

/-- **Offering goes on where it was left**, unless a piece was refused. -/
theorem writeAll_append (A B : List Text) :
    s.writeAll (A ++ B) =
      match s.writeAll A with
      | (s', some e) => (s', some e)
      | (s', none) => s'.writeAll B := by
  induction A generalizing s with
  | nil => rfl
  | cons piece A ih =>
    rw [List.cons_append]
    rcases h : s.fits piece.size
    · rw [writeAll_cons_of_not_fits h, writeAll_cons_of_not_fits h]
    · rw [writeAll_cons_of_fits h, writeAll_cons_of_fits h, ih]

/-- **An unlimited sink takes everything.** -/
theorem writeAll_of_limit_none (h : s.limit = none) (pieces : List Text) :
    s.writeAll pieces = (s.taking pieces, none) := by
  induction pieces generalizing s with
  | nil => rfl
  | cons piece pieces ih =>
    have hfits : s.fits piece.size = true := by
      rw [fits, h]
      rfl
    rw [writeAll_cons_of_fits hfits, ih (by simpa using h), taking_taking]
    rfl

/-- **The longest prefix within a limit**, of some pieces for a sink that holds `held` bytes. -/
structure LongestPrefix (limit held : ℕ) (kept pieces : List Text) : Prop where
  /-- It is a prefix. -/
  isPrefix : kept <+: pieces
  /-- It is within the limit. -/
  size_le : held + Text.size kept.flatten ≤ limit
  /-- No prefix within the limit is longer. -/
  maximal : ∀ other, other <+: pieces → held + Text.size other.flatten ≤ limit → other <+: kept

theorem LongestPrefix.cons {limit held : ℕ} {piece : Text} {kept pieces : List Text}
    (h : LongestPrefix limit (held + piece.size) kept pieces) :
    LongestPrefix limit held (piece :: kept) (piece :: pieces) := by
  have hsize : ∀ l : List Text, held + Text.size (piece :: l).flatten =
      held + piece.size + Text.size l.flatten := by
    intro l
    rw [List.flatten_cons, Text.size_append, Nat.add_assoc]
  refine ⟨(List.prefix_cons_inj piece).2 h.isPrefix, by rw [hsize]; exact h.size_le, ?_⟩
  rintro (- | ⟨first, other⟩) hother hle
  · exact List.nil_prefix
  · obtain ⟨rfl, hrest⟩ := List.cons_prefix_cons.1 hother
    rw [hsize] at hle
    exact (List.prefix_cons_inj first).2 (h.maximal other hrest hle)

theorem longestPrefix_nil {limit held : ℕ} {piece : Text} (hheld : held ≤ limit)
    (h : limit < held + piece.size) (pieces : List Text) :
    LongestPrefix limit held [] (piece :: pieces) := by
  refine ⟨List.nil_prefix, by simpa using hheld, ?_⟩
  rintro (- | ⟨first, other⟩) hother hle
  · exact List.nil_prefix
  · obtain ⟨rfl, -⟩ := List.cons_prefix_cons.1 hother
    rw [List.flatten_cons, Text.size_append] at hle
    omega

/-- **A limited sink takes the longest prefix that fits**, and a piece was refused exactly when not
everything fits. -/
theorem writeAll_of_limit {limit : ℕ} (hlimit : s.limit = some limit) (hsize : s.size ≤ limit)
    (pieces : List Text) :
    ∃ kept, LongestPrefix limit s.size kept pieces ∧
      s.writeAll pieces =
        (s.taking kept, if limit < s.size + Text.size pieces.flatten then some {} else none) := by
  induction pieces generalizing s with
  | nil =>
    refine ⟨[], ⟨List.nil_prefix, by simpa using hsize, fun _ h _ ↦ h⟩, ?_⟩
    rw [if_neg (by simpa using hsize)]
    rfl
  | cons piece pieces ih =>
    have hflat : Text.size (piece :: pieces).flatten = piece.size + Text.size pieces.flatten := by
      rw [List.flatten_cons, Text.size_append]
    have hiff : s.fits piece.size = true ↔ s.size + piece.size ≤ limit := by
      rw [fits, hlimit]
      simp
    by_cases hfits : s.size + piece.size ≤ limit
    · have hheld : (s.taking [piece]).size = s.size + piece.size := by simp
      obtain ⟨kept, hkept, hwrite⟩ := ih (s := s.taking [piece]) hlimit (by rw [hheld]; exact hfits)
      rw [hheld] at hkept hwrite
      refine ⟨piece :: kept, hkept.cons, ?_⟩
      rw [writeAll_cons_of_fits (hiff.2 hfits), hwrite, taking_taking, hflat, Nat.add_assoc]
      rfl
    · refine ⟨[], longestPrefix_nil hsize (by omega) pieces, ?_⟩
      rw [writeAll_cons_of_not_fits (by rw [← Bool.not_eq_true, hiff]; exact hfits),
        if_pos (by omega)]
      rfl

end Sink

namespace GivenReport

/-! ### The lines -/

/-- What the line of a finding says: `path:number: severity [code] message`. -/
def findingLine (path : Text) (d : Diagnostic) : Text :=
  [path, ":", Text.ofInt d.line.toInt, ": ", d.severity.name, " [", d.code.name, "] ", d.message,
    "\n"].flatten

/-- What the line of a file without findings says: `path: no errors found`. -/
def cleanLine (path : Text) : Text :=
  [path, ": no errors found\n"].flatten

/-- The lines of a report as it is given: one for each finding, or the one that says there is none. -/
def lines (r : GivenReport) : List Text :=
  match r.findings with
  | none | some [] => [cleanLine r.path]
  | some (d :: ds) => (d :: ds).map (findingLine r.path)

theorem textLine_eq (path : Text) : Diagnostic.textLine path = findingLine path := by
  funext d
  simp [Diagnostic.textLine, findingLine]

theorem cleanLine_eq (path : Text) : cleanLine path = path ++ Text.ofString ": no errors found\n" := by
  simp [cleanLine]

theorem textLines_report (r : GivenReport) : r.report.textLines = r.lines := by
  rcases r with ⟨path, - | - | ⟨d, ds⟩⟩ <;>
    simp [report, diagnostics, Report.textLines, Report.hasErrors, lines, cleanLine_eq, textLine_eq]

/-! ### The loops -/

theorem textLines_map_report (reports : List GivenReport) :
    textLines (reports.map report) = reports.flatMap lines := by
  simp only [textLines, List.flatMap_map, textLines_report]

theorem writeText_eq_writeAll (sink : Sink) (r : GivenReport) :
    r.writeText sink = sink.writeAll r.lines := by
  rcases r with ⟨path, - | - | ⟨d, ds⟩⟩ <;>
    simp [writeText, diagnostics, lines, cleanLine_eq, textLine_eq]

/-- **Two loops that stop at the first refusal** offer the lines one after the other. -/
theorem writeTexts_eq_writeAll (sink : Sink) (reports : List GivenReport) :
    writeTexts sink reports = sink.writeAll (reports.flatMap lines) := by
  induction reports generalizing sink with
  | nil => rfl
  | cons r reports ih =>
    rw [List.flatMap_cons, Sink.writeAll_append, writeTexts, writeText_eq_writeAll]
    rcases sink.writeAll r.lines with ⟨sink', - | e⟩
    · exact ih sink'
    · rfl

/-! ### Missing lists -/

theorem report_listed (r : GivenReport) : r.listed.report = r.report := by
  rcases r with ⟨path, - | diagnostics⟩ <;> rfl

theorem toJson_listed (r : GivenReport) : r.listed.toJson = r.report.toJson := by
  rcases r with ⟨path, - | diagnostics⟩ <;> rfl

theorem documentToJson_eq (reports : List GivenReport) :
    documentToJson reports = reportsToJson (reports.map report) := by
  simp only [documentToJson, reportsToJson, List.map_map, toJson_listed, Function.comp_def]

end GivenReport

open GivenReport

/-- **A missing list of findings is an empty one**, in every format. -/
theorem renderGiven_eq_render (sink : Sink) (format : Format) (reports : List GivenReport) :
    renderGiven sink format reports = render sink format (reports.map report) := by
  cases format with
  | text => rw [renderGiven, writeTexts_eq_writeAll, ← textLines_map_report]; rfl
  | json => rw [renderGiven, documentToJson_eq]; rfl
  | yaml =>
    have hreports : (reports.map fun r ↦ r.listed.report) = reports.map report :=
      List.map_congr_left fun r _ ↦ report_listed r
    rw [renderGiven, hreports]

/-! ### What a sink holds in the end -/

theorem renderGiven_text (sink : Sink) (reports : List GivenReport) :
    renderGiven sink .text reports =
      ((sink.writeAll (reports.flatMap lines)).1,
        (sink.writeAll (reports.flatMap lines)).2.map .refused) := by
  rw [renderGiven, writeTexts_eq_writeAll]

theorem renderGiven_text_unlimited (reports : List GivenReport) :
    renderGiven {} .text reports = (Sink.taking {} (reports.flatMap lines), none) := by
  rw [renderGiven_text, Sink.writeAll_of_limit_none rfl]
  rfl

theorem content_text_unlimited (reports : List GivenReport) :
    (renderGiven {} .text reports).1.content = (reports.flatMap lines).flatten := by
  rw [renderGiven_text_unlimited, Sink.content_taking]
  rfl

/-- **Text rendering is a homomorphism and fails cleanly.** An unlimited sink holds the lines of the
reports, a `findingLine` for each finding and a `cleanLine` for each report without one, so that two lists
of reports together are written as one after the other. A limited sink holds
the longest prefix of these lines that fits, and there is an error exactly when not all of them fit; in
particular nothing is written after the first line that is refused. -/
theorem rendered_text_eq_lines :
    (∀ reports : List GivenReport, (renderGiven {} .text reports).2 = none ∧
      (renderGiven {} .text reports).1.content = (reports.flatMap lines).flatten) ∧
    (∀ first second : List GivenReport, (renderGiven {} .text (first ++ second)).1.content =
      (renderGiven {} .text first).1.content ++ (renderGiven {} .text second).1.content) ∧
    ∀ (reports : List GivenReport) (limit : ℕ),
      ((renderGiven { limit := some limit } .text reports).2.isSome ↔
        limit < Text.size (renderGiven {} .text reports).1.content) ∧
      ∃ kept, Sink.LongestPrefix limit 0 kept (reports.flatMap lines) ∧
        (renderGiven { limit := some limit } .text reports).1.pieces.reverse = kept ∧
        (renderGiven { limit := some limit } .text reports).1.content = kept.flatten := by
  refine ⟨fun reports ↦ ⟨by rw [renderGiven_text_unlimited], content_text_unlimited reports⟩,
    fun first second ↦ ?_, fun reports limit ↦ ?_⟩
  · simp only [content_text_unlimited, List.flatMap_append, List.flatten_append]
  · obtain ⟨kept, hkept, hwrite⟩ := Sink.writeAll_of_limit (s := { limit := some limit }) rfl
      (Nat.zero_le limit) (reports.flatMap lines)
    rw [content_text_unlimited, renderGiven_text, hwrite, Sink.content_taking, Sink.pieces_taking,
      Nat.zero_add]
    refine ⟨?_, kept, hkept, by simp, rfl⟩
    split
    · simpa
    · simpa using Nat.le_of_not_lt ‹_›

/-- Two findings and two clean files, line by line. A sink of 120 bytes refuses the second line and is not
offered the third, which would fit. -/
theorem rendered_text_eq_lines_two_reports :
    let found : Diagnostic := ⟨Int64.minValue, ⟨"x"⟩, .fatal, "Bad."⟩
    let reports : List GivenReport :=
      [⟨"d/bad.yaml", some [.ofRule 1 .misplacedEnd, found]⟩, ⟨"ok", none⟩, ⟨"b", some []⟩]
    let first : Text := Text.ofString "d/bad.yaml:1: error [misplaced-end] " ++
      Text.ofString "Misplaced '...'. It should only appear at the end of the file.\n"
    let second : Text := "d/bad.yaml:-9223372036854775808: fatal [x] Bad.\n"
    let third : Text := "ok: no errors found\n"
    let fourth : Text := "b: no errors found\n"
    (renderGiven {} .text reports).1.content = first ++ second ++ third ++ fourth ∧
      (renderGiven { limit := some 120 } .text reports).1.content = first ∧
      (renderGiven { limit := some 120 } .text reports).2.isSome := by
  intro found reports first second third fourth
  obtain ⟨hunlimited, -, hlimited⟩ := rendered_text_eq_lines
  refine ⟨(hunlimited reports).2.trans ?_, ?_, (hlimited reports 120).1.2 ?_⟩
  · decide +kernel
  · decide +kernel
  · rw [(hunlimited reports).2]
    decide +kernel

end StructuralLint
