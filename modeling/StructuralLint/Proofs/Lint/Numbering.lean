import Mathlib.Data.List.Forall2
import StructuralLint.Proofs.Lint.Neighbours

/-!
# The two numberings

Legacy numbering is a choice of line numbers and of nothing else. A linter finds the same in both
modes, since findings are made before they are numbered, and so the two reports agree entry by entry
on everything but the line (`lint_legacyLineNumbers`). How the lines differ depends on where an entry
comes from:

* a marker finding carries the number of its line in both modes;
* the tab finding lies one line further down in legacy mode;
* a structural finding carries the number of the line that its node comes from, or in legacy mode the
  position of the node plus two.

For the last, an entry has to be traced back to its node. The node number is in no entry; both reports
are therefore written as the same walk over the positions of the outline, in which a node gives
rise to the rules it breaks (`Outline.rulesAt`), none, one or two of them.
-/

namespace StructuralLint

namespace Linter

variable (l : Linter)

theorem lint_of_outline_eq_ok {lines : List Line} {outline : Outline}
    (h : l.outline lines = .ok outline) :
    l.lint lines = checkMarkers lines ++ outline.validate l.numbering := by
  rw [lint, lintTraced, h]

theorem lint_of_outline_eq_error {lines : List Line} {tab : TabError}
    (h : l.outline lines = .error tab) : l.lint lines = [l.fatalDiagnostic (.ofTab tab)] := by
  rw [lint, lintTraced, h]

/-- **Legacy numbering changes only line numbers.** The reports of the two modes agree entry by entry
on code, severity and message. A tab is reported one line further down. Otherwise the marker findings
are the same, and after them node number `k` of the outline is reported, once for each rule it breaks,
at its source line or at line `k + 2`. -/
theorem lint_legacyLineNumbers (lines : List Line) :
    List.Forall₂
      (fun d d' ↦ d.code = d'.code ∧ d.severity = d'.severity ∧ d.message = d'.message)
      (lint { l with legacyLineNumbers := false } lines)
      (lint { l with legacyLineNumbers := true } lines) ∧
    (∀ tab, l.outline lines = .error tab →
      ∃ d : Diagnostic, d.line = tab.line ∧ d.code = Rule.tabIndentation.code ∧
        lint { l with legacyLineNumbers := false } lines = [d] ∧
        lint { l with legacyLineNumbers := true } lines = [{ d with line := d.line + 1 }]) ∧
    (∀ outline : Outline, l.outline lines = .ok outline →
      lint { l with legacyLineNumbers := false } lines = checkMarkers lines ++
        (List.finRange outline.length).flatMap
          (fun k ↦ (outline.rulesAt k).map (Diagnostic.ofRule (List.get outline k).line)) ∧
      lint { l with legacyLineNumbers := true } lines = checkMarkers lines ++
        (List.finRange outline.length).flatMap
          (fun k ↦ (outline.rulesAt k).map (Diagnostic.ofRule (Int64.ofNat k + 2)))) := by
  refine ⟨?_, fun tab htab ↦ ?_, fun outline houtline ↦ ?_⟩
  · -- the two modes have the same findings, and of a finding only its number depends on the mode
    rw [lint_eq_map_findings, lint_eq_map_findings, List.forall₂_map_left_iff,
      List.forall₂_map_right_iff]
    exact List.forall₂_same.2 fun f _ ↦ ⟨rfl, rfl, rfl⟩
  · refine ⟨⟨tab.line, Rule.tabIndentation.code, .fatal, Rule.tabIndentation.explanation⟩, rfl, rfl,
      ?_, ?_⟩
    · exact lint_of_outline_eq_error { l with legacyLineNumbers := false } htab
    · exact lint_of_outline_eq_error { l with legacyLineNumbers := true } htab
  · have hoff := lint_of_outline_eq_ok { l with legacyLineNumbers := false } houtline
    have hon := lint_of_outline_eq_ok { l with legacyLineNumbers := true } houtline
    rw [Outline.validate_eq_flatMap_finRange] at hoff hon
    exact ⟨hoff, hon⟩

/-- The first node breaks two rules and a marker stands between the two nodes, which come from the
lines 3 and 5 and have the positions 0 and 1. -/
theorem lint_legacyLineNumbers_two_keys :
    lint { legacyLineNumbers := false } (Line.ofTexts [Text.ofString "# c", Text.ofString "",
        Text.ofString "k: v", Text.ofString "---", Text.ofString "m: w"]) =
      [.ofRule 4 .misplacedStart, .ofRule 3 .indentationNotEven, .ofRule 3 .keyMissingChild,
        .ofRule 5 .indentationNotEven] ∧
    lint { legacyLineNumbers := true } (Line.ofTexts [Text.ofString "# c", Text.ofString "",
        Text.ofString "k: v", Text.ofString "---", Text.ofString "m: w"]) =
      [.ofRule 4 .misplacedStart, .ofRule 2 .indentationNotEven, .ofRule 2 .keyMissingChild,
        .ofRule 3 .indentationNotEven] := by
  have h : ({} : Linter).outline (Line.ofTexts [Text.ofString "# c", Text.ofString "",
        Text.ofString "k: v", Text.ofString "---", Text.ofString "m: w"]) =
      .ok [⟨1, .keyValuePair, Text.ofString "k", Text.ofString "v", 3⟩,
        ⟨1, .keyValuePair, Text.ofString "m", Text.ofString "w", 5⟩] := by decide
  obtain ⟨hoff, hon⟩ := (lint_legacyLineNumbers {} _).2.2 _ h
  exact ⟨hoff.trans (by decide), hon.trans (by decide)⟩

end Linter

end StructuralLint
