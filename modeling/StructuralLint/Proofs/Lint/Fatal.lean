import Mathlib.Tactic.TFAE
import StructuralLint.Proofs.Lint.Finding

/-!
# The fatal finding

A tab in the leading indentation of a line, blank lines and comments included, stops the analysis of
the whole document. There is no other way to a fatal finding: `outline_eq_error_iff` says that the
outline fails with the number of the first such line and for no other reason, and
`pass_ne_tab_of_mem_findings` says that a document without such a line has no finding of the tab
rule.

`tab_iff_fatal` joins the two. What a document with a tab results in is stated for every way to write
it as lines without a tab, a line with one and any lines after it. The result names that one line only,
so neither what comes after it nor anything found before it shows.
-/

namespace StructuralLint

/-- **Indented with a tab**: a run of spaces, possibly empty, and then a tab. -/
def Text.TabIndented (t : Text) : Prop :=
  ∃ (n : ℕ) (rest : Text), t = List.replicate n (.char ' ') ++ .char '\t' :: rest

namespace Linter

variable (l : Linter)

/-- Without a leading tab, no finding is of the tab rule. -/
theorem pass_ne_tab_of_mem_findings {lines : List Line}
    (h : ∀ line ∈ lines, line.text.hasLeadingTab = false) {f : Finding}
    (hf : f ∈ l.findings lines) : f.rule.pass ≠ .tab := by
  rw [l.findings_of_no_tab h, List.mem_append, List.mem_flatMap, List.mem_flatMap] at hf
  rcases hf with ⟨x, -, hf⟩ | ⟨x, -, hf⟩
  · obtain ⟨rule, hrule, rfl⟩ := List.mem_map.1 hf
    simp [Context.pass_of_mem_markerRules hrule]
  · obtain ⟨rule, hrule, rfl⟩ := List.mem_map.1 hf
    simp [Node.pass_of_mem_violations hrule]

/-- Without a leading tab, every finding is ordinary. -/
theorem severity_code_of_mem_lint {lines : List Line}
    (h : ∀ line ∈ lines, line.text.hasLeadingTab = false) {d : Diagnostic} (hd : d ∈ l.lint lines) :
    d.severity = .error ∧ d.code ≠ Rule.tabIndentation.code := by
  rw [l.lint_eq_map_findings] at hd
  obtain ⟨f, hf, rfl⟩ := List.mem_map.1 hd
  have hpass := l.pass_ne_tab_of_mem_findings h hf
  refine ⟨if_neg hpass, fun hcode ↦ hpass ?_⟩
  have hrule : f.rule = .tabIndentation := Rule.code_injective hcode
  rw [hrule]
  rfl

/-- **The fatal finding** of a document whose first leading tab is on the given line. -/
theorem lint_of_first_tab {A B : List Line} {line : Line}
    (hA : ∀ a ∈ A, a.text.hasLeadingTab = false) (hline : line.text.hasLeadingTab = true) :
    l.lint (A ++ line :: B) =
      [⟨if l.legacyLineNumbers then line.index + 2 else line.index + 1, Rule.tabIndentation.code,
        .fatal, Rule.tabIndentation.explanation⟩] := by
  have htwo : line.index + 1 + 1 = line.index + 2 := by
    rw [Int64.add_assoc]
    rfl
  rw [l.lint_of_hasLeadingTab hA hline]
  simp only [fatalDiagnostic, BuildError.ofTab, Line.number, htwo]

theorem hasFatal_lint_iff {lines : List Line} :
    hasFatal (l.lint lines) = true ↔ ∃ line ∈ lines, line.text.hasLeadingTab = true := by
  rcases no_tab_or_exists_first_tab lines with hno | ⟨A, line, B, rfl, hA, htab⟩
  · refine iff_of_false ?_ ?_
    · rw [hasFatal, List.any_eq_true]
      rintro ⟨d, hd, hfatal⟩
      rw [Diagnostic.isFatal, (l.severity_code_of_mem_lint hno hd).1] at hfatal
      exact absurd hfatal (by decide)
    · rintro ⟨line, hline, htab⟩
      exact absurd htab (by simp [hno line hline])
  · refine iff_of_true ?_ ⟨line, by simp, htab⟩
    rw [l.lint_of_first_tab hA htab]
    simp [hasFatal, Diagnostic.isFatal]

/-- **A leading tab aborts everything, and nothing else is fatal.** The outline fails, the findings
are fatal and some line is indented with a tab, all or none of these. If one line is, there is a
first one, and it decides alone: of the lines before it nothing counts but that they are not, of the
lines after it nothing at all, and the outline fails with its number and the findings are that one.
If none is, all findings are ordinary. -/
theorem tab_iff_fatal (lines : List Line) :
    [∃ e, l.outline lines = .error e, hasFatal (l.lint lines) = true,
      ∃ line ∈ lines, line.text.TabIndented].TFAE ∧
    ((∃ line ∈ lines, line.text.TabIndented) →
      ∃ A line B, lines = A ++ line :: B ∧ (∀ a ∈ A, ¬ a.text.TabIndented) ∧
        line.text.TabIndented) ∧
    (∀ A line B, lines = A ++ line :: B → (∀ a ∈ A, ¬ a.text.TabIndented) →
      line.text.TabIndented →
      l.outline lines = .error ⟨line.index + 1⟩ ∧
      l.lint lines =
        [⟨if l.legacyLineNumbers then line.index + 2 else line.index + 1,
          Rule.tabIndentation.code, .fatal, Rule.tabIndentation.explanation⟩]) ∧
    ((∀ line ∈ lines, ¬ line.text.TabIndented) →
      ∀ d ∈ l.lint lines, d.severity = .error ∧ d.code ≠ Rule.tabIndentation.code) := by
  have htabs : ∀ t : Text, t.TabIndented ↔ t.hasLeadingTab = true :=
    fun _ ↦ Text.hasLeadingTab_iff.symm
  have hfirst : (∃ line ∈ lines, line.text.hasLeadingTab = true) →
      ∃ A line B, lines = A ++ line :: B ∧ (∀ a ∈ A, a.text.hasLeadingTab = false) ∧
        line.text.hasLeadingTab = true := by
    rintro ⟨line, hline, htab⟩
    refine (no_tab_or_exists_first_tab lines).resolve_left fun hno ↦ ?_
    exact absurd htab (by simp [hno line hline])
  simp only [htabs, Bool.not_eq_true]
  refine ⟨?_, hfirst, ?_, fun hno d hd ↦ l.severity_code_of_mem_lint hno hd⟩
  · tfae_have 1 → 3 := by
      rintro ⟨e, he⟩
      obtain ⟨A, line, B, rfl, -, htab, -⟩ := Classifier.outline_eq_error_iff.1 he
      exact ⟨line, by simp, htab⟩
    tfae_have 3 → 1 := by
      intro h
      obtain ⟨A, line, B, hAB, hA, htab⟩ := hfirst h
      exact ⟨_, Classifier.outline_eq_error_iff.2 ⟨A, line, B, hAB, hA, htab, rfl⟩⟩
    tfae_have 2 ↔ 3 := l.hasFatal_lint_iff
    tfae_finish
  · rintro A line B rfl hA htab
    exact ⟨Classifier.outline_eq_error hA htab, l.lint_of_first_tab hA htab⟩

/-- A tab on a comment line, after a key with an odd indent and before a misplaced marker and a
second tab, in both numberings. The index is the greatest one, so that the numbers wrap around. -/
theorem tab_on_comment_fatal :
    ({} : Linter).lint [⟨0, Text.ofString "k: v"⟩, ⟨9223372036854775807, Text.ofString " \t# c"⟩,
        ⟨1, Text.ofString "---"⟩, ⟨2, Text.ofString "\tx"⟩] =
      [⟨-9223372036854775808, Rule.tabIndentation.code, .fatal, Rule.tabIndentation.explanation⟩] ∧
    ({ legacyLineNumbers := true } : Linter).lint
        [⟨0, Text.ofString "k: v"⟩, ⟨9223372036854775807, Text.ofString " \t# c"⟩,
          ⟨1, Text.ofString "---"⟩, ⟨2, Text.ofString "\tx"⟩] =
      [⟨-9223372036854775807, Rule.tabIndentation.code, .fatal,
        Rule.tabIndentation.explanation⟩] := by
  have hbefore : ∀ a ∈ [(⟨0, Text.ofString "k: v"⟩ : Line)], ¬ a.text.TabIndented := by
    intro a ha
    rw [Text.TabIndented, ← Text.hasLeadingTab_iff, List.mem_singleton.1 ha]
    decide
  have htab : (Text.ofString " \t# c").TabIndented := ⟨1, Text.ofString "# c", by decide⟩
  exact ⟨((tab_iff_fatal {} _).2.2.1 [_] ⟨_, _⟩ _ rfl hbefore htab).2.trans (by decide),
    ((tab_iff_fatal { legacyLineNumbers := true } _).2.2.1 [_] ⟨_, _⟩ _ rfl hbefore htab).2.trans
      (by decide)⟩

end Linter

end StructuralLint
