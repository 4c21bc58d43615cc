import StructuralLint.Proofs.Document.Split
import StructuralLint.Proofs.Lint.Finding

/-!
# Inserting a line that is skipped

A blank line, a comment or any other line that yields no node may be put between two lines of a
document. The findings stay the same and in the same order; those about a line below the insertion
are about a line one further down (`findings_insert`).

The argument is the same for both checks: the contexts of the longer document are those of the
shorter one, with the new line among the lines before or after, and the new line's own
(`contexts_append_cons`). The new line is no marker, so no context sees the difference, and it yields
no node, so the outline does not see it at all. That it stands *between* two lines is needed: as
the first or the last line it would move the tests for the first and the last line.

How the numbers move is read off at the end (`lint_insert_skipped`): a structural number in legacy
mode counts nodes, so it does not move.
-/

namespace StructuralLint

/-! ### The next line -/

namespace Line

/-- The same text, one line further down. -/
def next (line : Line) : Line :=
  ⟨line.index + 1, line.text⟩

@[simp] theorem text_next (line : Line) : line.next.text = line.text := rfl

@[simp] theorem number_next (line : Line) : line.next.number = line.number + 1 := rfl

@[simp] theorem marker?_next (line : Line) : line.next.marker? = line.marker? := rfl

theorem ofTextsFrom_succ (n : ℕ) (texts : List Text) :
    ofTextsFrom (n + 1) texts = (ofTextsFrom n texts).map next := by
  induction texts generalizing n with
  | nil => rfl
  | cons t texts ih =>
    rw [ofTextsFrom, ofTextsFrom, ih, List.map_cons, next, Int64.ofNat_add]
    rfl

end Line

/-! ### A line further down -/

theorem Classifier.node?_index (c : Classifier) (i j : Int64) (t : Text) :
    c.node? ⟨j, t⟩ = (c.node? ⟨i, t⟩).map fun node ↦ { node with line := j + 1 } := by
  simp only [node?]
  split
  · rfl
  · rw [Option.map_map]
    rfl

/-- The index of a line shows in the line number of its node only. -/
theorem Classifier.nodeOf?_index (c : Classifier) (i j : Int64) (t : Text) :
    c.nodeOf? ⟨j, t⟩ = (c.nodeOf? ⟨i, t⟩).map fun node ↦ { node with line := j + 1 } := by
  rw [nodeOf?_eq_ite, nodeOf?_eq_ite, c.node?_index i j t]
  split <;> simp

/-- The node one line further down, if its line stands at position `n` or below. -/
def SourcedNode.moved (n : ℕ) (s : SourcedNode) : SourcedNode :=
  if n ≤ s.source then
    ⟨{ s.node with line := s.line.next.number }, s.line.next, s.source + 1⟩
  else s

/-- The finding one line further down, if its line stands at position `n` or below. -/
def Finding.moved (n : ℕ) (f : Finding) : Finding :=
  if n ≤ f.source then { f with line := f.line.next, source := f.source + 1 } else f

theorem SourcedNode.kind_moved (n : ℕ) (s : SourcedNode) : (s.moved n).node.kind = s.node.kind := by
  rw [moved]
  split <;> rfl

theorem SourcedNode.indent_moved (n : ℕ) (s : SourcedNode) :
    (s.moved n).node.indent = s.node.indent := by
  rw [moved]
  split <;> rfl

/-- Moving nodes moves what is found at them, and nothing else. -/
theorem Context.nodeFindings_map_moved (n : ℕ) (x : Context SourcedNode) :
    (x.map (SourcedNode.moved n)).nodeFindings = x.nodeFindings.map (Finding.moved n) := by
  have hkind : Node.kind ∘ SourcedNode.node ∘ SourcedNode.moved n =
      Node.kind ∘ SourcedNode.node := funext (SourcedNode.kind_moved n)
  have hrules : ((x.map (SourcedNode.moved n)).map SourcedNode.node).nodeRules =
      (x.map SourcedNode.node).nodeRules := by
    refine Node.violations_congr ?_ (SourcedNode.indent_moved n _) (SourcedNode.kind_moved n _) ?_
    · simp only [Context.before_map, List.getLast?_map, Option.map_map, hkind]
    · simp only [Context.after_map, List.head?_map, Option.map_map, hkind]
  rw [nodeFindings, nodeFindings, hrules, List.map_map]
  refine List.map_congr_left fun rule _ ↦ ?_
  simp only [Context.here_map, Context.before_map, List.length_map, Function.comp_apply,
    Finding.moved, SourcedNode.moved]
  split <;> rfl

/-! ### Insertion -/

namespace Classifier

variable {c : Classifier} {A B : List Line} {x : Line}

/-- The outline does not see the new line. -/
theorem sourcedNodes_insert (hx : c.nodeOf? x = none) :
    c.sourcedNodes (A ++ x :: B.map Line.next) =
      (c.sourcedNodes (A ++ B)).map (SourcedNode.moved A.length) := by
  have habove : ∀ y ∈ contexts A,
      (Context.sourcedNode? c y).map (SourcedNode.moved A.length) = Context.sourcedNode? c y := by
    intro y hy
    have hlt : y.before.length < A.length := by
      rw [mem_contexts_iff.1 hy]
      simp
    rw [Context.sourcedNode?, Option.map_map]
    refine Option.map_congr fun node _ ↦ ?_
    simp [SourcedNode.moved, hlt]
  have hbelow : ∀ y : Context Line,
      Context.sourcedNode? c ((y.map Line.next).precededBy (A ++ [x])) =
        (Context.sourcedNode? c (y.precededBy A)).map (SourcedNode.moved A.length) := by
    intro y
    have hnext := c.nodeOf?_index y.here.index y.here.next.index y.here.text
    rw [Context.sourcedNode?, Context.sourcedNode?, Context.here_precededBy, Context.here_map,
      Context.here_precededBy, Option.map_map]
    rw [show y.here.next = ⟨y.here.next.index, y.here.text⟩ from rfl, hnext, Option.map_map]
    refine Option.map_congr fun node _ ↦ ?_
    simp [SourcedNode.moved, Line.next, Line.number, Nat.add_assoc]
  have hself : Context.sourcedNode? c ⟨A, x, B.map Line.next⟩ = none := by
    rw [Context.sourcedNode?, hx]
    rfl
  rw [sourcedNodes, sourcedNodes, contexts_append_cons, contexts_append, contexts_map,
    List.filterMap_append, List.filterMap_append, List.filterMap_cons_none hself, List.map_append]
  simp only [List.filterMap_map, List.map_filterMap]
  congr 1
  · exact List.filterMap_congr fun y hy ↦ (habove y hy).symm
  · exact List.filterMap_congr fun y _ ↦ hbelow y

end Classifier

/-- The marker check does not see the new line between two others. -/
theorem markerFindings_insert {A B : List Line} {x : Line} (hA : A ≠ []) (hB : B ≠ [])
    (hx : x.marker? = none) :
    (contexts (A ++ x :: B.map Line.next)).flatMap Context.markerFindings =
      ((contexts (A ++ B)).flatMap Context.markerFindings).map (Finding.moved A.length) := by
  have habove : ∀ y ∈ contexts A, (y.followedBy (x :: B.map Line.next)).markerFindings =
      (y.followedBy B).markerFindings.map (Finding.moved A.length) := by
    intro y hy
    have hlt : y.before.length < A.length := by
      rw [mem_contexts_iff.1 hy]
      simp
    have hrules : (y.followedBy (x :: B.map Line.next)).markerRules =
        (y.followedBy B).markerRules :=
      Context.markerRules_congr rfl Iff.rfl (by simp [hB]) fun _ ↦ Iff.rfl
    rw [Context.markerFindings, Context.markerFindings, hrules, List.map_map]
    refine List.map_congr_left fun rule _ ↦ ?_
    simp [Finding.moved, hlt]
  have hbelow : ∀ y : Context Line,
      ((y.map Line.next).precededBy (A ++ [x])).markerFindings =
        (y.precededBy A).markerFindings.map (Finding.moved A.length) := by
    intro y
    have hrules : ((y.map Line.next).precededBy (A ++ [x])).markerRules =
        (y.precededBy A).markerRules := by
      refine Context.markerRules_congr (Line.marker?_next _) (by simp [hA]) (by simp) ?_
      intro marker
      simp [or_and_right, exists_or, hx]
    rw [Context.markerFindings, Context.markerFindings, hrules, List.map_map]
    refine List.map_congr_left fun rule _ ↦ ?_
    simp [Finding.moved, Nat.add_assoc]
  have hself : Context.markerFindings ⟨A, x, B.map Line.next⟩ = [] := by
    simp [Context.markerFindings, Context.markerRules, hx, hB]
  rw [contexts_append_cons, contexts_append, contexts_map, List.flatMap_append,
    List.flatMap_append, List.flatMap_cons, hself, List.nil_append, List.map_append]
  simp only [List.flatMap_map, List.map_flatMap]
  congr 1
  · exact List.flatMap_congr habove
  · exact List.flatMap_congr fun y _ ↦ hbelow y

namespace Linter

variable (l : Linter)

/-- **Findings are moved, not changed**, by a new line between two others that is no marker and
yields no node. -/
theorem findings_insert {A B : List Line} {x : Line} (hA : A ≠ []) (hB : B ≠ [])
    (hskip : l.classify x = .ok none) (hmarker : x.marker? = none) :
    l.findings (A ++ x :: B.map Line.next) =
      (l.findings (A ++ B)).map (Finding.moved A.length) := by
  obtain ⟨hxtab, hxnode⟩ := Classifier.classify_eq_none_iff.1 hskip
  have hno : ∀ {P : List Line}, (∀ a ∈ A, a.text.hasLeadingTab = false) →
      (∀ p ∈ P, p.text.hasLeadingTab = false) →
      (∀ line ∈ A ++ P, line.text.hasLeadingTab = false) ∧
        ∀ line ∈ A ++ x :: P.map Line.next, line.text.hasLeadingTab = false := by
    intro P hA hP
    simp only [List.mem_append, List.mem_cons, List.mem_map]
    constructor
    · rintro line (hline | hline)
      · exact hA line hline
      · exact hP line hline
    · rintro line (hline | rfl | ⟨line, hline, rfl⟩)
      · exact hA line hline
      · exact hxtab
      · exact hP line hline
  rcases no_tab_or_exists_first_tab A with hAtab | ⟨P, tab, Q, rfl, hP, htab⟩
  · rcases no_tab_or_exists_first_tab B with hBtab | ⟨P, tab, Q, rfl, hP, htab⟩
    · -- no tab at all: both checks report
      obtain ⟨hold, hnew⟩ := hno hAtab hBtab
      rw [l.findings_of_no_tab hold, l.findings_of_no_tab hnew, List.map_append,
        markerFindings_insert hA hB hmarker, Classifier.sourcedNodes_insert hxnode, contexts_map,
        List.flatMap_map, List.map_flatMap, List.map_flatMap]
      simp only [Context.nodeFindings_map_moved]
    · -- the first tab is below the new line
      obtain ⟨hold, hnew⟩ := hno hAtab hP
      have htab' : tab.next.text.hasLeadingTab = true := htab
      have hsplit : A ++ x :: (P ++ tab :: Q).map Line.next =
          (A ++ x :: P.map Line.next) ++ tab.next :: Q.map Line.next := by simp
      rw [hsplit, l.findings_of_hasLeadingTab hnew htab', ← List.append_assoc,
        l.findings_of_hasLeadingTab hold htab]
      simp [Finding.moved, Nat.add_assoc]
  · -- the first tab is above the new line
    have hsplit : (P ++ tab :: Q) ++ x :: B.map Line.next =
        P ++ tab :: (Q ++ x :: B.map Line.next) := by simp
    rw [hsplit, l.findings_of_hasLeadingTab hP htab, List.append_assoc, List.cons_append,
      l.findings_of_hasLeadingTab hP htab]
    simp [Finding.moved]

/-- How the number of a moved finding moves: by one line, unless it counts nodes. -/
theorem diagnose_moved (n : ℕ) (f : Finding) :
    l.diagnose (f.moved n) =
      if n ≤ f.source ∧ (f.rule.pass = .structural → l.legacyLineNumbers = false) then
        { l.diagnose f with line := (l.diagnose f).line + 1 }
      else l.diagnose f := by
  by_cases hn : n ≤ f.source
  · cases hlegacy : l.legacyLineNumbers <;> cases hpass : f.rule.pass <;>
      simp [Finding.moved, diagnose, numberOf, hn, hlegacy, hpass]
  · simp [Finding.moved, hn]

/-- **Inserting a skipped line only shifts line numbers.** The findings of the document without the
line are what both documents are reported from, each at the line it is about. With the line, the
same are reported in the same order, and one that is about a line after the first `A.length` has its
number increased by one, except for structural findings in legacy mode. -/
theorem lint_insert_skipped {A B : List Text} {x : Text} {i : Int64} (hA : A ≠ []) (hB : B ≠ [])
    (hskip : l.classify ⟨i, x⟩ = .ok none) (hstart : x.trim ≠ Text.ofString "---")
    (hend : x.trim ≠ Text.ofString "...") :
    (∀ f ∈ l.findings (Line.ofTexts (A ++ B)), (Line.ofTexts (A ++ B))[f.source]? = some f.line) ∧
    l.lint (Line.ofTexts (A ++ B)) = (l.findings (Line.ofTexts (A ++ B))).map l.diagnose ∧
    l.lint (Line.ofTexts (A ++ [x] ++ B)) =
      (l.findings (Line.ofTexts (A ++ B))).map fun f ↦
        if A.length ≤ f.source ∧ (f.rule.pass = .structural → l.legacyLineNumbers = false) then
          { l.diagnose f with line := (l.diagnose f).line + 1 }
        else l.diagnose f := by
  refine ⟨fun f hf ↦ l.getElem?_source_of_mem_findings hf, l.lint_eq_map_findings _, ?_⟩
  have hlines : Line.ofTexts (A ++ B) = Line.ofTextsFrom 0 A ++ Line.ofTextsFrom A.length B := by
    rw [Line.ofTexts, Line.ofTextsFrom_append, Nat.zero_add]
  have hlines' : Line.ofTexts (A ++ [x] ++ B) =
      Line.ofTextsFrom 0 A ++ ⟨Int64.ofNat A.length, x⟩ ::
        (Line.ofTextsFrom A.length B).map Line.next := by
    rw [Line.ofTexts, List.append_assoc, Line.ofTextsFrom_append, Nat.zero_add,
      List.singleton_append, Line.ofTextsFrom, Line.ofTextsFrom_succ]
  have hnil : ∀ {n : ℕ} {texts : List Text}, texts ≠ [] → Line.ofTextsFrom n texts ≠ [] := by
    intro n texts h hnil
    refine h (List.eq_nil_of_length_eq_zero ?_)
    rw [← Line.length_ofTextsFrom n texts, hnil]
    rfl
  have hskip' : l.classify ⟨Int64.ofNat A.length, x⟩ = .ok none := by
    obtain ⟨htab, hnode⟩ := Classifier.classify_eq_none_iff.1 hskip
    refine Classifier.classify_eq_none_iff.2 ⟨htab, ?_⟩
    rw [l.nodeOf?_index i, hnode]
    rfl
  have hmarker : Line.marker? ⟨Int64.ofNat A.length, x⟩ = none := by
    simp [Line.marker?, hstart, hend]
  rw [l.lint_eq_map_findings, hlines', l.findings_insert (hnil hA) (hnil hB) hskip' hmarker,
    ← hlines, List.map_map, Line.length_ofTextsFrom]
  exact List.map_congr_left fun f _ ↦ l.diagnose_moved A.length f

/-- A comment between two lines, in both numberings: the marker moves to line 4; the list item moves
to line 3 by source line and stays at 3 by position. -/
theorem lint_insert_comment :
    ({} : Linter).lint (Line.ofTexts (([Text.ofString "k: v"] ++ [Text.ofString "# c"]) ++
        [Text.ofString "- i", Text.ofString "---"])) =
      [.ofRule 4 .misplacedStart, .ofRule 1 .indentationNotEven, .ofRule 3 .indentationNotEven] ∧
    ({ legacyLineNumbers := true } : Linter).lint
        (Line.ofTexts (([Text.ofString "k: v"] ++ [Text.ofString "# c"]) ++
          [Text.ofString "- i", Text.ofString "---"])) =
      [.ofRule 4 .misplacedStart, .ofRule 2 .indentationNotEven, .ofRule 3 .indentationNotEven] :=
  ⟨(lint_insert_skipped {} (i := 0) (by decide) (by decide) (by decide) (by decide)
      (by decide)).2.2.trans (by decide),
    (lint_insert_skipped { legacyLineNumbers := true } (i := 0) (by decide) (by decide) (by decide)
      (by decide) (by decide)).2.2.trans (by decide)⟩

end Linter

end StructuralLint
