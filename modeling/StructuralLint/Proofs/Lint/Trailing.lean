import StructuralLint.Proofs.Document.LeadingSpace
import StructuralLint.Proofs.Lint.Check
import StructuralLint.Proofs.Text.Utf8

/-!
# White space at the end of lines

White space at the end of a line never changes a finding. It does change nodes: a bare key that is
followed by a no-break space is a key with a value, since the key grammar takes the no-break space for
something visible. So the classification of a line is not kept, and what is kept is less.

`Node.bare` forgets of a node what no check looks at: the key, the value, and whether a key has one. The
structural check gives the same answer on the nodes so reduced (`Outline.validate_map_bare`), and the
reduced classification is kept (`Classifier.map_bare_classify_append`). The marker check trims.

A tab is the one blank that is not allowed. A line of spaces with a tab behind them starts with spaces
and a tab; behind anything visible a tab would do no harm.
-/

namespace StructuralLint

/-! ### What the structural check sees of a node -/

/-- The kind without the difference between keys with a value and keys without one. -/
def Kind.bare : Kind → Kind
  | keyValuePair => bareKey
  | kind => kind

@[simp] theorem Kind.isKey_bare (kind : Kind) : kind.bare.isKey = kind.isKey := by
  cases kind <;> rfl

@[simp] theorem Kind.isKnown_bare (kind : Kind) : kind.bare.isKnown = kind.isKnown := by
  cases kind <;> rfl

@[simp] theorem Kind.bare_eq_listItem_iff {kind : Kind} : kind.bare = .listItem ↔ kind = .listItem := by
  cases kind <;> simp [bare]

/-- What the structural check sees of a node: the indent, the line, and a kind that does not tell keys
apart. -/
def Node.bare (node : Node) : Node :=
  { node with kind := node.kind.bare, key := [], value := [] }

@[simp] theorem Node.kind_bare (node : Node) : node.bare.kind = node.kind.bare := rfl

theorem Node.violations_bare (before : Option Node) (node : Node) (after : Option Node) :
    violations (before.map bare) node.bare (after.map bare) = violations before node after := by
  have hodd : node.bare.isOdd = node.isOdd := rfl
  have horphan : isOrphan (before.map bare) node.bare = isOrphan before node := by
    simp [isOrphan, Option.any_map]
  have hchildless : isChildless node.bare (after.map bare) = isChildless node after := by
    simp [isChildless, Option.any_map]
  rw [violations, violations, hodd, horphan, hchildless]

/-- **The structural check sees no more than that.** -/
theorem Outline.validate_map_bare (numbering : Numbering) (outline : Outline) :
    Outline.validate numbering (outline.map Node.bare) = outline.validate numbering := by
  rw [validate_eq_flatMap, validate_eq_flatMap, contexts_map, List.flatMap_map]
  refine List.flatMap_congr fun x _ ↦ ?_
  have hrules : (x.map Node.bare).nodeRules = x.nodeRules := by
    simp only [Context.nodeRules, Context.before_map, Context.here_map, Context.after_map,
      List.getLast?_map, List.head?_map, Node.violations_bare]
  have hline : numbering.lineOf x.before.length x.here.bare = numbering.lineOf x.before.length x.here := by
    cases numbering <;> rfl
  rw [hrules, Context.before_map, Context.here_map, List.length_map, hline]

namespace Text

/-! ### Texts with blanks at the end -/

variable {v : Text}

/-- A key line stays one, with a value or without. -/
theorem map_bare_keyKind?_append (h : .char ':' ∉ v) (t : Text) :
    (keyKind? (t ++ v)).map Kind.bare = (keyKind? t).map Kind.bare := by
  have hbare : ∀ t, (keyKind? t).map Kind.bare = (afterKey? t).map fun _ ↦ Kind.bareKey := by
    intro t
    rw [keyKind?, Option.map_map]
    refine congrArg (Option.map · _) (funext fun rest ↦ ?_)
    rw [Function.comp_apply]
    split <;> rfl
  rw [hbare, hbare, afterKey?_append h, Option.map_map]
  rfl

end Text

namespace Classifier

variable (c : Classifier) {v : Text}

/-! ### Lines with blanks at the end -/

theorem map_bare_node?_append (hv : ∀ r ∈ v, r.isBlank = true) {t : Text} (ht : t.trim ≠ [])
    (i : Int64) :
    (c.node? ⟨i, t ++ v⟩).map Node.bare = (c.node? ⟨i, t⟩).map Node.bare := by
  have hcolon : .char ':' ∉ v := fun hmem ↦ absurd (hv _ hmem) (by decide)
  have hindent : c.indent (t ++ v) = c.indent t := by
    rw [Ne, Text.trim_eq_nil_iff] at ht
    push Not at ht
    obtain ⟨r, hr, hvisible⟩ := ht
    rw [indent, indent, Text.leadingSpaces_append ⟨r, hr, fun he ↦ hvisible (he ▸ rfl)⟩]
  have hkind := Text.map_bare_keyKind?_append hcolon t
  simp only [node?, Text.trim_append_blank hv, hindent]
  split
  · rfl
  · -- the node depends on the kind twice, and both are forgotten
    have hnode : ∀ k : Option Kind, (k.map fun kind ↦
        (⟨c.indent t, kind, (Text.cut ':' t.trim).1.trim,
          if kind = .bareKey then [] else Text.trim ((Text.cut ':' t.trim).2.getD []), i + 1⟩ :
          Node)).map Node.bare =
        (k.map Kind.bare).map fun kind ↦ ⟨c.indent t, kind, [], [], i + 1⟩ := by
      intro k
      rw [Option.map_map, Option.map_map]
      rfl
    exact (hnode _).trans (hkind ▸ (hnode _).symm)

/-- **Blanks at the end of a line** leave what the structural check sees of it. -/
theorem map_bare_classify_append (hv : ∀ r ∈ v, r.isBlank = true) (htab : .char '\t' ∉ v) {t : Text}
    (hcomment : c.isComment (t ++ v) = c.isComment t) (i : Int64) :
    (c.classify ⟨i, t ++ v⟩).map (Option.map Node.bare) =
      (c.classify ⟨i, t⟩).map (Option.map Node.bare) := by
  have hblank : Text.isBlank (t ++ v) = t.isBlank := by
    rw [Text.isBlank, Text.trim_append_blank hv, Text.isBlank]
  rw [classify, classify]
  dsimp only [Line.number]
  rw [Text.hasLeadingTab_append_right htab, hblank, hcomment]
  by_cases ht : t.isBlank = true
  · -- a blank line yields nothing, however long it is
    simp only [ht, Bool.true_or, if_true]
  · have hnode := c.map_bare_node?_append hv (mt Text.isBlank_iff.2 ht) i
    split
    · rfl
    · split
      · rfl
      · exact congrArg Except.ok hnode

/-- The reduced outline goes through the lines and their reduced classification. -/
theorem map_bare_outline_cons (line : Line) (lines : List Line) :
    (c.outline (line :: lines)).map (List.map Node.bare) = (do
      let found ← (c.classify line).map (Option.map Node.bare)
      let rest ← (c.outline lines).map (List.map Node.bare)
      return found.toList ++ rest) := by
  rw [outline]
  rcases c.classify line with e | - | node
  · rfl
  · rcases c.outline lines with e | rest <;> rfl
  · rcases c.outline lines with e | rest <;> rfl

/-- What is seen alike line by line has an outline that is seen alike. -/
theorem map_bare_outline_congr {lines lines' : List Line}
    (h : List.Forall₂ (fun a b ↦ (c.classify a).map (Option.map Node.bare) =
      (c.classify b).map (Option.map Node.bare)) lines lines') :
    (c.outline lines).map (List.map Node.bare) = (c.outline lines').map (List.map Node.bare) := by
  induction h with
  | nil => rfl
  | cons hab _ ih => rw [map_bare_outline_cons, map_bare_outline_cons, hab, ih]

end Classifier

/-! ### Comment rules and lines -/

/-- **A comment rule that looks at the trimmed line**, and at nothing else. -/
def SeesTrimmed (isComment : Text → Bool) : Prop :=
  ∀ a b : List UInt8, (Text.ofBytes a).trim = (Text.ofBytes b).trim →
    isComment (Text.ofBytes a) = isComment (Text.ofBytes b)

theorem seesTrimmed_default : SeesTrimmed ({} : Classifier).isComment := by
  intro a b h
  simp only [h]

/-- **A line and the same line with white space at its end**, other than tabs. Both are byte strings; the
line may end in the first bytes of a character that does not go on. -/
inductive Line.TrailedBy : Line → Line → Prop
  | intro {index : Int64} {bytes blanks : List UInt8}
      (isBlank : ∀ r ∈ Text.ofBytes blanks, r.isBlank = true)
      (noTab : .char '\t' ∉ Text.ofBytes blanks) :
      TrailedBy ⟨index, .ofBytes bytes⟩ ⟨index, .ofBytes (bytes ++ blanks)⟩

namespace Linter

variable (l : Linter)

/-- What is seen alike line by line, and has the same markers, has the same findings. -/
theorem lint_congr_bare {lines lines' : List Line}
    (hclassify : List.Forall₂ (fun a b ↦ (l.classify a).map (Option.map Node.bare) =
      (l.classify b).map (Option.map Node.bare)) lines lines')
    (hmarkers : List.Forall₂ (fun a b ↦ a.number = b.number ∧ a.marker? = b.marker?) lines lines') :
    l.lint lines = l.lint lines' := by
  have houtline := l.map_bare_outline_congr hclassify
  rw [lint, lint, lintTraced, lintTraced, checkMarkers_congr hmarkers]
  rcases ho : l.outline lines with e | outline <;> rcases ho' : l.outline lines' with e' | outline' <;>
    rw [ho, ho'] at houtline
  · rw [Except.error.inj houtline]
  · cases houtline
  · cases houtline
  · have hvalidate := Outline.validate_map_bare l.numbering outline
    rw [Except.ok.inj houtline, Outline.validate_map_bare] at hvalidate
    simp only [hvalidate]

/-- **White space at the end of lines changes no finding**, as long as the comment rule looks at the trimmed
line only. The default rule does, and so does one that gives the same answer for every line. -/
theorem lint_trailing :
    SeesTrimmed ({} : Classifier).isComment ∧ (∀ b, SeesTrimmed fun _ ↦ b) ∧
      ∀ l : Linter, SeesTrimmed l.isComment → ∀ lines trailed : List Line,
        List.Forall₂ Line.TrailedBy lines trailed → l.lint trailed = l.lint lines := by
  refine ⟨seesTrimmed_default, fun _ _ _ _ ↦ rfl, fun l hl lines trailed h ↦ ?_⟩
  refine (l.lint_congr_bare (h.imp ?_) (h.imp ?_)).symm
  · rintro _ _ @⟨index, bytes, blanks, hblank, htab⟩
    have htrailed := Text.ofBytes_append_right (Text.stray_not_mem_of_blank hblank) bytes
    have hcomment := hl (bytes ++ blanks) bytes (by rw [htrailed, Text.trim_append_blank hblank])
    rw [htrailed] at hcomment ⊢
    exact (l.map_bare_classify_append hblank htab hcomment index).symm
  · rintro _ _ @⟨index, bytes, blanks, hblank, -⟩
    refine ⟨rfl, ?_⟩
    rw [Line.marker?, Line.marker?,
      Text.ofBytes_append_right (Text.stray_not_mem_of_blank hblank), Text.trim_append_blank hblank]

/-- A start marker, a bare key that turns into a key with a value, a value that ends in the first bytes of
a character, and a line of spaces. -/
theorem lint_trailing_no_break_space :
    ({} : Linter).lint [⟨0, Text.ofBytes ([0x2D, 0x2D, 0x2D] ++ [0xE3, 0x80, 0x80])⟩,
        ⟨1, Text.ofBytes ([0x6B, 0x3A] ++ [0xC2, 0xA0])⟩,
        ⟨2, Text.ofBytes ([0x6D, 0x3A, 0x20, 0xE3, 0x80] ++ [0xE3, 0x80, 0x80, 0x0D])⟩,
        ⟨3, Text.ofBytes ([0x20, 0x20] ++ [0x0B, 0x0A, 0x20])⟩] =
      [.ofRule 2 .indentationNotEven, .ofRule 2 .keyMissingChild, .ofRule 3 .indentationNotEven] := by
  refine (lint_trailing.2.2 {} seesTrimmed_default
    [⟨0, Text.ofBytes [0x2D, 0x2D, 0x2D]⟩, ⟨1, Text.ofBytes [0x6B, 0x3A]⟩,
      ⟨2, Text.ofBytes [0x6D, 0x3A, 0x20, 0xE3, 0x80]⟩, ⟨3, Text.ofBytes [0x20, 0x20]⟩] _ ?_).trans
    (by decide)
  exact .cons ⟨by decide, by decide⟩ (.cons ⟨by decide, by decide⟩ (.cons ⟨by decide, by decide⟩
    (.cons ⟨by decide, by decide⟩ .nil)))

end Linter

end StructuralLint
