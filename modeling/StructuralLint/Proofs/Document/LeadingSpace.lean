import StructuralLint.Proofs.Document.Classify

/-!
# Leading white space

Three parts of the classifier pass over white space at the start of a line, each over its own: the tab
check and the indent over spaces, the key grammar over the white space it knows, trimming over all of
Unicode's. A tab is looked for by the part that passes over the least.

So a tab in the leading white space of a line is seen if nothing but spaces stands before it, and only
then (`tab_rejected_iff`). Behind a carriage return, a form feed or a line feed it is passed over with
them, and the line yields what it would with a space in place of the tab: `tab_after_return_accepted` is
such a line, and it yields a node.
-/

namespace StructuralLint

namespace Text

/-! ### Leading spaces -/

theorem leadingSpaces_replicate_append {n : ℕ} {rest : Text} (h : rest.head? ≠ some (.char ' ')) :
    leadingSpaces (List.replicate n (.char ' ') ++ rest) = n := by
  have hspaces : ∀ r ∈ List.replicate n (Rune.char ' '), r.isChar ' ' = true :=
    fun r hr ↦ Rune.isChar_iff.2 (List.eq_of_mem_replicate hr)
  have hrest : rest.takeWhile (Rune.isChar ' ') = [] := by
    rcases rest with - | ⟨r, rest⟩
    · rfl
    · exact List.takeWhile_cons_of_neg (by simpa using h)
  rw [leadingSpaces, List.takeWhile_append_of_pos hspaces, hrest, List.append_nil,
    List.length_replicate]

/-- A text is its leading spaces and a rest that starts with none. -/
theorem exists_eq_replicate_append (t : Text) :
    ∃ rest : Text, t = List.replicate t.leadingSpaces (.char ' ') ++ rest ∧
      rest.head? ≠ some (.char ' ') := by
  refine ⟨t.dropWhile (Rune.isChar ' '), ?_, fun h ↦ ?_⟩
  · rw [← takeWhile_space, List.takeWhile_append_dropWhile]
  · have hnot := List.head?_dropWhile_not (Rune.isChar ' ') t
    rw [h] at hnot
    exact absurd hnot (by decide)

section Other

variable {w : Text}

/-- **The leading spaces end at the first rune that is no space**, and what follows does not matter: the
text is some spaces and a rest that starts with that rune. -/
theorem exists_eq_replicate_append_cons (h : ∃ r ∈ w, r ≠ .char ' ') :
    ∃ (n : ℕ) (r : Rune) (rest : Text), w = List.replicate n (.char ' ') ++ r :: rest ∧
      r ≠ .char ' ' := by
  obtain ⟨rest, hw, hhead⟩ := w.exists_eq_replicate_append
  rcases rest with - | ⟨r, rest⟩
  · obtain ⟨s, hs, hne⟩ := h
    rw [hw, List.append_nil] at hs
    exact absurd (List.eq_of_mem_replicate hs) hne
  · exact ⟨_, r, rest, hw, fun he ↦ hhead (congrArg some he)⟩

theorem leadingSpaces_append (h : ∃ r ∈ w, r ≠ .char ' ') (t : Text) :
    leadingSpaces (w ++ t) = w.leadingSpaces := by
  obtain ⟨n, r, rest, rfl, hr⟩ := exists_eq_replicate_append_cons h
  have hhead : ∀ v : Text, (r :: v).head? ≠ some (.char ' ') := fun v he ↦ hr (Option.some.inj he)
  rw [List.append_assoc, List.cons_append, leadingSpaces_replicate_append (hhead _),
    leadingSpaces_replicate_append (hhead _)]

theorem hasLeadingTab_append (h : ∃ r ∈ w, r ≠ .char ' ') (htab : .char '\t' ∉ w) (t : Text) :
    hasLeadingTab (w ++ t) = false := by
  obtain ⟨n, r, rest, rfl, hr⟩ := exists_eq_replicate_append_cons h
  have hspaces : ∀ s ∈ List.replicate n (Rune.char ' '), s.isChar ' ' = true :=
    fun s hs ↦ Rune.isChar_iff.2 (List.eq_of_mem_replicate hs)
  have hne : r ≠ .char '\t' := fun he ↦ htab (he ▸ by simp)
  rw [hasLeadingTab, List.append_assoc, List.dropWhile_append_of_pos hspaces, List.cons_append,
    List.dropWhile_cons_of_neg (by simpa using hr)]
  simpa using hne

end Other

/-- Without a tab in it, what is appended makes no leading tab. -/
theorem hasLeadingTab_append_right {v : Text} (h : .char '\t' ∉ v) (t : Text) :
    hasLeadingTab (t ++ v) = hasLeadingTab t := by
  rw [hasLeadingTab, hasLeadingTab, List.dropWhile_append]
  rcases hrest : t.dropWhile (Rune.isChar ' ') with - | ⟨r, rest⟩
  · have hne : (v.dropWhile (Rune.isChar ' ')).head? ≠ some (.char '\t') := fun he ↦
      h ((List.dropWhile_suffix _).subset (List.mem_of_head? he))
    simpa using hne
  · rfl

/-! ### Leading white space -/

/-- The white space that a text starts with, as the key grammar has it. -/
def leadingWhiteSpace (t : Text) : Text :=
  t.takeWhile Rune.isPatternSpace

/-- **A text with a tab in its leading white space**, split at the first one. -/
structure TabSplit (t before after : Text) : Prop where
  /-- The text is put together from the pieces. -/
  eq_append : t = before ++ .char '\t' :: after
  /-- The tab stands in the leading white space. -/
  isPatternSpace : ∀ r ∈ before, r.isPatternSpace = true
  /-- The tab is the first one. -/
  not_mem : .char '\t' ∉ before

theorem tab_mem_leadingWhiteSpace_iff {t : Text} :
    .char '\t' ∈ t.leadingWhiteSpace ↔ ∃ before after, t.TabSplit before after := by
  constructor
  · intro h
    obtain ⟨before, rest, hsplit, hmem⟩ := List.eq_append_cons_of_mem h
    refine ⟨before, rest ++ t.dropWhile Rune.isPatternSpace, ?_, fun r hr ↦ ?_, hmem⟩
    · rw [← List.cons_append, ← List.append_assoc, ← hsplit, leadingWhiteSpace,
        List.takeWhile_append_dropWhile]
    · refine List.mem_takeWhile_imp (l := t) ?_
      rw [← leadingWhiteSpace, hsplit]
      exact List.mem_append_left _ hr
  · rintro ⟨before, after, rfl, hbefore, -⟩
    rw [leadingWhiteSpace, List.takeWhile_append_of_pos hbefore,
      List.takeWhile_cons_of_pos (by decide)]
    exact List.mem_append_right _ List.mem_cons_self

/-- **The tab check stops at the first rune that is no space.** -/
theorem TabSplit.hasLeadingTab_iff {t before after : Text} (h : t.TabSplit before after) :
    t.hasLeadingTab = true ↔ ∀ r ∈ before, r = .char ' ' := by
  by_cases hspaces : ∀ r ∈ before, r = .char ' '
  · refine iff_of_true (Text.hasLeadingTab_iff.2 ⟨before.length, after, ?_⟩) hspaces
    rw [← List.eq_replicate_iff.2 ⟨rfl, hspaces⟩]
    exact h.eq_append
  · refine iff_of_false ?_ hspaces
    push Not at hspaces
    rw [h.eq_append, hasLeadingTab_append hspaces h.not_mem]
    simp

/-- The key grammar passes over white space before the key. -/
theorem keyKind?_append {w : Text} (h : ∀ r ∈ w, r.isPatternSpace = true) (t : Text) :
    keyKind? (w ++ t) = keyKind? t := by
  rw [keyKind?, afterKey?, List.dropWhile_append_of_pos h]
  rfl

end Text

namespace Classifier

variable (c : Classifier)

/-- **White space before a text** shows in its classification through three things: the spaces and the tab
that the line may start with, and the comment rule. -/
theorem classify_append {index : Int64} {w w' t : Text}
    (hw : ∀ r ∈ w, r.isPatternSpace = true) (hw' : ∀ r ∈ w', r.isPatternSpace = true)
    (hspaces : Text.leadingSpaces (w ++ t) = Text.leadingSpaces (w' ++ t))
    (htab : Text.hasLeadingTab (w ++ t) = Text.hasLeadingTab (w' ++ t))
    (hcomment : c.isComment (w ++ t) = c.isComment (w' ++ t)) :
    c.classify ⟨index, w ++ t⟩ = c.classify ⟨index, w' ++ t⟩ := by
  have htrim : ∀ v : Text, (∀ r ∈ v, r.isPatternSpace = true) → Text.trim (v ++ t) = t.trim :=
    fun v hv ↦ Text.trim_blank_append (fun r hr ↦ Rune.isBlank_of_isPatternSpace (hv r hr)) t
  simp only [classify, node?, indent, Line.number, Text.isBlank, htrim w hw, htrim w' hw',
    Text.keyKind?_append hw, Text.keyKind?_append hw', hspaces, htab, hcomment]

/-- A tab that the tab check does not reach is classified as a space is, unless the comment rule tells
the two apart. -/
theorem classify_tab_eq_space {line : Line} {before after : Text}
    (h : line.text.TabSplit before after) (hother : ∃ r ∈ before, r ≠ .char ' ')
    (hcomment : c.isComment line.text = c.isComment (before ++ .char ' ' :: after)) :
    c.classify line = c.classify ⟨line.index, before ++ .char ' ' :: after⟩ := by
  have hpattern : ∀ s : Rune, s.isPatternSpace = true →
      ∀ r ∈ before ++ [s], r.isPatternSpace = true := by
    intro s hs r hr
    rcases List.mem_append.1 hr with hr | hr
    · exact h.isPatternSpace r hr
    · exact List.mem_singleton.1 hr ▸ hs
  have hline : line = ⟨line.index, before ++ .char '\t' :: after⟩ := by
    rw [← h.eq_append]
  rw [hline] at hcomment ⊢
  have hcons : ∀ s : Rune, before ++ s :: after = before ++ [s] ++ after := fun s ↦ by simp
  have hspaces : ∀ s, Text.leadingSpaces (before ++ [s] ++ after) = before.leadingSpaces := fun s ↦ by
    rw [List.append_assoc, Text.leadingSpaces_append hother]
  have htab : ∀ s, Text.hasLeadingTab (before ++ [s] ++ after) = false := fun s ↦ by
    rw [List.append_assoc, Text.hasLeadingTab_append hother h.not_mem]
  dsimp only at hcomment ⊢
  rw [hcons, hcons] at hcomment ⊢
  exact c.classify_append (hpattern _ (by decide)) (hpattern _ (by decide))
    ((hspaces _).trans (hspaces _).symm) ((htab _).trans (htab _).symm) hcomment

/-- A document with a tab error has no outline. -/
theorem exists_outline_eq_error {lines : List Line} {line : Line} {e : TabError} (hline : line ∈ lines)
    (h : c.classify line = .error e) : ∃ e', c.outline lines = .error e' := by
  induction lines with
  | nil => cases hline
  | cons first lines ih =>
    rw [outline]
    rcases List.mem_cons.1 hline with rfl | hline
    · exact ⟨e, by rw [h]⟩
    · obtain ⟨e', he'⟩ := ih hline
      rcases c.classify first with e'' | - | node
      · exact ⟨e'', rfl⟩
      · exact ⟨e', he'⟩
      · exact ⟨e', by rw [he']; rfl⟩

/-- **Which tabs are rejected.** A tab in the leading white space of a line is a tab error if and only if
nothing but spaces stands before the first one, and then no document with the line has an outline.
Otherwise the tab is passed over: the line is classified as it would be with a space in place of the tab,
if the comment rule does not tell the two apart. -/
theorem tab_rejected_iff (line : Line) :
    (.char '\t' ∈ line.text.leadingWhiteSpace ↔ ∃ before after, line.text.TabSplit before after) ∧
    ∀ before after, line.text.TabSplit before after →
      (c.classify line = .error ⟨line.index + 1⟩ ↔ ∀ r ∈ before, r = .char ' ') ∧
      ((∀ r ∈ before, r = .char ' ') → ∀ lines, line ∈ lines → ∃ e, c.outline lines = .error e) ∧
      ((∃ r ∈ before, r ≠ .char ' ') →
        c.isComment line.text = c.isComment (before ++ .char ' ' :: after) →
        c.classify line = c.classify ⟨line.index, before ++ .char ' ' :: after⟩) := by
  refine ⟨Text.tab_mem_leadingWhiteSpace_iff, fun before after h ↦ ?_⟩
  have herror : c.classify line = .error ⟨line.number⟩ ↔ ∀ r ∈ before, r = .char ' ' := by
    rw [classify_eq_error_iff, and_iff_left rfl]
    exact h.hasLeadingTab_iff
  exact ⟨herror, fun hspaces lines hline ↦ c.exists_outline_eq_error hline (herror.2 hspaces),
    c.classify_tab_eq_space h⟩

/-- Behind two spaces the tab is rejected, whatever white space comes after it. Behind a form feed it is
passed over, and the line is a list item as it would be with a space. -/
theorem tab_rejected_iff_spaces_and_form_feed :
    (Text.ofString "  \t\x0c\tk: v").TabSplit (Text.ofString "  ") (Text.ofString "\x0c\tk: v") ∧
    ({} : Classifier).classify ⟨6, Text.ofString "  \t\x0c\tk: v"⟩ = .error ⟨7⟩ ∧
    (Text.ofString " \x0c\t- x").TabSplit (Text.ofString " \x0c") (Text.ofString "- x") ∧
    ({} : Classifier).classify ⟨6, Text.ofString " \x0c\t- x"⟩ =
      ({} : Classifier).classify ⟨6, Text.ofString " \x0c - x"⟩ := by
  have hspaces : (Text.ofString "  \t\x0c\tk: v").TabSplit (Text.ofString "  ")
      (Text.ofString "\x0c\tk: v") := ⟨by decide, by decide, by decide⟩
  have hfeed : (Text.ofString " \x0c\t- x").TabSplit (Text.ofString " \x0c") (Text.ofString "- x") :=
    ⟨by decide, by decide, by decide⟩
  exact ⟨hspaces, ((tab_rejected_iff {} ⟨6, _⟩).2 _ _ hspaces).1.2 (by decide), hfeed,
    ((tab_rejected_iff {} ⟨6, _⟩).2 _ _ hfeed).2.2 (by decide) (by decide)⟩

/-- **A tab behind a carriage return** stands in the leading white space of a line that yields a node. -/
theorem tab_after_return_accepted :
    .char '\t' ∈ (Text.ofString "\r\ta: b").leadingWhiteSpace ∧
      ({} : Classifier).classify ⟨0, Text.ofString "\r\ta: b"⟩ =
        .ok (some ⟨1, .keyValuePair, Text.ofString "a", Text.ofString "b", 1⟩) := by
  decide

end Classifier

end StructuralLint
