import Mathlib.Data.List.Count
import StructuralLint.Proofs.Document.Grammar

/-!
# Nothing but white space is lost

A node keeps two pieces of its line. Around them the line has a list marker or a colon, and all the rest
of it is white space: `exists_pieces_of_classify` puts the trimmed line together again from the node and
some blanks.

The pieces are cut from the trimmed text and trimmed once more, whereas the colon was looked for in the
text as it stands. `Text.KeySplit.exists_pieces` takes both texts apart with the same runs of blanks, so
that the colon between the pieces is the first one of the untrimmed text, and every later one is in the
value.
-/

namespace StructuralLint

namespace Text

variable {t before after : Text}

/-- **A key line, taken apart**: blanks, the key, blanks, the colon, blanks, the value, blanks. Trimming
the line takes away the outer two runs of blanks. -/
theorem KeySplit.exists_pieces (h : t.KeySplit before after) :
    ∃ lead w₁ w₂ trail : Text, (∀ r ∈ lead ++ w₁ ++ w₂ ++ trail, r.isBlank = true) ∧
      before = lead ++ before.trim ++ w₁ ∧ after = w₂ ++ after.trim ++ trail ∧
      t.trim = before.trim ++ w₁ ++ .char ':' :: (w₂ ++ after.trim) := by
  obtain ⟨lead, hbefore, hlead⟩ := before.exists_eq_append_trimStart
  obtain ⟨w₁, hstart, hw₁⟩ := before.exists_trimStart_eq
  obtain ⟨trail, hafter, htrail⟩ := after.exists_eq_trimEnd_append
  obtain ⟨w₂, hend, hw₂⟩ := after.exists_trimEnd_eq
  refine ⟨lead, w₁, w₂, trail, fun r hr ↦ ?_, ?_, ?_, ?_⟩
  · simp only [List.mem_append] at hr
    rcases hr with ((hr | hr) | hr) | hr
    · exact hlead r hr
    · exact hw₁ r hr
    · exact hw₂ r hr
    · exact htrail r hr
  · rw [List.append_assoc, ← hstart, ← hbefore]
  · rw [← hend, ← hafter]
  · rw [h.eq_append, trim_append_cons (by decide), hstart, hend]

/-- After the list marker come blanks and the value. The trimmed text ends in the value, so nothing is
trimmed at its end. -/
theorem exists_eq_append_trim_of_trim_eq {rest : Text} (h : t.trim = .char '-' :: .char ' ' :: rest) :
    ∃ w : Text, rest = w ++ rest.trim ∧ ∀ r ∈ w, r.isBlank = true := by
  refine exists_eq_append_trim_of_getLast? fun r hr ↦ not_isBlank_of_getLast?_trim (t := t) ?_
  rw [h, List.getLast?_cons_cons, List.getLast?_cons, hr]
  rfl

end Text

namespace Classifier

variable {c : Classifier} {line : Line} {node : Node}

/-- **A line is its node and white space.** The trimmed text of a list item is the list marker, a space,
blanks and the value. That of a key is the key, blanks, a colon, blanks and the value; the colon is the
first one of the untrimmed text and the one that the key grammar reads up to, and the value keeps all the
others. -/
theorem exists_pieces_of_classify (h : c.classify line = .ok (some node)) :
    (node.kind = .listItem ∧ ∃ w₂ : Text, (∀ r ∈ w₂, r.isBlank = true) ∧
      line.text.trim = Text.ofString "- " ++ (w₂ ++ node.value)) ∨
    ((node.kind = .keyValuePair ∨ node.kind = .bareKey) ∧ ∃ lead w₁ w₂ trail : Text,
      (∀ r ∈ lead ++ w₁ ++ w₂ ++ trail, r.isBlank = true) ∧
      line.text = lead ++ line.text.trim ++ trail ∧
      line.text.trim = node.key ++ w₁ ++ .char ':' :: (w₂ ++ node.value) ∧
      .char ':' ∉ lead ++ node.key ++ w₁ ∧
      lead ++ node.key ++ w₁ ++ [.char ':'] ∈ keyHead ∧
      line.text.count (.char ':') = node.value.count (.char ':') + 1) := by
  obtain ⟨rest, htrim, rfl⟩ | ⟨-, before, after, hsplit, rfl⟩ :=
    node?_eq_some_iff.1 (node?_of_classify h)
  · obtain ⟨w₂, hrest, hw₂⟩ := Text.exists_eq_append_trim_of_trim_eq htrim
    refine .inl ⟨rfl, w₂, hw₂, ?_⟩
    rw [htrim]
    exact congrArg (.char '-' :: .char ' ' :: ·) hrest
  · obtain ⟨lead, w₁, w₂, trail, hblank, hbefore, hafter, htrim⟩ := hsplit.exists_pieces
    refine .inr ⟨?_, lead, w₁, w₂, trail, hblank, ?_, htrim, ?_, ?_, ?_⟩
    · rw [Text.kindAfter]
      split <;> simp
    · conv_lhs => rw [hsplit.eq_append, hbefore, hafter]
      rw [htrim]
      simp
    · rw [← hbefore]
      exact hsplit.not_mem
    · rw [← hbefore]
      exact hsplit.mem_keyHead
    · -- neither the key nor a blank is a colon
      have hbefore : before.count (.char ':') = 0 := List.count_eq_zero_of_not_mem hsplit.not_mem
      have hcount : ∀ w : Text, (∀ r ∈ w, r.isBlank = true) → w.count (.char ':') = 0 :=
        fun w hw ↦ List.count_eq_zero_of_not_mem fun hmem ↦ absurd (hw _ hmem) (by decide)
      have hw₂ : w₂.count (.char ':') = 0 := hcount w₂ fun r hr ↦ hblank r (by simp [hr])
      have htrail : trail.count (.char ':') = 0 := hcount trail fun r hr ↦ hblank r (by simp [hr])
      rw [hsplit.eq_append, List.count_append, hbefore, List.count_cons_self, Nat.zero_add]
      conv_lhs => rw [hafter, List.count_append, List.count_append, hw₂, htrail, Nat.zero_add]

/-- A stray byte before the colon and one after it, no-break spaces around the pieces, and a second colon:
the pieces are what is left of the line. -/
theorem exists_pieces_of_classify_stray_bytes :
    ({} : Classifier).classify ⟨4, [.char '\u3000', .char 'k', .stray 0xE3, .char '\u00a0', .char ':',
        .char ' ', .stray 0x80, .char ':', .char 'x', .char '\r']⟩ =
      .ok (some ⟨1, .keyValuePair, [.char 'k', .stray 0xE3], [.stray 0x80, .char ':', .char 'x'], 5⟩) ∧
    ∃ w₁ w₂ : Text, (∀ r ∈ w₁, r.isBlank = true) ∧ (∀ r ∈ w₂, r.isBlank = true) ∧
      Text.trim [.char '\u3000', .char 'k', .stray 0xE3, .char '\u00a0', .char ':', .char ' ',
          .stray 0x80, .char ':', .char 'x', .char '\r'] =
        [.char 'k', .stray 0xE3] ++ w₁ ++ .char ':' :: (w₂ ++ [.stray 0x80, .char ':', .char 'x']) := by
  have h : ({} : Classifier).classify ⟨4, [.char '\u3000', .char 'k', .stray 0xE3, .char '\u00a0',
        .char ':', .char ' ', .stray 0x80, .char ':', .char 'x', .char '\r']⟩ =
      .ok (some ⟨1, .keyValuePair, [.char 'k', .stray 0xE3], [.stray 0x80, .char ':', .char 'x'], 5⟩) := by
    decide
  obtain ⟨hkind, -⟩ | ⟨-, lead, w₁, w₂, trail, hblank, -, htrim, -⟩ := exists_pieces_of_classify h
  · cases hkind
  · exact ⟨h, w₁, w₂, fun r hr ↦ hblank r (by simp [hr]), fun r hr ↦ hblank r (by simp [hr]), htrim⟩

end Classifier

end StructuralLint
