import Mathlib.Data.List.Find
import StructuralLint.Proofs.Document.Classify

/-!
# Well-formed nodes

A node is well formed when its key and value are trimmed and have the shape their kind promises:
a list item has a value, a key is visible and is no comment, and a value is there exactly when the
kind says so.

Not every line that is classified gives such a node. The kind is decided with the white space of
the key grammar and the pieces are trimmed with Unicode's, so blanks that only Unicode knows (a
vertical tab, a no-break space) count as a key or as a value and are then trimmed away.
`hidden_key_not_wellFormed` is such a line.

`wellFormed_iff_of_classify` says exactly when this happens. List items are always well formed, and
so is every node of a line whose blanks all belong to the key grammar; the node of a key line is
well formed if and only if the line shows its key and its value (`Text.ShowsKey`).
-/

namespace StructuralLint

/-- **A well-formed node.** -/
structure Node.WellFormed (node : Node) : Prop where
  /-- The key is trimmed. -/
  trim_key : node.key.trim = node.key
  /-- The value is trimmed. -/
  trim_value : node.value.trim = node.value
  /-- A list item has the list marker as its key, and a value. -/
  listItem : node.kind = .listItem → node.key = listMarker ∧ node.value ≠ []
  /-- A key is visible, holds no colon and is no comment. -/
  key : node.kind.isKey = true →
    node.key ≠ [] ∧ .char ':' ∉ node.key ∧ node.key.head? ≠ some (.char '#')
  /-- A key with a value has one. -/
  value_ne_nil : node.kind = .keyValuePair → node.value ≠ []
  /-- A bare key has none. -/
  value_eq_nil : node.kind = .bareKey → node.value = []

/-- **A text that shows its key and its value**: its first visible rune is neither a colon nor a
`#`, and what follows its first colon is visible unless the key grammar passes over all of it. -/
structure Text.ShowsKey (t : Text) : Prop where
  /-- The key is not only blanks. -/
  head?_ne_colon : t.trim.head? ≠ some (.char ':')
  /-- The key is no comment. -/
  head?_ne_hash : t.trim.head? ≠ some (.char '#')
  /-- Blanks alone are no value. -/
  isPatternSpace_of_isBlank : ∀ after, (Text.cut ':' t).2 = some after →
    after.isBlank = true → ∀ r ∈ after, r.isPatternSpace = true

namespace Text

variable {t before after : Text}

namespace KeySplit

/-- The first visible rune of a key line is that of the key, or else the colon. -/
theorem head?_trim_eq (h : KeySplit t before after) :
    t.trim.head? = before.trim.head?.or (some (.char ':')) := by
  rw [head?_trim, head?_trim, h.eq_append, List.find?_append]
  rfl

theorem head?_ne_colon_iff (h : KeySplit t before after) :
    t.trim.head? ≠ some (.char ':') ↔ before.trim ≠ [] := by
  rw [h.head?_trim_eq]
  rcases hb : before.trim with - | ⟨r, rest⟩
  · simp
  · have hr : r ∈ before := by
      refine List.mem_of_find?_eq_some (p := fun r ↦ !r.isBlank) ?_
      rw [← head?_trim, hb]
      rfl
    have hne : r ≠ .char ':' := fun he ↦ h.not_mem (he ▸ hr)
    simp [hne]

theorem head?_ne_hash_iff (h : KeySplit t before after) :
    t.trim.head? ≠ some (.char '#') ↔ before.trim.head? ≠ some (.char '#') := by
  rw [h.head?_trim_eq]
  cases before.trim.head? <;> simp

theorem not_mem_trim (h : KeySplit t before after) : .char ':' ∉ before.trim := by
  obtain ⟨w, v, hb, -, -⟩ := before.exists_eq_append_trim
  intro hmem
  refine h.not_mem ?_
  rw [hb]
  exact List.mem_append_right _ (List.mem_append_left _ hmem)

theorem value_iff (h : KeySplit t before after) :
    (∀ a, (cut ':' t).2 = some a → a.isBlank = true → ∀ r ∈ a, r.isPatternSpace = true) ↔
      (kindAfter after = .keyValuePair → after.trim ≠ []) := by
  have hkind : kindAfter after = .keyValuePair ↔ ¬ ∀ r ∈ after, r.isPatternSpace = true := by
    rw [← kindAfter_eq_bareKey_iff, kindAfter]
    split <;> simp
  rw [h.cut_eq, hkind]
  simp only [Option.some.injEq, forall_eq', isBlank_iff]
  exact not_imp_not.symm

/-- **When a key line gives a well-formed node.** -/
theorem wellFormed_iff (h : KeySplit t before after) (indent line : Int64) :
    Node.WellFormed ⟨indent, kindAfter after, before.trim, after.trim, line⟩ ↔ t.ShowsKey := by
  have hkey : (kindAfter after).isKey = true := by
    rw [kindAfter]
    split <;> rfl
  constructor
  · intro hw
    obtain ⟨hne, -, hhash⟩ := hw.key hkey
    exact ⟨h.head?_ne_colon_iff.2 hne, h.head?_ne_hash_iff.2 hhash,
      h.value_iff.2 hw.value_ne_nil⟩
  · intro hs
    have hitem : kindAfter after ≠ .listItem := by
      intro he
      rw [he] at hkey
      exact absurd hkey (by decide)
    exact
      { trim_key := trim_trim _
        trim_value := trim_trim _
        listItem := fun he ↦ absurd he hitem
        key := fun _ ↦ ⟨h.head?_ne_colon_iff.1 hs.head?_ne_colon, h.not_mem_trim,
          h.head?_ne_hash_iff.1 hs.head?_ne_hash⟩
        value_ne_nil := h.value_iff.1 hs.isPatternSpace_of_isBlank
        value_eq_nil := trim_eq_nil_of_kindAfter }

/-- A line whose blanks all belong to the key grammar shows its key. -/
theorem showsKey (h : KeySplit t before after)
    (hplain : ∀ r ∈ t, r.isBlank = true → r.isPatternSpace = true) : t.ShowsKey := by
  have hbefore : ∀ r ∈ before, r.isBlank = r.isPatternSpace := by
    intro r hr
    refine Bool.eq_iff_iff.2 ⟨hplain r ?_, Rune.isBlank_of_isPatternSpace⟩
    rw [h.eq_append]
    exact List.mem_append_left _ hr
  -- both notions of white space find the same first rune
  have hhead : before.trim.head? = before.find? fun r ↦ !r.isPatternSpace := by
    rw [head?_trim]
    exact List.find?_congr fun r hr ↦ by rw [hbefore r hr]
  obtain ⟨r, hr, hhash⟩ := h.exists_start
  rw [← hhead] at hr
  refine ⟨h.head?_ne_colon_iff.2 ?_, h.head?_ne_hash_iff.2 ?_, ?_⟩
  · intro hnil
    rw [hnil] at hr
    exact absurd hr (by simp)
  · rw [hr]
    exact fun he ↦ hhash (Option.some.inj he)
  · rw [h.cut_eq]
    rintro a ⟨⟩ hblank s hs
    refine hplain s ?_ (trim_eq_nil_iff.1 (isBlank_iff.1 hblank) s hs)
    rw [h.eq_append]
    exact List.mem_append_right _ (List.mem_cons_of_mem _ hs)

end KeySplit

/-- After the list marker there is something to see, since the trimmed text ends in it. -/
theorem trim_ne_nil_of_trim_eq {rest : Text} (h : t.trim = .char '-' :: .char ' ' :: rest) :
    rest.trim ≠ [] := by
  intro hnil
  have hrest : ∀ r ∈ rest, r.isBlank = true := trim_eq_nil_iff.1 hnil
  have hlast : ∃ r, t.trim.getLast? = some r ∧ r.isBlank = true := by
    rw [h, List.getLast?_cons_cons, List.getLast?_cons]
    refine ⟨_, rfl, ?_⟩
    rcases hl : rest.getLast? with - | r
    · rfl
    · exact hrest r (List.mem_of_getLast? hl)
  obtain ⟨r, hr, hblank⟩ := hlast
  exact absurd hblank (by simp [not_isBlank_of_getLast?_trim hr])

end Text

namespace Classifier

variable {c : Classifier} {line : Line} {node : Node}

/-- **The node of a line is well formed exactly when the line shows it.** What holds of every node
comes first; then the exact condition; then the lines on which nothing can go wrong, because all
their blanks belong to the key grammar. -/
theorem wellFormed_iff_of_classify (h : c.classify line = .ok (some node)) :
    (node.key.trim = node.key ∧ node.value.trim = node.value ∧
      (node.kind.isKey = true → .char ':' ∉ node.key) ∧
      (node.kind = .bareKey → node.value = [])) ∧
    (node.WellFormed ↔ node.kind = .listItem ∨ line.text.ShowsKey) ∧
    ((∀ r ∈ line.text, r.isBlank = true → r.isPatternSpace = true) → node.WellFormed) := by
  obtain ⟨rest, htrim, rfl⟩ | ⟨-, before, after, hsplit, rfl⟩ :=
    node?_eq_some_iff.1 (node?_of_classify h)
  · have hw : Node.WellFormed
        ⟨c.indent line.text, .listItem, listMarker, Text.trim rest, line.number⟩ :=
      { trim_key := rfl
        trim_value := Text.trim_trim _
        listItem := fun _ ↦ ⟨rfl, Text.trim_ne_nil_of_trim_eq htrim⟩
        key := fun hkey ↦ absurd hkey (by simp [Kind.isKey])
        value_ne_nil := fun hkind ↦ absurd hkind (by simp)
        value_eq_nil := fun hkind ↦ absurd hkind (by simp) }
    exact ⟨⟨hw.trim_key, hw.trim_value, fun hkey ↦ (hw.key hkey).2.1, hw.value_eq_nil⟩,
      ⟨fun _ ↦ Or.inl rfl, fun _ ↦ hw⟩, fun _ ↦ hw⟩
  · have hitem : Text.kindAfter after ≠ .listItem := by
      rw [Text.kindAfter]
      split <;> simp
    refine ⟨⟨Text.trim_trim _, Text.trim_trim _, fun _ ↦ hsplit.not_mem_trim,
      Text.trim_eq_nil_of_kindAfter⟩, ?_, fun hplain ↦ ?_⟩
    · rw [or_iff_right hitem]
      exact hsplit.wellFormed_iff _ _
    · exact (hsplit.wellFormed_iff _ _).2 (hsplit.showsKey hplain)

/-- A no-break space before the key and a colon in the value: the key is shown. -/
theorem shown_key_wellFormed :
    ({} : Classifier).classify ⟨4, Text.ofString "\u00a0 k : a:b"⟩ =
        .ok (some ⟨1, .keyValuePair, Text.ofString "k", Text.ofString "a:b", 5⟩) ∧
      Node.WellFormed ⟨1, .keyValuePair, Text.ofString "k", Text.ofString "a:b", 5⟩ := by
  have h : ({} : Classifier).classify ⟨4, Text.ofString "\u00a0 k : a:b"⟩ =
      .ok (some ⟨1, .keyValuePair, Text.ofString "k", Text.ofString "a:b", 5⟩) := by decide
  refine ⟨h, (wellFormed_iff_of_classify h).2.1.2 (Or.inr ⟨by decide, by decide, ?_⟩)⟩
  intro a ha hblank
  have ha' : a = Text.ofString " a:b" := (Option.some.inj ha).symm
  rw [ha'] at hblank
  exact absurd hblank (by decide)

/-- **A key that is only a vertical tab**: the line is taken for a key with a value, and the node
has no key. -/
theorem hidden_key_not_wellFormed :
    ({} : Classifier).classify ⟨0, Text.ofString "\x0b: x"⟩ =
        .ok (some ⟨1, .keyValuePair, [], Text.ofString "x", 1⟩) ∧
      ¬ Node.WellFormed ⟨1, .keyValuePair, [], Text.ofString "x", 1⟩ :=
  ⟨by decide, fun hw ↦ (hw.key rfl).1 rfl⟩

end Classifier

end StructuralLint
