import StructuralLint.Proofs.Document.LeadingSpace
import StructuralLint.Proofs.Text.Utf8

/-!
# Written lines are read back

A node can be written as a line: spaces, a key, a colon and a value, with blanks where they do no harm.
`classify_written` says that classification gives back the node that the line was written from, for all
byte strings that may be a key (`Text.IsKey`) or a value (`Text.IsValue`) at all.

Both may hold any bytes, so two things have to be seen. A written line is a byte string, and it has to be
read as its pieces are: at every joint a well-formed piece or an ASCII byte stands on one side. And a
key may look like something else: a hyphen is one, as are three of them. `Text.KeySplit.of_isKey` finds
the colon, and `trim_ne_of_isKey` excludes the list marker.
-/

namespace StructuralLint

namespace Text

/-- **A text that may be written as a key.** -/
structure IsKey (k : Text) : Prop where
  /-- There is something to write. -/
  ne_nil : k ≠ []
  /-- No blank stands at either end. -/
  trim_eq : k.trim = k
  /-- The key ends before the colon. -/
  colon_not_mem : .char ':' ∉ k
  /-- The line is no comment. -/
  head?_ne_hash : k.head? ≠ some (.char '#')
  /-- The line is no list item. -/
  not_listMarker : ¬ listMarker ++ [.char ' '] <+: k

/-- **A text that may be written as a value.** -/
structure IsValue (v : Text) : Prop where
  /-- There is something to write. -/
  ne_nil : v ≠ []
  /-- No blank stands at either end. -/
  trim_eq : v.trim = v

theorem exists_visible_head {t : Text} (hne : t ≠ []) (htrim : t.trim = t) :
    ∃ r rest, t = r :: rest ∧ r.isBlank = false := by
  obtain ⟨r, rest, rfl⟩ := List.exists_cons_of_ne_nil hne
  exact ⟨r, rest, rfl, not_isBlank_of_head?_trim (t := r :: rest) (by rw [htrim]; rfl)⟩

theorem isBlank_of_mem_replicate {n : ℕ} {r : Rune} (h : r ∈ List.replicate n (Rune.char ' ')) :
    r.isBlank = true := by
  rw [List.eq_of_mem_replicate h]
  rfl

/-- Blanks around a trimmed text are all that trimming takes away. -/
theorem trim_blank_append_append {w v t : Text} (hw : ∀ r ∈ w, r.isBlank = true)
    (hv : ∀ r ∈ v, r.isBlank = true) (ht : t.trim = t) : trim (w ++ t ++ v) = t := by
  rw [trim_append_blank hv, trim_blank_append hw, ht]

/-! ### Spaces and then something visible -/

section Visible

variable {r : Rune} (hr : r.isBlank = false) (n : ℕ) (rest : Text)
include hr

theorem head?_trim_spaces_append :
    (trim (List.replicate n (.char ' ') ++ r :: rest)).head? = some r := by
  rw [trim_blank_append fun _ ↦ isBlank_of_mem_replicate, head?_trim,
    List.find?_cons_of_pos (by simp [hr])]

theorem hasLeadingTab_spaces_append :
    hasLeadingTab (List.replicate n (.char ' ') ++ r :: rest) = false := by
  have hspace : r ≠ .char ' ' := fun he ↦ absurd hr (he ▸ by decide)
  have htab : r ≠ .char '\t' := fun he ↦ absurd hr (he ▸ by decide)
  rw [← List.singleton_append, ← List.append_assoc]
  refine hasLeadingTab_append ⟨r, by simp, hspace⟩ (fun hmem ↦ ?_) rest
  rcases List.mem_append.1 hmem with hmem | hmem
  · exact absurd (List.eq_of_mem_replicate hmem) (by decide)
  · exact htab (List.mem_singleton.1 hmem).symm

theorem leadingSpaces_spaces_append :
    leadingSpaces (List.replicate n (.char ' ') ++ r :: rest) = n := by
  refine leadingSpaces_replicate_append fun he ↦ absurd hr ?_
  rw [Option.some.inj he]
  decide

end Visible

/-! ### Key lines -/

section Key

variable {k : Text} (hk : k.IsKey) (n : ℕ) (after : Text)
include hk

/-- **The colon after a written key** is the one that the line is split at. -/
theorem KeySplit.of_isKey :
    KeySplit (List.replicate n (.char ' ') ++ (k ++ .char ':' :: after))
      (List.replicate n (.char ' ') ++ k) after := by
  obtain ⟨r, rest, hcons, hr⟩ := exists_visible_head hk.ne_nil hk.trim_eq
  refine ⟨by rw [List.append_assoc], fun hmem ↦ ?_, r, ?_, fun he ↦ hk.head?_ne_hash ?_⟩
  · rcases List.mem_append.1 hmem with hmem | hmem
    · exact absurd (List.eq_of_mem_replicate hmem) (by decide)
    · exact hk.colon_not_mem hmem
  · -- the key grammar may see less white space than trimming does, never more
    have hspaces : (List.replicate n (Rune.char ' ')).find? (fun s ↦ !s.isPatternSpace) = none := by
      rw [List.find?_eq_none]
      intro s hs
      rw [List.eq_of_mem_replicate hs]
      decide
    have hvisible : r.isPatternSpace = false := by
      rw [← Bool.not_eq_true]
      exact fun h ↦ absurd (Rune.isBlank_of_isPatternSpace h) (by simp [hr])
    rw [List.find?_append, hspaces, Option.none_or, hcons, List.find?_cons_of_pos (by simp [hvisible])]
  · rw [hcons, he]
    rfl

/-- A written key is no list item, not even if it starts with a hyphen. -/
theorem trim_ne_of_isKey (rest : Text) :
    trim (List.replicate n (.char ' ') ++ (k ++ .char ':' :: after)) ≠
      .char '-' :: .char ' ' :: rest := by
  rw [trim_blank_append fun _ ↦ isBlank_of_mem_replicate, trim_append_cons (by decide)]
  intro h
  obtain ⟨r, k', rfl, hr⟩ := exists_visible_head hk.ne_nil hk.trim_eq
  have hstart : trimStart (r :: k') = r :: k' := List.dropWhile_cons_of_neg (by simp [hr])
  rw [hstart, List.cons_append] at h
  obtain ⟨rfl, htail⟩ := List.cons.inj h
  rcases k' with - | ⟨s, k'⟩
  · -- a hyphen alone: what comes next is the colon
    exact absurd (List.cons.inj htail).1 (by decide)
  · obtain ⟨rfl, -⟩ := List.cons.inj htail
    exact hk.not_listMarker ⟨k', rfl⟩

end Key

/-! ### Values -/

namespace IsValue

variable {v g w : Text} (hv : v.IsValue)
include hv

/-- A written value is seen after the colon. -/
theorem kindAfter_eq : kindAfter (g ++ v ++ w) = .keyValuePair := by
  obtain ⟨r, rest, rfl, hr⟩ := exists_visible_head hv.ne_nil hv.trim_eq
  refine kindAfter_eq_keyValuePair_iff.2 ⟨r, by simp, ?_⟩
  rw [← Bool.not_eq_true]
  exact fun h ↦ absurd (Rune.isBlank_of_isPatternSpace h) (by simp [hr])

theorem trim_listItem (hw : ∀ r ∈ w, r.isBlank = true) (n : ℕ) :
    trim (List.replicate n (.char ' ') ++ .char '-' :: .char ' ' :: (g ++ v ++ w)) =
      .char '-' :: .char ' ' :: (g ++ v) := by
  have hends : trim (.char '-' :: .char ' ' :: (g ++ v)) = .char '-' :: .char ' ' :: (g ++ v) := by
    refine trim_eq_self (fun r hr ↦ ?_) fun r hr ↦ ?_
    · rw [← Option.some.inj hr]
      decide
    · rw [List.getLast?_cons_cons, ← List.cons_append, List.getLast?_append_of_ne_nil _ hv.ne_nil] at hr
      exact not_isBlank_of_getLast?_trim (by rw [hv.trim_eq, hr])
  have hassoc : List.replicate n (Rune.char ' ') ++ .char '-' :: .char ' ' :: (g ++ v ++ w) =
      List.replicate n (.char ' ') ++ (.char '-' :: .char ' ' :: (g ++ v)) ++ w := by simp
  rw [hassoc, trim_blank_append_append (fun _ ↦ isBlank_of_mem_replicate) hw hends]

end IsValue

/-! ### Bytes -/

theorem ofBytes_replicate_space (n : ℕ) :
    ofBytes (List.replicate n 0x20) = List.replicate n (.char ' ') := by
  induction n with
  | zero => rfl
  | succ n ih =>
    rw [List.replicate_succ, List.replicate_succ, ← ih]
    exact ofBytes_append_cons (by decide) [] _

theorem ofBytes_spaces_append (n : ℕ) (bytes : List UInt8) :
    ofBytes (List.replicate n 0x20 ++ bytes) = List.replicate n (.char ' ') ++ ofBytes bytes := by
  rw [ofBytes_append_left, ofBytes_replicate_space]
  rw [ofBytes_replicate_space]
  exact stray_not_mem_of_blank fun _ ↦ isBlank_of_mem_replicate

/-- Blanks are well formed, so what stands between them is read on its own. -/
theorem ofBytes_append_append {g v w : List UInt8} (hg : ∀ r ∈ ofBytes g, r.isBlank = true)
    (hw : ∀ r ∈ ofBytes w, r.isBlank = true) :
    ofBytes (g ++ v ++ w) = ofBytes g ++ ofBytes v ++ ofBytes w := by
  rw [ofBytes_append_right (stray_not_mem_of_blank hw), ofBytes_append_left (stray_not_mem_of_blank hg)]

end Text

namespace Classifier

/-- The indent recorded for a line with `n` leading spaces. -/
def indentAfter (c : Classifier) (n : ℕ) : Int64 :=
  if n = 0 ∧ c.zeroIndentFallback then 1 else Int64.ofNat n

variable {c : Classifier} (hcomment : c.isComment = ({} : Classifier).isComment)
include hcomment

/-- **A line whose first visible rune starts no comment** is looked at for its node. -/
theorem classify_spaces_append {r : Rune} (hr : r.isBlank = false) (hhash : r ≠ .char '#') (i : Int64)
    (n : ℕ) (rest : Text) :
    c.classify ⟨i, List.replicate n (.char ' ') ++ r :: rest⟩ =
      .ok (c.node? ⟨i, List.replicate n (.char ' ') ++ r :: rest⟩) := by
  have hhead := Text.head?_trim_spaces_append hr n rest
  refine classify_eq_ok_node? (Text.hasLeadingTab_spaces_append hr n rest) (fun hnil ↦ ?_) ?_
  · rw [hnil] at hhead
    cases hhead
  · rw [hcomment]
    exact decide_eq_false fun he ↦ hhash (Option.some.inj (hhead.symm.trans he))

/-- **A written key is read back**, with whatever is written after the colon. -/
theorem classify_key {k : Text} (hk : k.IsKey) (i : Int64) (n : ℕ) (after : Text) :
    c.classify ⟨i, List.replicate n (.char ' ') ++ (k ++ .char ':' :: after)⟩ =
      .ok (some ⟨c.indentAfter n, Text.kindAfter after, k, after.trim, i + 1⟩) := by
  obtain ⟨r, rest, hcons, hr⟩ := Text.exists_visible_head hk.ne_nil hk.trim_eq
  have hhash : r ≠ .char '#' := fun he ↦ hk.head?_ne_hash (by rw [hcons, he]; rfl)
  have hkey : Text.trim (List.replicate n (.char ' ') ++ k) = k := by
    rw [Text.trim_blank_append fun _ ↦ Text.isBlank_of_mem_replicate, hk.trim_eq]
  have hindent : c.indent (List.replicate n (.char ' ') ++ (k ++ .char ':' :: after)) =
      c.indentAfter n := by
    rw [hcons, indent, List.cons_append, Text.leadingSpaces_spaces_append hr]
    rfl
  have hnode : c.node? ⟨i, List.replicate n (.char ' ') ++ (k ++ .char ':' :: after)⟩ =
      some ⟨c.indentAfter n, Text.kindAfter after, k, after.trim, i + 1⟩ := by
    refine node?_eq_some_iff.2 (.inr ⟨Text.trim_ne_of_isKey hk n after, _, after,
      .of_isKey hk n after, ?_⟩)
    rw [hkey, hindent]
    rfl
  rw [← hnode, hcons]
  exact classify_spaces_append hcomment hr hhash i n _

/-- **A written list item is read back.** -/
theorem classify_listItem {v g w : Text} (hv : v.IsValue) (hg : ∀ r ∈ g, r.isBlank = true)
    (hw : ∀ r ∈ w, r.isBlank = true) (i : Int64) (n : ℕ) :
    c.classify ⟨i, List.replicate n (.char ' ') ++ .char '-' :: .char ' ' :: (g ++ v ++ w)⟩ =
      .ok (some ⟨c.indentAfter n, .listItem, listMarker, v, i + 1⟩) := by
  have hindent : c.indent (List.replicate n (.char ' ') ++ .char '-' :: .char ' ' :: (g ++ v ++ w)) =
      c.indentAfter n := by
    rw [indent, Text.leadingSpaces_spaces_append (by decide)]
    rfl
  have hvalue : Text.trim (g ++ v) = v := by rw [Text.trim_blank_append hg, hv.trim_eq]
  rw [classify_spaces_append hcomment (by decide) (by decide)]
  refine congrArg _ (node?_eq_some_iff.2 (.inl ⟨g ++ v, hv.trim_listItem hw n, ?_⟩))
  rw [hvalue, hindent]
  rfl

/-- **Written lines are read back.** Under the default comment rule, `n` spaces (`20`) and then

* a key, a colon (`3A`), blanks, a value and blanks are a key with that value;
* a key, a colon and white space of the key grammar, such as spaces, are a bare key;
* a hyphen (`2D`), a space, blanks, a value and blanks are a list item with that value.

Keys, values and blanks are byte strings, and key and value come back as they were written. -/
theorem classify_written (i : Int64) (n : ℕ) :
    (∀ k g v w : List UInt8, (Text.ofBytes k).IsKey → (Text.ofBytes v).IsValue →
      (∀ r ∈ Text.ofBytes g, r.isBlank = true) → (∀ r ∈ Text.ofBytes w, r.isBlank = true) →
      c.classify ⟨i, Text.ofBytes (List.replicate n 0x20 ++ (k ++ 0x3A :: (g ++ v ++ w)))⟩ =
        .ok (some ⟨c.indentAfter n, .keyValuePair, Text.ofBytes k, Text.ofBytes v, i + 1⟩)) ∧
    (∀ k s : List UInt8, (Text.ofBytes k).IsKey → (∀ r ∈ Text.ofBytes s, r.isPatternSpace = true) →
      c.classify ⟨i, Text.ofBytes (List.replicate n 0x20 ++ (k ++ 0x3A :: s))⟩ =
        .ok (some ⟨c.indentAfter n, .bareKey, Text.ofBytes k, [], i + 1⟩)) ∧
    (∀ g v w : List UInt8, (Text.ofBytes v).IsValue →
      (∀ r ∈ Text.ofBytes g, r.isBlank = true) → (∀ r ∈ Text.ofBytes w, r.isBlank = true) →
      c.classify ⟨i, Text.ofBytes (List.replicate n 0x20 ++ 0x2D :: 0x20 :: (g ++ v ++ w))⟩ =
        .ok (some ⟨c.indentAfter n, .listItem, listMarker, Text.ofBytes v, i + 1⟩)) := by
  refine ⟨fun k g v w hk hv hg hw ↦ ?_, fun k s hk hs ↦ ?_, fun g v w hv hg hw ↦ ?_⟩
  · rw [Text.ofBytes_spaces_append, Text.ofBytes_append_cons (by decide),
      Text.ofBytes_append_append hg hw]
    refine (classify_key hcomment hk i n _).trans ?_
    rw [hv.kindAfter_eq, Text.trim_blank_append_append hg hw hv.trim_eq]
  · rw [Text.ofBytes_spaces_append, Text.ofBytes_append_cons (by decide)]
    refine (classify_key hcomment hk i n _).trans ?_
    have hkind := Text.kindAfter_eq_bareKey_iff.2 hs
    rw [hkind, Text.trim_eq_nil_of_kindAfter hkind]
  · have hmarker : Text.ofBytes (0x2D :: 0x20 :: (g ++ v ++ w)) =
        .char '-' :: .char ' ' :: (Text.ofBytes g ++ Text.ofBytes v ++ Text.ofBytes w) := by
      rw [← Text.ofBytes_append_append hg hw]
      exact Text.ofBytes_append_cons (d := 0x20) (by decide) [0x2D] _
    rw [Text.ofBytes_spaces_append, hmarker]
    exact classify_listItem hcomment hv hg hw i n

omit hcomment in
/-- A hyphen as a key; a stray byte, a colon and a `#` as a value; a no-break space before the value and an
ideographic one after it. -/
theorem classify_written_hyphen :
    ({} : Classifier).classify ⟨6, Text.ofBytes ([] ++ ([0x2D] ++ 0x3A ::
        ([0xC2, 0xA0] ++ [0xE3, 0x80, 0x3A, 0x23] ++ [0xE3, 0x80, 0x80])))⟩ =
      .ok (some ⟨1, .keyValuePair, Text.ofString "-",
        [.stray 0xE3, .stray 0x80, .char ':', .char '#'], 7⟩) ∧
    ({} : Classifier).classify ⟨6, Text.ofBytes ([] ++ ([0x2D] ++ 0x3A :: [0x20, 0x0D]))⟩ =
      .ok (some ⟨1, .bareKey, Text.ofString "-", [], 7⟩) ∧
    ({} : Classifier).classify ⟨6, Text.ofBytes ([] ++ 0x2D :: 0x20 ::
        ([0xC2, 0xA0] ++ [0xE3, 0x80, 0x3A, 0x23] ++ [0xE3, 0x80, 0x80]))⟩ =
      .ok (some ⟨1, .listItem, listMarker, [.stray 0xE3, .stray 0x80, .char ':', .char '#'], 7⟩) := by
  have hk : (Text.ofBytes [0x2D]).IsKey := ⟨by decide, by decide, by decide, by decide, by decide⟩
  have hv : (Text.ofBytes [0xE3, 0x80, 0x3A, 0x23]).IsValue := ⟨by decide, by decide⟩
  obtain ⟨hpair, hbare, hitem⟩ := classify_written (c := {}) rfl 6 0
  exact ⟨hpair _ _ _ _ hk hv (by decide) (by decide), hbare _ _ hk (by decide),
    hitem _ _ _ hv (by decide) (by decide)⟩

end Classifier

end StructuralLint
