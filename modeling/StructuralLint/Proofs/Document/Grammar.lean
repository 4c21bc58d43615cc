import Mathlib.Computability.Language
import StructuralLint.Proofs.Document.LeadingSpace

/-!
# The grammar of lines

What a line says, once it is known to have no leading tab and to be neither blank nor a comment, is a
matter of its first colon: `Text.Says` has a list item, a key with a value, a key without one, and nothing
else. `classify_grammar` says that classification decides this grammar on every text, stray bytes and
embedded line feeds included.

The grammar can also be given by three tests, of which the first that applies decides: the list marker at
the start of the trimmed text, and two patterns on the text as it stands. A pattern is the language of the
texts that it matches (`keyPattern`, `valuePattern`), built from classes of runes by the operations on
languages. A pattern does not speak of a *first* colon; that the two ways come to the same
(`Text.chosen_iff_exists`) rests on `mem_keyHead_iff`, since what stands before the colon of a match
can hold no other.
-/

open scoped Computability

namespace StructuralLint

/-! ### Patterns -/

/-- The texts of one rune of a class. -/
def runeOf (p : Rune → Bool) : Language Rune :=
  {t | ∃ r, p r = true ∧ t = [r]}

theorem mem_runeOf {p : Rune → Bool} {t : Text} : t ∈ runeOf p ↔ ∃ r, p r = true ∧ t = [r] := Iff.rfl

/-- The texts whose runes are all of a class. -/
theorem mem_kstar_runeOf {p : Rune → Bool} {t : Text} :
    t ∈ (runeOf p)∗ ↔ ∀ r ∈ t, p r = true := by
  rw [Language.mem_kstar]
  constructor
  · rintro ⟨pieces, rfl, hpieces⟩ r hr
    obtain ⟨piece, hpiece, hr⟩ := List.mem_flatten.1 hr
    obtain ⟨s, hs, rfl⟩ := hpieces piece hpiece
    exact List.mem_singleton.1 hr ▸ hs
  · intro h
    refine ⟨t.map fun r ↦ [r], (List.flatMap_singleton' t).symm, fun piece hpiece ↦ ?_⟩
    obtain ⟨r, hr, rfl⟩ := List.mem_map.1 hpiece
    exact ⟨r, h r hr, rfl⟩

/-- A rune that a key may start with. -/
def Rune.startsKey (r : Rune) : Bool :=
  !(r.isPatternSpace || r.isChar '#' || r.isChar ':')

/-- A key up to its colon, with white space before it: `\s*[^\s#:][^:]*:`. -/
def keyHead : Language Rune :=
  (runeOf Rune.isPatternSpace)∗ * runeOf Rune.startsKey * (runeOf fun r ↦ !r.isChar ':')∗ *
    runeOf (Rune.isChar ':')

/-- A key, its colon and white space to the end: `^\s*[^\s#:][^:]*:\s*$`. -/
def keyPattern : Language Rune :=
  keyHead * (runeOf Rune.isPatternSpace)∗

/-- A key, its colon and something visible, whatever follows: `^\s*[^\s#:][^:]*:\s*\S`. -/
def valuePattern : Language Rune :=
  keyHead * (runeOf Rune.isPatternSpace)∗ * runeOf (fun r ↦ !r.isPatternSpace) * ⊤

namespace Text

variable {t before after : Text}

/-- A key line may go on after its colon. -/
theorem KeySplit.append (h : t.KeySplit before []) (after : Text) :
    KeySplit (t ++ after) before after where
  eq_append := by rw [h.eq_append, List.append_assoc, List.singleton_append]
  not_mem := h.not_mem
  exists_start := h.exists_start

/-- **A key up to its colon** is a text that is split at its last rune. -/
theorem mem_keyHead_iff : t ∈ keyHead ↔ ∃ before, t.KeySplit before [] := by
  simp only [keyHead, Language.mem_mul, mem_runeOf, mem_kstar_runeOf]
  constructor
  · rintro ⟨_, ⟨_, ⟨w, hw, _, ⟨r, hr, rfl⟩, rfl⟩, b, hb, rfl⟩, _, ⟨colon, hcolon, rfl⟩, rfl⟩
    obtain rfl := Rune.isChar_iff.1 hcolon
    rw [Rune.startsKey, Bool.not_eq_true', Bool.or_eq_false_iff, Bool.or_eq_false_iff,
      Rune.isChar_eq_false_iff, Rune.isChar_eq_false_iff] at hr
    obtain ⟨⟨hvisible, hhash⟩, hcolon⟩ := hr
    refine ⟨w ++ r :: b, by simp, ?_, r, ?_, hhash⟩
    · rw [List.mem_append, List.mem_cons, not_or, not_or]
      exact ⟨fun hmem ↦ absurd (hw _ hmem) (by decide), Ne.symm hcolon,
        fun hmem ↦ absurd (hb _ hmem) (by decide)⟩
    · rw [List.find?_eq_some_iff_append]
      exact ⟨by simp [hvisible], w, b, rfl, fun s hs ↦ by simp [hw s hs]⟩
  · rintro ⟨before, rfl, hmem, r, hr, hhash⟩
    obtain ⟨hvisible, w, b, rfl, hw⟩ := List.find?_eq_some_iff_append.1 hr
    rw [List.mem_append, List.mem_cons, not_or, not_or] at hmem
    obtain ⟨-, hcolon, hb⟩ := hmem
    refine ⟨w ++ [r] ++ b, ⟨w ++ [r], ⟨w, fun s hs ↦ ?_, [r], ⟨r, ?_, rfl⟩, rfl⟩, b, fun s hs ↦ ?_, rfl⟩,
      [.char ':'], ⟨_, rfl, rfl⟩, by simp⟩
    · simpa using hw s hs
    · simpa [Rune.startsKey, hhash, Ne.symm hcolon] using hvisible
    · rw [Bool.not_eq_true', Rune.isChar_eq_false_iff]
      exact fun he ↦ hb (he ▸ hs)

/-- What stands before the colon of a key line is the same if nothing follows it. -/
theorem KeySplit.mem_keyHead (h : t.KeySplit before after) : before ++ [.char ':'] ∈ keyHead :=
  mem_keyHead_iff.2 ⟨before, rfl, h.not_mem, h.exists_start⟩

theorem mem_keyPattern_iff : t ∈ keyPattern ↔
    ∃ before after, t.KeySplit before after ∧ ∀ r ∈ after, r.isPatternSpace = true := by
  simp only [keyPattern, Language.mem_mul, mem_kstar_runeOf]
  constructor
  · rintro ⟨head, hhead, after, hafter, rfl⟩
    obtain ⟨before, hsplit⟩ := mem_keyHead_iff.1 hhead
    exact ⟨before, after, hsplit.append after, hafter⟩
  · rintro ⟨before, after, hsplit, hafter⟩
    exact ⟨_, hsplit.mem_keyHead, after, hafter, by rw [hsplit.eq_append]; simp⟩

theorem mem_valuePattern_iff : t ∈ valuePattern ↔
    ∃ before after, t.KeySplit before after ∧ ∃ r ∈ after, r.isPatternSpace = false := by
  simp only [valuePattern, Language.mem_mul, mem_runeOf, mem_kstar_runeOf]
  constructor
  · rintro ⟨_, ⟨_, ⟨head, hhead, w, -, rfl⟩, _, ⟨r, hr, rfl⟩, rfl⟩, rest, -, rfl⟩
    obtain ⟨before, hsplit⟩ := mem_keyHead_iff.1 hhead
    refine ⟨before, w ++ [r] ++ rest, ?_, r, by simp, by simpa using hr⟩
    have h := hsplit.append (w ++ [r] ++ rest)
    rwa [← List.append_assoc, ← List.append_assoc] at h
  · rintro ⟨before, after, hsplit, r, hr, hvisible⟩
    -- the first visible rune after the colon is the one that the pattern asks for
    have hsome : (after.find? fun s ↦ !s.isPatternSpace).isSome = true :=
      List.find?_isSome.2 ⟨r, hr, by simpa using hvisible⟩
    obtain ⟨s, hfind⟩ := Option.isSome_iff_exists.1 hsome
    obtain ⟨hs, w, rest, rfl, hw⟩ := List.find?_eq_some_iff_append.1 hfind
    refine ⟨_, ⟨_, ⟨_, hsplit.mem_keyHead, w, fun q hq ↦ ?_, rfl⟩, [s], ⟨s, hs, rfl⟩, rfl⟩, rest,
      trivial, ?_⟩
    · simpa using hw q hq
    · rw [hsplit.eq_append]
      simp

/-! ### The grammar -/

/-- **What a line says**: its kind, its key and its value. Nothing else is said by a line. -/
inductive Says (t : Text) : Kind → Text → Text → Prop
  /-- The trimmed text starts with the list marker and a space. -/
  | listItem {rest : Text} (h : t.trim = listMarker ++ .char ' ' :: rest) :
      Says t .listItem listMarker rest.trim
  /-- There is a key before the first colon, and something visible after it. -/
  | keyValuePair {before after : Text} (hitem : ∀ rest, t.trim ≠ listMarker ++ .char ' ' :: rest)
      (hsplit : t.KeySplit before after) (hvalue : ∃ r ∈ after, r.isPatternSpace = false) :
      Says t .keyValuePair before.trim after.trim
  /-- There is a key before the first colon, and nothing visible after it. -/
  | bareKey {before after : Text} (hitem : ∀ rest, t.trim ≠ listMarker ++ .char ' ' :: rest)
      (hsplit : t.KeySplit before after) (hvalue : ∀ r ∈ after, r.isPatternSpace = true) :
      Says t .bareKey before.trim []

/-- **The kind of the first test that applies**: the list marker, the pattern of a key with a value, the
pattern of a key without one. -/
inductive Chosen (t : Text) : Kind → Prop
  /-- The list marker comes first. -/
  | listItem (h : listMarker ++ [.char ' '] <+: t.trim) : Chosen t .listItem
  /-- The pattern with a value comes second. -/
  | keyValuePair (hitem : ¬ listMarker ++ [.char ' '] <+: t.trim) (h : t ∈ valuePattern) :
      Chosen t .keyValuePair
  /-- The pattern without a value comes last. -/
  | bareKey (hitem : ¬ listMarker ++ [.char ' '] <+: t.trim) (hvalue : t ∉ valuePattern)
      (h : t ∈ keyPattern) : Chosen t .bareKey

theorem listMarker_prefix_iff :
    listMarker ++ [.char ' '] <+: t ↔ ∃ rest, t = listMarker ++ .char ' ' :: rest := by
  constructor
  · rintro ⟨rest, rfl⟩
    exact ⟨rest, by simp⟩
  · rintro ⟨rest, rfl⟩
    exact ⟨rest, by simp⟩

/-- **The tests decide the grammar.** -/
theorem chosen_iff_exists {kind : Kind} :
    t.Chosen kind ↔ ∃ key value, t.Says kind key value := by
  have hitem : (¬ listMarker ++ [.char ' '] <+: t.trim) ↔
      ∀ rest, t.trim ≠ listMarker ++ .char ' ' :: rest := by
    rw [listMarker_prefix_iff, not_exists]
  constructor
  · rintro (h | ⟨hno, h⟩ | ⟨hno, hvalue, h⟩)
    · obtain ⟨rest, h⟩ := listMarker_prefix_iff.1 h
      exact ⟨_, _, .listItem h⟩
    · obtain ⟨before, after, hsplit, hvisible⟩ := mem_valuePattern_iff.1 h
      exact ⟨_, _, .keyValuePair (hitem.1 hno) hsplit hvisible⟩
    · obtain ⟨before, after, hsplit, hblank⟩ := mem_keyPattern_iff.1 h
      exact ⟨_, _, .bareKey (hitem.1 hno) hsplit hblank⟩
  · rintro ⟨key, value, h | ⟨hno, hsplit, hvisible⟩ | ⟨hno, hsplit, hblank⟩⟩
    · exact .listItem (listMarker_prefix_iff.2 ⟨_, h⟩)
    · exact .keyValuePair (hitem.2 hno) (mem_valuePattern_iff.2 ⟨_, _, hsplit, hvisible⟩)
    · refine .bareKey (hitem.2 hno) (fun hvalue ↦ ?_) (mem_keyPattern_iff.2 ⟨_, _, hsplit, hblank⟩)
      -- a text has one first colon, so that the same rune would be visible and not
      obtain ⟨before', after', hsplit', r, hr, hvisible⟩ := mem_valuePattern_iff.1 hvalue
      have hcut := hsplit.cut_eq.symm.trans hsplit'.cut_eq
      rw [Prod.mk.injEq, Option.some.injEq] at hcut
      rw [← hcut.2] at hr
      exact absurd (hblank r hr) (by simp [hvisible])

theorem KeySplit.colon_mem_trim (h : t.KeySplit before after) : .char ':' ∈ t.trim := by
  obtain ⟨a, -, heq⟩ := cut_snd_eq_some_iff.1 (congrArg Prod.snd h.cut_trim)
  rw [heq]
  exact List.mem_append_right _ List.mem_cons_self

/-- A document marker says nothing. -/
theorem not_says_of_marker {t : Text} (h : t.trim = Text.ofString "---" ∨ t.trim = Text.ofString "...")
    (kind : Kind) (key value : Text) : ¬ t.Says kind key value := by
  obtain ⟨hitem, hcolon⟩ : ¬ listMarker ++ [.char ' '] <+: t.trim ∧ .char ':' ∉ t.trim := by
    rcases h with h | h
    · rw [h]
      decide
    · rw [h]
      decide
  rintro (⟨h⟩ | ⟨-, hsplit, -⟩ | ⟨-, hsplit, -⟩)
  · exact hitem (listMarker_prefix_iff.2 ⟨_, h⟩)
  · exact hcolon hsplit.colon_mem_trim
  · exact hcolon hsplit.colon_mem_trim

end Text

namespace Classifier

variable {c : Classifier} {line : Line} {node : Node}

/-- **The node of a line** has what the line says, its number and its indent. -/
theorem node?_eq_some_says_iff : c.node? line = some node ↔
    line.text.Says node.kind node.key node.value ∧ node.line = line.number ∧
      node.indent = c.indent line.text := by
  rw [node?_eq_some_iff]
  constructor
  · rintro (⟨rest, htrim, rfl⟩ | ⟨hitem, before, after, hsplit, rfl⟩)
    · exact ⟨.listItem htrim, rfl, rfl⟩
    · refine ⟨?_, rfl, rfl⟩
      by_cases hblank : ∀ r ∈ after, r.isPatternSpace = true
      · have hkind := Text.kindAfter_eq_bareKey_iff.2 hblank
        rw [hkind, Text.trim_eq_nil_of_kindAfter hkind]
        exact .bareKey hitem hsplit hblank
      · have hvisible : ∃ r ∈ after, r.isPatternSpace = false := by simpa using hblank
        rw [Text.kindAfter_eq_keyValuePair_iff.2 hvisible]
        exact .keyValuePair hitem hsplit hvisible
  · obtain ⟨indent, kind, key, value, number⟩ := node
    rintro ⟨hsaid, rfl, rfl⟩
    cases hsaid with
    | listItem htrim => exact .inl ⟨_, htrim, rfl⟩
    | keyValuePair hitem hsplit hvisible =>
      refine .inr ⟨hitem, _, _, hsplit, ?_⟩
      rw [Text.kindAfter_eq_keyValuePair_iff.2 hvisible]
      rfl
    | bareKey hitem hsplit hblank =>
      have hkind := Text.kindAfter_eq_bareKey_iff.2 hblank
      refine .inr ⟨hitem, _, _, hsplit, ?_⟩
      rw [hkind, Text.trim_eq_nil_of_kindAfter hkind]
      rfl

theorem node?_eq_none_says_iff :
    c.node? line = none ↔ ∀ kind key value, ¬ line.text.Says kind key value := by
  rw [Option.eq_none_iff_forall_ne_some]
  constructor
  · intro h kind key value hsaid
    exact h ⟨c.indent line.text, kind, key, value, line.number⟩
      (node?_eq_some_says_iff.2 ⟨hsaid, rfl, rfl⟩)
  · intro h node hnode
    exact h _ _ _ (node?_eq_some_says_iff.1 hnode).1

/-- The indent is the number of leading spaces, or one instead of none. -/
theorem eq_indent_iff {indent : Int64} {t : Text} : indent = c.indent t ↔
    ∃ (n : ℕ) (rest : Text), t = List.replicate n (.char ' ') ++ rest ∧
      rest.head? ≠ some (.char ' ') ∧
      indent = if n = 0 ∧ c.zeroIndentFallback then 1 else Int64.ofNat n := by
  rw [Classifier.indent]
  constructor
  · rintro rfl
    obtain ⟨rest, ht, hrest⟩ := t.exists_eq_replicate_append
    exact ⟨_, rest, ht, hrest, rfl⟩
  · rintro ⟨n, rest, rfl, hrest, rfl⟩
    rw [Text.leadingSpaces_replicate_append hrest]

/-- **Classification decides the grammar**, on every text that does not start with spaces and a tab, is not
blank and is no comment. The line yields a node exactly if it says something, and then the node has what it
says, the number of the line, and the number of its leading spaces as its indent. Of what kind it is can be
told by the three tests in turn, and a document marker yields nothing. -/
theorem classify_grammar (c : Classifier) (line : Line)
    (htab : ∀ (n : ℕ) (rest : Text), line.text ≠ List.replicate n (.char ' ') ++ .char '\t' :: rest)
    (hblank : line.text.trim ≠ []) (hcomment : c.isComment line.text = false) :
    (∀ node, c.classify line = .ok (some node) ↔
      line.text.Says node.kind node.key node.value ∧ node.line = line.index + 1 ∧
        ∃ (n : ℕ) (rest : Text), line.text = List.replicate n (.char ' ') ++ rest ∧
          rest.head? ≠ some (.char ' ') ∧
          node.indent = if n = 0 ∧ c.zeroIndentFallback then 1 else Int64.ofNat n) ∧
    (c.classify line = .ok none ↔ ∀ kind key value, ¬ line.text.Says kind key value) ∧
    (∀ kind, (∃ node, c.classify line = .ok (some node) ∧ node.kind = kind) ↔ line.text.Chosen kind) ∧
    (line.text.trim = Text.ofString "---" ∨ line.text.trim = Text.ofString "..." →
      c.classify line = .ok none) := by
  have hleading : line.text.hasLeadingTab = false := by
    rw [← Bool.not_eq_true, Text.hasLeadingTab_iff]
    exact fun ⟨n, rest, h⟩ ↦ htab n rest h
  simp only [classify_eq_ok_node? hleading hblank hcomment, Except.ok.injEq, node?_eq_none_says_iff,
    node?_eq_some_says_iff, Text.chosen_iff_exists]
  refine ⟨fun node ↦ ?_, trivial, fun kind ↦ ⟨?_, ?_⟩, Text.not_says_of_marker⟩
  · rw [eq_indent_iff]
    rfl
  · rintro ⟨node, ⟨hsaid, -⟩, rfl⟩
    exact ⟨_, _, hsaid⟩
  · rintro ⟨key, value, hsaid⟩
    exact ⟨⟨c.indent line.text, kind, key, value, line.number⟩, ⟨hsaid, rfl, rfl⟩, rfl⟩

/-- A line feed, a stray byte and a `#` before the colon, and a vertical tab after it: the byte starts the
key, and the vertical tab is a value until it is trimmed away. -/
theorem classify_grammar_stray_byte :
    Text.trim [.char ' ', .char '\n', .stray 0xFF, .char '#', .char ':', .char '\x0b'] ≠ [] ∧
      ({} : Classifier).classify
          ⟨8, [.char ' ', .char '\n', .stray 0xFF, .char '#', .char ':', .char '\x0b']⟩ =
        .ok (some ⟨1, .keyValuePair, [.stray 0xFF, .char '#'], [], 9⟩) ∧
      Text.Says [.char ' ', .char '\n', .stray 0xFF, .char '#', .char ':', .char '\x0b'] .keyValuePair
        [.stray 0xFF, .char '#'] [] ∧
      Text.Chosen [.char ' ', .char '\n', .stray 0xFF, .char '#', .char ':', .char '\x0b']
        .keyValuePair := by
  have hnode : ({} : Classifier).classify
      ⟨8, [.char ' ', .char '\n', .stray 0xFF, .char '#', .char ':', .char '\x0b']⟩ =
        .ok (some ⟨1, .keyValuePair, [.stray 0xFF, .char '#'], [], 9⟩) := by decide
  have hgrammar := classify_grammar {}
    ⟨8, [.char ' ', .char '\n', .stray 0xFF, .char '#', .char ':', .char '\x0b']⟩
    (fun n rest h ↦ absurd (Text.hasLeadingTab_iff.2 ⟨n, rest, h⟩) (by decide)) (by decide) (by decide)
  exact ⟨by decide, hnode, ((hgrammar.1 _).1 hnode).1, (hgrammar.2.2.1 _).1 ⟨_, hnode, rfl⟩⟩

end Classifier

end StructuralLint
