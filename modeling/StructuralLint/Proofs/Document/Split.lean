import Mathlib.Data.List.DropRight
import StructuralLint.Document.Source
import StructuralLint.Proofs.Text.Trim
import StructuralLint.Proofs.Text.Utf8

/-!
# Two ways to cut a document into lines

An in-memory document loses its final line feed and is then cut at the others. A source is cut at
every line feed, and an empty rest after the last one is no line. `pieces_eq` says that this is the
same cut: the two differ only in what becomes of a piece afterwards, a carriage return at its end
and its size.

The cut is made on text and may as well be made on bytes, since a line feed is an ASCII byte
(`splitOn_ofBytes`); so the size of a piece is a number of bytes of the document.
-/

namespace StructuralLint

namespace Text

/-! ### Cutting at every separator -/

theorem splitOn_eq (sep : Char) (t : Text) : splitOn sep t = List.splitOn (.char sep) t := by
  induction t with
  | nil => rfl
  | cons r t ih =>
    obtain ⟨p, ps, hp⟩ : ∃ p ps, List.splitOn (.char sep) t = p :: ps :=
      List.exists_cons_of_ne_nil (List.splitOn_ne_nil _ _)
    rw [hp, splitOn] at ih
    rw [List.splitOn_cons_eq_if_modifyHead, hp, splitOn, List.foldr_cons, ih]
    by_cases hr : r = .char sep <;> simp [hr]

/-- The last piece is what follows the last separator. -/
theorem getLast?_splitOn (sep : Char) (t : Text) :
    (splitOn sep t).getLast? = some (t.rtakeWhile (· != .char sep)) := by
  have hrest : .char sep ∉ t.rtakeWhile (· != .char sep) := by
    intro hmem
    simpa using List.mem_rtakeWhile_imp hmem
  have ht := List.rdropWhile_append_rtakeWhile (p := (· != Rune.char sep)) (l := t)
  rcases List.eq_nil_or_concat' (t.rdropWhile (· != .char sep)) with hnil | ⟨u, r, hu⟩
  · rw [hnil, List.nil_append] at ht
    rw [splitOn_eq, List.splitOn_eq_singleton (ht ▸ hrest), ht]
    rfl
  · have hr : r = .char sep := by
      have hlast := List.rdropWhile_last_not (· != Rune.char sep) t (by simp [hu])
      simpa [hu] using hlast
    rw [hu, hr, List.append_assoc, List.singleton_append] at ht
    conv_lhs => rw [← ht]
    rw [splitOn_eq, List.splitOn_append_cons_self, List.splitOn_eq_singleton hrest,
      List.getLast?_concat]

/-- **Bytes are cut where the text is.** -/
theorem splitOn_ofBytes {d : UInt8} (hd : d < 0x80) (bytes : List UInt8) :
    splitOn (Char.ofNat d.toNat) (ofBytes bytes) = (bytes.splitOn d).map ofBytes := by
  induction hn : bytes.length using Nat.strongRecOn generalizing bytes with
  | ind n ih =>
    by_cases hmem : d ∈ bytes
    · obtain ⟨a, b, rfl, ha⟩ := List.eq_append_cons_of_mem hmem
      have hlt : b.length < n := by
        rw [← hn, List.length_append, List.length_cons]
        omega
      rw [List.splitOn_append_cons_self_of_not_mem ha, List.map_cons, ← ih b.length hlt b rfl,
        splitOn_eq, splitOn_eq, ofBytes_append_cons hd,
        List.splitOn_append_cons_self_of_not_mem fun h ↦ ha (mem_of_mem_ofBytes hd h)]
    · rw [List.splitOn_eq_singleton hmem, splitOn_eq,
        List.splitOn_eq_singleton fun h ↦ hmem (mem_of_mem_ofBytes hd h)]
      rfl

theorem splitOn_lineFeed_ofBytes (bytes : List UInt8) :
    splitOn '\n' (ofBytes bytes) = (bytes.splitOn 0x0A).map ofBytes :=
  splitOn_ofBytes (d := 0x0A) (by decide) bytes

end Text

namespace Line

/-! ### Numbered texts -/

theorem map_text_ofTextsFrom (n : ℕ) (texts : List Text) :
    (ofTextsFrom n texts).map text = texts := by
  induction texts generalizing n with
  | nil => rfl
  | cons t texts ih => rw [ofTextsFrom, List.map_cons, ih]

theorem length_ofTextsFrom (n : ℕ) (texts : List Text) :
    (ofTextsFrom n texts).length = texts.length := by
  rw [← List.length_map (f := text), map_text_ofTextsFrom]

theorem ofTextsFrom_append (n : ℕ) (A B : List Text) :
    ofTextsFrom n (A ++ B) = ofTextsFrom n A ++ ofTextsFrom (n + A.length) B := by
  induction A generalizing n with
  | nil => rfl
  | cons t A ih =>
    rw [List.cons_append, ofTextsFrom, ofTextsFrom, ih, List.cons_append, List.length_cons,
      Nat.add_right_comm, Nat.add_assoc]

theorem getElem?_ofTextsFrom (n : ℕ) (texts : List Text) (i : ℕ) :
    (ofTextsFrom n texts)[i]? = texts[i]?.map (⟨Int64.ofNat (n + i), ·⟩) := by
  induction texts generalizing n i with
  | nil => rfl
  | cons t texts ih =>
    cases i with
    | zero => rfl
    | succ i =>
      rw [ofTextsFrom, List.getElem?_cons_succ, List.getElem?_cons_succ, ih, Nat.add_assoc,
        Nat.add_comm 1 i]

/-- The lines of a document are numbered by position. -/
theorem index_of_getElem?_split {document : Text} {i : ℕ} {line : Line}
    (h : (split document)[i]? = some line) : line.index = Int64.ofNat i := by
  rw [split] at h
  split at h
  · simp at h
  · rw [ofTexts, getElem?_ofTextsFrom, Option.map_eq_some_iff] at h
    obtain ⟨t, -, rfl⟩ := h
    rw [Nat.zero_add]

theorem map_text_split (document : Text) (h : document ≠ []) :
    (split document).map text = Text.splitOn '\n' (dropFinal '\n' document) := by
  rw [split, if_neg (by simpa using h), ofTexts, map_text_ofTextsFrom]

variable {c : Char}

@[simp] theorem dropFinal_concat_self (c : Char) (t : Text) :
    dropFinal c (t ++ [.char c]) = t := by
  simp [dropFinal]

theorem dropFinal_concat_of_ne {r : Rune} (hr : r ≠ .char c) (t : Text) :
    dropFinal c (t ++ [r]) = t ++ [r] := by
  simp [dropFinal, hr]

/-- Either the character was there, or nothing is dropped. -/
theorem dropFinal_cases (c : Char) (t : Text) :
    t = dropFinal c t ++ [.char c] ∨ dropFinal c t = t := by
  rcases List.eq_nil_or_concat' t with rfl | ⟨u, r, rfl⟩
  · exact Or.inr rfl
  · by_cases hr : r = .char c
    · subst hr
      exact Or.inl (by rw [dropFinal_concat_self])
    · exact Or.inr (dropFinal_concat_of_ne hr u)

end Line

namespace Source

/-! ### Pieces -/

/-- The limit is a number of bytes. -/
theorem isTooLong_ofBytes_eq_false_iff {bytes : List UInt8} :
    isTooLong (Text.ofBytes bytes) = false ↔ bytes.length ≤ 1048575 := by
  simp [isTooLong, lineLimit, Nat.lt_succ_iff]

/-- **Both ways cut the same pieces.** -/
theorem pieces_eq (source : Source) :
    source.pieces =
      if source.text.isEmpty then []
      else Text.splitOn '\n' (Line.dropFinal '\n' source.text) := by
  rw [pieces]
  rcases List.eq_nil_or_concat' source.text with h | ⟨t, r, h⟩
  · rw [h]
    rfl
  · rw [h, if_neg (by simp : ¬ (t ++ [r]).isEmpty = true)]
    by_cases hr : r = .char '\n'
    · subst hr
      have hsplit : Text.splitOn '\n' (t ++ [.char '\n']) = Text.splitOn '\n' t ++ [[]] := by
        rw [Text.splitOn_eq, Text.splitOn_eq, List.splitOn_append_cons_self, List.splitOn_nil]
      rw [hsplit, List.getLast?_concat, if_pos rfl, List.dropLast_concat,
        Line.dropFinal_concat_self]
    · have hlast : (Text.splitOn '\n' (t ++ [r])).getLast? ≠ some [] := by
        rw [Text.getLast?_splitOn, List.rtakeWhile_concat_pos _ _ _ (by simpa using hr)]
        simp
      rw [if_neg hlast, Line.dropFinal_concat_of_ne hr]

/-- The piece that is no line is empty. -/
theorem mem_pieces_iff {source : Source} {p : Text} (hp : p ≠ []) :
    p ∈ source.pieces ↔ p ∈ Text.splitOn '\n' source.text := by
  rw [pieces]
  split
  · next h =>
    obtain ⟨ps, hps⟩ := List.getLast?_eq_some_iff.1 h
    simp [hps, hp]
  · rfl

/-- Every piece is spelled by the bytes of a line. -/
theorem exists_line_of_mem_pieces {bytes : List UInt8} {failure : Option Text} {p : Text}
    (h : p ∈ pieces ⟨Text.ofBytes bytes, failure⟩) :
    ∃ line ∈ bytes.splitOn 0x0A, Text.ofBytes line = p := by
  have hmem : p ∈ Text.splitOn '\n' (Text.ofBytes bytes) := by
    rw [pieces] at h
    split at h
    · exact List.dropLast_subset _ h
    · exact h
  rw [Text.splitOn_lineFeed_ofBytes] at hmem
  exact List.mem_map.1 hmem

theorem split_eq_ofTexts_pieces (source : Source) :
    Line.split source.text = Line.ofTexts source.pieces := by
  rw [Line.split, pieces_eq]
  split <;> rfl

end Source

end StructuralLint
