import Mathlib.Data.List.DropRight
import StructuralLint.Text.Space

/-!
# Trimming and cutting

What trimming leaves and what it removes. A text is some blanks, its trimmed form and more blanks
(`exists_eq_append_trim`), and blanks at either end never show in the trimmed form
(`trim_blank_append`, `trim_append_blank`). These three are what later proofs use; the definition of
`trim` through reversal is not opened again.

**Two notions of white space.** The white space of the key grammar is part of Unicode's
(`isBlank_of_isPatternSpace`) and not the other way round: a vertical tab or a no-break space is
trimmed and yet counts as a visible rune of a key. Everything that is odd about classification comes
from this one-way inclusion.

Cutting is described by the first separator: a text has at most one decomposition
`a ++ sep :: b` without `sep` in `a`, and `cut` finds it (`cut_append_cons`, `cut_snd_eq_some_iff`).
-/

namespace StructuralLint

namespace Rune

@[simp] theorem isChar_iff {c : Char} {r : Rune} : r.isChar c = true ↔ r = .char c := by
  cases r <;> simp [isChar]

@[simp] theorem isChar_eq_false_iff {c : Char} {r : Rune} : r.isChar c = false ↔ r ≠ .char c := by
  rw [← Bool.not_eq_true, isChar_iff]

/-- The white space of the key grammar is white space. -/
theorem isBlank_of_isPatternSpace {r : Rune} (h : r.isPatternSpace = true) : r.isBlank = true := by
  cases r with
  | stray b => exact absurd h (by simp [isPatternSpace, holds])
  | char c =>
    simp only [isPatternSpace, holds, isPatternSpaceChar, Bool.or_eq_true, beq_iff_eq] at h
    rcases h with (((rfl | rfl) | rfl) | rfl) | rfl <;> rfl

end Rune

namespace Text

/-! ### What trimming removes -/

/-- A stray byte is no blank. -/
theorem stray_not_mem_of_blank {t : Text} (h : ∀ r ∈ t, r.isBlank = true) (b : UInt8) :
    .stray b ∉ t :=
  fun hmem ↦ absurd (h _ hmem) (by simp [Rune.isBlank, Rune.holds])

theorem trimEnd_eq_rdropWhile (t : Text) : t.trimEnd = t.rdropWhile Rune.isBlank := rfl

/-- **Nothing but blanks is lost.** -/
theorem exists_eq_append_trim (t : Text) :
    ∃ w v : Text, t = w ++ (t.trim ++ v) ∧ (∀ r ∈ w, r.isBlank = true) ∧
      ∀ r ∈ v, r.isBlank = true := by
  refine ⟨t.takeWhile Rune.isBlank, t.trimStart.rtakeWhile Rune.isBlank, ?_, ?_, ?_⟩
  · rw [trim, trimEnd_eq_rdropWhile, List.rdropWhile_append_rtakeWhile, trimStart,
      List.takeWhile_append_dropWhile]
  · intro r hr
    exact List.mem_takeWhile_imp hr
  · intro r hr
    exact List.mem_rtakeWhile_imp hr

theorem exists_eq_append_trimStart (t : Text) :
    ∃ w : Text, t = w ++ t.trimStart ∧ ∀ r ∈ w, r.isBlank = true :=
  ⟨t.takeWhile Rune.isBlank, (List.takeWhile_append_dropWhile ..).symm,
    fun _ ↦ List.mem_takeWhile_imp⟩

theorem exists_eq_trimEnd_append (t : Text) :
    ∃ v : Text, t = t.trimEnd ++ v ∧ ∀ r ∈ v, r.isBlank = true :=
  ⟨t.rtakeWhile Rune.isBlank, (List.rdropWhile_append_rtakeWhile ..).symm,
    fun _ ↦ List.mem_rtakeWhile_imp⟩

theorem trim_blank_append {w : Text} (h : ∀ r ∈ w, r.isBlank = true) (t : Text) :
    trim (w ++ t) = t.trim := by
  rw [trim, trimStart, List.dropWhile_append_of_pos h]
  rfl

theorem trimEnd_append_blank {v : Text} (h : ∀ r ∈ v, r.isBlank = true) (t : Text) :
    trimEnd (t ++ v) = t.trimEnd := by
  rw [trimEnd, List.reverse_append, List.dropWhile_append_of_pos (by simpa using h)]
  rfl

theorem trim_eq_nil_iff {t : Text} : t.trim = [] ↔ ∀ r ∈ t, r.isBlank = true := by
  rw [trim, trimEnd_eq_rdropWhile, List.rdropWhile_eq_nil_iff]
  constructor
  · intro h r hr
    rw [← List.takeWhile_append_dropWhile (p := Rune.isBlank) (l := t)] at hr
    rcases List.mem_append.1 hr with hr | hr
    · exact List.mem_takeWhile_imp hr
    · exact h r hr
  · intro h r hr
    exact h r ((List.dropWhile_suffix _).subset hr)

theorem trim_append_blank {v : Text} (h : ∀ r ∈ v, r.isBlank = true) (t : Text) :
    trim (t ++ v) = t.trim := by
  by_cases ht : ∀ r ∈ t, r.isBlank = true
  · have hall : ∀ r ∈ t ++ v, r.isBlank = true := by
      intro r hr
      exact (List.mem_append.1 hr).elim (ht r) (h r)
    rw [trim_eq_nil_iff.2 hall, trim_eq_nil_iff.2 ht]
  · have hne : t.dropWhile Rune.isBlank ≠ [] := by
      rwa [Ne, List.dropWhile_eq_nil_iff]
    rw [trim, trimStart, List.dropWhile_append, if_neg (by simpa using hne),
      trimEnd_append_blank h]
    rfl

/-! ### What trimming leaves -/

/-- **The trimmed form starts at the first visible rune.** -/
theorem head?_trim (t : Text) : t.trim.head? = t.find? fun r ↦ !r.isBlank := by
  rw [List.find?_not_eq_head?_dropWhile, trim, trimEnd_eq_rdropWhile]
  rcases hd : t.trimStart with - | ⟨r, rest⟩
  · rw [← trimStart, hd]
    rfl
  · have hr : r.isBlank = false := by
      have h := List.head?_dropWhile_not Rune.isBlank t
      rw [← trimStart, hd] at h
      exact h
    rw [← trimStart, hd]
    -- what is left at the start is a nonempty initial piece, so it has the same head
    obtain ⟨u, hu⟩ := List.rdropWhile_prefix Rune.isBlank (r :: rest)
    rcases hm : (r :: rest).rdropWhile Rune.isBlank with - | ⟨m, ms⟩
    · exact absurd (List.rdropWhile_eq_nil_iff.1 hm r (by simp)) (by simp [hr])
    · rw [hm, List.cons_append, List.cons.injEq] at hu
      rw [List.head?_cons, List.head?_cons, hu.1]

theorem not_isBlank_of_head?_trim {t : Text} {r : Rune} (h : t.trim.head? = some r) :
    r.isBlank = false := by
  rw [head?_trim] at h
  simpa using List.find?_some h

theorem not_isBlank_of_getLast?_trimEnd {t : Text} {r : Rune} (h : t.trimEnd.getLast? = some r) :
    r.isBlank = false := by
  have hne : t.trimEnd ≠ [] := by
    intro hnil
    simp [hnil] at h
  rw [List.getLast?_eq_some_getLast hne, Option.some.injEq] at h
  rw [← h, ← Bool.not_eq_true]
  exact List.rdropWhile_last_not Rune.isBlank t hne

theorem not_isBlank_of_getLast?_trim {t : Text} {r : Rune} (h : t.trim.getLast? = some r) :
    r.isBlank = false :=
  not_isBlank_of_getLast?_trimEnd (t := t.trimStart) h

/-- **A text that ends in no blank** is trimmed at its start only. -/
theorem exists_eq_append_trim_of_getLast? {t : Text}
    (h : ∀ r, t.getLast? = some r → r.isBlank = false) :
    ∃ w : Text, t = w ++ t.trim ∧ ∀ r ∈ w, r.isBlank = true := by
  obtain ⟨w, v, heq, hw, hv⟩ := t.exists_eq_append_trim
  rcases List.eq_nil_or_concat v with rfl | ⟨u, r, rfl⟩
  · exact ⟨w, by rwa [List.append_nil] at heq, hw⟩
  · have hlast : t.getLast? = some r := by
      rw [heq]
      simp
    exact absurd (hv r (by simp)) (by simp [h r hlast])

/-- **A text with no blank at either end** is trimmed. -/
theorem trim_eq_self {t : Text} (hhead : ∀ r, t.head? = some r → r.isBlank = false)
    (hlast : ∀ r, t.getLast? = some r → r.isBlank = false) : t.trim = t := by
  obtain ⟨w, heq, hw⟩ := exists_eq_append_trim_of_getLast? hlast
  rcases w with - | ⟨r, w⟩
  · exact heq.symm
  · have hr : r.isBlank = false := hhead r (by rw [heq]; rfl)
    exact absurd (hw r (by simp)) (by simp [hr])

/-- **Trimming is idempotent.** -/
@[simp] theorem trim_trim (t : Text) : t.trim.trim = t.trim :=
  trim_eq_self (fun _ ↦ not_isBlank_of_head?_trim) fun _ ↦ not_isBlank_of_getLast?_trim

theorem trim_trimStart (t : Text) : trim t.trimStart = t.trim := by
  rw [trim, trimStart, trimStart, List.dropWhile_idempotent]
  rfl

theorem trim_trimEnd (t : Text) : trim t.trimEnd = t.trim := by
  conv_rhs => rw [← List.rdropWhile_append_rtakeWhile (p := Rune.isBlank) (l := t)]
  exact (trim_append_blank (fun r hr ↦ List.mem_rtakeWhile_imp hr) _).symm

/-- What trimming takes away at the end after it has trimmed the start. -/
theorem exists_trimStart_eq (t : Text) :
    ∃ v : Text, t.trimStart = t.trim ++ v ∧ ∀ r ∈ v, r.isBlank = true :=
  t.trimStart.exists_eq_trimEnd_append

/-- What trimming takes away at the start after it has trimmed the end. -/
theorem exists_trimEnd_eq (t : Text) :
    ∃ w : Text, t.trimEnd = w ++ t.trim ∧ ∀ r ∈ w, r.isBlank = true := by
  rw [← trim_trimEnd]
  exact exists_eq_append_trim_of_getLast? fun _ ↦ not_isBlank_of_getLast?_trimEnd

/-- **Around a visible rune**, each side is trimmed on its own. -/
theorem trim_append_cons {r : Rune} (hr : r.isBlank = false) (a b : Text) :
    trim (a ++ r :: b) = a.trimStart ++ r :: b.trimEnd := by
  have hstart : trimStart (a ++ r :: b) = a.trimStart ++ r :: b := by
    rw [trimStart, List.dropWhile_append, List.dropWhile_cons_of_neg (by simp [hr])]
    split
    · next h => rw [trimStart, List.isEmpty_iff.1 h, List.nil_append]
    · rfl
  have hend : trimEnd (a.trimStart ++ r :: b) = a.trimStart ++ r :: b.trimEnd := by
    rw [trimEnd, List.reverse_append, List.reverse_cons, List.append_assoc, List.dropWhile_append,
      List.singleton_append, List.dropWhile_cons_of_neg (by simp [hr])]
    split
    · next h => simp [trimEnd, List.isEmpty_iff.1 h]
    · simp [trimEnd]
  rw [trim, hstart, hend]

/-! ### Cutting at the first separator -/

theorem cut_append_cons {sep : Char} {a : Text} (h : .char sep ∉ a) (b : Text) :
    cut sep (a ++ .char sep :: b) = (a, some b) := by
  have ha : ∀ r ∈ a, (!r.isChar sep) = true := by
    intro r hr
    rw [Bool.not_eq_true', Rune.isChar_eq_false_iff]
    exact fun he ↦ h (he ▸ hr)
  rw [cut, List.dropWhile_append_of_pos ha, List.dropWhile_cons_of_neg (by simp),
    List.takeWhile_append_of_pos ha, List.takeWhile_cons_of_neg (by simp), List.append_nil]

/-- The text after the cut is what follows the first separator. -/
theorem cut_snd_eq_some_iff {sep : Char} {t b : Text} :
    (cut sep t).2 = some b ↔ ∃ a : Text, .char sep ∉ a ∧ t = a ++ .char sep :: b := by
  constructor
  · intro h
    rcases hd : t.dropWhile (fun r ↦ !r.isChar sep) with - | ⟨r, rest⟩
    · simp [cut, hd] at h
    · have hr : r = .char sep := by
        have h' := List.head?_dropWhile_not (fun r ↦ !Rune.isChar sep r) t
        rw [hd] at h'
        simpa using h'
      have hb : rest = b := by simpa [cut, hd] using h
      refine ⟨t.takeWhile fun r ↦ !r.isChar sep, ?_, ?_⟩
      · intro hmem
        simpa using List.mem_takeWhile_imp hmem
      · rw [← hb, ← hr, ← hd, List.takeWhile_append_dropWhile]
  · rintro ⟨a, ha, rfl⟩
    rw [cut_append_cons ha]

end Text

end StructuralLint
