import StructuralLint.Proofs.Document.Scanner
import StructuralLint.Proofs.Files.History
import StructuralLint.Proofs.Lint.Reading
import StructuralLint.Proofs.Text.Encode

/-!
# The lines of a document

Lines are cut from bytes in two ways, in memory and from a reader, and both are said here of bytes. In
memory nothing is lost but one final line feed: the lines joined again are the document
(`split_rejoins`), and every list of lines is cut back from the document that they make. From a reader
the same lines come, each without one carriage return at its end, as a numbered stream that ends for
good.

A line that does not fit the buffer ends all of this: what came before it is read, and no linter reports
anything (`reads_numbered_lines`). A line that just fills the buffer is the one case in which it matters
how the reader ends.
-/

namespace StructuralLint

/-! ### Cutting bytes and joining them again -/

/-- A document without its one final line feed, if it has one. -/
def withoutFinalFeed (bytes : List UInt8) : List UInt8 :=
  if bytes.getLast? = some 0x0A then bytes.dropLast else bytes

@[simp] theorem withoutFinalFeed_concat (bytes : List UInt8) :
    withoutFinalFeed (bytes ++ [0x0A]) = bytes := by
  simp [withoutFinalFeed]

theorem not_mem_of_mem_splitOn {bytes line : List UInt8} (h : line ∈ bytes.splitOn 0x0A) :
    0x0A ∉ line := by
  induction bytes using lines_induction with
  | last last hlast =>
    rw [List.splitOn_eq_singleton hlast, List.mem_singleton] at h
    rwa [h]
  | cons first rest hfirst ih =>
    rw [List.splitOn_append_cons_self_of_not_mem hfirst, List.mem_cons] at h
    rcases h with rfl | h
    · exact hfirst
    · exact ih h

namespace Line

theorem dropFinal_lineFeed_ofBytes (bytes : List UInt8) :
    dropFinal '\n' (Text.ofBytes bytes) = Text.ofBytes (withoutFinalFeed bytes) := by
  rcases List.eq_nil_or_concat' bytes with rfl | ⟨bytes, b, rfl⟩
  · rfl
  · by_cases hb : b = 0x0A
    · subst hb
      have hend : Text.ofBytes (bytes ++ [0x0A]) = Text.ofBytes bytes ++ [.char '\n'] :=
        Text.ofBytes_append_cons (by decide) bytes []
      rw [withoutFinalFeed_concat, hend, dropFinal_concat_self]
    · rw [withoutFinalFeed, if_neg (by simpa using hb)]
      refine (dropFinal_cases '\n' _).resolve_left fun h ↦ hb ?_
      have hlast : (bytes ++ [b]).getLast? = some 0x0A := by
        refine Text.getLast?_eq_of_ofBytes (d := 0x0A) (by decide) ?_
        rw [h, List.getLast?_concat]
        rfl
      simpa using hlast

/-- **The lines of a document are the pieces of its bytes.** -/
theorem split_ofBytes {bytes : List UInt8} (hne : bytes ≠ []) :
    split (Text.ofBytes bytes) =
      ofTexts (((withoutFinalFeed bytes).splitOn 0x0A).map Text.ofBytes) := by
  have htext : ¬ (Text.ofBytes bytes).isEmpty = true := by
    rw [List.isEmpty_iff]
    intro hnil
    have hsize := Text.size_ofBytes bytes
    rw [hnil] at hsize
    exact hne (List.eq_nil_of_length_eq_zero hsize.symm)
  rw [split, if_neg htext, dropFinal_lineFeed_ofBytes, Text.splitOn_lineFeed_ofBytes]

theorem map_toBytes_split {bytes : List UInt8} (hne : bytes ≠ []) :
    (split (Text.ofBytes bytes)).map (fun line ↦ line.text.toBytes) =
      (withoutFinalFeed bytes).splitOn 0x0A := by
  have htexts := map_text_ofTextsFrom 0 (((withoutFinalFeed bytes).splitOn 0x0A).map Text.ofBytes)
  rw [split_ofBytes hne, show (fun line : Line ↦ line.text.toBytes) = Text.toBytes ∘ text from rfl,
    ← List.map_map, ofTexts, htexts, List.map_map]
  exact List.map_id'' (fun _ ↦ Text.toBytes_ofBytes _) _

/-- **Cutting a document into lines loses nothing and numbers them.** -/
theorem split_rejoins :
    (∀ bytes : List UInt8, bytes ≠ [] →
      (∀ line ∈ split (Text.ofBytes bytes), 0x0A ∉ line.text.toBytes) ∧
      [0x0A].intercalate ((split (Text.ofBytes bytes)).map fun line ↦ line.text.toBytes) =
        withoutFinalFeed bytes ∧
      ∀ k line, (split (Text.ofBytes bytes))[k]? = some line → line.index = Int64.ofNat k) ∧
    (∀ lines : List (List UInt8), lines ≠ [] → (∀ line ∈ lines, 0x0A ∉ line) →
      split (Text.ofBytes ([0x0A].intercalate lines ++ [0x0A])) =
        ofTexts (lines.map Text.ofBytes)) ∧
    ∀ (bytes : List UInt8) (sizes : List ℕ) (endsWithLast : Bool),
      (∀ line ∈ bytes.splitOn 0x0A, line.length ≤ 1048575) →
      (Scanner.ofReader ⟨bytes, none, sizes, endsWithLast⟩).readLines =
        ((split (Text.ofBytes bytes)).map withoutReturn, none) := by
  refine ⟨fun bytes hne ↦ ⟨fun line hline ↦ ?_, ?_, fun k line ↦ index_of_getElem?_split⟩,
    fun lines hne hlines ↦ ?_, fun bytes sizes endsWithLast hfit ↦ ?_⟩
  · have hmem : line.text.toBytes ∈ (withoutFinalFeed bytes).splitOn 0x0A := by
      rw [← map_toBytes_split hne]
      exact List.mem_map_of_mem hline
    exact not_mem_of_mem_splitOn hmem
  · rw [map_toBytes_split hne, List.intercalate_splitOn]
  · rw [split_ofBytes (by simp), withoutFinalFeed_concat, List.splitOn_intercalate 0x0A hlines hne]
  · have hend : ∀ last, (bytes.splitOn 0x0A).getLast? = some last → last.length ≠ Source.lineLimit :=
      fun last hlast ↦ Nat.ne_of_lt (Nat.lt_succ_of_le (hfit last (List.mem_of_getLast? hlast)))
    rw [Scanner.readLines_ofReader _ fun _ ↦ hend, Source.read_of_fits hfit]
    rfl

/-- A carriage return and a blank line, a list of lines with an empty one, and a reader that yields one
byte, four bytes and the rest, with which it ends. -/
theorem split_rejoins_carriage_returns :
    [0x0A].intercalate ((split (Text.ofBytes [0x61, 0x0D, 0x0A, 0x0A])).map
        fun line ↦ line.text.toBytes) = [0x61, 0x0D, 0x0A] ∧
      split (Text.ofBytes ([0x0A].intercalate [[0x61], [], [0x0D]] ++ [0x0A])) =
        ofTexts ([[0x61], [], [0x0D]].map Text.ofBytes) ∧
      (Scanner.ofReader ⟨[0x61, 0x0D, 0x0D, 0x0A, 0x62, 0x0D], none, [0, 3], true⟩).readLines =
        ((split (Text.ofBytes [0x61, 0x0D, 0x0D, 0x0A, 0x62, 0x0D])).map withoutReturn, none) := by
  obtain ⟨hjoin, hcut, hread⟩ := split_rejoins
  refine ⟨?_, hcut _ (by decide) (by decide), hread _ _ _ (by decide)⟩
  exact (hjoin [0x61, 0x0D, 0x0A, 0x0A] (by decide)).2.1

end Line

namespace Scanner

/-! ### The stream of a reader -/

/-- **A linter reads a reader as it reads the source that holds the bytes**, unless the end comes with a
last line that fills the buffer. -/
theorem lintReader_eq_lintSource (l : Linter) (r : Reader)
    (hend : r.endsWithLast = true → ∀ last, (r.bytes.splitOn 0x0A).getLast? = some last →
      last.length ≠ Source.lineLimit) :
    l.lintReader r = l.lintSource ⟨Text.ofBytes r.bytes, r.failure⟩ := by
  rw [Linter.lintReader, Linter.lintSource, readLines_ofReader r hend]

end Scanner

end StructuralLint
