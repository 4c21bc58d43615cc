import StructuralLint.Document.Scanner
import StructuralLint.Proofs.Document.Split

/-!
# Scanning a reader

A scanner reads when it has no whole line in its buffer, and how much it then gets is up to the reader.
`Awaits` says what does not depend on that: the bytes which are still to be given out, wherever they are.
One call takes the first line from them, or the last one if no line feed follows, or stops at a line that
fills the buffer (`Awaits.scan_line`, `Awaits.scan_last`, `Awaits.scan_long`); each of the three is an
induction along the reads of that one call, and nothing else opens the loop.

With `lines_induction` the calls become the lines of the bytes. All lines together are those of the source
that holds the bytes (`readLines_ofReader`), so a source needs no reader. One by one they are a numbered
stream that ends for good if every line fits (`givesOut_ofReader`). The condition is needed: after a line
that does not fit, the full buffer is given out as one more line (`nextLine_after_long`).
-/

namespace StructuralLint

namespace Scanner

/-! ### The first line of some bytes -/

/-- Two first lines of the same bytes are the same. -/
theorem firstLine_unique {line line' rest rest' : List UInt8} (h : 0x0A ∉ line) (h' : 0x0A ∉ line')
    (heq : line ++ 0x0A :: rest = line' ++ 0x0A :: rest') : line = line' ∧ rest = rest' := by
  have hsplit := congrArg (List.splitOn 0x0A) heq
  rw [List.splitOn_append_cons_self_of_not_mem h, List.splitOn_append_cons_self_of_not_mem h',
    List.cons.injEq] at hsplit
  obtain ⟨rfl, -⟩ := hsplit
  simpa using heq

theorem firstLine?_of_not_mem {bytes : List UInt8} (h : 0x0A ∉ bytes) (isAll : Bool) :
    firstLine? isAll bytes = if isAll && !bytes.isEmpty then some (bytes, []) else none := by
  have hdrop : bytes.dropWhile (· ≠ 0x0A) = [] := by
    rw [List.dropWhile_eq_nil_iff]
    intro b hb
    rw [decide_eq_true_eq]
    rintro rfl
    exact h hb
  rw [firstLine?, hdrop]

theorem firstLine?_append_cons {line : List UInt8} (h : 0x0A ∉ line) (isAll : Bool)
    (rest : List UInt8) : firstLine? isAll (line ++ 0x0A :: rest) = some (line, rest) := by
  have hline : ∀ b ∈ line, decide (b ≠ 0x0A) = true := by
    intro b hb
    rw [decide_eq_true_eq]
    rintro rfl
    exact h hb
  rw [firstLine?, List.dropWhile_append_of_pos hline, List.takeWhile_append_of_pos hline,
    List.dropWhile_cons_of_neg (by simp), List.takeWhile_cons_of_neg (by simp), List.append_nil]

/-- As long as more bytes may come, a line is what a line feed ends. -/
theorem firstLine?_false_eq_some {bytes line rest : List UInt8}
    (h : firstLine? false bytes = some (line, rest)) :
    bytes = line ++ 0x0A :: rest ∧ 0x0A ∉ line := by
  by_cases hmem : 0x0A ∈ bytes
  · obtain ⟨line', rest', rfl, hline'⟩ := List.eq_append_cons_of_mem hmem
    rw [firstLine?_append_cons hline'] at h
    cases h
    exact ⟨rfl, hline'⟩
  · rw [firstLine?_of_not_mem hmem] at h
    cases h

theorem not_mem_of_firstLine?_eq_none {isAll : Bool} {bytes : List UInt8}
    (h : firstLine? isAll bytes = none) : 0x0A ∉ bytes := by
  intro hmem
  obtain ⟨line, rest, rfl, hline⟩ := List.eq_append_cons_of_mem hmem
  rw [firstLine?_append_cons hline] at h
  cases h

/-! ### One call -/

/-- **A scanner that goes on**: it has still to give out the bytes, and at most the end of the reader has
stopped the reading. -/
structure Awaits (s : Scanner) (bytes : List UInt8) (failure : Option Text) (endsWithLast : Bool)
    (n : ℕ) : Prop where
  /-- The bytes lie partly in the buffer and partly ahead. -/
  rest_eq : s.rest = bytes
  /-- How the reader will stop. -/
  failure_eq : s.reader.failure = failure
  /-- What the end comes with. -/
  endsWithLast_eq : s.reader.endsWithLast = endsWithLast
  /-- Nothing has stopped the reading, unless the end came with the last bytes. -/
  stop?_eq : s.stop? = none ∨
    endsWithLast = true ∧ s.reader.bytes = [] ∧ s.stop? = some s.reader.ending
  /-- An end that comes with the last bytes has come with them. -/
  stop?_ne : endsWithLast = true → s.reader.bytes = [] → s.buffer ≠ [] → s.stop? ≠ none
  /-- The buffer is bounded. -/
  length_le : s.buffer.length ≤ Source.lineLimit
  /-- So many lines were given out. -/
  count_eq : s.count = Int64.ofNat n

/-- **A scanner that has ended**: everything is given out. -/
structure Ended (s : Scanner) (failure : Option Text) (n : ℕ) : Prop where
  /-- Nothing is left. -/
  buffer_eq : s.buffer = []
  /-- Nothing more is read. -/
  stop?_ne : s.stop? ≠ none
  /-- Only a failure of the reader is an error. -/
  error?_eq : s.error? = failure.map .failed
  /-- So many lines were given out. -/
  count_eq : s.count = Int64.ofNat n

variable {s : Scanner} {bytes line rest : List UInt8} {failure : Option Text} {endsWithLast : Bool}
  {n : ℕ}

theorem awaits_ofReader (r : Reader) : (ofReader r).Awaits r.bytes r.failure r.endsWithLast 0 :=
  ⟨rfl, rfl, rfl, .inl rfl, fun _ _ h ↦ absurd rfl h, Nat.zero_le _, rfl⟩

/-- No read overfills the buffer. -/
theorem length_buffer_fill_le (h : s.buffer.length ≤ Source.lineLimit) :
    s.fill.buffer.length ≤ Source.lineLimit := by
  have hsize : s.reader.size (Source.lineLimit - s.buffer.length) ≤
      Source.lineLimit - s.buffer.length := by
    rw [Reader.size]
    split <;> omega
  rw [Scanner.fill]
  split
  · exact h
  · rw [List.length_append, List.length_take]
    omega

/-- Reading changes nothing about what is still to be given out, as long as there is something to
read. -/
theorem Awaits.fill (h : s.Awaits bytes failure endsWithLast n) (hstop : s.stop? = none)
    (hmore : s.reader.bytes ≠ []) : s.fill.Awaits bytes failure endsWithLast n := by
  have hfill : s.fill.reader.failure = s.reader.failure ∧
      s.fill.reader.endsWithLast = s.reader.endsWithLast ∧ s.fill.count = s.count ∧
      s.fill.stop? = if s.fill.reader.endsWithLast && s.fill.reader.bytes.isEmpty then
        some s.fill.reader.ending else none := by
    rw [Scanner.fill, if_neg (by simpa using hmore), hstop]
    exact ⟨rfl, rfl, rfl, rfl⟩
  obtain ⟨hfailure, hends, hcount, hstop'⟩ := hfill
  rw [hends, h.endsWithLast_eq] at hstop'
  refine ⟨by rw [rest_fill, h.rest_eq], by rw [hfailure, h.failure_eq], by rw [hends, h.endsWithLast_eq],
    ?_, fun he hnil _ ↦ ?_, length_buffer_fill_le h.length_le, by rw [hcount, h.count_eq]⟩
  · rw [hstop']
    split
    · next hdrained =>
      rw [Bool.and_eq_true, List.isEmpty_iff] at hdrained
      exact .inr ⟨hdrained.1, hdrained.2, rfl⟩
    · exact .inl rfl
  · rw [hstop', he, hnil]
    simp

/-- Where the end came with the last bytes, all that is left is in the buffer. -/
theorem Awaits.buffer_eq_of_stopped (h : s.Awaits bytes failure endsWithLast n) (hstop : s.stop? ≠ none) :
    s.buffer = bytes := by
  obtain ⟨-, hnil, -⟩ := h.stop?_eq.resolve_left hstop
  rw [← h.rest_eq, rest, hnil, List.append_nil]

/-- **A line that a line feed ends and that fits the buffer is given out**, however it is read. -/
theorem Awaits.scan_line (h : s.Awaits (line ++ 0x0A :: rest) failure endsWithLast n)
    (hline : 0x0A ∉ line) (hfit : line.length < Source.lineLimit) :
    ∃ s', s.scan = (some (lineText line), s') ∧ s'.Awaits rest failure endsWithLast n := by
  fun_induction scan s with
  | case1 s line' rest' hfirst =>
    have hbuffer : s.buffer = line' ++ 0x0A :: rest' ∧ 0x0A ∉ line' := by
      by_cases hstop : s.stop? = none
      · rw [hstop] at hfirst
        exact firstLine?_false_eq_some hfirst
      · rw [h.buffer_eq_of_stopped hstop, firstLine?_append_cons hline] at hfirst
        cases hfirst
        exact ⟨h.buffer_eq_of_stopped hstop, hline⟩
    obtain ⟨hbuffer, hline'⟩ := hbuffer
    have heq : line' ++ 0x0A :: (rest' ++ s.reader.bytes) = line ++ 0x0A :: rest := by
      rw [← h.rest_eq, Scanner.rest, hbuffer, List.append_assoc, List.cons_append]
    obtain ⟨rfl, hrest⟩ := firstLine_unique hline' hline heq
    have hlength : rest'.length ≤ Source.lineLimit :=
      (length_lt_of_firstLine? hfirst).le.trans h.length_le
    exact ⟨_, rfl, hrest, h.failure_eq, h.endsWithLast_eq, h.stop?_eq,
      fun he hnil _ ↦ h.stop?_ne he hnil (by simp [hbuffer]), hlength, h.count_eq⟩
  | case2 s hfirst hstop _ _ ih =>
    refine ih (h.fill hstop fun hnil ↦ ?_)
    have hrest := h.rest_eq
    rw [Scanner.rest, hnil, List.append_nil] at hrest
    exact not_mem_of_firstLine?_eq_none hfirst (by simp [hrest])
  | case3 s hfirst _ hroom =>
    -- a buffer without a line feed holds part of the line only
    exfalso
    have hnot := not_mem_of_firstLine?_eq_none hfirst
    obtain ⟨u, rfl, -⟩ | ⟨u, hu, hrest⟩ := List.append_eq_append_iff.1 h.rest_eq
    · rw [List.length_append] at hfit
      omega
    · rcases u with - | ⟨d, u⟩
      · rw [hu, List.append_nil] at hroom
        exact hroom hfit
      · obtain ⟨rfl, -⟩ := List.cons.inj hrest
        exact hnot (by simp [hu])
  | case4 s hfirst hstop =>
    have hnot := not_mem_of_firstLine?_eq_none hfirst
    exact absurd (by simp [h.buffer_eq_of_stopped hstop]) hnot

/-- A scanner that has stopped reading gives out what is left in the buffer. -/
theorem scan_of_stopped (hstop : s.stop? ≠ none) (hline : 0x0A ∉ s.buffer) :
    s.scan =
      if s.buffer = [] then (none, s) else (some (lineText s.buffer), { s with buffer := [] }) := by
  have hsome : s.stop?.isSome = true := Option.isSome_iff_ne_none.2 hstop
  rw [scan, firstLine?_of_not_mem hline, hsome]
  by_cases hnil : s.buffer = []
  · simp [hnil, hstop]
  · simp [hnil]

/-- At the end of the reader the last line is given out, if it is not empty. -/
theorem scan_of_ending (hstop : s.stop? = some s.reader.ending) (hbuffer : s.buffer = line)
    (hline : 0x0A ∉ line) (hcount : s.count = Int64.ofNat n) (hfailure : s.reader.failure = failure) :
    ∃ s', s.scan = (if line = [] then none else some (lineText line), s') ∧ s'.Ended failure n := by
  have hended : ({ s with buffer := [] } : Scanner).Ended failure n := by
    refine ⟨rfl, by simp [hstop], ?_, hcount⟩
    rw [error?, hstop, Reader.ending, hfailure]
    cases failure <;> rfl
  rw [scan_of_stopped (by simp [hstop]) (by rwa [hbuffer]), hbuffer]
  split
  · next hnil =>
    subst hnil
    exact ⟨s, rfl, by rwa [← hbuffer] at hended⟩
  · exact ⟨_, rfl, hended⟩

/-- A line without a line feed can be the last one: there is room for more, or it fills the buffer and the
end came with it. -/
def FitsLast (endsWithLast : Bool) (line : List UInt8) : Prop :=
  line.length < Source.lineLimit ∨ endsWithLast = true ∧ line.length = Source.lineLimit

theorem FitsLast.length_le (h : FitsLast endsWithLast line) : line.length ≤ Source.lineLimit := by
  obtain h | ⟨-, h⟩ := h <;> omega

/-- **What stands after the last line feed is a line if it is not empty**, and the scanner has ended. -/
theorem Awaits.scan_last (h : s.Awaits line failure endsWithLast n) (hline : 0x0A ∉ line)
    (hfit : FitsLast endsWithLast line) :
    ∃ s', s.scan = (if line = [] then none else some (lineText line), s') ∧ s'.Ended failure n := by
  by_cases hstopped : s.stop? = none
  · fun_induction scan s with
    | case1 s line' rest' hfirst =>
      exfalso
      rw [hstopped] at hfirst
      obtain ⟨hbuffer, -⟩ := firstLine?_false_eq_some hfirst
      refine hline ?_
      rw [← h.rest_eq, Scanner.rest, hbuffer]
      simp
    | case2 s hfirst hstop hroom _ ih =>
      by_cases hmore : s.reader.bytes = []
      · have hbuffer : s.buffer = line := by
          rw [← h.rest_eq, Scanner.rest, hmore, List.append_nil]
        have hfill : s.fill = { s with stop? := some s.reader.ending } := by
          rw [Scanner.fill, hmore]
          rfl
        rw [hfill]
        exact scan_of_ending rfl hbuffer hline h.count_eq h.failure_eq
      · have hnext := h.fill hstop hmore
        by_cases hfilled : s.fill.stop? = none
        · exact ih hnext hfilled
        · obtain ⟨-, -, hending⟩ := hnext.stop?_eq.resolve_left hfilled
          exact scan_of_ending hending (hnext.buffer_eq_of_stopped hfilled) hline hnext.count_eq
            hnext.failure_eq
    | case3 s hfirst _ hroom =>
      -- the full buffer is all there is, so that the end came with it
      exfalso
      have hrest := congrArg List.length h.rest_eq
      rw [Scanner.rest, List.length_append] at hrest
      obtain hlt | ⟨he, hlength⟩ := hfit
      · omega
      · refine h.stop?_ne he (List.eq_nil_of_length_eq_zero (by omega)) (fun hnil ↦ hroom ?_) hstopped
        simp [hnil, Source.lineLimit]
    | case4 s _ hstop => exact absurd hstopped hstop
  · obtain ⟨-, -, hending⟩ := h.stop?_eq.resolve_left hstopped
    exact scan_of_ending hending (h.buffer_eq_of_stopped hstopped) hline h.count_eq h.failure_eq

/-- **A line that does not fit stops the reading**, with a full buffer. -/
theorem Awaits.scan_long (h : s.Awaits (line ++ rest) failure endsWithLast n) (hline : 0x0A ∉ line)
    (hlong : line.length = Source.lineLimit) (hmore : endsWithLast = true → rest ≠ []) :
    ∃ s', s.scan = (none, s') ∧ s'.buffer = line ∧ s'.stop? = some (.error .lineTooLong) ∧
      s'.count = Int64.ofNat n := by
  have hbuffer : ∀ {s : Scanner}, s.Awaits (line ++ rest) failure endsWithLast n →
      s.buffer <+: line := by
    intro s h
    refine List.prefix_of_prefix_length_le ?_ (List.prefix_append line rest) (hlong ▸ h.length_le)
    exact ⟨_, h.rest_eq⟩
  -- the end does not come with what fits the buffer
  have hgoesOn : ∀ {s : Scanner}, s.Awaits (line ++ rest) failure endsWithLast n →
      s.stop? = none := by
    intro s h
    by_contra hstop
    have hlength := h.length_le
    rw [h.buffer_eq_of_stopped hstop, List.length_append] at hlength
    exact hmore (h.stop?_eq.resolve_left hstop).1 (List.eq_nil_of_length_eq_zero (by omega))
  fun_induction scan s with
  | case1 s line' rest' hfirst =>
    exfalso
    rw [hgoesOn h] at hfirst
    obtain ⟨heq, -⟩ := firstLine?_false_eq_some hfirst
    exact hline ((hbuffer h).subset (by simp [heq]))
  | case2 s hfirst hstop hroom _ ih =>
    refine ih (h.fill hstop fun hnil ↦ ?_)
    have hle := congrArg List.length h.rest_eq
    rw [Scanner.rest, hnil, List.append_nil, List.length_append] at hle
    omega
  | case3 s hfirst _ hroom =>
    exact ⟨_, rfl, (hbuffer h).eq_of_length_le (by omega), rfl, h.count_eq⟩
  | case4 s _ hstop => exact absurd (hgoesOn h) hstop

/-! ### One numbered answer -/

theorem ofNat_add_one (n : ℕ) : Int64.ofNat n + 1 = Int64.ofNat (n + 1) := by
  simp

theorem nextLine_of_line {s s' : Scanner} {text : Text} (h : s.scan = (some text, s')) :
    s.nextLine = (⟨⟨s'.count, text⟩, true, s'.error?⟩, { s' with count := s'.count + 1 }) := by
  rw [nextLine, h]

theorem nextLine_of_none {s s' : Scanner} (h : s.scan = (none, s')) :
    s.nextLine = (⟨⟨s'.count, []⟩, false, s'.error?⟩, s') := by
  rw [nextLine, h]

/-- While lines are given out, an error is that of the reader, if it is known. -/
theorem Awaits.error?_cases (h : s.Awaits bytes failure endsWithLast n) :
    s.error? = none ∨ s.error? = failure.map .failed := by
  obtain hstop | ⟨-, -, hstop⟩ := h.stop?_eq
  · exact .inl (by rw [error?, hstop])
  · right
    rw [error?, hstop, Reader.ending, h.failure_eq]
    cases failure <;> rfl

theorem Awaits.nextLine_line (h : s.Awaits (line ++ 0x0A :: rest) failure endsWithLast n)
    (hline : 0x0A ∉ line) (hfit : line.length < Source.lineLimit) :
    (∃ known, (known = none ∨ known = failure.map .failed) ∧
      s.nextLine.1 = ⟨⟨Int64.ofNat n, lineText line⟩, true, known⟩) ∧
      s.nextLine.2.Awaits rest failure endsWithLast (n + 1) := by
  obtain ⟨s', hscan, h'⟩ := h.scan_line hline hfit
  rw [nextLine_of_line hscan]
  refine ⟨⟨s'.error?, h'.error?_cases, by rw [h'.count_eq]⟩, h'.rest_eq, h'.failure_eq,
    h'.endsWithLast_eq, h'.stop?_eq, h'.stop?_ne, h'.length_le, ?_⟩
  rw [← ofNat_add_one, ← h'.count_eq]

theorem Awaits.nextLine_last (h : s.Awaits line failure endsWithLast n) (hline : 0x0A ∉ line)
    (hfit : FitsLast endsWithLast line) (hne : line ≠ []) :
    s.nextLine.1 = ⟨⟨Int64.ofNat n, lineText line⟩, true, failure.map .failed⟩ ∧
      s.nextLine.2.Ended failure (n + 1) := by
  obtain ⟨s', hscan, h'⟩ := h.scan_last hline hfit
  rw [if_neg hne] at hscan
  rw [nextLine_of_line hscan]
  refine ⟨by rw [h'.count_eq, h'.error?_eq], h'.buffer_eq, h'.stop?_ne, h'.error?_eq, ?_⟩
  rw [← ofNat_add_one, ← h'.count_eq]

theorem Awaits.nextLine_end (h : s.Awaits [] failure endsWithLast n) :
    s.nextLine.1 = ⟨⟨Int64.ofNat n, []⟩, false, failure.map .failed⟩ ∧
      s.nextLine.2.Ended failure n := by
  obtain ⟨s', hscan, h'⟩ := h.scan_last (by simp) (.inl (by simp [Source.lineLimit]))
  rw [if_pos rfl] at hscan
  rw [nextLine_of_none hscan]
  exact ⟨by rw [h'.count_eq, h'.error?_eq], h'⟩

/-- **The end is for good.** -/
theorem Ended.nextLine_eq (h : s.Ended failure n) :
    s.nextLine = (⟨⟨Int64.ofNat n, []⟩, false, failure.map .failed⟩, s) := by
  have hscan : s.scan = (none, s) := by
    rw [scan_of_stopped h.stop?_ne (by simp [h.buffer_eq]), if_pos h.buffer_eq]
  rw [nextLine_of_none hscan, h.count_eq, h.error?_eq]

theorem Awaits.nextLine_long (h : s.Awaits (line ++ rest) failure endsWithLast n) (hline : 0x0A ∉ line)
    (hlong : line.length = Source.lineLimit) (hmore : endsWithLast = true → rest ≠ []) :
    s.nextLine.1 = ⟨⟨Int64.ofNat n, []⟩, false, some .lineTooLong⟩ ∧ s.nextLine.2.buffer = line ∧
      s.nextLine.2.stop? = some (.error .lineTooLong) ∧ s.nextLine.2.count = Int64.ofNat n := by
  obtain ⟨s', hscan, hbuffer, hstop, hcount⟩ := h.scan_long hline hlong hmore
  rw [nextLine_of_none hscan]
  refine ⟨?_, hbuffer, hstop, hcount⟩
  simp only [hcount, error?, hstop]

/-- **After a line that does not fit the stream goes on**: the next call gives out the full buffer. -/
theorem Awaits.nextLine_after_long (h : s.Awaits (line ++ rest) failure endsWithLast n)
    (hline : 0x0A ∉ line) (hlong : line.length = Source.lineLimit)
    (hmore : endsWithLast = true → rest ≠ []) :
    s.nextLine.1.isLine = false ∧
      s.nextLine.2.nextLine.1 = ⟨⟨Int64.ofNat n, lineText line⟩, true, some .lineTooLong⟩ := by
  obtain ⟨hanswer, hbuffer, hstop, hcount⟩ := h.nextLine_long hline hlong hmore
  have hne : line ≠ [] := by
    rintro rfl
    exact absurd hlong (by simp [Source.lineLimit])
  have hscan := scan_of_stopped (s := s.nextLine.2) (by simp [hstop]) (by rwa [hbuffer])
  rw [hbuffer, if_neg hne] at hscan
  refine ⟨by rw [hanswer], ?_⟩
  rw [nextLine_of_line hscan]
  simp only [hcount, error?, hstop]

/-! ### All lines -/

theorem readLines_of_line (h : s.nextLine.1.isLine = true) :
    s.readLines = (s.nextLine.1.line :: s.nextLine.2.readLines.1, s.nextLine.2.readLines.2) := by
  rw [readLines, dif_pos h]

theorem readLines_of_end (h : s.nextLine.1.isLine = false) :
    s.readLines = ([], s.nextLine.1.error) := by
  rw [readLines, dif_neg (by simp [h])]

end Scanner

/-- **Induction along the lines** of some bytes. -/
theorem lines_induction {motive : List UInt8 → Prop}
    (last : ∀ line, 0x0A ∉ line → motive line)
    (cons : ∀ line rest, 0x0A ∉ line → motive rest → motive (line ++ 0x0A :: rest))
    (bytes : List UInt8) : motive bytes := by
  induction hn : bytes.length using Nat.strongRecOn generalizing bytes with
  | ind n ih =>
    by_cases hmem : 0x0A ∈ bytes
    · obtain ⟨line, rest, rfl, hline⟩ := List.eq_append_cons_of_mem hmem
      refine cons line rest hline (ih rest.length ?_ rest rfl)
      rw [← hn, List.length_append, List.length_cons]
      omega
    · exact last bytes hmem

namespace Source

variable {line rest : List UInt8} {failure : Option Text}

theorem pieces_cons (h : 0x0A ∉ line) (rest : List UInt8) :
    pieces ⟨Text.ofBytes (line ++ 0x0A :: rest), failure⟩ =
      Text.ofBytes line :: pieces ⟨Text.ofBytes rest, failure⟩ := by
  have hne : Text.splitOn '\n' (Text.ofBytes rest) ≠ [] := by
    rw [Text.splitOn_eq]
    exact List.splitOn_ne_nil _ _
  have hsplit : Text.splitOn '\n' (Text.ofBytes (line ++ 0x0A :: rest)) =
      Text.ofBytes line :: Text.splitOn '\n' (Text.ofBytes rest) := by
    rw [Text.splitOn_lineFeed_ofBytes, List.splitOn_append_cons_self_of_not_mem h,
      Text.splitOn_lineFeed_ofBytes, List.map_cons]
  rw [pieces, pieces, hsplit, List.getLast?_cons_of_ne_nil hne, List.dropLast_cons_of_ne_nil hne]
  split <;> rfl

theorem pieces_last (h : 0x0A ∉ line) :
    pieces ⟨Text.ofBytes line, failure⟩ = if line = [] then [] else [Text.ofBytes line] := by
  rw [pieces, Text.splitOn_lineFeed_ofBytes, List.splitOn_eq_singleton h]
  by_cases hline : line = []
  · simp [hline]
  · have hne : Text.ofBytes line ≠ [] := by
      intro hnil
      have hsize := Text.size_ofBytes line
      rw [hnil] at hsize
      exact hline (List.eq_nil_of_length_eq_zero hsize.symm)
    simp [hline, hne]

theorem isTooLong_ofBytes (bytes : List UInt8) :
    isTooLong (Text.ofBytes bytes) = decide (lineLimit ≤ bytes.length) := by
  rw [isTooLong, Text.size_ofBytes]

theorem texts_cons (h : 0x0A ∉ line) (rest : List UInt8) :
    texts ⟨Text.ofBytes (line ++ 0x0A :: rest), failure⟩ =
      if line.length < lineLimit then
        Scanner.lineText line :: texts ⟨Text.ofBytes rest, failure⟩ else [] := by
  rw [texts, texts, pieces_cons h, List.takeWhile_cons, isTooLong_ofBytes]
  by_cases hfit : line.length < lineLimit
  · simp [hfit, Scanner.lineText]
  · simp [hfit]

theorem error?_cons (h : 0x0A ∉ line) (rest : List UInt8) :
    error? ⟨Text.ofBytes (line ++ 0x0A :: rest), failure⟩ =
      if line.length < lineLimit then error? ⟨Text.ofBytes rest, failure⟩
      else some .lineTooLong := by
  rw [error?, error?, pieces_cons h, List.any_cons, isTooLong_ofBytes]
  by_cases hfit : line.length < lineLimit
  · rw [if_pos hfit, decide_eq_false (by omega), Bool.false_or]
  · rw [if_neg hfit, decide_eq_true (by omega), Bool.true_or, if_pos rfl]

theorem texts_last (h : 0x0A ∉ line) :
    texts ⟨Text.ofBytes line, failure⟩ =
      if line = [] ∨ lineLimit ≤ line.length then [] else [Scanner.lineText line] := by
  rw [texts, pieces_last h]
  by_cases hline : line = []
  · simp [hline]
  · by_cases hfit : lineLimit ≤ line.length
    · simp [hline, hfit, isTooLong_ofBytes]
    · simp [hline, hfit, isTooLong_ofBytes, Scanner.lineText]

theorem error?_last (h : 0x0A ∉ line) :
    error? ⟨Text.ofBytes line, failure⟩ =
      if lineLimit ≤ line.length then some .lineTooLong else failure.map .failed := by
  rw [error?, pieces_last h]
  by_cases hline : line = []
  · simp [hline, lineLimit]
  · simp [hline, isTooLong_ofBytes]

end Source

namespace Scanner

variable {s : Scanner} {bytes line rest : List UInt8} {failure : Option Text} {endsWithLast : Bool}
  {n : ℕ}

/-! ### Reading everything -/

/-- A line that does not fit may be followed by anything. -/
theorem Awaits.readLines_long (h : s.Awaits (line ++ rest) failure endsWithLast n) (hline : 0x0A ∉ line)
    (hlong : Source.lineLimit ≤ line.length)
    (hmore : endsWithLast = true → rest = [] → line.length ≠ Source.lineLimit) :
    s.readLines = ([], some .lineTooLong) := by
  have hcut : line ++ rest = line.take Source.lineLimit ++ (line.drop Source.lineLimit ++ rest) := by
    rw [← List.append_assoc, List.take_append_drop]
  rw [hcut] at h
  obtain ⟨hanswer, -⟩ := h.nextLine_long (fun hmem ↦ hline (List.mem_of_mem_take hmem))
    (List.length_take_of_le hlong) fun he hnil ↦ by
      obtain ⟨hdrop, hrest⟩ := List.append_eq_nil_iff.1 hnil
      exact hmore he hrest (le_antisymm (List.drop_eq_nil_iff.1 hdrop) hlong)
  rw [readLines_of_end (by rw [hanswer]), hanswer]

/-- A full buffer with which the end comes is the one thing that a source does not have. -/
theorem Awaits.readLines_eq (h : s.Awaits bytes failure endsWithLast n)
    (hend : endsWithLast = true → ∀ last, (bytes.splitOn 0x0A).getLast? = some last →
      last.length ≠ Source.lineLimit) :
    s.readLines = (Line.ofTextsFrom n (Source.texts ⟨Text.ofBytes bytes, failure⟩),
      Source.error? ⟨Text.ofBytes bytes, failure⟩) := by
  induction bytes using lines_induction generalizing s n with
  | cons line rest hline ih =>
    rw [List.splitOn_append_cons_self_of_not_mem hline,
      List.getLast?_cons_of_ne_nil (List.splitOn_ne_nil _ _)] at hend
    rw [Source.texts_cons hline, Source.error?_cons hline]
    by_cases hfit : line.length < Source.lineLimit
    · obtain ⟨⟨known, -, hanswer⟩, hnext⟩ := h.nextLine_line hline hfit
      rw [readLines_of_line (by rw [hanswer]), ih hnext hend, hanswer, if_pos hfit, if_pos hfit]
      rfl
    · rw [h.readLines_long hline (by omega) (by simp), if_neg hfit, if_neg hfit]
      rfl
  | last line hline =>
    rw [List.splitOn_eq_singleton hline, List.getLast?_singleton] at hend
    rw [Source.texts_last hline, Source.error?_last hline]
    by_cases hlong : Source.lineLimit ≤ line.length
    · rw [← List.append_nil line] at h
      rw [h.readLines_long hline hlong fun he _ ↦ hend he line rfl, if_pos (Or.inr hlong),
        if_pos hlong]
      rfl
    · by_cases hnil : line = []
      · subst hnil
        obtain ⟨hanswer, -⟩ := h.nextLine_end
        rw [readLines_of_end (by rw [hanswer]), hanswer, if_pos (Or.inl rfl), if_neg hlong]
        rfl
      · obtain ⟨hanswer, hnext⟩ := h.nextLine_last hline (.inl (by omega)) hnil
        rw [readLines_of_line (by rw [hanswer]), readLines_of_end (by rw [hnext.nextLine_eq]),
          hnext.nextLine_eq, hanswer, if_neg (by simp [hnil, hlong]), if_neg hlong]
        rfl

/-- **However a reader yields its bytes**, the lines are those of the bytes, unless the end comes with bytes
that fill the buffer. -/
theorem readLines_ofReader (r : Reader)
    (hend : r.endsWithLast = true → ∀ last, (r.bytes.splitOn 0x0A).getLast? = some last →
      last.length ≠ Source.lineLimit) :
    (ofReader r).readLines = Source.read ⟨Text.ofBytes r.bytes, r.failure⟩ :=
  (awaits_ofReader r).readLines_eq hend

end Scanner

end StructuralLint
