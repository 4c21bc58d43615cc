import StructuralLint.Proofs.Lint.Finding

/-!
# What the marker check means

The marker check passes over the lines with what it has seen of them. Its findings can be said without a
pass, position by position: a start marker is misplaced if it is the first one and not on the first line
(`StartMisplaced`), an end marker if it is not on the last line (`EndMisplaced`), and a document with end
markers has to end in one (`Unended`). `checkMarkers_by_position` says that nothing else is found, and in
which order.

The check can also be written as one pass with two flags and positions, which looks at the last line again
after the pass (`scanMarkers`). That look-up is by position, and a document may have no line to look up.
The flag guards it: an end marker was seen, so there is a line. `MarkerScan.next_after` is what one line
does to the flags and the findings, `MarkerScan.run_after` what all of them do.
-/

namespace StructuralLint

/-! ### The rules of a line and of a document -/

/-- The rules on its own place that a marker breaks. -/
def Context.misplaced (x : Context Line) : List Rule :=
  match x.here.marker? with
  | some .start =>
    if x.before ≠ [] ∧ ∀ line ∈ x.before, line.marker? ≠ some .start then [.misplacedStart] else []
  | some .finish => if x.after = [] then [] else [.misplacedEnd]
  | none => []

/-- What is found at a line because of its own place. -/
def Context.misplacedFindings (x : Context Line) : List Diagnostic :=
  x.misplaced.map (Diagnostic.ofRule x.here.number)

theorem Context.misplaced_eq (x : Context Line) :
    x.misplaced =
      (if x.here.marker? = some .start ∧ x.before ≠ [] ∧
          ∀ line ∈ x.before, line.marker? ≠ some .start then [.misplacedStart] else []) ++
        if x.here.marker? = some .finish ∧ x.after ≠ [] then [.misplacedEnd] else [] := by
  rw [misplaced]
  cases x.here.marker? with
  | none => simp
  | some marker =>
    cases marker with
    | start => simp
    | finish => simp [ite_not]

/-- A document whose last line is given has end markers and does not end in one. -/
def Unended (lines : List Line) (last : Line) : Prop :=
  (∃ line ∈ lines, line.text.trim = Text.ofString "...") ∧ last.text.trim ≠ Text.ofString "..."

instance (lines : List Line) (last : Line) : Decidable (Unended lines last) :=
  inferInstanceAs (Decidable (_ ∧ _))

/-- What is found at the end of a document. -/
def closingFindings (lines : List Line) : List Diagnostic :=
  lines.getLast?.toList.flatMap fun last ↦
    if Unended lines last then [.ofRule last.number .endNotLastLine] else []

theorem unended_iff {lines : List Line} {last : Line} :
    Unended lines last ↔
      (∃ line ∈ lines, line.marker? = some .finish) ∧ last.marker? ≠ some .finish := by
  simp only [Unended, ne_eq, Line.marker?_eq_finish_iff]

/-- The rule on the end of the document that its last line breaks. -/
def Context.unended (x : Context Line) : List Rule :=
  if x.after = [] ∧ (∃ line ∈ x.before, line.marker? = some .finish) ∧
      x.here.marker? ≠ some .finish then [.endNotLastLine] else []

theorem Context.markerRules_eq_append (x : Context Line) :
    x.markerRules = x.misplaced ++ x.unended := rfl

/-- The end of a document is judged at its last line only. -/
theorem Context.unended_of_after_ne_nil {x : Context Line} (h : x.after ≠ []) : x.unended = [] :=
  if_neg fun hunended ↦ h hunended.1

theorem Context.unended_last (before : List Line) (last : Line) :
    Context.unended ⟨before, last, []⟩ =
      if Unended (before ++ [last]) last then [.endNotLastLine] else [] := by
  refine if_congr ?_ rfl rfl
  rw [unended_iff]
  constructor
  · rintro ⟨-, ⟨line, hline, hmarker⟩, hlast⟩
    exact ⟨⟨line, List.mem_append_left _ hline, hmarker⟩, hlast⟩
  · rintro ⟨⟨line, hline, hmarker⟩, hlast⟩
    rcases List.mem_append.1 hline with hline | hline
    · exact ⟨rfl, ⟨line, hline, hmarker⟩, hlast⟩
    · exact absurd (List.mem_singleton.1 hline ▸ hmarker) hlast

/-- **The marker check, in two parts**: what is found line by line, and what is found at the end. -/
theorem checkMarkers_eq_append (lines : List Line) :
    checkMarkers lines =
      (contexts lines).flatMap Context.misplacedFindings ++ closingFindings lines := by
  rw [checkMarkers_eq_flatMap]
  rcases List.eq_nil_or_concat' lines with rfl | ⟨init, last, rfl⟩
  · rfl
  have hinit : ∀ x ∈ (contexts init).map (Context.followedBy [last]),
      x.markerRules.map (Diagnostic.ofRule x.here.number) = x.misplacedFindings := by
    intro x hx
    obtain ⟨y, -, rfl⟩ := List.mem_map.1 hx
    rw [Context.markerRules_eq_append, Context.unended_of_after_ne_nil (by simp), List.append_nil]
    rfl
  have hlast : (Context.markerRules ⟨init, last, []⟩).map (Diagnostic.ofRule last.number) =
      Context.misplacedFindings ⟨init, last, []⟩ ++ closingFindings (init ++ [last]) := by
    rw [Context.markerRules_eq_append, Context.unended_last, List.map_append, closingFindings,
      List.getLast?_concat, Option.toList_some, List.flatMap_singleton]
    congr 1
    split <;> rfl
  rw [contexts_append_cons, List.flatMap_append, List.flatMap_append, List.flatMap_congr hinit,
    List.append_assoc]
  congr 1
  exact (List.append_nil _).trans (hlast.trans (by simp [contexts, contextsFrom]))

/-! ### One pass with two flags -/

/-- The line at a position, counted from zero. There is none at any other position. -/
def lineAt (lines : List Line) : ℤ → Except ℤ Line
  | .ofNat i => lines[i]?.elim (.error i) .ok
  | .negSucc i => .error (.negSucc i)

/-- What a pass over the lines has in hand. -/
structure MarkerScan where
  /-- What was found so far. -/
  findings : List Diagnostic := []
  /-- Whether there was a start marker. -/
  startSeen : Bool := false
  /-- Whether there was an end marker. -/
  endSeen : Bool := false

namespace MarkerScan

/-- Passes over one line. -/
def next (scan : MarkerScan) (last position : ℤ) (line : Line) : MarkerScan :=
  match line.marker? with
  | some .start =>
    { scan with
      findings := scan.findings ++
        if position ≠ 0 ∧ scan.startSeen = false then [.ofRule line.number .misplacedStart] else []
      startSeen := true }
  | some .finish =>
    { scan with
      findings := scan.findings ++
        if position ≠ last then [.ofRule line.number .misplacedEnd] else []
      endSeen := true }
  | none => scan

/-- Passes over the lines from a position on. -/
def run (scan : MarkerScan) (last position : ℤ) : List Line → MarkerScan
  | [] => scan
  | line :: rest => (scan.next last position line).run last (position + 1) rest

/-- What the pass has in hand after the first lines of a document. -/
def after (before rest : List Line) : MarkerScan where
  findings := ((contexts before).map (Context.followedBy rest)).flatMap Context.misplacedFindings
  startSeen := before.any (·.marker? = some .start)
  endSeen := before.any (·.marker? = some .finish)

/-- **One line of the pass.** -/
theorem next_after (before : List Line) (line : Line) (rest : List Line) :
    (after before (line :: rest)).next (before.length + rest.length) before.length line =
      after (before ++ [line]) rest := by
  have hcontexts : (contexts (before ++ [line])).map (Context.followedBy rest) =
      (contexts before).map (Context.followedBy (line :: rest)) ++ [⟨before, line, rest⟩] := by
    rw [contexts_append_cons, List.map_append, List.map_map]
    congr 1
    exact List.map_congr_left fun x _ ↦ by simp [Context.followedBy]
  have hafter : after (before ++ [line]) rest =
      { findings := (after before (line :: rest)).findings ++
          Context.misplacedFindings ⟨before, line, rest⟩
        startSeen := (after before (line :: rest)).startSeen || line.marker? = some .start
        endSeen := (after before (line :: rest)).endSeen || line.marker? = some .finish } := by
    rw [after, hcontexts, List.flatMap_append, List.flatMap_singleton, List.any_append, List.any_append]
    simp [after]
  rw [hafter, next]
  cases hmarker : line.marker? with
  | none => simp [Context.misplacedFindings, Context.misplaced, hmarker]
  | some marker =>
    cases marker with
    | start =>
      -- the flag and the position say what the lines before say
      have hfirst : ((before.length : ℤ) ≠ 0 ∧ (after before (line :: rest)).startSeen = false) ↔
          before ≠ [] ∧ ∀ l ∈ before, l.marker? ≠ some .start := by
        simp [after]
      simp only [hfirst, Context.misplacedFindings, Context.misplaced, hmarker]
      split <;> simp
    | finish =>
      have hlast : (before.length : ℤ) ≠ before.length + rest.length ↔ rest ≠ [] := by
        rw [← List.length_pos_iff]
        omega
      simp only [hlast, Context.misplacedFindings, Context.misplaced, hmarker]
      split <;> simp_all

/-- **All lines of the pass.** -/
theorem run_after (before rest : List Line) :
    (after before rest).run (before.length + rest.length - 1) before.length rest =
      after (before ++ rest) [] := by
  -- a line goes from the rest to the lines before, so the position of the last one stays where it is
  induction rest generalizing before with
  | nil => rw [run, List.append_nil]
  | cons line rest ih =>
    have hlast : (before.length : ℤ) + (line :: rest).length - 1 = before.length + rest.length := by
      rw [List.length_cons]
      omega
    have htail := ih (before ++ [line])
    rw [List.length_append, List.length_singleton, List.append_assoc, List.singleton_append] at htail
    rw [hlast, run, next_after, ← htail]
    congr 1
    push_cast
    omega

end MarkerScan

/-- **The marker check as one pass.** If an end marker was seen, the last line is looked up by position. -/
def scanMarkers (lines : List Line) : Except ℤ (List Diagnostic) :=
  let last : ℤ := lines.length - 1
  let scan := MarkerScan.run {} last 0 lines
  if scan.endSeen then
    (lineAt lines last).map fun line ↦
      if line.marker? = some .finish then scan.findings
      else scan.findings ++ [.ofRule line.number .endNotLastLine]
  else .ok scan.findings

theorem lineAt_last (init : List Line) (last : Line) :
    lineAt (init ++ [last]) ((init ++ [last]).length - 1) = .ok last := by
  have hposition : ((init ++ [last]).length : ℤ) - 1 = .ofNat init.length := by simp
  rw [hposition, lineAt, List.getElem?_concat_length]
  rfl

/-- **The pass never looks up a line that there is none of**, and it finds what the marker check finds. -/
theorem scanMarkers_eq_ok (lines : List Line) : scanMarkers lines = .ok (checkMarkers lines) := by
  have hrun : MarkerScan.run {} (lines.length - 1) 0 lines = MarkerScan.after lines [] := by
    have hstart : MarkerScan.after [] lines = {} := rfl
    simpa [hstart] using MarkerScan.run_after [] lines
  have hfindings : (MarkerScan.after lines []).findings =
      (contexts lines).flatMap Context.misplacedFindings := by
    have hid : Context.followedBy ([] : List Line) = id := by
      funext x
      simp [Context.followedBy]
    rw [MarkerScan.after, hid, List.map_id]
  have hend : (MarkerScan.after lines []).endSeen = true ↔
      ∃ line ∈ lines, line.marker? = some .finish := by
    simp [MarkerScan.after]
  rw [checkMarkers_eq_append, scanMarkers, hrun, hfindings]
  rcases List.eq_nil_or_concat' lines with rfl | ⟨init, last, rfl⟩
  · rfl
  rw [closingFindings, List.getLast?_concat, Option.toList_some, List.flatMap_singleton, lineAt_last]
  by_cases hseen : ∃ line ∈ init ++ [last], line.marker? = some .finish
  · rw [if_pos (hend.2 hseen)]
    by_cases hlast : last.marker? = some .finish
    · rw [if_neg fun h ↦ (unended_iff.1 h).2 hlast, List.append_nil]
      simp [Except.map, hlast]
    · rw [if_pos (unended_iff.2 ⟨hseen, hlast⟩)]
      simp [Except.map, hlast]
  · rw [if_neg fun h ↦ hseen (hend.1 h), if_neg fun h ↦ hseen (unended_iff.1 h).1, List.append_nil]

/-! ### Position by position -/

/-- **The start marker at a position is misplaced**: it is the first one, and it is not on the first
line. -/
def StartMisplaced (lines : List Line) (i : Fin lines.length) : Prop :=
  lines[i].text.trim = Text.ofString "---" ∧ (i : ℕ) ≠ 0 ∧
    ∀ j < i, lines[j].text.trim ≠ Text.ofString "---"

/-- **The end marker at a position is misplaced**: it is not on the last line. -/
def EndMisplaced (lines : List Line) (i : Fin lines.length) : Prop :=
  lines[i].text.trim = Text.ofString "..." ∧ (i : ℕ) + 1 ≠ lines.length

instance (lines : List Line) (i : Fin lines.length) : Decidable (StartMisplaced lines i) :=
  inferInstanceAs (Decidable (_ ∧ _ ∧ _))

instance (lines : List Line) (i : Fin lines.length) : Decidable (EndMisplaced lines i) :=
  inferInstanceAs (Decidable (_ ∧ _))

variable {lines : List Line}

theorem startMisplaced_iff {i : Fin lines.length} :
    StartMisplaced lines i ↔ lines[i].marker? = some .start ∧ lines.take i ≠ [] ∧
      ∀ line ∈ lines.take i, line.marker? ≠ some .start := by
  have hne : lines ≠ [] := List.ne_nil_of_length_pos (Nat.zero_lt_of_lt i.isLt)
  have hbefore : (∀ j < i, lines[j].text.trim ≠ Text.ofString "---") ↔
      ∀ line ∈ lines.take i, line.marker? ≠ some .start := by
    simp only [ne_eq, Line.marker?_eq_start_iff, List.mem_take_iff_getElem]
    constructor
    · rintro h line ⟨j, hj, rfl⟩
      exact h ⟨j, by omega⟩ (Fin.lt_def.2 (by dsimp only; omega))
    · intro h j hj
      exact h lines[j] ⟨j, by have := Fin.lt_def.1 hj; omega, rfl⟩
  rw [StartMisplaced, Line.marker?_eq_start_iff, hbefore, Ne, Ne, List.take_eq_nil_iff,
    or_iff_left hne]

theorem endMisplaced_iff {i : Fin lines.length} :
    EndMisplaced lines i ↔ lines[i].marker? = some .finish ∧ lines.drop (i + 1) ≠ [] := by
  have hlast : (i : ℕ) + 1 ≠ lines.length ↔ lines.drop (i + 1) ≠ [] := by
    rw [Ne, Ne, List.drop_eq_nil_iff]
    omega
  rw [EndMisplaced, Line.marker?_eq_finish_iff, hlast]

/-- No more than one start marker is misplaced. -/
theorem StartMisplaced.unique {i j : Fin lines.length} (hi : StartMisplaced lines i)
    (hj : StartMisplaced lines j) : i = j := by
  rcases lt_trichotomy i j with hlt | heq | hlt
  · exact absurd hi.1 (hj.2.2 i hlt)
  · exact heq
  · exact absurd hj.1 (hi.2.2 j hlt)

/-- A start marker is misplaced if there is one and the first line is none. -/
theorem exists_startMisplaced_iff :
    (∃ i, StartMisplaced lines i) ↔ (∃ line ∈ lines, line.text.trim = Text.ofString "---") ∧
      ∀ first, lines.head? = some first → first.text.trim ≠ Text.ofString "---" := by
  constructor
  · rintro ⟨i, hstart, hpos, hbefore⟩
    refine ⟨⟨lines[i], List.getElem_mem _, hstart⟩, fun first hfirst ↦ ?_⟩
    obtain ⟨rest, rfl⟩ := List.head?_eq_some_iff.1 hfirst
    exact hbefore ⟨0, by simp⟩ (Fin.lt_def.2 (Nat.pos_of_ne_zero hpos))
  · rintro ⟨⟨line, hline, hstart⟩, hhead⟩
    -- the first start marker has none before it
    have hsome : (lines.find? fun l ↦ l.text.trim = Text.ofString "---").isSome = true :=
      List.find?_isSome.2 ⟨line, hline, by simpa using hstart⟩
    obtain ⟨first, hfirst⟩ := Option.isSome_iff_exists.1 hsome
    obtain ⟨hmarker, before, rest, rfl, hbefore⟩ := List.find?_eq_some_iff_append.1 hfirst
    refine ⟨⟨before.length, by simp⟩, ?_, fun hzero ↦ ?_, fun j hj ↦ ?_⟩
    · simpa using hmarker
    · obtain rfl := List.eq_nil_of_length_eq_zero hzero
      exact hhead first rfl (by simpa using hmarker)
    · have hlt : (j : ℕ) < before.length := Fin.lt_def.1 hj
      have hmem : (before ++ first :: rest)[j] ∈ before := by
        simp [List.getElem_append_left hlt]
      simpa using hbefore _ hmem

/-- A document that has end markers and does not end in one has a misplaced one. -/
theorem exists_endMisplaced_of_unended {last : Line} (hlast : lines.getLast? = some last)
    (h : Unended lines last) : ∃ i, EndMisplaced lines i := by
  obtain ⟨⟨line, hline, hmarker⟩, hother⟩ := h
  obtain ⟨i, hi, rfl⟩ := List.getElem_of_mem hline
  refine ⟨⟨i, hi⟩, hmarker, fun hposition ↦ hother ?_⟩
  have hget : lines[i] = last := by
    rw [List.getLast?_eq_getElem?, ← hposition, Nat.add_sub_cancel, List.getElem?_eq_getElem hi] at hlast
    exact Option.some.inj hlast
  rw [← hget]
  exact hmarker

/-- **The findings of the marker check, in order.** -/
theorem checkMarkers_eq_flatMap_finRange (lines : List Line) :
    checkMarkers lines =
      ((List.finRange lines.length).flatMap fun i ↦
        (if StartMisplaced lines i then [.ofRule (lines[i].index + 1) .misplacedStart] else []) ++
          if EndMisplaced lines i then [.ofRule (lines[i].index + 1) .misplacedEnd] else []) ++
      lines.getLast?.toList.flatMap fun last ↦
        if Unended lines last then [.ofRule (last.index + 1) .endNotLastLine] else [] := by
  have hline : ∀ i : Fin lines.length,
      Context.misplacedFindings ⟨lines.take i, lines[i], lines.drop (i + 1)⟩ =
        (if StartMisplaced lines i then [.ofRule (lines[i].index + 1) .misplacedStart] else []) ++
          if EndMisplaced lines i then [.ofRule (lines[i].index + 1) .misplacedEnd] else [] := by
    intro i
    rw [Context.misplacedFindings, Context.misplaced_eq]
    simp only [← startMisplaced_iff, ← endMisplaced_iff]
    rw [List.map_append]
    congr 1
    · split <;> rfl
    · split <;> rfl
  rw [checkMarkers_eq_append, contexts_eq_map_finRange, List.flatMap_map]
  simp only [hline]
  rfl

theorem mem_checkMarkers_iff {d : Diagnostic} :
    d ∈ checkMarkers lines ↔
      (∃ i, StartMisplaced lines i ∧ d = .ofRule (lines[i].index + 1) .misplacedStart) ∨
      (∃ i, EndMisplaced lines i ∧ d = .ofRule (lines[i].index + 1) .misplacedEnd) ∨
      ∃ last, lines.getLast? = some last ∧ Unended lines last ∧
        d = .ofRule (last.index + 1) .endNotLastLine := by
  rw [checkMarkers_eq_flatMap_finRange, List.mem_append, or_assoc.symm]
  simp only [List.mem_flatMap, List.mem_finRange, true_and, List.mem_append, List.mem_ite_nil_right,
    List.mem_singleton, exists_or, Option.mem_toList]

/-- **The marker check, by position.** It never looks up a line that there is none of. It finds, line by
line, the misplaced start marker and the misplaced end markers, each under the number of its line, and
after them the last line if the document has end markers and does not end in one. A start marker is
misplaced if there is one and the first line is none, and then only the first one is. A document that does
not end in an end marker but has one has a misplaced one. -/
theorem checkMarkers_by_position (lines : List Line) :
    scanMarkers lines = .ok (checkMarkers lines) ∧
    checkMarkers lines =
      ((List.finRange lines.length).flatMap fun i ↦
        (if StartMisplaced lines i then [.ofRule (lines[i].index + 1) .misplacedStart] else []) ++
          if EndMisplaced lines i then [.ofRule (lines[i].index + 1) .misplacedEnd] else []) ++
      (lines.getLast?.toList.flatMap fun last ↦
        if Unended lines last then [.ofRule (last.index + 1) .endNotLastLine] else []) ∧
    (∀ i j, StartMisplaced lines i → StartMisplaced lines j → i = j) ∧
    ((∃ i, StartMisplaced lines i) ↔ (∃ line ∈ lines, line.text.trim = Text.ofString "---") ∧
      ∀ first, lines.head? = some first → first.text.trim ≠ Text.ofString "---") ∧
    ((∃ d ∈ checkMarkers lines, d.code = Rule.endNotLastLine.code) →
      ∃ d ∈ checkMarkers lines, d.code = Rule.misplacedEnd.code) := by
  refine ⟨scanMarkers_eq_ok lines, checkMarkers_eq_flatMap_finRange lines, fun i j hi hj ↦ hi.unique hj,
    exists_startMisplaced_iff, ?_⟩
  rintro ⟨d, hd, hcode⟩
  obtain ⟨i, -, rfl⟩ | ⟨i, -, rfl⟩ | ⟨last, hlast, hunended, -⟩ := mem_checkMarkers_iff.1 hd
  · have hrule : Rule.misplacedStart = .endNotLastLine := Rule.code_injective hcode
    cases hrule
  · have hrule : Rule.misplacedEnd = .endNotLastLine := Rule.code_injective hcode
    cases hrule
  · obtain ⟨i, hi⟩ := exists_endMisplaced_of_unended hlast hunended
    exact ⟨_, mem_checkMarkers_iff.2 (.inr (.inl ⟨i, hi, rfl⟩)), rfl⟩

/-- The last line is itself a misplaced start marker, and the one that the document does not end in. -/
theorem checkMarkers_by_position_last_line :
    checkMarkers (Line.ofTexts [Text.ofString "k:", Text.ofString " ... ", Text.ofString "---"]) =
      [.ofRule 2 .misplacedEnd, .ofRule 3 .misplacedStart, .ofRule 3 .endNotLastLine] ∧
    ∃ d ∈ checkMarkers (Line.ofTexts [Text.ofString "k:", Text.ofString " ... ", Text.ofString "---"]),
      d.code = Rule.misplacedEnd.code := by
  obtain ⟨-, hall, -, -, hend⟩ := checkMarkers_by_position
    (Line.ofTexts [Text.ofString "k:", Text.ofString " ... ", Text.ofString "---"])
  have hfindings : checkMarkers
      (Line.ofTexts [Text.ofString "k:", Text.ofString " ... ", Text.ofString "---"]) =
      [.ofRule 2 .misplacedEnd, .ofRule 3 .misplacedStart, .ofRule 3 .endNotLastLine] := hall.trans rfl
  have hclosing : Diagnostic.ofRule 3 .endNotLastLine ∈ checkMarkers
      (Line.ofTexts [Text.ofString "k:", Text.ofString " ... ", Text.ofString "---"]) := by
    rw [hfindings]
    simp
  exact ⟨hfindings, hend ⟨_, hclosing, rfl⟩⟩

end StructuralLint
