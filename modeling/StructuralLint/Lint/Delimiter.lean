import StructuralLint.Document.Line
import StructuralLint.Lint.Diagnostic
import StructuralLint.Text.Space

/-!
# Document markers

A line is a marker when it trims to `---` (start) or `...` (end). A first start marker belongs
on the first line; once one has been seen, later ones separate documents and are fine. An end
marker belongs on the last line, and a document that has any must end in one.
-/

namespace StructuralLint

/-- A document marker. -/
inductive Marker where
  /-- `---` -/
  | start
  /-- `...` -/
  | finish
  deriving DecidableEq, Repr

/-- The marker a line consists of, if it is one. -/
def Line.marker? (line : Line) : Option Marker :=
  let trimmed := line.text.trim
  if trimmed = Text.ofString "---" then some .start
  else if trimmed = Text.ofString "..." then some .finish
  else none

/-- What has been seen of a document so far. -/
structure MarkerState where
  /-- Whether there was a line. -/
  begun : Bool := false
  /-- Whether there was a start marker. -/
  startSeen : Bool := false
  /-- Whether there was an end marker. -/
  endSeen : Bool := false
  deriving DecidableEq, Repr, Inhabited

/-- Checks the remaining lines of a document. -/
def checkMarkersFrom (state : MarkerState) : List Line → List Diagnostic
  | [] => []
  | line :: rest =>
    let isLast := rest.isEmpty
    let here : List Rule :=
      match line.marker? with
      | some .start => if state.begun && !state.startSeen then [.misplacedStart] else []
      | some .finish => if isLast then [] else [.misplacedEnd]
      | none => []
    let closing : List Rule :=
      if isLast && state.endSeen && line.marker? ≠ some .finish then [.endNotLastLine] else []
    let state' : MarkerState :=
      { begun := true
        startSeen := state.startSeen || line.marker? = some .start
        endSeen := state.endSeen || line.marker? = some .finish }
    (here ++ closing).map (Diagnostic.ofRule line.number) ++ checkMarkersFrom state' rest

/-- The findings on the markers of a document. -/
def checkMarkers (lines : List Line) : List Diagnostic :=
  checkMarkersFrom {} lines

end StructuralLint
