import StructuralLint.Log.Entry

/-!
# A linter in use

One linter whose settings are changed between documents. The state is the settings and whether
entries are recorded; nothing of a document is kept.
-/

namespace StructuralLint

/-- A linter and its logger. -/
structure Session where
  /-- The current settings. -/
  linter : Linter := {}
  /-- Whether log entries are kept. -/
  isRecording : Bool := false

/-- What can be asked of a linter in use. -/
inductive Request where
  /-- Switch the zero-indent fallback. -/
  | setZeroIndentFallback (on : Bool)
  /-- Switch positional numbering. -/
  | setLegacyLineNumbers (on : Bool)
  /-- Choose which lines are comments. -/
  | setComment (isComment : Text → Bool)
  /-- Start or stop recording. -/
  | setRecording (on : Bool)
  /-- Classify lines one by one. -/
  | classify (lines : List Line)
  /-- Build an outline. -/
  | build (lines : List Line)
  /-- Lint lines. -/
  | lint (lines : List Line)
  /-- Lint an in-memory document. -/
  | lintText (document : Text)
  /-- Lint a source. -/
  | lintSource (source : Source)

/-- What a request is answered with. -/
inductive Response where
  /-- A setting was changed. -/
  | done
  /-- One result per line. -/
  | classified (results : List (Except TabError (Option Node)))
  /-- The outline, or the tab that prevents it. -/
  | built (result : Except TabError Outline)
  /-- The findings. -/
  | linted (diagnostics : List Diagnostic)
  /-- The source could not be read. -/
  | unreadable (error : ReadError)

namespace Session

/-- The entries of one linted document, if they are recorded. -/
def entries (s : Session) (trace : Trace) : List LogEntry :=
  if s.isRecording then [trace.entry] else []

/-- Lints lines within a session. -/
def lintLines (s : Session) (lines : List Line) : Response × List LogEntry :=
  let (diagnostics, trace) := s.linter.lintTraced lines
  (.linted diagnostics, s.entries trace)

/-- Answers a request that changes no setting. -/
def answer (s : Session) : Request → Response × List LogEntry
  | .classify lines => (.classified (lines.map s.linter.classify), [])
  | .build lines => (.built (s.linter.outline lines), [])
  | .lint lines => s.lintLines lines
  | .lintText document => s.lintLines (Line.split document)
  | .lintSource source =>
    match source.read with
    | (_, some e) => (.unreadable e, [])
    | (lines, none) => s.lintLines lines
  | _ => (.done, [])

/-- The session after a request. -/
def update (s : Session) : Request → Session
  | .setZeroIndentFallback on => { s with linter.zeroIndentFallback := on }
  | .setLegacyLineNumbers on => { s with linter.legacyLineNumbers := on }
  | .setComment isComment => { s with linter.isComment := isComment }
  | .setRecording on => { s with isRecording := on }
  | _ => s

/-- Answers requests one after the other. -/
def run (s : Session) : List Request → List (Response × List LogEntry)
  | [] => []
  | r :: rs => s.answer r :: (s.update r).run rs

end Session

end StructuralLint
