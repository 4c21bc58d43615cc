import StructuralLint.Command.Crew
import StructuralLint.Command.Dump
import StructuralLint.Command.Help
import StructuralLint.Command.Outcome

/-!
# Running the program

A run reads its flags, and then shows help, dumps outlines or lints. Help is asked for by a flag
or by the command `help`, which is a command only as the first operand and which itself takes a
topic: the only topic there is is `help`. How the workers share the documents and standard input is
not the program's choice, so a run is given a schedule.
-/

namespace StructuralLint

namespace Plan

/-- The entry that ends a run. -/
def finishedEntry (s : Summary) : LogEntry :=
  ⟨.info, "lint finished",
    [("files", .count s.files), ("diagnostics", .count s.diagnostics), ("fatal", .count s.fatal)]⟩

/-- Writes the reports of documents and gives the verdict. -/
def report (p : Plan) (sink : Sink) (entries : List LogEntry) (reports : List Report) : Outcome :=
  match render sink p.format reports with
  | (sink, some e) =>
    { result := .error (.rendering e), output := sink, logger := some p.logger, entries }
  | (sink, none) =>
    let summary := Summary.ofReports reports
    { result := .ok (if summary.hasErrors then .findings else .clean), output := sink,
      logger := some p.logger, entries := entries ++ [finishedEntry summary] }

/-- What becomes of the documents when a crew lints them. -/
def results (p : Plan) (s : Schedule) (w : World) : List TaskResult :=
  s.results p.fileLinter w p.settings.workers.toInt.toNat p.tasks

/-- Lints the documents. -/
def lint (p : Plan) (s : Schedule) (w : World) (sink : Sink) : Outcome :=
  let done := p.results s w
  let entries := p.resolvedEntry :: done.flatMap TaskResult.entries
  match TaskResult.collect p.tasks done with
  | .error e => { result := .error (.file e), output := sink, logger := some p.logger, entries }
  | .ok reports => p.report sink entries reports

/-- The lines of a document, and the world after it was read. -/
def linesOf (p : Plan) (w : World) (name : Text) : World × Except CommandError (List Line) :=
  if name = stdinName then
    match w.input.read with
    | (_, some e) => (w.drainInput, .error (.unreadInput e))
    | (lines, none) => (w.drainInput, .ok lines)
  else (w, (p.fileLinter.readLines w name).mapError (.unreadFile name))

/-- Dumps the outlines of documents up to the first that has none: the sink then, and what went
wrong. -/
def dumpAll (p : Plan) (w : World) (sink : Sink) : List Text → Sink × Option CommandError
  | [] => (sink, none)
  | name :: rest =>
    match p.linesOf w name with
    | (_, .error e) => (sink, some e)
    | (w', .ok lines) =>
      match p.linter.outline lines with
      | .error e => (sink, some (.noOutline name e))
      | .ok outline => p.dumpAll w' (sink.writeAny (Dump.pieces name outline)) rest

/-- Dumps the outlines of the documents. A refused piece is no failure. -/
def dump (p : Plan) (w : World) (sink : Sink) : Outcome :=
  let (sink, failure) := p.dumpAll w sink p.names
  { result := match failure with
      | some e => .error e
      | none => .ok .clean
    output := sink, logger := some p.logger, entries := [p.resolvedEntry] }

/-- Carries out a plan. -/
def execute (p : Plan) (s : Schedule) (w : World) (sink : Sink) : Outcome :=
  if p.isDump then p.dump w sink else p.lint s w sink

end Plan

namespace Command

/-- Whether an operand is the help command. -/
def isHelp (operand : Text) : Bool :=
  operand = Text.ofString "help" || operand = Text.ofString "h"

/-- Shows a help text, as much of it as is taken. -/
def showHelp (sink : Sink) (lines : List Help.Line) : Outcome where
  result := .ok .clean
  output := (sink.writeAll (Help.pieces lines)).1

/-- Refuses a topic. -/
def refuseTopic (sink : Sink) (topic : Text) : Outcome where
  result := .error (.noHelpTopic topic)
  output := sink

/-- Explains a usage error and then shows a help text. -/
def refuseUsage (sink : Sink) (error : UsageError) (lines : List Help.Line) : Outcome where
  result := .error (.usage error)
  output :=
    let headed := sink.writeAny
      [Text.ofString "Incorrect Usage: " ++ error.message ++ Text.ofString "\n\n"]
    (headed.writeAll (Help.pieces lines)).1

/-- Shows help about the topic that the operands start with: `none` for no topic. -/
def helpAbout (sink : Sink) (operands : List Text) (noTopic helpTopic : List Help.Line) :
    Outcome :=
  match operands.head?.filter (· ≠ []) with
  | none => showHelp sink noTopic
  | some topic => if isHelp topic then showHelp sink helpTopic else refuseTopic sink topic

/-- The help text of the help command without a topic; inside itself it is its own topic. -/
def ownHelp (isNested : Bool) : List Help.Line :=
  if isNested then Help.command else Help.program

/-- The help command, on the arguments after it. `isNested` says whether it was itself asked for
by the help command. -/
def help (sink : Sink) (isNested : Bool) (arguments : List Text) : Outcome :=
  match _h : Flag.parse [.help] arguments with
  | .error e => refuseUsage sink e Help.commandWithCommands
  | .ok (uses, operands) =>
    if Flag.isOn uses .help then
      helpAbout sink operands (ownHelp isNested) Help.commandWithCommands
    else
      match operands with
      | [] => showHelp sink (ownHelp isNested)
      | first :: rest =>
        if isHelp first then help sink true rest
        else helpAbout sink operands (ownHelp isNested) Help.commandWithCommands
termination_by arguments.length
decreasing_by
  have hlen := (Flag.suffix_of_parse _h).length_le
  simp only [List.length_cons] at hlen
  omega

/-- Makes a plan and carries it out. -/
def lintOrDump (s : Schedule) (w : World) (sink : Sink) (uses : List FlagUse)
    (operands : List Text) : Outcome :=
  match Plan.make w uses operands with
  | .error e => { result := .error e, output := sink }
  | .ok p => p.execute s w sink

/-- Runs the program on its arguments under a schedule. -/
def runWith (s : Schedule) (w : World) (sink : Sink) (arguments : List Text) : Outcome :=
  match Flag.parse Flag.all arguments with
  | .error e => refuseUsage sink e Help.program
  | .ok (uses, operands) =>
    if Flag.isOn uses .help then helpAbout sink operands Help.program Help.command
    else
      match operands with
      | [] => lintOrDump s w sink uses operands
      | first :: rest =>
        if isHelp first then help sink false rest else lintOrDump s w sink uses operands

/-- Runs the program on its arguments. Where several documents are standard input, they take turns with
pieces as large as the buffer that reading starts with, of 65536 bytes. -/
def run (w : World) (sink : Sink) (arguments : List Text) : Outcome :=
  runWith (.inTurn 65535) w sink arguments

end Command

end StructuralLint
