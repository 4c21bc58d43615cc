import StructuralLint.Command.Flag

/-!
# Help texts

A help text is made of lines; the lines that list flags have two columns. Writing one offers each
cell, the blanks between the columns and each line break as a piece of its own.
-/

namespace StructuralLint.Help

/-- A line of a help text. -/
inductive Line where
  /-- A plain line. -/
  | plain (t : String)
  /-- A line of two columns. -/
  | columns (left right : String)
  deriving DecidableEq, Repr

/-- The left column of a flag. -/
def flagColumn (f : Flag) : String :=
  let placeholder := if f.kind = .switch then "" else " value"
  let spelled (n : String) : String :=
    (if n.length = 1 then "-" else "--") ++ n ++ placeholder
  "   " ++ String.intercalate ", " (f.names.map spelled)

/-- The line of a flag. -/
def flagLine (f : Flag) : Line :=
  .columns (flagColumn f) f.purpose

/-- The line of the help command in a list of commands. -/
def commandLine : Line :=
  .plain "   help, h  Shows a list of commands or help for one command"

/-- The help text of the program. -/
def program : List Line :=
  [.plain "NAME:", .plain "   yamlint - check YAML documents for structural defects", .plain "",
   .plain "USAGE:", .plain "   yamlint [global options] command [command options] [PATH...]",
   .plain "", .plain "COMMANDS:", commandLine, .plain "", .plain "GLOBAL OPTIONS:"] ++
    Flag.all.map flagLine

/-- The first lines of the help text of the help command. -/
def commandHead : List Line :=
  [.plain "NAME:", .plain "    help - Shows a list of commands or help for one command",
   .plain "", .plain "USAGE:", .plain "    help [command options] [command]", .plain ""]

/-- The help text of the help command. -/
def command : List Line :=
  commandHead ++ [.plain "OPTIONS:", flagLine .help]

/-- The help text of the help command that lists its commands too. -/
def commandWithCommands : List Line :=
  commandHead ++
    [.plain "COMMANDS:", commandLine, .plain "", .plain "OPTIONS:", flagLine .help]

/-- The width of the left column. -/
def columnWidth (lines : List Line) : Nat :=
  lines.foldl
    (fun n l =>
      match l with
      | .columns left _ => max n (left.length + 2)
      | .plain _ => n)
    0

/-- Blanks in pieces of at most eight. -/
def blanks (n : Nat) : List Text :=
  (List.replicate (n / 8) (List.replicate 8 (Rune.char ' '))) ++
    (if n % 8 = 0 then [] else [List.replicate (n % 8) (Rune.char ' ')])

/-- The pieces of a line. -/
def linePieces (width : Nat) : Line → List Text
  | .plain t => (if t.isEmpty then [] else [Text.ofString t]) ++ [Text.ofString "\n"]
  | .columns left right =>
    Text.ofString left :: blanks (width - left.length) ++ [Text.ofString right, Text.ofString "\n"]

/-- The pieces of a help text. -/
def pieces (lines : List Line) : List Text :=
  lines.flatMap (linePieces (columnWidth lines))

end StructuralLint.Help
