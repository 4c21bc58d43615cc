import StructuralLint.Log.Entry
import StructuralLint.Text.Quoted

/-!
# Written log entries

A log entry is written on one line: for machines as a JSON object that starts with its level and
message, for reading as level, message and fields with tabs between them. The fields are members
of an object in the order they were logged; for reading, a blank follows each colon and comma.
-/

namespace StructuralLint

/-- How a rune is written between the quotes of a logged text. -/
def Rune.logged : Rune → List Char
  | .stray _ => "\\ufffd".toList
  | .char c =>
    if c == '"' || c == '\\' then ['\\', c]
    else if c == '\n' then ['\\', 'n']
    else if c == '\r' then ['\\', 'r']
    else if c == '\t' then ['\\', 't']
    else if c.toNat < 0x20 then '\\' :: 'u' :: hexDigits 4 c.toNat
    else [c]

/-- A logged text in quotes. -/
def Text.logged (t : Text) : Text :=
  .char '"' :: (t.flatMap (fun r => r.logged.map Rune.char) ++ [.char '"'])

/-- A logged value. -/
def FieldValue.logged : FieldValue → Text
  | count n => Text.ofInt n
  | text t => t.logged

namespace LogEntry

/-- An object with the given members and separators. -/
def objectText (colon comma : String) (members : List (String × FieldValue)) : Text :=
  let written := members.map fun (name, value) =>
    (Text.ofString name).logged ++ Text.ofString colon ++ value.logged
  .char '\x7b' :: (Text.joinWith (Text.ofString comma) written ++ [.char '\x7d'])

/-- The level as it is shown to a reader. -/
def levelText (e : LogEntry) : String :=
  e.level.name.toUpper

/-- The fields as they are shown to a reader. -/
def fieldsText (e : LogEntry) : Text :=
  objectText ": " ", " e.fields

/-- The line of an entry for reading. -/
def readableLine (e : LogEntry) : Text :=
  Text.joinWith [.char '\t']
    [Text.ofString e.levelText, Text.ofString e.message, e.fieldsText]

/-- The line of an entry for machines. -/
def jsonLine (e : LogEntry) : Text :=
  objectText ":" ","
    (("level", .text (Text.ofString e.level.name)) :: ("msg", .text (Text.ofString e.message)) ::
      e.fields)

end LogEntry

end StructuralLint
