import StructuralLint.Document.Line
import StructuralLint.Text.Utf8

/-!
# Sources of lines

A source yields some text and then ends or fails. Reading it line by line drops the line feed
and one carriage return before it; an empty rest is no line. A line of `lineLimit` bytes or
more stops the reading. When the source fails, what it had yielded of an unfinished line is still
a line.

`Source.read` gives all lines with the error, if any; `StructuralLint.Document.Scanner` has the same
stream one call at a time.
-/

namespace StructuralLint

/-- What yields a document: some text, and then the end or a failure. -/
structure Source where
  /-- The text that can be read. -/
  text : Text
  /-- The message of the failure after the text; `none` for a proper end. -/
  failure : Option Text := none
  deriving DecidableEq, Repr, Inhabited

/-- Why reading stopped before the end. -/
inductive ReadError where
  /-- A line does not fit into the line buffer. -/
  | lineTooLong
  /-- The source itself failed. -/
  | failed (message : Text)
  deriving DecidableEq, Repr

/-- The wording of a reading error. -/
def ReadError.message : ReadError → Text
  | lineTooLong => "bufio.Scanner: token too long"
  | failed m => m

namespace Source

/-- The number of bytes that is too many for one line. -/
def lineLimit : Nat := 1048576

/-- Whether a piece between line feeds is too long to be a line. -/
def isTooLong (piece : Text) : Bool :=
  lineLimit ≤ piece.size

/-- The pieces that are lines of their own: all but an empty rest after the last line feed. -/
def pieces (source : Source) : List Text :=
  let all := Text.splitOn '\n' source.text
  if all.getLast? = some [] then all.dropLast else all

/-- The texts of the lines that can be read: those before the first one that is too long. -/
def texts (source : Source) : List Text :=
  (source.pieces.takeWhile (fun p => !isTooLong p)).map (Line.dropFinal '\r')

/-- What stops the reading, if it is not the end of the text. -/
def error? (source : Source) : Option ReadError :=
  if source.pieces.any isTooLong then some .lineTooLong
  else source.failure.map .failed

/-- All lines that can be read, and what stopped the reading. -/
def read (source : Source) : List Line × Option ReadError :=
  (Line.ofTexts source.texts, source.error?)

/-- The number of bytes that reading takes: all of them, or the lines before the first one that
is too long and a full line buffer of that one. -/
def consumed (source : Source) : Nat :=
  if source.pieces.any isTooLong then
    (source.pieces.takeWhile (fun p => !isTooLong p)).foldl (fun n p => n + p.size + 1) lineLimit
  else source.text.size

/-- What is left of a source after it was read. -/
def rest (source : Source) : Source :=
  { source with text := Text.ofBytes (source.text.toBytes.drop source.consumed) }

end Source

end StructuralLint
