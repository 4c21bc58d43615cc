import StructuralLint.Document.Source

/-!
# Scanning a reader for lines

A reader yields its bytes in pieces of whatever size it likes, and then ends or fails, with the last
piece or by a read of its own. A scanner keeps what was read in a buffer of bounded size and gives it
out line by line, each with its number. It reads only when there is no whole line in the buffer, so
that the last answers may come long after the last read.

`Scanner.nextLine` is one call and `Scanner.readLines` is all of them. Only a line that does not fit
the buffer makes a difference between the two: `readLines` stops there, and the next call after it
gives out the full buffer as one more line. A line that just fills the buffer does not fit, unless the
reader has ended with it.
-/

namespace StructuralLint

/-- What yields a document in pieces. -/
structure Reader where
  /-- The bytes still to come. -/
  bytes : List UInt8
  /-- The message of the failure after them; `none` for a proper end. -/
  failure : Option Text := none
  /-- How many bytes the next reads yield beyond the first one, if there is room for them. Later
  reads yield all there is room for. -/
  sizes : List Nat := []
  /-- Whether the end or the failure comes together with the last bytes. Otherwise it takes a read of
  its own. -/
  endsWithLast : Bool := false
  deriving DecidableEq, Repr, Inhabited

/-- Why a scanner reads no further. -/
inductive Stop where
  /-- The reader has ended. -/
  | atEnd
  /-- The reader has failed, or the buffer is full. -/
  | error (cause : ReadError)
  deriving DecidableEq, Repr

namespace Reader

/-- The reader that yields a source in pieces as large as possible. -/
def ofSource (source : Source) : Reader where
  bytes := source.text.toBytes
  failure := source.failure

/-- The number of bytes that the next read yields at most. -/
def size (r : Reader) (room : Nat) : Nat :=
  match r.sizes with
  | [] => room
  | n :: _ => min (n + 1) room

/-- The reader after it has yielded some bytes. -/
def advance (r : Reader) (n : Nat) : Reader :=
  { r with bytes := r.bytes.drop n, sizes := r.sizes.tail }

/-- How the reader stops after its last byte. -/
def ending (r : Reader) : Stop :=
  match r.failure with
  | some message => .error (.failed message)
  | none => .atEnd

end Reader

/-- Gives out the lines of a reader. -/
structure Scanner where
  /-- What is read. -/
  reader : Reader
  /-- What was read and not yet given out. -/
  buffer : List UInt8 := []
  /-- Why nothing more is read, once that is so. -/
  stop? : Option Stop := none
  /-- The number of lines given out. -/
  count : Int64 := 0
  deriving DecidableEq, Repr

namespace Scanner

/-- One answer of a scanner. -/
structure Answer where
  /-- The line; where there is none, the number of lines as index and an empty text. -/
  line : Line
  /-- Whether there is a line. -/
  isLine : Bool
  /-- The error as it is known after this call. -/
  error : Option ReadError
  deriving DecidableEq, Repr

/-- A scanner that has read nothing. -/
def ofReader (r : Reader) : Scanner :=
  { reader := r }

/-- The error that has stopped the reading; the end of the reader is none. -/
def error? (s : Scanner) : Option ReadError :=
  match s.stop? with
  | some (.error cause) => some cause
  | _ => none

/-- The first line of some bytes and what stands after it. Without a line feed there is a line only
where no more bytes will come and there are some. -/
def firstLine? (isAll : Bool) (bytes : List UInt8) : Option (List UInt8 × List UInt8) :=
  match bytes.dropWhile (· ≠ 0x0A) with
  | _ :: rest => some (bytes.takeWhile (· ≠ 0x0A), rest)
  | [] => if isAll && !bytes.isEmpty then some (bytes, []) else none

/-- The text of a line: its bytes without one carriage return at the end. -/
def lineText (line : List UInt8) : Text :=
  Line.dropFinal '\r' (Text.ofBytes line)

/-- Reads once, into what room there is in the buffer. -/
def fill (s : Scanner) : Scanner :=
  if s.reader.bytes.isEmpty then
    { s with stop? := some s.reader.ending }
  else
    let n := s.reader.size (Source.lineLimit - s.buffer.length)
    let reader := s.reader.advance n
    { s with
      reader, buffer := s.buffer ++ s.reader.bytes.take n
      stop? := if reader.endsWithLast && reader.bytes.isEmpty then some reader.ending else s.stop? }

/-- What a scanner may still do before it reads no further. -/
def reads (s : Scanner) : Nat :=
  s.reader.bytes.length + (if s.stop?.isNone then 1 else 0)

theorem reads_le (s : Scanner) : s.reads ≤ s.reader.bytes.length + 1 := by
  rw [reads]
  split <;> omega

theorem reads_fill_lt {s : Scanner} (hstop : s.stop? = none)
    (hroom : s.buffer.length < Source.lineLimit) : s.fill.reads < s.reads := by
  have hsize : 0 < s.reader.size (Source.lineLimit - s.buffer.length) := by
    rw [Reader.size]
    split <;> omega
  rw [fill]
  split
  · next h => simp [reads, hstop, List.isEmpty_iff.1 h]
  · next h =>
    have hpos : 0 < s.reader.bytes.length := by
      simpa [List.length_pos_iff] using h
    refine Nat.lt_of_le_of_lt (reads_le _) ?_
    simp only [reads, hstop, Option.isNone_none, if_true, Reader.advance, List.length_drop]
    omega

/-- The text of the next line, if there is one. -/
def scan (s : Scanner) : Option Text × Scanner :=
  match firstLine? s.stop?.isSome s.buffer with
  | some (line, rest) => (some (lineText line), { s with buffer := rest })
  | none =>
    if hstop : s.stop? = none then
      if hroom : s.buffer.length < Source.lineLimit then
        have := reads_fill_lt hstop hroom
        s.fill.scan
      else (none, { s with stop? := some (.error .lineTooLong) })
    else (none, s)
termination_by s.reads

/-- The next line with its number. -/
def nextLine (s : Scanner) : Answer × Scanner :=
  match s.scan with
  | (some text, s) => (⟨⟨s.count, text⟩, true, s.error?⟩, { s with count := s.count + 1 })
  | (none, s) => (⟨⟨s.count, []⟩, false, s.error?⟩, s)

/-- The answers to some calls. -/
def answers (s : Scanner) : (calls : Nat) → List Answer
  | 0 => []
  | calls + 1 => s.nextLine.1 :: s.nextLine.2.answers calls

/-- What is left to give out. -/
def rest (s : Scanner) : List UInt8 :=
  s.buffer ++ s.reader.bytes

/-- Reading loses nothing and gives out nothing. -/
@[simp] theorem rest_fill (s : Scanner) : s.fill.rest = s.rest := by
  rw [fill]
  split
  · rfl
  · simp [rest, Reader.advance]

theorem length_lt_of_firstLine? {isAll : Bool} {bytes line rest : List UInt8}
    (h : firstLine? isAll bytes = some (line, rest)) : rest.length < bytes.length := by
  rw [firstLine?] at h
  split at h
  · next hdrop =>
    cases h
    have hle := (List.dropWhile_suffix (l := bytes) (· ≠ 0x0A)).length_le
    rw [hdrop, List.length_cons] at hle
    omega
  · split at h
    · next hall =>
      cases h
      rw [Bool.and_eq_true, Bool.not_eq_true', List.isEmpty_eq_false_iff] at hall
      exact List.length_pos_iff.2 hall.2
    · cases h

/-- A line is taken from what is left. -/
theorem length_rest_lt_of_scan {s s' : Scanner} {text : Text} (h : s.scan = (some text, s')) :
    s'.rest.length < s.rest.length := by
  fun_induction scan s with
  | case1 s line rest hline =>
    cases h
    have hlt := length_lt_of_firstLine? hline
    simp only [Scanner.rest, List.length_append]
    omega
  | case2 s _ _ _ _ ih => simpa using ih h
  | case3 | case4 => cases h

theorem length_rest_nextLine_lt {s : Scanner} (h : s.nextLine.1.isLine = true) :
    s.nextLine.2.rest.length < s.rest.length := by
  rw [nextLine] at h ⊢
  rcases hscan : s.scan with ⟨- | text, s'⟩
  · simp [hscan] at h
  · have hlt := length_rest_lt_of_scan hscan
    exact hlt

/-- All lines up to the first call that gives none, with the error as it is then. -/
def readLines (s : Scanner) : List Line × Option ReadError :=
  if h : s.nextLine.1.isLine then
    have := length_rest_nextLine_lt h
    let (lines, error) := s.nextLine.2.readLines
    (s.nextLine.1.line :: lines, error)
  else ([], s.nextLine.1.error)
termination_by s.rest.length

end Scanner

end StructuralLint
