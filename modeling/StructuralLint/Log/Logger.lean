import StructuralLint.Log.Entry

/-!
# Loggers

A logger keeps the entries at its level and above. Outside development it also thins out
repetition: of the entries with one level and one message it keeps the first hundred and then
every hundredth.
-/

namespace StructuralLint

/-- What a log keeps, and how it is written. -/
structure Logger where
  /-- The least level that is kept. -/
  threshold : Level
  /-- Whether entries are written for reading, and all of them. -/
  isDevelopment : Bool
  deriving DecidableEq, Repr

namespace Logger

/-- How many like entries are kept before thinning starts, and the stride from then on. -/
def repetitionLimit : Nat := 100

/-- Whether an entry that has `n` like entries before it is kept. -/
def isRepetitionKept (n : Nat) : Bool :=
  n < repetitionLimit || (n + 1) % repetitionLimit = 0

/-- Whether two entries count as repetitions of each other. -/
def isLike (a b : LogEntry) : Bool :=
  a.level = b.level && a.message = b.message

/-- Thins out entries after some earlier ones. -/
def thinnedAfter (earlier : List LogEntry) : List LogEntry → List LogEntry
  | [] => []
  | e :: es =>
    let rest := thinnedAfter (e :: earlier) es
    if isRepetitionKept (earlier.countP (isLike e)) then e :: rest else rest

/-- The entries that a logger keeps. -/
def kept (l : Logger) (entries : List LogEntry) : List LogEntry :=
  let passing := LogEntry.passing l.threshold entries
  if l.isDevelopment then passing else thinnedAfter [] passing

end Logger

end StructuralLint
