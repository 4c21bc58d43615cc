import StructuralLint.Settings.Convert

/-!
# Settings

What can be configured, and where each setting comes from: the environment first, then the
configuration file, then the defaults. Settings have dotted names. In the environment `log.level`
is `YAMLINT_LOG_LEVEL`, and an empty variable counts as absent. In a file it is the entry
`log.level` or the entry `level` of `log`.

A setting is hidden by one that should contain it and does not: if `log` itself is in the
environment, or is something other than a map in the file, then `log.level` is nothing at all,
not even its default.
-/

namespace StructuralLint

/-- The resolved settings. -/
structure Settings where
  /-- The name of the output format. -/
  format : Text := "text"
  /-- The file extensions to look for. -/
  extensions : List Text := [".yaml", ".yml"]
  /-- Whether structural findings are numbered by position. -/
  legacyLineNumbers : Bool := false
  /-- Whether unindented lines have indent one. -/
  zeroIndentFallback : Bool := true
  /-- The name of the log level. -/
  logLevel : Text := "warn"
  /-- Whether log entries are written for reading. -/
  logDevelopment : Bool := false
  /-- The number of files linted at a time. -/
  workers : Int64 := 4
  deriving DecidableEq, Repr, Inhabited

namespace Settings

/-- The name of a setting: one part, or a part of something. -/
inductive Name where
  | top (part : String)
  | nested (outer part : String)
  deriving DecidableEq, Repr

/-- The environment variable for the parts of a name. -/
def variableName (parts : List String) : Text :=
  ("YAMLINT_" ++ String.intercalate "_" parts).toUpper

/-- Where settings are looked up. -/
structure Sources where
  /-- The environment variables. -/
  environment : List (Text × Text)
  /-- The entries of the configuration file, under lower-case keys. -/
  entries : List (Text × Value)

/-- The value of a variable that is there and not empty. -/
def Sources.variableOf (s : Sources) (parts : List String) : Option Text :=
  (s.environment.lookup (variableName parts)).filter (· ≠ [])

/-- An entry that is there and not null. -/
def entryOf (entries : List (Text × Value)) (key : Text) : Option Value :=
  (entries.lookup key).filter fun v => !v.isNull

/-- The entry for a name below another: under the dotted key, or else inside the outer map. -/
def nestedEntry (entries : List (Text × Value)) (outer part : String) : Option Value :=
  match entryOf entries (Text.ofString (outer ++ "." ++ part)) with
  | some v => some v
  | none =>
    match entryOf entries (Text.ofString outer) with
    | some (.map inner) => entryOf inner (Text.ofString part)
    | _ => none

/-- Whether an outer name is in the file and is no map. -/
def isHidden (entries : List (Text × Value)) (outer : String) : Bool :=
  match entryOf entries (Text.ofString outer) with
  | none | some (.map _) => false
  | some _ => true

/-- The value of a setting: `default` unless something says otherwise. -/
def Sources.find (s : Sources) (name : Name) (default : Value) : Value :=
  match name with
  | .top part =>
    match s.variableOf [part] with
    | some t => .str t
    | none => (entryOf s.entries (Text.ofString part)).getD default
  | .nested outer part =>
    match s.variableOf [outer, part] with
    | some t => .str t
    | none =>
      if (s.variableOf [outer]).isSome then .null
      else
        match nestedEntry s.entries outer part with
        | some v => v
        | none => if isHidden s.entries outer then .null else default

/-- The settings that the sources give. At least one file is linted at a time. -/
def ofSources (s : Sources) : Settings :=
  let base : Settings := {}
  let workers := (s.find (.top "workers") (.scalar (.int base.workers.toInt))).count
  { format := (s.find (.top "format") (.str base.format)).text
    extensions := (s.find (.top "extensions") (.list (base.extensions.map .str))).texts
    legacyLineNumbers :=
      (s.find (.top "legacy_line_numbers") (.scalar (.bool base.legacyLineNumbers))).flag
    zeroIndentFallback :=
      (s.find (.top "zero_indent_fallback") (.scalar (.bool base.zeroIndentFallback))).flag
    logLevel := (s.find (.nested "log" "level") (.str base.logLevel)).text
    logDevelopment :=
      (s.find (.nested "log" "development") (.scalar (.bool base.logDevelopment))).flag
    workers := if workers < 1 then 1 else workers }

end Settings

end StructuralLint
