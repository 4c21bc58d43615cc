import Mathlib
import StructuralLint.Proofs.Command.Plan

/-!
# Layered settings

Each setting has a flag, a variable of the environment and an entry of the configuration file of its own,
and a default; some have no flag. The value in force is meant to be that of the first of these layers which
has one (`Sources.layered`). The seven settings differ in their names, in their types and in what their
flags mean, so they are listed once (`Key`), and everything is stated for every key.

**An outer name hides an inner one.** The settings `log.level` and `log.development` are looked up below
`log`. Where `log` has a variable, or is something other than a map in the file, the look-up ends there
with nothing, without a look at the layers below (`Sources.Hides`). So the log level is not its default but
the empty name when `log` has a variable that no setting is read from (`outer_variable_hides_level`).

`find_of_not_hides` says that nothing else stands between the layers and the look-up, and
`settings_layered` that the settings in force are therefore layered key by key wherever nothing is hidden:
what is given for another key does not matter.
-/

namespace StructuralLint

namespace Settings

/-! ### The layers of one name -/

/-- The parts of a name. -/
def Name.parts : Name → List String
  | top part => [part]
  | nested outer part => [outer, part]

/-- The entry of a map. -/
def innerEntry (part : String) : Value → Option Value
  | .map inner => entryOf inner (Text.ofString part)
  | _ => none

/-- The entry of a name in a file. That of a part is found under both names with a dot between them, or
else in the map under the outer name. -/
def ownEntry (entries : List (Text × Value)) : Name → Option Value
  | .top part => entryOf entries (Text.ofString part)
  | .nested outer part =>
    (entryOf entries (Text.ofString (outer ++ "." ++ part))).or
      ((entryOf entries (Text.ofString outer)).bind (innerEntry part))

theorem nestedEntry_eq (entries : List (Text × Value)) (outer part : String) :
    nestedEntry entries outer part = ownEntry entries (.nested outer part) := by
  rw [nestedEntry, ownEntry]
  rcases entryOf entries (Text.ofString (outer ++ "." ++ part)) with - | v
  · rcases entryOf entries (Text.ofString outer) with - | (_ | _ | _) <;> rfl
  · rfl

namespace Sources

/-- **The value of the first layer that has one**: the variable, the entry, the default. -/
def layered (s : Sources) (name : Name) (default : Value) : Value :=
  ((s.variableOf name.parts).map .str).getD ((ownEntry s.entries name).getD default)

/-- **The outer name hides the inner one**, which has no variable of its own. -/
inductive Hides (s : Sources) : Name → Prop
  /-- The outer name has a variable. -/
  | outerVariable {outer part : String} (hown : s.variableOf [outer, part] = none)
      (h : (s.variableOf [outer]).isSome = true) : Hides s (.nested outer part)
  /-- The outer name has an entry that is no map, and the inner one has none. -/
  | outerEntry {outer part : String} {v : Value} (hown : s.variableOf [outer, part] = none)
      (hentry : ownEntry s.entries (.nested outer part) = none)
      (h : entryOf s.entries (Text.ofString outer) = some v) (hmap : ∀ inner, v ≠ .map inner) :
      Hides s (.nested outer part)

variable {s : Sources} {name : Name}

theorem isHidden_iff {entries : List (Text × Value)} {outer : String} :
    isHidden entries outer = true ↔
      ∃ v, entryOf entries (Text.ofString outer) = some v ∧ ∀ inner, v ≠ .map inner := by
  rw [isHidden]
  rcases entryOf entries (Text.ofString outer) with - | (_ | _ | _) <;> simp

/-- A name that is hidden has no value, not even its default. -/
theorem find_of_hides (h : s.Hides name) (default : Value) : s.find name default = .null := by
  cases h with
  | outerVariable hown h => rw [find, hown, if_pos h]
  | outerEntry hown hentry h hmap =>
    rw [find, hown, nestedEntry_eq, hentry]
    simp only [isHidden_iff.2 ⟨_, h, hmap⟩, if_true, ite_self]

/-- **A name that is not hidden is looked up layer by layer.** -/
theorem find_of_not_hides (h : ¬ s.Hides name) (default : Value) :
    s.find name default = s.layered name default := by
  cases name with
  | top part =>
    rw [find, layered, Name.parts]
    rcases s.variableOf [part] with - | t <;> rfl
  | nested outer part =>
    rw [find, layered, Name.parts, nestedEntry_eq]
    rcases hown : s.variableOf [outer, part] with - | t
    · have hvariable : ¬ (s.variableOf [outer]).isSome = true := fun hsome ↦ h (.outerVariable hown hsome)
      rw [if_neg hvariable]
      rcases hentry : ownEntry s.entries (.nested outer part) with - | v
      · have hmap : ¬ isHidden s.entries outer = true := by
          rw [isHidden_iff]
          rintro ⟨v, hv, hmap⟩
          exact h (.outerEntry hown hentry hv hmap)
        rw [if_neg hmap]
        rfl
      · rfl
    · rfl

end Sources

/-! ### The settings -/

/-- The settings there are. -/
inductive Key where
  | format
  | extensions
  | legacyLineNumbers
  | zeroIndentFallback
  | logLevel
  | logDevelopment
  | workers
  deriving DecidableEq, Repr

namespace Key

/-- The name of a setting. -/
def name : Key → Name
  | format => .top "format"
  | extensions => .top "extensions"
  | legacyLineNumbers => .top "legacy_line_numbers"
  | zeroIndentFallback => .top "zero_indent_fallback"
  | logLevel => .nested "log" "level"
  | logDevelopment => .nested "log" "development"
  | workers => .top "workers"

/-- The flag of a setting. -/
def flag? : Key → Option Flag
  | format => some .format
  | legacyLineNumbers => some .legacyLineNumbers
  | zeroIndentFallback => some .noZeroIndentFallback
  | logLevel => some .logLevel
  | workers => some .workers
  | extensions | logDevelopment => none

/-- What a setting is, as data, where nothing else is said. -/
def default : Key → Value
  | format => .str "text"
  | extensions => .list [.str ".yaml", .str ".yml"]
  | legacyLineNumbers => .scalar (.bool false)
  | zeroIndentFallback => .scalar (.bool true)
  | logLevel => .str "warn"
  | logDevelopment => .scalar (.bool false)
  | workers => .scalar (.int 4)

/-- The type of a setting. -/
abbrev Setting : Key → Type
  | format | logLevel => Text
  | extensions => List Text
  | legacyLineNumbers | zeroIndentFallback | logDevelopment => Bool
  | workers => Int64

/-- The setting that data stands for. There is at least one worker. -/
def read : (k : Key) → Value → k.Setting
  | format, v | logLevel, v => v.text
  | extensions, v => v.texts
  | legacyLineNumbers, v | zeroIndentFallback, v | logDevelopment, v => v.flag
  | workers, v => if v.count < 1 then 1 else v.count

/-- The setting that a flag gives. The flag for the fallback turns it off, and a number of workers counts
only if it is positive. -/
def given? (uses : List FlagUse) : (k : Key) → Option k.Setting
  | format => Flag.text? uses .format
  | legacyLineNumbers => Flag.switch? uses .legacyLineNumbers
  | zeroIndentFallback => (Flag.switch? uses .noZeroIndentFallback).map (!·)
  | logLevel => Flag.text? uses .logLevel
  | workers => ((Flag.number? uses .workers).filter (0 < ·)).map Int64.ofInt
  | extensions | logDevelopment => none

end Key

/-- The setting of a key. -/
def get (a : Settings) : (k : Key) → k.Setting
  | .format => a.format
  | .extensions => a.extensions
  | .legacyLineNumbers => a.legacyLineNumbers
  | .zeroIndentFallback => a.zeroIndentFallback
  | .logLevel => a.logLevel
  | .logDevelopment => a.logDevelopment
  | .workers => a.workers

theorem get_ofSources (s : Sources) (k : Key) :
    (ofSources s).get k = k.read (s.find k.name k.default) := by
  cases k <;> rfl

theorem get_withFlags (a : Settings) (uses : List FlagUse) (k : Key) :
    (a.withFlags uses).get k = (k.given? uses).getD (a.get k) := by
  cases k <;> rfl

/-! ### The settings in force -/

/-- The entries of the configuration file: the one that a flag names, or else the one that is found. -/
def configured (w : World) (uses : List FlagUse) : Except ConfigError (List (Text × Value)) :=
  let path := (Flag.text? uses .config).getD []
  if path.isEmpty then foundEntries w else entriesOf w path

/-- Where there are no files and no flag names one, nothing is configured. -/
theorem configured_eq_nil {w : World} {uses : List FlagUse}
    (h : ∀ l content, w.files.get? l ≠ some (.file content)) (hconfig : Flag.text? uses .config = none) :
    configured w uses = .ok [] := by
  have hfile : ∀ path, isFile w path = false := by
    intro path
    rw [isFile]
    split
    · next found content hlookup =>
      rcases found with - | l
      · cases World.eq_directory_of_lookUp_none hlookup
      · exact absurd (World.lookUp_eq_ok_some_iff.1 hlookup).2 (h l content)
    · rfl
  have hfound : foundEntries w = .ok [] := by
    rw [foundEntries]
    rcases w.absolute Path.here with - | dir
    · rfl
    · have hnone : (searchedNames.map (Path.join dir)).find? (isFile w) = none :=
        List.find?_eq_none.2 fun path _ ↦ by simp [hfile path]
      simp only [hnone]
  rw [configured, hconfig]
  exact hfound

/-- Where the file can be read, the settings are loaded. -/
theorem inForce_eq {w : World} {uses : List FlagUse} {entries : List (Text × Value)}
    (h : configured w uses = .ok entries) :
    inForce w uses = .ok ((ofSources ⟨w.environment, entries⟩).withFlags uses) := by
  have hload : load w ((Flag.text? uses .config).getD []) = .ok (ofSources ⟨w.environment, entries⟩) := by
    rw [load]
    rw [configured] at h
    rw [h]
  rw [inForce, hload]
  rfl

/-- **Two runs agree on what is given for a key**: on its own flag, variable and entry. -/
structure Key.Agrees (k : Key) (uses uses' : List FlagUse) (s s' : Sources) : Prop where
  /-- The flag, if there is one, has the same value. -/
  value?_eq : ∀ flag, k.flag? = some flag → Flag.value? uses' flag = Flag.value? uses flag
  /-- The variable has the same value. -/
  lookup_eq : s'.environment.lookup (variableName k.name.parts) =
    s.environment.lookup (variableName k.name.parts)
  /-- The entry has the same value. -/
  ownEntry_eq : ownEntry s'.entries k.name = ownEntry s.entries k.name

namespace Key.Agrees

variable {k : Key} {uses uses' : List FlagUse} {s s' : Sources}

theorem given?_eq (h : k.Agrees uses uses' s s') : k.given? uses' = k.given? uses := by
  cases k with
  | extensions | logDevelopment => rfl
  | format | legacyLineNumbers | zeroIndentFallback | logLevel | workers =>
    have hvalue := h.value?_eq _ rfl
    simp only [given?, Flag.text?, Flag.switch?, Flag.number?, hvalue]

theorem layered_eq (h : k.Agrees uses uses' s s') :
    s'.layered k.name k.default = s.layered k.name k.default := by
  rw [Sources.layered, Sources.layered, Sources.variableOf, Sources.variableOf, h.lookup_eq,
    h.ownEntry_eq]

/-- **What is given for other keys does not matter**, if it hides this one in both runs or in neither. -/
theorem get_eq (h : k.Agrees uses uses' s s')
    (hhides : (k.given? uses).isSome = true ∨ (s'.Hides k.name ↔ s.Hides k.name)) :
    ((ofSources s').withFlags uses').get k = ((ofSources s).withFlags uses).get k := by
  rw [get_withFlags, get_withFlags, h.given?_eq]
  rcases hgiven : k.given? uses with - | given
  · have hiff := hhides.resolve_left (by simp [hgiven])
    rw [Option.getD_none, Option.getD_none, get_ofSources, get_ofSources]
    by_cases hs : s.Hides k.name
    · rw [Sources.find_of_hides hs, Sources.find_of_hides (hiff.2 hs)]
    · rw [Sources.find_of_not_hides hs, Sources.find_of_not_hides (hiff.not.2 hs), h.layered_eq]
  · rfl

end Key.Agrees

/-- Only two names are below another. -/
theorem Sources.Hides.eq_or_eq {s : Sources} {k : Key} (h : s.Hides k.name) :
    k = .logLevel ∨ k = .logDevelopment := by
  cases k with
  | logLevel => exact .inl rfl
  | logDevelopment => exact .inr rfl
  | _ => cases h

/-- **Settings are layered key by key.** Where the flags can be understood and the configuration file can be
read, the settings are in force, and every plan is made of them, with at least one worker. A setting has
the value that its flag gives it, or else that of the first of its own layers that has one, unless its outer
name hides it; then it has none, and only the two settings of the log can be hidden. So two runs that agree
on what is given for a key have the same setting in force, whatever is given for other keys, unless these
hide it in one of the runs and not in the other. -/
theorem settings_layered {w : World} {arguments operands : List Text} {uses : List FlagUse}
    {entries : List (Text × Value)} (hparse : Flag.parse Flag.all arguments = .ok (uses, operands))
    (hentries : configured w uses = .ok entries) :
    ∃ a, inForce w uses = .ok a ∧ 1 ≤ a.workers.toInt ∧
      (∀ p, Plan.make w uses operands = .ok p → p.settings = a) ∧
      (∀ k : Key, ¬ Sources.Hides ⟨w.environment, entries⟩ k.name →
        a.get k = (k.given? uses).getD
          (k.read (Sources.layered ⟨w.environment, entries⟩ k.name k.default))) ∧
      (∀ k : Key, Sources.Hides ⟨w.environment, entries⟩ k.name →
        (k = .logLevel ∨ k = .logDevelopment) ∧ a.get k = (k.given? uses).getD (k.read .null)) ∧
      ∀ w' uses' entries' a', configured w' uses' = .ok entries' → inForce w' uses' = .ok a' →
        ∀ k : Key, k.Agrees uses uses' ⟨w.environment, entries⟩ ⟨w'.environment, entries'⟩ →
          ((k.given? uses).isSome = true ∨
            (Sources.Hides ⟨w'.environment, entries'⟩ k.name ↔
              Sources.Hides ⟨w.environment, entries⟩ k.name)) →
          a'.get k = a.get k := by
  have hforce := inForce_eq hentries
  refine ⟨_, hforce, one_le_workers hparse hforce, fun p hp ↦ ?_, fun k hk ↦ ?_, fun k hk ↦ ⟨hk.eq_or_eq, ?_⟩,
    fun w' uses' entries' a' hentries' hforce' k hagrees hhides ↦ ?_⟩
  · obtain ⟨a, format, threshold, names, ha, -, -, -, rfl⟩ := Plan.make_eq_ok_iff.1 hp
    exact Except.ok.inj (ha.symm.trans hforce)
  · rw [get_withFlags, get_ofSources, Sources.find_of_not_hides hk]
  · rw [get_withFlags, get_ofSources, Sources.find_of_hides hk]
  · rw [inForce_eq hentries', Except.ok.injEq] at hforce'
    rw [← hforce']
    exact hagrees.get_eq hhides

/-- A configuration file, and variables of which one belongs to no setting and one is empty. -/
def fourLayers : World where
  files := ⟨[([Text.ofString "c.json"],
    .file (Text.ofString "\x7b\"format\":\"yaml\",\"legacy_line_numbers\":true\x7d"))]⟩
  environment := [(Text.ofString "YAMLINT_LOG", Text.ofString "x"),
    (Text.ofString "YAMLINT_LOG_LEVEL", Text.ofString "error"), (Text.ofString "YAMLINT_EXTENSIONS", [])]

/-- A flag, a variable, an entry and a default each give one setting. The variable of `log` hides nothing, as
the log level has one of its own. -/
theorem settings_layered_four_layers :
    ∃ a, inForce fourLayers [⟨.config, Text.ofString "c", .text (Text.ofString "c.json")⟩,
        ⟨.format, Text.ofString "f", .text (Text.ofString "json")⟩] = .ok a ∧
      a.format = Text.ofString "json" ∧ a.logLevel = Text.ofString "error" ∧
      a.legacyLineNumbers = true ∧ a.extensions = [Text.ofString ".yaml", Text.ofString ".yml"] ∧
      1 ≤ a.workers.toInt := by
  have hparse : Flag.parse Flag.all [Text.ofString "-c", Text.ofString "c.json", Text.ofString "-f",
      Text.ofString "json"] = .ok ([⟨.config, Text.ofString "c", .text (Text.ofString "c.json")⟩,
        ⟨.format, Text.ofString "f", .text (Text.ofString "json")⟩], []) := by decide
  have hentries : configured fourLayers [⟨.config, Text.ofString "c", .text (Text.ofString "c.json")⟩,
      ⟨.format, Text.ofString "f", .text (Text.ofString "json")⟩] =
        .ok [(Text.ofString "format", .str (Text.ofString "yaml")),
          (Text.ofString "legacy_line_numbers", .scalar (.bool true))] := by cbv
  have hown : (Sources.variableOf ⟨fourLayers.environment,
      [(Text.ofString "format", .str (Text.ofString "yaml")),
        (Text.ofString "legacy_line_numbers", .scalar (.bool true))]⟩ ["log", "level"]).isSome = true := by
    decide +kernel
  obtain ⟨a, hforce, hworkers, -, hlayered, -⟩ := settings_layered hparse hentries
  refine ⟨a, hforce, (hlayered .format fun h ↦ ?_).trans rfl, (hlayered .logLevel ?_).trans (by decide +kernel),
    (hlayered .legacyLineNumbers fun h ↦ ?_).trans (by decide +kernel),
    (hlayered .extensions fun h ↦ ?_).trans (by decide +kernel), hworkers⟩
  case refine_1 | refine_3 | refine_4 => exact absurd h.eq_or_eq (by decide)
  rintro (⟨hnone, -⟩ | ⟨hnone, -⟩) <;> simp [hnone] at hown

/-- The default of the log level is not in force where `log` has a variable, which no setting is read from. -/
theorem outer_variable_hides_level :
    (∃ a, inForce {} [] = .ok a ∧ a.logLevel = Text.ofString "warn") ∧
      ∃ a, inForce { environment := [(Text.ofString "YAMLINT_LOG", Text.ofString "x")] } [] = .ok a ∧
        a.logLevel = [] := by
  have hhides : Sources.Hides ⟨[(Text.ofString "YAMLINT_LOG", Text.ofString "x")], []⟩ (Key.name .logLevel) :=
    .outerVariable (by decide +kernel) (by decide +kernel)
  have hnone : ∀ environment, configured { environment := environment } [] = .ok [] := fun environment ↦ by
    refine configured_eq_nil (fun l content ↦ ?_) rfl
    rw [FileSystem.get?]
    split <;> simp
  refine ⟨⟨_, inForce_eq (hnone []), rfl⟩, _, inForce_eq (hnone _), ?_⟩
  exact (get_ofSources _ .logLevel).trans (congrArg Value.text (Sources.find_of_hides hhides _))

end Settings

end StructuralLint
