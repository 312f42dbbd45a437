import RecordSearch.Command.Options
import RecordSearch.Number.Integer
import RecordSearch.Search.Statistics

/-!
# Invocations

The commands of the program and how they are written as arguments. Some options belong to every
command and may stand before or after its name; of two values of such an option the later counts.
-/

namespace RecordSearch

/-- What to search for, and in what order and how many results to show. -/
structure ListingOptions where
  /-- The file that holds the schema. -/
  schema : Text
  query : Option Text
  term : Option Text
  /-- Filters, each an attribute and a value around an equals sign. -/
  filters : List Text
  /-- The filters are joined by OR. -/
  disjunctive : Bool
  /-- The file that holds a predicate. -/
  predicate : Option Text
  sort : Option Text
  index : Option Int
  page : Option Int
  limit : Option Int

inductive Shell where
  | bash | zsh | fish | powershell
  deriving DecidableEq, Repr

namespace Shell

def name : Shell → String
  | .bash => "bash"
  | .zsh => "zsh"
  | .fish => "fish"
  | .powershell => "powershell"

def all : List Shell := [.bash, .zsh, .fish, .powershell]

def ofName? (s : Text) : Option Shell :=
  all.find? fun shell ↦ shell.name.toList == s

end Shell

inductive SettingsCommand where
  | show
  | path
  /-- Writes the default settings, in place of an existing file only if forced. -/
  | init (force : Bool)
  deriving DecidableEq, Repr

inductive Command where
  | query (listing : ListingOptions) (data : Text)
  | explain (listing : ListingOptions)
  | statistics (listing : ListingOptions) (data name : Text) (asked : Statistic)
  /-- At most so many terms, or as many as a page holds if no number is given. -/
  | terms (listing : ListingOptions) (data name : Text) (most : Option Nat)
  | settings (command : SettingsCommand)
  | completions (shell : Shell)

structure Invocation where
  verbose : Bool
  /-- Only faults are reported. -/
  quiet : Bool
  json : Bool
  plain : Bool
  /-- The file that holds the settings. -/
  settings : Option Text
  command : Option Command

namespace Invocation

def anyText : ValueRule := ⟨.never, false, fun _ ↦ true⟩

def somePath : ValueRule := ⟨.never, false, fun s ↦ !s.isEmpty⟩

def someInteger : ValueRule := ⟨.numbers, false, fun s ↦ (Text.toSigned? 64 s).isSome⟩

def naturalOf (s : Text) : Option Nat :=
  Text.toNatBelow? (wordLimit 64) s

def someNatural : ValueRule := ⟨.never, false, fun s ↦ (naturalOf s).isSome⟩

/-- The statistic of a name as it is written among options. -/
def statisticOf? (s : Text) : Option Statistic :=
  Statistic.each.find? fun statistic ↦ statistic.name == s

def commonOptions : List OptionRule := [
  ⟨"verbose", some 'v', none⟩,
  ⟨"quiet", some 'q', none⟩,
  ⟨"json", none, none⟩,
  ⟨"no-color", none, none⟩,
  ⟨"config", none, some somePath⟩,
  ⟨"help", some 'h', none⟩,
  ⟨"version", some 'V', none⟩]

def listingOptions : List OptionRule := [
  ⟨"schema", some 's', some somePath⟩,
  ⟨"query", none, some anyText⟩,
  ⟨"filter", some 'f', some anyText⟩,
  ⟨"filter-attr", some 'F', some { anyText with repeatable := true }⟩,
  ⟨"or", none, none⟩,
  ⟨"predicate", none, some somePath⟩,
  ⟨"sort", none, some { anyText with hyphens := .always }⟩,
  ⟨"index", none, some someInteger⟩,
  ⟨"page", some 'p', some someInteger⟩,
  ⟨"limit", some 'l', some someInteger⟩]

def dataOption : OptionRule := ⟨"data", some 'd', some somePath⟩

def attributeOption : OptionRule := ⟨"attribute", some 'a', some anyText⟩

def statisticOption : OptionRule :=
  ⟨"op", none, some ⟨.never, false, fun s ↦ (statisticOf? s).isSome⟩⟩

def mostOption : OptionRule := ⟨"max", none, some someNatural⟩

def forceOption : OptionRule := ⟨"force", none, none⟩

def shellOperand : ValueRule := ⟨.never, false, fun s ↦ (Shell.ofName? s).isSome⟩

def rules (name : String) (options : List OptionRule) : CommandRules :=
  ⟨name.toList, commonOptions ++ options, [], []⟩

/-- The commands and their short names. -/
def commandNames : List String :=
  ["query", "q", "explain", "x", "stats", "terms", "config", "completions", "help"]

def rootRules : CommandRules :=
  { rules "lq" [] with subcommands := commandNames.map String.toList }

def settingsRules : CommandRules :=
  { rules "lq-config" [] with subcommands := ["show", "path", "init", "help"].map String.toList }

def conflict? (level : Level) : Option UsageFault :=
  if level.has "quiet" && level.has "verbose" then some (.conflict "quiet" "verbose") else none

/-- Reads the arguments of one command and checks that they go together. -/
def readLevel (rules : CommandRules) (required : List String) (args : List Text) :
    Except Halt Level := do
  let level ← rules.read args
  match (required.find? fun name ↦ !level.has name).map UsageFault.missing <|> conflict? level with
  | some fault => .error (.usage fault)
  | none => .ok level

def integer? (level : Level) (name : String) : Option Int :=
  (level.value? name).bind (Text.toSigned? 64)

def listingOf (level : Level) : ListingOptions where
  schema := (level.value? "schema").getD []
  query := level.value? "query"
  term := level.value? "filter"
  filters := level.values "filter-attr"
  disjunctive := level.has "or"
  predicate := level.value? "predicate"
  sort := level.value? "sort"
  index := integer? level "index"
  page := integer? level "page"
  limit := integer? level "limit"

def dataOf (level : Level) : Text :=
  (level.value? "data").getD []

def attributeOf (level : Level) : Text :=
  (level.value? "attribute").getD []

/-- A command with the arguments that were read for it, the innermost first. -/
abbrev Parsed := Command × List Level

def parseQuery (args : List Text) : Except Halt Parsed := do
  let level ← readLevel (rules "lq-query" (listingOptions ++ [dataOption])) ["schema", "data"] args
  return (.query (listingOf level) (dataOf level), [level])

def parseExplain (args : List Text) : Except Halt Parsed := do
  let level ← readLevel (rules "lq-explain" listingOptions) ["schema"] args
  return (.explain (listingOf level), [level])

def parseStatistics (args : List Text) : Except Halt Parsed := do
  let level ← readLevel
    (rules "lq-stats" (listingOptions ++ [dataOption, attributeOption, statisticOption]))
    ["schema", "data", "attribute"] args
  let asked := ((level.value? "op").bind statisticOf?).getD .all
  return (.statistics (listingOf level) (dataOf level) (attributeOf level) asked, [level])

def parseTerms (args : List Text) : Except Halt Parsed := do
  let level ← readLevel
    (rules "lq-terms" (listingOptions ++ [dataOption, attributeOption, mostOption]))
    ["schema", "data", "attribute"] args
  let most := (level.value? "max").bind naturalOf
  return (.terms (listingOf level) (dataOf level) (attributeOf level) most, [level])

def parseSettingsCommand (name : Text) (args : List Text) :
    Except Halt (SettingsCommand × Level) :=
  match String.ofList name with
  | "show" => (readLevel (rules "lq-config-show" []) [] args).map fun level ↦ (.show, level)
  | "path" => (readLevel (rules "lq-config-path" []) [] args).map fun level ↦ (.path, level)
  | "init" => (readLevel (rules "lq-config-init" [forceOption]) [] args).map fun level ↦
      (.init (level.has "force"), level)
  | _ => .error .help

def parseSettings (args : List Text) : Except Halt Parsed := do
  let level ← settingsRules.read args
  let (command, inner) ← match level.subcommand with
    | none => pure (.show, [])
    | some (name, args) => (parseSettingsCommand name args).map fun (command, inner) ↦
        (command, [inner])
  match conflict? level with
  | some fault => .error (.usage fault)
  | none => return (.settings command, inner ++ [level])

def parseCompletions (args : List Text) : Except Halt Parsed := do
  let level ← readLevel { rules "lq-completions" [] with operands := [shellOperand] } [] args
  match level.operands.head?.bind Shell.ofName? with
  | some shell => return (.completions shell, [level])
  | none => .error (.usage (.missing "shell"))

def parseCommand (name : Text) (args : List Text) : Except Halt Parsed :=
  match String.ofList name with
  | "query" | "q" => parseQuery args
  | "explain" | "x" => parseExplain args
  | "stats" => parseStatistics args
  | "terms" => parseTerms args
  | "config" => parseSettings args
  | "completions" => parseCompletions args
  | _ => .error .help

/-- An invocation from the levels of its arguments, the innermost first. -/
def ofLevels (command : Option Command) (levels : List Level) : Invocation where
  verbose := levels.any fun level ↦ level.has "verbose"
  quiet := levels.any fun level ↦ level.has "quiet"
  json := levels.any fun level ↦ level.has "json"
  plain := levels.any fun level ↦ level.has "no-color"
  settings := levels.findSome? fun level ↦ level.value? "config"
  command := command

/-- The invocation that arguments ask for. A command is read before its options are checked against
those in front of it. -/
def parse (args : List Text) : Except Halt Invocation := do
  let root ← rootRules.read args
  let (command, levels) ← match root.subcommand with
    | none => pure (none, [])
    | some (name, args) => (parseCommand name args).map fun (command, levels) ↦
        (some command, levels)
  match conflict? root with
  | some fault => .error (.usage fault)
  | none => return ofLevels command (levels ++ [root])

end Invocation

end RecordSearch
