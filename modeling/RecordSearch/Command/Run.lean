import RecordSearch.Command.Completions
import RecordSearch.Command.Input
import RecordSearch.Command.SettingsFile
import RecordSearch.Record.Document
import RecordSearch.Report.Codec
import RecordSearch.Report.Explanation
import RecordSearch.Report.Listing
import RecordSearch.Report.Statistics

/-!
# Running commands

What a command prints and writes, given the files and the variables of its environment. A report is a
document if JSON is asked for; otherwise it is for a reader, who may want it quiet.
-/

namespace RecordSearch

/-- What the world shows of a run. -/
structure Outcome where
  exitStatus : Nat
  out : Text
  err : Text
  deriving DecidableEq, Repr

/-- What a command prints. -/
structure Printed where
  out : Text
  err : Text

namespace Printed

def nothing : Printed := ⟨[], []⟩

def toOut (s : Text) : Printed := ⟨s, []⟩

end Printed

namespace Command

/-- A report in the form that an invocation asks for. -/
def report (invocation : Invocation) (document : Document) (text : Text) : Printed :=
  if invocation.json then .toOut (Json.writePretty document ++ ['\n'])
  else if invocation.quiet then .nothing
  else .toOut text

def greeting : Text :=
  "lq - listing query compiler\nUse --help for usage information\n".toList

/-- The attribute of a name, or the fault of an unknown one. -/
def requireAttribute (schema : Schema) (name : Text) : Except CommandFault Attribute :=
  match schema.get? name with
  | some a => .ok a
  | none => .error (.argument (.unknownAttribute name (Text.findSimilar? name schema.keys)))

def requireNumeric (schema : Schema) (name : Text) : Except CommandFault Unit := do
  let a ← requireAttribute schema name
  if a.effectiveType.isNumeric then .ok ()
  else .error (.argument (.notNumeric name a.effectiveType))

/-- The number of terms to show; zero stands for all of them. -/
def mostTerms (settings : Settings) (most : Option Nat) : Nat :=
  match most.getD settings.defaultLimit with
  | 0 => Page.greatestPosition
  | most => most

variable {m : Type → Type} [Monad m]

def runQuery (files : Files m) (invocation : Invocation) (settings : Settings)
    (listing : ListingOptions) (data : Text) : ExceptT CommandFault m Printed := do
  let (schema, search) ← listing.search files settings
  let records ← InputFile.readRecords files data
  let results := search.run records
  return report invocation results.toDocument (results.render schema (!invocation.plain))

def runExplain (files : Files m) (invocation : Invocation) (settings : Settings)
    (listing : ListingOptions) : ExceptT CommandFault m Printed := do
  let (_, search) ← listing.search files settings
  return report invocation search.toDocument (search.explain (!invocation.plain))

def runStatistics (files : Files m) (invocation : Invocation) (settings : Settings)
    (listing : ListingOptions) (data name : Text) (asked : Statistic) :
    ExceptT CommandFault m Printed := do
  let (schema, search) ← listing.search files settings
  (requireNumeric schema name : Except _ _)
  let records ← InputFile.readRecords files data
  let statistics := search.statistics name asked records
  return report invocation (statistics.toDocument name asked)
    (statistics.render name (!invocation.plain))

def runTerms (files : Files m) (invocation : Invocation) (settings : Settings)
    (listing : ListingOptions) (data name : Text) (most : Option Nat) :
    ExceptT CommandFault m Printed := do
  let (schema, search) ← listing.search files settings
  let _ ← (requireAttribute schema name : Except _ _)
  let records ← InputFile.readRecords files data
  let terms := search.terms name (mostTerms settings most) records
  return report invocation (Term.toDocuments name terms)
    (Term.renderAll name (!invocation.plain) terms)

/-- A word that stands out on a terminal. -/
def emphasize (plain : Bool) (s : String) : Text :=
  Ansi.onlyIf (!plain) (fun s ↦ Ansi.bold (Ansi.green s)) s.toList

def showSettings (files : Files m) (invocation : Invocation) (path : Text) :
    ExceptT CommandFault m Printed := do
  let settings ← SettingsFile.load files path
  let present ← files.isPresent path
  let document := Document.record [("path", .text path), ("exists", .boolean present),
    ("config", settings.toDocument)]
  if invocation.json || invocation.quiet then return report invocation document.sorted []
  let source ← (SettingsFile.source settings : Except _ _)
  let hint := if present then [] else
    "(No config file exists. Run 'lq config init' to create one.)\n\n".toList
  return .toOut (emphasize invocation.plain "Configuration" ++ "\n\nFile: ".toList ++ path ++
    "\nExists: ".toList ++ Json.writeBoolean present ++ "\n\n".toList ++ hint ++ source)

def showPath (files : Files m) (invocation : Invocation) (path : Text) :
    ExceptT CommandFault m Printed := do
  let present ← files.isPresent path
  let document := Document.record [("path", .text path), ("exists", .boolean present)]
  if invocation.json then return report invocation document.sorted []
  return .toOut (path ++ ['\n'])

/-- What is said about a settings file that was asked for. -/
def announce (path : Text) : SettingsFile.Written → Printed
  | .created => .toOut ("Created default config at: ".toList ++ path ++ ['\n'])
  | .overwritten => .toOut ("Overwrote config at: ".toList ++ path ++ ['\n'])
  | .kept => ⟨[], "Config already exists at: ".toList ++ path ++
      " (use --force to overwrite)\n".toList⟩

def initSettings (files : Files m) (invocation : Invocation) (path : Text) (force : Bool) :
    ExceptT CommandFault m Printed := do
  let written ← SettingsFile.writeDefault files path force
  let document := Document.record [("path", .text path), ("status", .word written.word)]
  if invocation.json || invocation.quiet then return report invocation document []
  return announce path written

def runSettings (files : Files m) (environment : Environment) (invocation : Invocation)
    (command : SettingsCommand) : ExceptT CommandFault m Printed := do
  let path ← (SettingsFile.path environment invocation.settings : Except _ _)
  match command with
  | .show => showSettings files invocation path
  | .path => showPath files invocation path
  | .init force => initSettings files invocation path force

/-- Runs a command; those that search read the settings before anything else. -/
def run (files : Files m) (environment : Environment) (invocation : Invocation) :
    ExceptT CommandFault m Printed := do
  let loaded : ExceptT CommandFault m Settings := do
    let path ← (SettingsFile.path environment invocation.settings : Except _ _)
    SettingsFile.load files path
  match invocation.command with
  | none => return if invocation.quiet then .nothing else .toOut greeting
  | some (.completions shell) => return .toOut shell.completionScript
  | some (.settings command) => runSettings files environment invocation command
  | some (.query listing data) => runQuery files invocation (← loaded) listing data
  | some (.explain listing) => runExplain files invocation (← loaded) listing
  | some (.statistics listing data name asked) =>
    runStatistics files invocation (← loaded) listing data name asked
  | some (.terms listing data name most) =>
    runTerms files invocation (← loaded) listing data name most

end Command

end RecordSearch
