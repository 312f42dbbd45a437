import RecordSearch.Command.Fault
import RecordSearch.Document.Toml.Reader
import RecordSearch.Document.Toml.Writer
import RecordSearch.Files.Path
import RecordSearch.Settings.Codec

/-!
# The settings file

Where the settings are looked for, and how they are read and written. A file that is not there stands
for the default settings.
-/

namespace RecordSearch

namespace Settings

def ofToml (source : Text) : Except SettingsFileFault Settings :=
  match (Toml.read? source).bind Settings.ofDocument? with
  | none => .error .malformed
  | some settings =>
    match settings.fault? with
    | some fault => .error (.invalid fault)
    | none => .ok settings

def toToml? (settings : Settings) : Option Text :=
  Toml.write? settings.toDocument

end Settings

/-- The variables that a command is run with. -/
abbrev Environment := String → Option Text

namespace SettingsFile

/-- A variable that is set to some text. -/
def setting? (environment : Environment) (name : String) : Option Text :=
  (environment name).filter fun value ↦ !value.isEmpty

/-- The directory of the settings: that of all settings of the user, or one in the home directory. -/
def directory? (environment : Environment) : Option Text :=
  match setting? environment "XDG_CONFIG_HOME" with
  | some home => some (Path.join home "lq".toList)
  | none => (setting? environment "HOME").map fun home ↦ Path.joinAll home [".config", "lq"]

/-- The path that is asked for, that of the environment, or the one in the directory of the
settings. -/
def path (environment : Environment) (asked : Option Text) : Except CommandFault Text :=
  match asked <|> setting? environment "LQ_CONFIG" with
  | some path => .ok path
  | none =>
    match directory? environment with
    | some directory => .ok (Path.join directory "config.toml".toList)
    | none => .error (.settings .noDirectory)

variable {m : Type → Type} [Monad m]

def load (files : Files m) (path : Text) : ExceptT CommandFault m Settings := do
  if ← files.isPresent path then
    match ← files.read path with
    | .ok source => ((Settings.ofToml source).mapError CommandFault.settings : Except _ _)
    | .error fault => throw (.settings (.unreadable path fault))
  else return .default

/-- What stands above the settings in a file that is written. -/
def header : Text :=
  ("# lq - listing query configuration\n" ++
    "# Every key is optional; removed keys fall back to the built-in defaults.\n\n").toList

def source (settings : Settings) : Except CommandFault Text :=
  match settings.toToml? with
  | some source => .ok source
  | none => .error (.settings .unrepresentable)

inductive Written where
  | created
  | overwritten
  /-- There was a file, and it was left as it is. -/
  | kept
  deriving DecidableEq, Repr

def Written.word : Written → String
  | .created => "created"
  | .overwritten => "overwritten"
  | .kept => "exists"

def writeDefault (files : Files m) (path : Text) (force : Bool) :
    ExceptT CommandFault m Written := do
  let existed ← files.isPresent path
  if existed && !force then return .kept
  let body ← (source .default : Except _ _)
  match ← files.write path (header ++ body) with
  | .ok _ => return if existed then .overwritten else .created
  | .error fault => throw (.unwritable fault)

end SettingsFile

end RecordSearch
