import RecordSearch.Document.Json.Writer
import RecordSearch.Files.Basic
import RecordSearch.Request.Fault
import RecordSearch.Schema.Codec
import RecordSearch.Settings.Validation

/-!
# Faults of commands

Everything that can end a command early, with its message, its code and the exit status that stands
for it.
-/

namespace RecordSearch

/-- What is wrong with the settings. -/
inductive SettingsFileFault where
  | unreadable (path : Text) (fault : FileFault)
  /-- The text is not that of settings. -/
  | malformed
  | invalid (fault : SettingsFault)
  /-- A number of the settings does not fit into a settings file. -/
  | unrepresentable
  /-- No home directory is known. -/
  | noDirectory
  deriving DecidableEq, Repr

/-- What is wrong with a file of a schema, of records or of a predicate. -/
inductive InputFault where
  | unreadable (fault : FileFault)
  | malformed
  | noAttributes
  | notRecords
  | notRecord (position : Nat)
  deriving DecidableEq, Repr

inductive ArgumentFault where
  | notPair (argument : Text)
  | unknownAttribute (name : Text) (suggestion : Option Text)
  | notNumeric (name : Text) (type : SemanticType)
  deriving DecidableEq, Repr

inductive CommandFault where
  | request (fault : RequestFault)
  | settings (fault : SettingsFileFault)
  | input (path : Text) (fault : InputFault)
  | argument (fault : ArgumentFault)
  | unwritable (fault : FileFault)
  deriving DecidableEq, Repr

def SettingsFileFault.message : SettingsFileFault → Text
  | .unreadable path fault =>
    "failed to read config file ".toList ++ Text.inSingleQuotes path ++ ": ".toList ++ fault.message
  | .malformed => "invalid config: not a settings file".toList
  | .invalid fault => "invalid config: ".toList ++ fault.message
  | .unrepresentable => "invalid config: out-of-range value for u64 type".toList
  | .noDirectory => "could not determine config directory".toList

def InputFault.message : InputFault → Text
  | .unreadable fault => fault.message
  | .malformed => "not a document of the expected form".toList
  | .noAttributes => "schema declares no attributes".toList
  | .notRecords => "expected a JSON array of objects".toList
  | .notRecord position => "record ".toList ++ Text.ofNat position ++ " is not an object".toList

def ArgumentFault.message : ArgumentFault → Text
  | .notPair argument => "expected ATTR=VALUE, got ".toList ++ Text.inSingleQuotes argument
  | .unknownAttribute name suggestion =>
    "unknown attribute ".toList ++ Text.inSingleQuotes name ++ '.' :: RequestFault.suggest suggestion
  | .notNumeric name type =>
    "attribute ".toList ++ Text.inSingleQuotes name ++ " is ".toList ++ type.name.toList ++
      ", stats need a numeric attribute".toList

namespace CommandFault

def message : CommandFault → Text
  | .request fault => "listing error: ".toList ++ fault.message
  | .settings fault => "configuration error: ".toList ++ fault.message
  | .input path fault =>
    "invalid input ".toList ++ Text.inSingleQuotes path ++ ": ".toList ++ fault.message
  | .argument fault => "invalid argument: ".toList ++ fault.message
  | .unwritable fault => "I/O error: ".toList ++ fault.message

def code : CommandFault → String
  | .request (.unknownSortAttribute ..) => "UNKNOWN_SORT_ATTRIBUTE"
  | .request (.invalidParameter ..) => "INVALID_PARAMETER"
  | .request (.unknownStatistic _) => "INVALID_ARGUMENT"
  | .settings _ => "CONFIG_ERROR"
  | .input .. => "INPUT_ERROR"
  | .argument _ => "INVALID_ARGUMENT"
  | .unwritable _ => "IO_ERROR"

def exitStatus : CommandFault → Nat
  | .request _ | .argument _ => 2
  | .input .. | .unwritable _ => 3
  | .settings _ => 5

/-- A text could not be read as what it should hold. -/
def isMalformed : CommandFault → Bool
  | .settings .malformed | .input _ .malformed => true
  | _ => false

def toDocument (fault : CommandFault) : Document :=
  .record [("error", .record [("code", .word fault.code), ("message", .text fault.message)])]

def render (json : Bool) (fault : CommandFault) : Text :=
  (if json then Json.writePretty fault.toDocument else "Error: ".toList ++ fault.message) ++ ['\n']

end CommandFault

end RecordSearch
