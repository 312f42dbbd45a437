import RecordSearch.Command.Program

/-!
# The command line

The program on the files and the variables of the system it runs on.
-/

namespace RecordSearch.Host

def faultOf : IO.Error → FileFault
  | .noFileOrDirectory .. => .missing
  | .permissionDenied .. => .denied
  | .alreadyExists .. => .alreadyExists
  | .inappropriateType .. => .notDirectory
  | e => .other (toString e).toList

def attempt {α : Type} (action : IO α) : IO (Except FileFault α) := do
  match ← action.toBaseIO with
  | .ok a => return .ok a
  | .error e => return .error (faultOf e)

/-- The path of the directory that a file is in, empty for the current one. -/
def parent (path : Text) : Text :=
  ((path.reverse.dropWhile (· != Path.separator)).drop 1).reverse

def writeWhole (path content : Text) : IO Unit := do
  let directory := parent path
  if !directory.isEmpty then IO.FS.createDirAll (String.ofList directory)
  IO.FS.writeFile (String.ofList path) (String.ofList content)

def files : Files IO where
  read path := attempt do return (← IO.FS.readFile (String.ofList path)).toList
  isPresent path := do
    match ← attempt (IO.FS.realPath (String.ofList path)) with
    | .ok _ => return true
    | .error _ => return false
  write path content := attempt (writeWhole path content)

/-- The variables that the program looks at. -/
def variableNames : List String := ["LQ_CONFIG", "XDG_CONFIG_HOME", "HOME"]

def readVariables : IO (List (String × Text)) := do
  let values ← variableNames.mapM fun name ↦ do
    return (← IO.getEnv name).map fun value ↦ (name, value.toList)
  return values.reduceOption

end RecordSearch.Host

def main (args : List String) : IO UInt32 := do
  let values ← RecordSearch.Host.readVariables
  let ending ← RecordSearch.Program.run RecordSearch.Host.files (fun name ↦ values.lookup name)
    (args.map String.toList)
  let outcome := ending.outcome
  IO.print (String.ofList outcome.out)
  IO.eprint (String.ofList outcome.err)
  return UInt32.ofNat outcome.exitStatus
