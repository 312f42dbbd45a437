import RecordSearch.Command.Run

/-!
# The program

From the arguments of the program to what it prints, the files that it writes and its exit status.
-/

namespace RecordSearch

def UsageFault.message : UsageFault → Text
  | .unknown argument => "unknown option ".toList ++ Text.inSingleQuotes argument
  | .unexpected argument => "unexpected argument ".toList ++ Text.inSingleQuotes argument
  | .missingValue name => "a value is required for --".toList ++ name.toList
  | .unneededValue name => "no value is expected for --".toList ++ name.toList
  | .invalidValue name value =>
    "invalid value ".toList ++ Text.inSingleQuotes value ++ " for --".toList ++ name.toList
  | .repeated name => '-' :: '-' :: name.toList ++ " cannot be used more than once".toList
  | .missing name => name.toList ++ " is required".toList
  | .conflict first second =>
    '-' :: '-' :: first.toList ++ " cannot be used with --".toList ++ second.toList

namespace Program

def version : Text := "0.1.3".toList

def help : Text :=
  ("Usage: lq [OPTIONS] [COMMAND]\n\n" ++
    "Commands: query, explain, stats, terms, config, completions\n").toList

/-- How a run ended, its faults told apart. -/
inductive Ending where
  | halted (halt : Halt)
  | failed (json : Bool) (fault : CommandFault)
  | finished (printed : Printed)

namespace Ending

def outcome : Ending → Outcome
  | .halted (.usage fault) => ⟨2, [], "error: ".toList ++ fault.message ++ ['\n']⟩
  | .halted .help => ⟨0, help, []⟩
  | .halted (.version command) => ⟨0, command ++ ' ' :: version ++ ['\n'], []⟩
  | .failed json fault => ⟨fault.exitStatus, [], fault.render json⟩
  | .finished printed => ⟨0, printed.out, printed.err⟩

/-- The arguments were no command. -/
def isUsageFault : Ending → Bool
  | .halted (.usage _) => true
  | _ => false

/-- A text could not be read as what it should hold. -/
def isMalformedInput : Ending → Bool
  | .failed _ fault => fault.isMalformed
  | _ => false

end Ending

variable {m : Type → Type} [Monad m]

def run (files : Files m) (environment : Environment) (args : List Text) : m Ending := do
  match Invocation.parse args with
  | .error halt => return .halted halt
  | .ok invocation =>
    match ← (Command.run files environment invocation).run with
    | .ok printed => return .finished printed
    | .error fault => return .failed invocation.json fault

end Program

end RecordSearch
