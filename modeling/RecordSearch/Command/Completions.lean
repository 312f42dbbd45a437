import RecordSearch.Command.Invocation

/-!
# Completions

For each shell a script that completes the names of the commands.
-/

namespace RecordSearch.Shell

/-- The names of the commands between blanks. -/
def commandWords : Text :=
  Text.join [' '] (Invocation.commandNames.map String.toList)

def completionScript : Shell → Text
  | .bash => "complete -W \"".toList ++ commandWords ++ "\" lq\n".toList
  | .zsh => "#compdef lq\ncompadd ".toList ++ commandWords ++ ['\n']
  | .fish => "complete -c lq -f -a \"".toList ++ commandWords ++ "\"\n".toList
  | .powershell =>
    "Register-ArgumentCompleter -Native -CommandName lq -ScriptBlock \x7b \"".toList ++
      commandWords ++ "\" -split \" \" \x7d\n".toList

end RecordSearch.Shell
