import RecordSearch.Text.Basic

/-!
# Files

What a command needs of the files around it, whatever holds them, and why a file cannot be used.
-/

namespace RecordSearch

inductive FileFault where
  | missing
  | denied
  | alreadyExists
  | notDirectory
  | isDirectory
  | other (message : Text)
  deriving DecidableEq, Repr

def FileFault.message : FileFault → Text
  | .missing => "No such file or directory (os error 2)".toList
  | .denied => "Permission denied (os error 13)".toList
  | .alreadyExists => "File exists (os error 17)".toList
  | .notDirectory => "Not a directory (os error 20)".toList
  | .isDirectory => "Is a directory (os error 21)".toList
  | .other message => message

structure Files (m : Type → Type) where
  read : (path : Text) → m (Except FileFault Text)
  /-- Whether a path leads to a file or a directory. -/
  isPresent : (path : Text) → m Bool
  /-- Writes a whole file, and the directories on the way to it that are missing. -/
  write : (path content : Text) → m (Except FileFault Unit)

end RecordSearch
