import RecordSearch.Text.Basic

/-!
# Paths

The path of a file is the names on the way to it between slashes; empty names and single points count
for nothing.
-/

namespace RecordSearch.Path

def separator : Char := '/'

/-- The names of a path. -/
def components (path : Text) : List Text :=
  (Text.splitOn [separator] path).filter fun name ↦ !name.isEmpty && name != ['.']

/-- The path of a name in a directory. -/
def join (directory name : Text) : Text :=
  if directory.getLast? == some separator then directory ++ name else directory ++ separator :: name

def joinAll (directory : Text) (names : List String) : Text :=
  names.foldl (fun path name ↦ join path name.toList) directory

/-- What follows the last point of a name, unless the name begins with that point. -/
def extensionOf? (name : Text) : Option Text :=
  let ending := name.reverse.takeWhile (· != '.')
  if name.length ≤ ending.length + 1 then none else some ending.reverse

def extension? (path : Text) : Option Text :=
  match (components path).getLast? with
  | some name => if name = "..".toList then none else extensionOf? name
  | none => none

end RecordSearch.Path
