import RecordSearch.Dictionary
import RecordSearch.Files.Basic
import RecordSearch.Files.Path

/-!
# File trees

Files held in memory under one directory. A directory exists if there is a file in it.
-/

namespace RecordSearch

structure FileTree where
  /-- The files by their paths from the directory. -/
  files : Dictionary Text

namespace FileTree

def pathOf (names : List Text) : Text :=
  Text.join [Path.separator] names

def file? (tree : FileTree) (names : List Text) : Option Text :=
  tree.files.get? (pathOf names)

/-- The directories on the way to a path. -/
def ancestors (names : List Text) : List (List Text) :=
  (List.range names.length).map names.take

/-- Whether the way to a path leads through a file. -/
def isBlocked (tree : FileTree) (names : List Text) : Bool :=
  (ancestors names).any fun directory ↦ (tree.file? directory).isSome

def isDirectory (tree : FileTree) (names : List Text) : Bool :=
  names.isEmpty || tree.files.keys.any fun path ↦ (ancestors (Path.components path)).contains names

/-- Follows one name of a path from a directory whose names are reversed. A step back leads out of a
directory only. -/
def follow (tree : FileTree) (reversed : List Text) (name : Text) :
    Except FileFault (List Text) :=
  if name != "..".toList then .ok (name :: reversed)
  else if (tree.file? reversed.reverse).isSome then .error .notDirectory
  else if reversed.isEmpty || !tree.isDirectory reversed.reverse then .error .missing
  else .ok reversed.tail

/-- The names of a path from the directory of the tree. Nothing outside is known. -/
def resolve (tree : FileTree) (path : Text) : Except FileFault (List Text) :=
  if path.head? == some Path.separator then .error .missing
  else ((Path.components path).foldlM tree.follow []).map List.reverse

/-- A path that ends in a separator names a directory. -/
def namesDirectory (path : Text) : Bool :=
  path.getLast? == some Path.separator

def read (tree : FileTree) (path : Text) : Except FileFault Text := do
  let names ← tree.resolve path
  if tree.isBlocked names then .error .notDirectory
  else match tree.file? names with
    | some content => if namesDirectory path then .error .notDirectory else .ok content
    | none => if tree.isDirectory names then .error .isDirectory else .error .missing

def isPresent (tree : FileTree) (path : Text) : Bool :=
  match tree.read path with
  | .ok _ | .error .isDirectory => true
  | .error _ => false

/-- The tree with a file written, or why it cannot be. -/
def write (tree : FileTree) (path content : Text) : Except FileFault FileTree := do
  let names ← tree.resolve path
  if tree.isBlocked names.dropLast then .error .notDirectory
  else if (tree.file? names.dropLast).isSome then .error .alreadyExists
  else if tree.isDirectory names || namesDirectory path then .error .isDirectory
  else .ok ⟨tree.files.insert (pathOf names) content⟩

/-- The files of a tree that is the state of a run. -/
def access : Files (StateM FileTree) where
  read path := do return (← get).read path
  isPresent path := do return (← get).isPresent path
  write path content := do
    match (← get).write path content with
    | .ok tree =>
      set tree
      return .ok ()
    | .error fault => return .error fault

end FileTree

end RecordSearch
