import ShardedView.Bytes

/-!
Files, and how a path leads to one: name by name from the root, or from the
directory where a program runs.
-/

namespace ShardedView

inductive FileFault
  | missing
  /-- A name that others follow is that of a file. -/
  | notDirectory
  /-- The path leads to a directory, which can be opened, but has no content. -/
  | isDirectory
  | nameTooLong
  | nulInPath
  /-- Another reason, as the system words it. -/
  | reported (reason : String)
  deriving DecidableEq, Repr

def FileFault.message : FileFault → String
  | .missing => "No such file or directory (os error 2)"
  | .notDirectory => "Not a directory (os error 20)"
  | .isDirectory => "Is a directory (os error 21)"
  | .nameTooLong => "File name too long (os error 36)"
  | .nulInPath => "file name contained an unexpected NUL byte"
  | .reported reason => reason

inductive FileEntry
  | directory
  | file (content : Bytes)
  deriving DecidableEq, Repr

/-- A tree of files, each by the names that lead to it from the root. What leads to
an entry is a directory and need not be listed. -/
structure FileTree where
  entries : List (List String × FileEntry)
  /-- The directory where relative paths begin. -/
  here : List String

namespace FileTree

def entry? (tree : FileTree) (names : List String) : Option FileEntry :=
  match tree.entries.find? (·.1 = names) with
  | some entry => some entry.2
  | none =>
    if names.isEmpty || tree.entries.any (names.isPrefixOf ·.1) then some .directory else none

/-- The greatest length of a name, in bytes. -/
def greatestName : Nat := 255

/-- The greatest length of a path, in bytes. -/
def greatestPath : Nat := 4095

/-- Goes from a place along further names. An empty name and a point stay at the
place, which has to be a directory, and two points go up. -/
def follow (tree : FileTree) (place : List String) : List String → Except FileFault FileEntry
  | [] =>
    match tree.entry? place with
    | some entry => .ok entry
    | none => .error .missing
  | name :: rest =>
    match tree.entry? place with
    | none => .error .missing
    | some (.file _) => .error .notDirectory
    | some .directory =>
      if name = "" ∨ name = "." then tree.follow place rest
      else if name = ".." then tree.follow place.dropLast rest
      else if greatestName < name.utf8ByteSize then .error .nameTooLong
      else tree.follow (place ++ [name]) rest

def find (tree : FileTree) (path : String) : Except FileFault FileEntry :=
  let names := (path.toList.splitOn '/').map String.ofList
  if path = "" then .error .missing
  else if '\x00' ∈ path.toList then .error .nulInPath
  else if greatestPath < path.utf8ByteSize then .error .nameTooLong
  else tree.follow (if path.toList.head? = some '/' then [] else tree.here) names

def contentOf (tree : FileTree) (path : String) : Except FileFault Bytes := do
  match ← tree.find path with
  | .file content => return content
  | .directory => throw .isDirectory

end FileTree

end ShardedView
