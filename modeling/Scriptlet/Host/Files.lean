import Scriptlet.Text.Basic

/-!
# Scriptlet.Host.Files — what a command reads and leaves behind

A command sees a file system as a function from paths to contents.  `Files.read` is the file system
of a command whose working directory holds the given files and nothing else.
-/

namespace Scriptlet

/-- Why a file cannot be read. -/
inductive FileFault where
  | missing
  /-- A part of the path before the last names a file. -/
  | notDirectory
  /-- The path names a directory. -/
  | directory
  | nameTooLong
  deriving DecidableEq, Repr

/-- The complaint about a file that cannot be read.  A directory can be opened, but not read. -/
def FileFault.message (path : Text) : FileFault → Text
  | missing => utf8 "open " ++ path ++ utf8 ": no such file or directory"
  | notDirectory => utf8 "open " ++ path ++ utf8 ": not a directory"
  | nameTooLong => utf8 "open " ++ path ++ utf8 ": file name too long"
  | directory => utf8 "read " ++ path ++ utf8 ": is a directory"

/-- The contents of files by their paths. -/
abbrev FileSystem := Text → Except FileFault Text

/-- The files of a directory, by their names in it. -/
abbrev Files := List (Text × Text)

namespace Files

/-- The names in a path; a single dot and empty names stand for nothing. -/
def names (path : Text) : List Text :=
  (Text.split 0x2F path).filter fun name => name != [] && name != utf8 "."

/-- Where a path has led to. -/
inductive Place where
  /-- A directory at or below the working directory. -/
  | inside (directory : List Text)
  /-- A directory above the working directory. -/
  | above
  /-- A directory of the system. -/
  | system (directory : List Text)
  | file (content : Text)
  deriving DecidableEq, Repr

/-- The directories that every system has below its root. -/
def systemDirectories : List Text :=
  [utf8 "bin", utf8 "dev", utf8 "etc", utf8 "proc", utf8 "sys", utf8 "tmp", utf8 "usr", utf8 "var"]

/-- The longest name and the longest path. -/
def longestName : Nat := 255
def longestPath : Nat := 4095

/-- Where a name below the working directory leads to. -/
def descend (files : Files) (directory : List Text) : Except FileFault Place :=
  match files.find? fun (key, _) => names key == directory with
  | some (_, content) => .ok (.file content)
  | none =>
    if files.any fun (key, _) => directory.isPrefixOf (names key) then .ok (.inside directory)
    else .error .missing

/-- Follow one name of a path. -/
def enter (files : Files) (place : Place) (name : Text) : Except FileFault Place :=
  match place with
  | .file _ => .error .notDirectory
  | .inside directory =>
    if longestName < name.length then .error .nameTooLong
    else if name = utf8 ".." then
      .ok (if directory = [] then .above else .inside directory.dropLast)
    else files.descend (directory ++ [name])
  | .above =>
    if longestName < name.length then .error .nameTooLong
    else if name = utf8 ".." then .ok .above
    else .error .missing
  | .system directory =>
    if longestName < name.length then .error .nameTooLong
    else if name = utf8 ".." then .ok (.system directory.dropLast)
    else if directory = [] ∧ name ∈ systemDirectories then .ok (.system [name])
    else if directory = [utf8 "dev"] ∧ name = utf8 "null" then .ok (.file [])
    else .error .missing

/-- The content of a file.  Below a file there is nothing, not even the file itself, so a path to a
file does not end in a slash or a dot. -/
def read (files : Files) : FileSystem := fun path =>
  if path = [] then .error .missing
  else if longestPath < path.length then .error .nameTooLong
  else do
    let start := if path.head? = some 0x2F then Place.system [] else .inside []
    match ← (names path).foldlM files.enter start with
    | .file content =>
      let last := (Text.split 0x2F path).getLast?
      if last = some [] ∨ last = some (utf8 ".") then throw .notDirectory else return content
    | _ => throw .directory

end Files

/-- What a command leaves behind. -/
structure CommandResult where
  exit : Nat
  stdout : Text
  stderr : Text
  deriving DecidableEq, Repr

end Scriptlet
