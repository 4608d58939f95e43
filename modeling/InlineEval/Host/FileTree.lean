import InlineEval.Host.Error

/-!
# Trees of files

A file system as data: files with their contents, and the directories in which
they lie. A path is followed name by name. Every name but the last has to lead
to a directory, and so has the last one if a slash follows it; which error a
path ends in depends on the first name that leads nowhere.
-/

namespace InlineEval

open Text

/-- The names from the root to a file or a directory. -/
abbrev Location := List Text

/-- A file system and the directory in which the program works. -/
structure FileTree where
  files : List (Location × List UInt8)
  /-- Directories besides those in which files lie. -/
  directories : List Location
  working : Location

namespace FileTree

/-- The longest name that a file may have, in bytes. -/
def maxNameSize : Nat := 255

/-- The longest path that can be followed, in bytes. -/
def maxPathSize : Nat := 4095

/-- The names in a path; a slash more or less makes no difference to them. -/
def namesOf (path : Text) : List Text := (split '/' path).filter (!·.isEmpty)

def contents? (tree : FileTree) (location : Location) : Option (List UInt8) :=
  (tree.files.find? (·.1 == location)).map (·.2)

/-- There is a directory at a location: the root, the working directory, one
that is listed, or one that contains any of these or a file. -/
def isDirectory (tree : FileTree) (location : Location) : Bool :=
  location.isEmpty ||
    (tree.working :: tree.directories).any location.isPrefixOf ||
    tree.files.any fun file => location.isPrefixOf file.1 && location != file.1

/-- Follows one name. -/
def enter (tree : FileTree) (location : Location) (name : Text) : Except SystemError Location :=
  if !tree.isDirectory location then .error .notDirectory
  else if name = ['.'] then .ok location
  else if name = "..".toList then .ok location.dropLast
  else if maxNameSize < byteSize name then .error .nameTooLong
  else
    let next := location ++ [name]
    if (tree.contents? next).isSome || tree.isDirectory next then .ok next else .error .notFound

/-- Follows a path, from the root if it begins with a slash. -/
def locate (tree : FileTree) (path : Text) : Except SystemError Location := do
  if path.contains '\x00' then throw .embeddedZero
  if maxPathSize < byteSize path then throw .nameTooLong
  if path.isEmpty then throw .notFound
  let start := if path.head? = some '/' then [] else tree.working
  let location ← (namesOf path).foldlM tree.enter start
  if endsWith '/' path && !tree.isDirectory location then throw .notDirectory
  return location

/-- The contents of the file that a path leads to. -/
def read (tree : FileTree) (path : Text) : Except SystemError (List UInt8) := do
  match tree.contents? (← tree.locate path) with
  | some bytes => return bytes
  | none => throw .isDirectory

/-- Why a path cannot be run as a program. No file of the tree may be run. -/
def launchError (tree : FileTree) (path : Text) : SystemError :=
  match tree.locate path with
  | .ok _ => .permissionDenied
  | .error e => e

end FileTree

end InlineEval
