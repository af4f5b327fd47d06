import FilterQuery.Named
import FilterQuery.System.Path

/-!
# Files

What is found at a path: nothing that can be looked at, something that cannot be read as a text, or
a text.  `FileTree` is a tree of files in memory, in which a path is followed component by
component from the root.
-/

namespace FilterQuery

inductive SystemError
  | notFound
  | notDirectory
  | isDirectory
  | nameTooLong
  | other (text : String)
  deriving DecidableEq, Repr

def SystemError.message : SystemError → String
  | .notFound => "No such file or directory (os error 2)"
  | .notDirectory => "Not a directory (os error 20)"
  | .isDirectory => "Is a directory (os error 21)"
  | .nameTooLong => "File name too long (os error 36)"
  | .other text => text

inductive FileState
  | missing (problem : SystemError)
  | unreadable (problem : SystemError)
  | text (content : String)
  deriving DecidableEq, Repr

namespace FileState

def exists? : FileState → Bool
  | .missing _ => false
  | .unreadable _ | .text _ => true

def read : FileState → Except SystemError String
  | .missing problem => .error problem
  | .unreadable problem => .error problem
  | .text content => .ok content

end FileState

/-- The files under their absolute paths, each given by the names of its components, and the
directories that are there beside those of the files. -/
structure FileTree where
  files : List (List String × String)
  directories : List (List String)

namespace FileTree

def file? (tree : FileTree) (place : List String) : Option String :=
  (tree.files.find? (·.1 == place)).map Prod.snd

def isDirectory (tree : FileTree) (place : List String) : Bool :=
  tree.files.any (fun file => place.isPrefixOf file.1 && place != file.1) ||
    tree.directories.any place.isPrefixOf

def maxNameBytes : Nat := 255

def maxPathBytes : Nat := 4095

/-- The place that the components lead to from a place. -/
def walk (tree : FileTree) (place : List String) : List String → Except SystemError (List String)
  | [] => .ok place
  | name :: rest =>
      if !tree.isDirectory place then .error .notDirectory
      else if name == "" || name == "." then tree.walk place rest
      else if name == ".." then tree.walk place.dropLast rest
      else if maxNameBytes < name.utf8ByteSize then .error .nameTooLong
      else
        let next := place ++ [name]
        if (tree.file? next).isSome || tree.isDirectory next then tree.walk next rest
        else .error .notFound

def names (path : String) : List String :=
  (Path.components path.toList).map String.ofList

/-- What is found at a path.  A relative path starts at the current directory. -/
def lookup (tree : FileTree) (directories : Directories) (path : String) : FileState :=
  if path.toList.contains '\x00' then
    .missing (.other "file name contained an unexpected NUL byte")
  else if maxPathBytes < path.utf8ByteSize then .missing .nameTooLong
  else
    match tree.walk [] (names (Path.join directories.current path)) with
    | .error problem => .missing problem
    | .ok place =>
        match tree.file? place with
        | some content => .text content
        | none => .unreadable .isDirectory

end FileTree

end FilterQuery
