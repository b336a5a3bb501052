import NameRoles.Rule.Error
import NameRoles.Text.Split

/-!
# Files in memory

A tree of files and directories, in which paths are followed as a file system follows them. It is a
world to run commands in.
-/

namespace NameRoles.CommandLine

open Text

inductive FileTree where
  | file (bytes : ByteArray)
  | directory (entries : List (String × FileTree))

namespace FileTree

/-- What stands at a place, given by the names that lead to it. -/
def at? : FileTree → List String → Option FileTree
  | tree, [] => some tree
  | file _, _ :: _ => none
  | directory entries, name :: names => do at? (← entries.lookup name) names

/-- The place to which a name leads from another place. -/
def step (root : FileTree) (place : List String) (name : String) :
    Except FileFault (List String) :=
  match root.at? place with
  | some (directory entries) =>
    if name = "." then .ok place
    else if name = ".." then .ok place.dropLast
    else if 255 < name.utf8ByteSize then .error .nameTooLong
    else if (entries.lookup name).isSome then .ok (place ++ [name])
    else .error .missing
  | _ => .error .notDirectory

/-- The bytes of the file to which a path leads, from `current` unless it starts with a slash.
What stands in front of a slash has to be a directory. -/
def read (root : FileTree) (current : List String) (path : String) :
    Except FileFault ByteArray := do
  if path = "" then throw .missing
  if 4095 < path.utf8ByteSize then throw .nameTooLong
  let parts := (splitWhere (· = '/') path.toList).map String.ofList
  let start := if path.startsWith "/" then [] else current
  let place ← (parts.filter (· ≠ "")).foldlM root.step start
  match root.at? place with
  | some (file bytes) => if path.endsWith "/" then throw .notDirectory else return bytes
  | some (directory _) => throw .directory
  | none => throw .missing

end FileTree

end NameRoles.CommandLine
