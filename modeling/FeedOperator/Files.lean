import FeedOperator.Text.Pieces
import FeedOperator.Text.Utf8

/-!
# Files

* `Directory`: the files below the directory in which a process runs. Nothing else is there.
* `Directory.read`: what is in the file at a path, or why it cannot be read. A path is followed
  name by name, and the first name that leads nowhere is the reason.
* `pathIn`: the path of a file in a directory.
-/

namespace FeedOperator

open Text

/-- Why a file cannot be read. -/
inductive FileFault where
  | absent
  /-- A file stands where the path goes on. -/
  | notDirectory
  | isDirectory
  /-- A name or the whole path is longer than any can be. -/
  | nameTooLong
  /-- The path holds a character that no path holds. -/
  | unexpectedNul
  deriving DecidableEq

/-- The fault in words. -/
def FileFault.message : FileFault → String
  | .absent => "No such file or directory (os error 2)"
  | .notDirectory => "Not a directory (os error 20)"
  | .isDirectory => "Is a directory (os error 21)"
  | .nameTooLong => "File name too long (os error 36)"
  | .unexpectedNul => "file name contained an unexpected NUL byte"

/-- The files below a directory: paths and contents. -/
structure Directory where
  files : List (String × String) := []

namespace Directory

/-- The greatest length of a name in octets. -/
def maxName : Nat := 255

/-- The greatest length of a path in octets. -/
def maxPath : Nat := 4095

/-- The names on a path. A single dot stays where it is. -/
def names (path : String) : List (List Char) :=
  (pieces '/' path.toList).filter fun name => !name.isEmpty && name != ['.']

/-- What is in the file at a place. -/
def file? (d : Directory) (place : List (List Char)) : Option String :=
  (d.files.find? fun f => names f.1 == place).map (·.2)

/-- Whether a place is a directory with files in it. -/
def isAbove (d : Directory) (place : List (List Char)) : Bool :=
  d.files.any fun f => place.isPrefixOf (names f.1)

/-- Follows names from a place. Two dots lead a step back, and outside there is nothing. -/
def follow (d : Directory) (place : List (List Char)) : List (List Char) → Except FileFault String
  | [] => .error .isDirectory
  | name :: rest =>
    if name = ['.', '.'] then
      if place.isEmpty then outside rest else d.follow place.dropLast rest
    else if maxName < (Utf8.encode name).length then .error .nameTooLong
    else
      let next := place ++ [name]
      match d.file? next with
      | some content => if rest.isEmpty then .ok content else .error .notDirectory
      | none => if d.isAbove next then d.follow next rest else .error .absent
where
  /-- What becomes of names that lead outside. -/
  outside (rest : List (List Char)) : Except FileFault String :=
    match rest.find? (· ≠ ['.', '.']) with
    | some name =>
      if maxName < (Utf8.encode name).length then .error .nameTooLong else .error .absent
    | none => .error .isDirectory

/-- What is in the file at a path. -/
def read (d : Directory) (path : String) : Except FileFault String :=
  if path.toList.contains '\x00' then .error .unexpectedNul
  else if maxPath < path.utf8ByteSize then .error .nameTooLong
  else if path.toList.head? = some '/' then follow.outside (names path)
  else d.follow [] (names path)

end Directory

/-- A file in a directory. -/
def pathIn (directory file : String) : String :=
  if directory.isEmpty ∨ directory.toList.getLast? = some '/' then directory ++ file
  else directory ++ "/" ++ file

end FeedOperator
