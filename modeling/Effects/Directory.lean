import Effects.Fields

/-!
# Directories

A directory is known by its files: each has a path from the directory and a text. `Directory.read?`
follows a path the way a file system does, name by name, so that a file counts as found only if
every name in front of its own leads to a directory.
-/

namespace Effects

/-- The texts of files, under their paths from a directory. -/
abbrev Directory := Fields String

namespace Directory

/-- The path that some names make up. -/
def join (names : List String) : String := "/".intercalate names

/-- Whether some names lead to a directory: a file lies below. -/
def leadsDown (directory : Directory) (names : List String) : Bool :=
  directory.any fun file => names.isPrefixOf (file.1.splitOn "/").dropLast

/-- Follows names from the place that other names lead to. A point stays in place, and two points
lead back; nothing is found outside of the directory, and a place is no file. -/
def follow? (directory : Directory) (place : List String) : List String → Option String
  | [] => none
  | name :: rest =>
    if name = "" || name = "." then follow? directory place rest
    else if name = ".." then
      if place = [] then none else follow? directory place.dropLast rest
    else if rest = [] then directory.get? (join (place ++ [name]))
    else if directory.leadsDown (place ++ [name]) then follow? directory (place ++ [name]) rest
    else none

/-- The text of the file at a path. A path that starts with a slash leads out of the directory. -/
def read? (directory : Directory) (path : String) : Option String :=
  if path.startsWith "/" then none else directory.follow? [] (path.splitOn "/")

end Directory

end Effects
