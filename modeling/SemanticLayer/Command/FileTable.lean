import SemanticLayer.Command.Run

/-!
# Surroundings held in a table

A directory given as a list of files with their texts, in which relative paths are looked up. It
stands in for the real directory wherever a run of the program is to be a pure function.

A path is a list of names between slashes; empty names and single points change nothing, and two
points lead back. A directory is whatever stands above a file.
-/

namespace SemanticLayer.Command

/-- The files of a directory, by path. -/
abbrev FileTable := List (String × String)

namespace FileTable

/-- The names on a path. -/
def namesOf (path : String) : List String :=
  (path.toList.splitOn '/').map String.ofList

/-- The files, by the names on their paths. -/
def byNames (files : FileTable) : List (List String × String) :=
  files.map fun file ↦ ((namesOf file.1).filter fun name ↦ !(name.isEmpty || name == "."), file.2)

/-- What is found when nothing is. -/
def missing : FileContent :=
  .unreadable false "No such file or directory (os error 2)"

/-- Looks names up one after another, below the directory that is reached so far. -/
def walk (files : List (List String × String)) (place : List String) :
    List String → FileContent
  | [] =>
    match files.lookup place with
    | some content => .text content
    | none =>
      if place.isEmpty || files.any fun file ↦ place.isPrefixOf file.1 then
        .unreadable true "Is a directory (os error 21)"
      else missing
  | name :: rest =>
    if (files.lookup place).isSome then .unreadable false "Not a directory (os error 20)"
    else if !(place.isEmpty || files.any fun file ↦ place.isPrefixOf file.1) then missing
    else if name.isEmpty || name == "." then walk files place rest
    else if name == ".." then if place.isEmpty then missing else walk files place.dropLast rest
    else walk files (place ++ [name]) rest

/-- What is found at a path. -/
def lookup (files : FileTable) (path : String) : FileContent :=
  if path.isEmpty || path.startsWith "/" then missing
  else walk files.byNames [] (namesOf path)

/-- The surroundings of a table of files, with variables and the directory of the user's
settings. -/
def surroundings (files : FileTable) (environment : List (String × String)) (user : String) :
    Surroundings Id where
  getVariable name := environment.lookup name
  file path := files.lookup path
  userDirectory? := some user

end FileTable

end SemanticLayer.Command
