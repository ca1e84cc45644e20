/-!
# Files

A `FileSystem` says what stands at each path; it is all that a run knows of the world. A run asks
two things about a path, and each may be answered as the world likes: whether anything is there, and
what the file there holds. The second question can fail for the reasons in `ReadError`, whose
wording is that of the operating system.

A `FileTree` is a file system held in memory: files and directories below one working directory.
Paths are followed component by component, so a file stands in the way of everything below it, and
what lies outside of the working directory does not exist.
-/

namespace DiagramCheck

/-- Why a text could not be read. -/
inductive ReadError
  /-- There is no such file. -/
  | notFound
  /-- A file stands where a directory would have to be. -/
  | notADirectory
  /-- A name on the path or the path itself is too long. -/
  | nameTooLong
  /-- The path holds the character with the code 0. -/
  | malformedPath
  /-- The path is that of a directory. -/
  | isADirectory
  /-- The file may not be read, or a directory on the path may not be searched. -/
  | permissionDenied
  /-- The symbolic links on the path lead on and on. -/
  | tooManyLinks
  /-- The system gives another reason. -/
  | other (reason : String)
  /-- The content of the file is not UTF-8. -/
  | invalidText
  deriving DecidableEq

/-- The wording of a read error. -/
def ReadError.message : ReadError → String
  | .notFound => "No such file or directory (os error 2)"
  | .notADirectory => "Not a directory (os error 20)"
  | .nameTooLong => "File name too long (os error 36)"
  | .malformedPath => "file name contained an unexpected NUL byte"
  | .isADirectory => "Is a directory (os error 21)"
  | .permissionDenied => "Permission denied (os error 13)"
  | .tooManyLinks => "Too many levels of symbolic links (os error 40)"
  | .other reason => reason
  | .invalidText => "stream did not contain valid UTF-8"

/-- What stands at a path. -/
structure Lookup where
  /-- Whether anything is there, as far as can be told without reading it. -/
  isPresent : Bool
  /-- The content of the file, or why it cannot be read. -/
  content : Except ReadError ByteArray

namespace Lookup

/-- Nothing is seen at a path that cannot be followed to its end. -/
def nothing (error : ReadError) : Lookup :=
  ⟨false, .error error⟩

/-- Something is there that cannot be read. -/
def unreadable (error : ReadError) : Lookup :=
  ⟨true, .error error⟩

/-- A file is there. -/
def file (content : ByteArray) : Lookup :=
  ⟨true, .ok content⟩

/-- The text at a path, or why it cannot be read. -/
def text (l : Lookup) : Except ReadError String :=
  match l.content with
  | .error error => .error error
  | .ok content =>
    match String.fromUTF8? content with
    | some text => .ok text
    | none => .error .invalidText

end Lookup

/-- What stands at each path. -/
abbrev FileSystem := String → Lookup

/-- A file or a directory that is listed in a tree. -/
inductive FileEntry
  /-- A file with its content. -/
  | file (content : ByteArray)
  /-- A directory. -/
  | directory

/-- What is seen of an entry. -/
def FileEntry.lookup : FileEntry → Lookup
  | .file content => .file content
  | .directory => .unreadable .isADirectory

/-- The longest name that can be looked up in a directory, in bytes. -/
def longestName : Nat :=
  255

/-- The longest path, in bytes. -/
def longestPath : Nat :=
  4095

/-- The names that a path is made of, in order. -/
def pathNames (path : String) : List String :=
  (path.toList.splitOn '/').map String.ofList

/-- Files and directories below a working directory. The directories above an entry exist without
being listed. -/
structure FileTree where
  /-- The entries, each with the names on its path. -/
  entries : List (List String × FileEntry)

namespace FileTree

/-- The place that a relative path leads to, if every name on it but the last is a directory. -/
def placeOf (path : String) : List String :=
  (pathNames path).foldl
    (fun place name =>
      if name = "" ∨ name = "." then place
      else if name = ".." then place.dropLast
      else place ++ [name])
    []

/-- A tree from relative paths. Of two entries at one place the later one counts. -/
def ofPaths (entries : List (String × FileEntry)) : FileTree :=
  ⟨(entries.map fun e => (placeOf e.1, e.2)).reverse⟩

/-- What stands at a place below the working directory. -/
def find (t : FileTree) (place : List String) : Option FileEntry :=
  match t.entries.find? fun e => e.1 == place with
  | some (_, entry) => some entry
  | none =>
    if place.isEmpty || t.entries.any fun e => place.isPrefixOf e.1 then some .directory else none

/-- Follows the names of a path from a place, which is `none` outside of the working directory. -/
def follow (t : FileTree) : Option (List String) → List String → Lookup
  | none, [] => FileEntry.lookup .directory
  | some place, [] =>
    match t.find place with
    | none => .nothing .notFound
    | some entry => entry.lookup
  | none, name :: names =>
    if name = "" ∨ name = "." ∨ name = ".." then t.follow none names
    else if longestName < name.utf8ByteSize then .nothing .nameTooLong
    else .nothing .notFound
  | some place, name :: names =>
    match t.find place with
    | none => .nothing .notFound
    | some (.file _) => .nothing .notADirectory
    | some .directory =>
      if name = "" ∨ name = "." then t.follow (some place) names
      else if name = ".." then
        t.follow (if place.isEmpty then none else some place.dropLast) names
      else if longestName < name.utf8ByteSize then .nothing .nameTooLong
      else t.follow (some (place ++ [name])) names

/-- A tree as a file system. An empty path names nothing, and a path that starts with a slash does
not start at the working directory. -/
def fileSystem (t : FileTree) : FileSystem := fun path =>
  if path.toList.contains '\x00' then .nothing .malformedPath
  else if longestPath < path.utf8ByteSize then .nothing .nameTooLong
  else
    match pathNames path with
    | [""] => .nothing .notFound
    | "" :: names => t.follow none names
    | names => t.follow (some []) names

end FileTree

end DiagramCheck
