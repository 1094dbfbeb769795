import SchemaAtlas.Failure
import SchemaAtlas.Source.Path

namespace SchemaAtlas

/-!
Files below the current directory, and what keeps a file from being read.

A file is known by the names on the way to it, and the names on the way are directories.
-/

/-- The files below the current directory. -/
structure Files where
  entries : List (List Text × List UInt8)

/-- Why a file cannot be read. -/
inductive FileError where
  | notFound
  | notDirectory
  | isDirectory
deriving DecidableEq

namespace FileError

def message (e : FileError) (path : Path) : Text :=
  let cause : Text := match e with
    | .notFound => "[Errno 2] No such file or directory: "
    | .notDirectory => "[Errno 20] Not a directory: "
    | .isDirectory => "[Errno 21] Is a directory: "
  cause ++ Text.quoted path.toText

end FileError

namespace Files

def file? (f : Files) (place : List Text) : Option (List UInt8) :=
  f.entries.lookup place

/-- A directory is at a place: the current one, or one on the way to a file. -/
def isDirectory (f : Files) (place : List Text) : Bool :=
  place.isEmpty || f.entries.any fun entry => place.isPrefixOf entry.1 && place != entry.1

/-- The file that names lead to from a directory.  Two dots lead back to the directory above. -/
def follow (f : Files) (directory : List Text) : List Text -> Except FileError (List UInt8)
  | [] => .error .isDirectory
  | name :: rest =>
    let place := if name == ['.', '.'] then directory.dropLast else directory ++ [name]
    if f.isDirectory place then f.follow place rest
    else
      match f.file? place, rest with
      | some bytes, [] => .ok bytes
      | some _, _ :: _ => .error .notDirectory
      | none, _ => .error .notFound

/-- The contents of the file at a path.  Nothing is known outside the current directory. -/
def read (f : Files) (path : Path) : Except FileError (List UInt8) :=
  if path.root.isEmpty then f.follow [] path.names
  else if path.names.isEmpty then .error .isDirectory
  else .error .notFound

/-- The place that a path names, with the directories above left again. -/
def place (path : Path) : List Text :=
  path.names.foldl (fun way name => if name == ['.', '.'] then way.dropLast else way ++ [name]) []

/-- The files with one written; directories on the way to it are made. -/
def write (f : Files) (path : Path) (bytes : List UInt8) : Files :=
  ⟨(place path, bytes) :: f.entries.filter fun entry => entry.1 != place path⟩

def failure (path : Path) (e : FileError) : Failure :=
  Failure.source
    ("Не удалось прочитать файл ".toList ++ path.toText ++ ": ".toList ++ e.message path)
    (some path.toText) (some "read")

end Files
end SchemaAtlas
