import SchemaAtlas.Text.Basic

namespace SchemaAtlas

/-!
Paths of files: a root, which may be missing, and the names below it.
-/

/-- A path: the slashes of its root and the names below it. -/
structure Path where
  root : Text
  names : List Text
deriving DecidableEq

namespace Path

/-- The root of a path.  Two slashes are a root of their own; any other number counts as one. -/
def rootOf (t : Text) : Text :=
  match (t.takeWhile (· == '/')).length with
  | 0 => []
  | 2 => ['/', '/']
  | _ => ['/']

/-- The path that a text spells.  Empty names and single dots mean nothing. -/
def ofText (t : Text) : Path where
  root := rootOf t
  names := (Text.splitOn '/' t).filter fun name => !name.isEmpty && name != ['.']

/-- The text of a path; a path without any name is the current directory. -/
def toText (p : Path) : Text :=
  if p.root.isEmpty && p.names.isEmpty then ['.'] else p.root ++ Text.join ['/'] p.names

def fileName (p : Path) : Text :=
  p.names.getLastD []

end Path
end SchemaAtlas
