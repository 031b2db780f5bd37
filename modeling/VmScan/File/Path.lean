import VmScan.Text.Lines

/-!
# Paths

* `Path.ofText` — a path from its written form; empty parts and parts that are a single dot do
  not count.
* `Path.text` — the shortest written form.
* `Path.withSuffix` — the path of a file that stands beside another.
-/

namespace VmScan

/-- A path: how it starts, and the names on it. -/
structure Path where
  /-- The slashes at the start of a path that does not start here. -/
  root : String := ""
  names : List String := []
  deriving DecidableEq, Repr

namespace Path

/-- The slashes that a path starts with; exactly two stand for themselves. -/
def rootOf (cs : List Char) : String :=
  match (cs.takeWhile (· = '/')).length with
  | 0 => ""
  | 2 => "//"
  | _ => "/"

/-- The path with the given written form. -/
def ofText (text : String) : Path where
  root := rootOf text.toList
  names := ((Text.splitOn '/' text.toList).map String.ofList).filter fun name =>
    name ≠ "" && name ≠ "."

/-- The shortest written form of a path. -/
def text (path : Path) : String :=
  if path.root = "" && path.names.isEmpty then "."
  else path.root ++ "/".intercalate path.names

/-- The path of the file whose name is longer by the given suffix. -/
def withSuffix (path : Path) (suffix : String) : Path :=
  match path.names.getLast? with
  | none => path
  | some name => { path with names := path.names.dropLast ++ [name ++ suffix] }

end Path

end VmScan
