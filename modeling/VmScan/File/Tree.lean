import VmScan.File.Path
import VmScan.Text.Quoted
import VmScan.Text.Utf8

/-!
# Files

* `SystemError` — an error of the system, by its number. `SystemError.isIgnored` are those that
  `is_file` takes for a path at which nothing stands.
* `Entry` — what stands at a path, or why that cannot be told. `Entry.lookError?` is the error with
  which `is_file` fails there.
* `Disk` — the way to look at paths and to write files.
* `FileFault` — why a file cannot be read or written.
* `Tree` — files held in memory, with `Tree.look` and `Tree.write`.
-/

namespace VmScan

/-- An error of the system. -/
structure SystemError where
  number : Nat
  text : String
  deriving DecidableEq, Repr

namespace SystemError

/-- Whether the error says that nothing stands at the path: there is no such entry, the way leads
through a file, a descriptor is bad, or links lead in a circle. -/
def isIgnored (error : SystemError) : Bool :=
  error.number ∈ [2, 20, 9, 40]

/-- The error for a name or a path that is too long. -/
def nameTooLong : SystemError where
  number := 36
  text := "File name too long"

/-- The message of an error at a path. -/
def message (error : SystemError) (path : Path) : String :=
  s!"[Errno {error.number}] {error.text}: " ++ Text.quoted path.text

end SystemError

/-- What stands at a path. -/
inductive Entry where
  | missing
  /-- The way there leads through a file. -/
  | blocked
  | directory
  | file (bytes : List UInt8)
  /-- A file stands there that cannot be opened. -/
  | closed (error : SystemError)
  /-- Looking there fails. -/
  | hidden (error : SystemError)
  deriving DecidableEq, Repr

/-- Whether a file stands at the path. -/
def Entry.isFile : Entry → Bool
  | .file _ | .closed _ => true
  | _ => false

/-- The error with which looking at the path fails, unless it says that nothing stands there. -/
def Entry.lookError? : Entry → Option SystemError
  | .hidden error => if error.isIgnored then none else some error
  | _ => none

/-- Why a file cannot be read or written. -/
inductive FileFault where
  | missing (path : Path)
  | directory (path : Path)
  | notADirectory (path : Path)
  | system (path : Path) (error : SystemError)
  deriving DecidableEq, Repr

/-- The message of a fault. -/
def FileFault.message : FileFault → String
  | .missing path => SystemError.message ⟨2, "No such file or directory"⟩ path
  | .directory path => SystemError.message ⟨21, "Is a directory"⟩ path
  | .notADirectory path => SystemError.message ⟨20, "Not a directory"⟩ path
  | .system path error => error.message path

/-- The way to look at paths and to write files. -/
structure Disk (m : Type → Type) where
  look : Path → m Entry
  write : Path → List UInt8 → m (Except FileFault Unit)

/-- The content of an entry. -/
def Entry.content (path : Path) : Entry → Except FileFault (List UInt8)
  | .missing => .error (.missing path)
  | .blocked => .error (.notADirectory path)
  | .directory => .error (.directory path)
  | .closed error | .hidden error => .error (.system path error)
  | .file bytes => .ok bytes

/-- Files and empty directories by the names that lead to them. A directory that holds something
is not listed itself. -/
abbrev Tree := List (List String × Entry)

namespace Tree

/-- What stands behind exactly these names. -/
def at? (tree : Tree) (names : List String) : Entry :=
  match tree.find? fun (other, _) => other = names with
  | some (_, entry) => entry
  | none =>
    if names.isEmpty || tree.any (fun (other, _) => names.isPrefixOf other) then .directory
    else .missing

/-- The number of bytes that a text takes in a path. -/
def byteCount (text : String) : Nat :=
  (Text.Utf8.encode text.toList).length

/-- The greatest number of bytes of a name. -/
def maxNameBytes : Nat := 255

/-- The greatest number of bytes of a path. -/
def maxPathBytes : Nat := 4095

/-- What stands at the end of the way that starts behind the names `here`, with the names that
lead there without going up. Every step but the last must lead to a directory; where one leads
nowhere or above the start, or its name is too long, no names lead to the end. -/
def walk (tree : Tree) (here : List String) : List String → List String × Entry
  | [] => (here, tree.at? here)
  | name :: rest =>
    match tree.at? here with
    | .directory =>
      if maxNameBytes < byteCount name then ([], .hidden .nameTooLong)
      else if name ≠ ".." then tree.walk (here ++ [name]) rest
      else if here.isEmpty then ([], .missing)
      else tree.walk here.dropLast rest
    | .file _ => (here, .blocked)
    | _ => ([], .missing)

/-- The end of the way of a path below the start. -/
def reach (tree : Tree) (path : Path) : List String × Entry :=
  if maxPathBytes < byteCount path.text then ([], .hidden .nameTooLong)
  else tree.walk [] path.names

/-- What stands at the path; what is not below the start is missing. -/
def look (tree : Tree) (path : Path) : Entry :=
  if path.root = "" then (tree.reach path).2 else .missing

/-- Puts a file behind the names, in its place if one is there and at the end if not. -/
def put (names : List String) (bytes : List UInt8) : Tree → Tree
  | [] => [(names, .file bytes)]
  | (other, entry) :: rest =>
    if other = names then (names, .file bytes) :: rest
    else (other, entry) :: put names bytes rest

/-- Writes a file into a directory that exists. -/
def write (tree : Tree) (path : Path) (bytes : List UInt8) : Except FileFault Tree :=
  if path.root ≠ "" then .error (.missing path)
  else match tree.reach path with
    | (_, .blocked) => .error (.notADirectory path)
    | (_, .directory) => .error (.directory path)
    | (_, .closed error) | (_, .hidden error) => .error (.system path error)
    | (names, .file _) => .ok (tree.put names bytes)
    | (names, .missing) =>
      if names.isEmpty then .error (.missing path) else .ok (tree.put names bytes)

end Tree

end VmScan
