import CellMachine.Files.ReadError
import CellMachine.Text.Lines

/-!
A directory of files, each a sequence of bytes, and paths relative to it.
-/

namespace CellMachine

structure Directory where
  files : List (String × ByteArray)

namespace Directory

/-- The longest name of a file, in bytes. -/
def maxName : Nat := 255

/-- The longest path, in bytes. -/
def maxPath : Nat := 4095

/-- Where a path has led: into the directory, above it, or to a file. -/
inductive Place where
  | inside
  | above
  | file (bytes : ByteArray)

/-- One component further along a path. Nothing is known above the directory but the way further
up. -/
def enter (d : Directory) (place : Place) (component : String) : Except ReadError Place :=
  match place with
  | .file _ => .error .notDirectory
  | .inside =>
    if component = "" ∨ component = "." then .ok .inside
    else if component = ".." then .ok .above
    else if maxName < component.utf8ByteSize then .error .nameTooLong
    else
      match d.files.find? (·.1 == component) with
      | some (_, bytes) => .ok (.file bytes)
      | none => .error .notFound
  | .above =>
    if component = "" ∨ component = "." ∨ component = ".." then .ok .above
    else if maxName < component.utf8ByteSize then .error .nameTooLong
    else .error .notFound

/-- Follows a path, of which the empty one leads nowhere. -/
def locate (d : Directory) (path : String) : Except ReadError Place :=
  if path.toList.contains '\x00' then .error .nulInPath
  else if path = "" then .error .notFound
  else if maxPath < path.utf8ByteSize then .error .nameTooLong
  else
    let start : Place := if path.toList.head? = some '/' then .above else .inside
    ((Text.splitOn '/' path.toList).map String.ofList).foldlM d.enter start

def read (d : Directory) (path : String) : Except ReadError String :=
  match d.locate path with
  | .error e => .error e
  | .ok (.file bytes) => textOfBytes bytes
  | .ok _ => .error .isDirectory

end Directory

end CellMachine
