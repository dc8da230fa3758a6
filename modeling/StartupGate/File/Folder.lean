import StartupGate.File.Path
import StartupGate.Text.Surrogate
/-!
# Files

`Files m` is what reading files comes down to: for every path either the bytes of the file or the
reason why there are none. The readers of configurations take it as an argument, so that the same
code serves a folder that is held in memory and the files of the system.

A `Folder` holds plain files and no other folders, and knows a little of what lies outside of it. A
path leads through it part by part.
-/

namespace StartupGate

/-- Why a file cannot be read. -/
inductive FileFault where
  | notFound
  | isFolder
  | notFolder
  /-- A path with a null character, which no file can have. -/
  | badPath
  /-- A path that cannot be written as UTF-8. -/
  | unwritable
  /-- A path, or a part of one, of too many bytes. -/
  | tooLong
  /-- Any other reason, in the words of the system. -/
  | other (reason : String)
deriving Repr, DecidableEq

/-- Why no file can have a path, if that is so. -/
def pathFault? (path : String) : Option FileFault :=
  if !Text.isWritable path then some .unwritable
  else if path.toList.contains '\x00' then some .badPath
  else none

/-- Reads a file, in the given kind of computation. -/
abbrev Files (m : Type → Type) := String → m (Except FileFault (List UInt8))

/-- The plain files of a folder, by name, and what is known outside of it, by path: the bytes of a
file, or nothing for a folder. -/
structure Folder where
  files : List (String × List UInt8) := []
  outside : List (String × Option (List UInt8)) := []
deriving Repr

namespace Folder

/-- Where a path leads: into the folder, to a folder outside of it, or to a file. -/
inductive Spot where
  | inside
  | outside (path : String)
  | file (bytes : List UInt8)

/-- The greatest count of bytes in a part of a path. -/
def partLimit : Nat := 255

/-- The greatest count of bytes in a path. -/
def pathLimit : Nat := 4095

/-- What stands under a name in a folder. -/
def enter (f : Folder) (name : String) : Spot → Option Spot
  | .inside => (f.files.lookup name).map .file
  | .outside path =>
    let path := path ++ "/" ++ name
    (f.outside.lookup path).map fun
      | some bytes => .file bytes
      | none => .outside path
  | .file _ => none

/-- Follows the parts of a path. -/
def walk (f : Folder) : Spot → List String → Except FileFault Spot
  | spot, [] => .ok spot
  | .file _, _ :: _ => .error .notFolder
  | spot, part :: rest =>
    if part = "" ∨ part = "." then walk f spot rest
    else if part = ".." then walk f (.outside "") rest
    else if partLimit < part.utf8ByteSize then .error .tooLong
    else match f.enter part spot with
      | some spot => walk f spot rest
      | none => .error .notFound

/-- The bytes of the file at a path. -/
def read (f : Folder) (path : String) : Except FileFault (List UInt8) := do
  if let some fault := pathFault? path then throw fault
  if pathLimit < path.utf8ByteSize then throw .tooLong
  if path = "" then throw .notFound
  let start := if path.startsWith "/" then Spot.outside "" else .inside
  match ← f.walk start ((Path.split path.toList).map String.ofList) with
  | .file bytes => return bytes
  | _ => throw .isFolder

/-- The files of a folder. -/
def reader (f : Folder) : Files Id := fun path => pure (f.read path)

end Folder

end StartupGate
