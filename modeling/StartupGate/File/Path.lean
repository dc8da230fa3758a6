import StartupGate.Text.Blank
/-!
# Paths

A path is a text with slashes between its parts. `Path.normalize` gives its normal form: parts that
are empty or a single dot are dropped, and a path without any part is a dot. Two slashes at the
start stand for themselves, any other count for one.

`Path.expandHome?` puts a home directory in place of a part at the start that begins with a tilde: a
tilde alone is the own home directory, and a name after it is that of another user.
-/

namespace StartupGate.Path

/-- The parts of a text between slashes. -/
def split : List Char → List (List Char)
  | [] => [[]]
  | c :: r =>
    if c = '/' then [] :: split r
    else match split r with
      | [] => [[c]]
      | part :: parts => (c :: part) :: parts

/-- The slashes that a path begins with, in normal form. -/
def root (cs : List Char) : String :=
  match (cs.takeWhile (· == '/')).length with
  | 0 => ""
  | 2 => "//"
  | _ => "/"

/-- The parts of a path that count. -/
def parts (path : String) : List String :=
  ((split path.toList).filter fun p => p ≠ [] ∧ p ≠ ['.']).map String.ofList

/-- The path with the given root and parts. -/
def join (root : String) (parts : List String) : String :=
  let s := root ++ "/".intercalate parts
  if s = "" then "." else s

/-- The normal form of a path. -/
def normalize (path : String) : String := join (root path.toList) (parts path)

/-- The home directories that are known. -/
structure Homes where
  /-- The own one. -/
  own : String := "."
  /-- Those of other users, by name. -/
  others : List (String × String) := []
deriving Repr

/-- The home directory of a user; no name stands for the own one. -/
def Homes.find? (h : Homes) (user : String) : Option String :=
  if user = "" then some h.own else h.others.lookup user

/-- The path in normal form, with the home directory in place of a first part that begins with a
tilde. Fails where that directory is not known, or begins with a tilde itself. -/
def expandHome? (homes : Homes) (path : String) : Option String :=
  match (if root path.toList = "" then (parts path) else []) with
  | [] => some (normalize path)
  | first :: rest =>
    match first.toList with
    | '~' :: user =>
      match homes.find? (String.ofList user) with
      | none => none
      | some home =>
        let home := if Text.dropSlashes home = "" then "/" else Text.dropSlashes home
        if home.startsWith "~" then none
        else some (join (root home.toList) (parts home ++ rest))
    | _ => some (normalize path)

end StartupGate.Path
