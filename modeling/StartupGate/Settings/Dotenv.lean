import StartupGate.Settings.Environment
import StartupGate.Text.Blank
import StartupGate.Text.Utf8
/-!
# Files of settings

A file of settings gives one setting a line, `NAME=value`, perhaps after the word `export`. A value
may stand between quotes, where it may run over several lines and hold escapes; without quotes a
comment begins with a blank and a number sign. A name alone is a setting without value. A line that
is none of this is passed over.

In a value `${NAME}` and `${NAME:-default}` stand for another setting: one given further up in the
file, else a variable of the environment.
-/

namespace StartupGate.Dotenv

/-- The settings of a file in order; a name without an equals sign has no value. -/
abbrev Entries := Named (Option String)

/-! ## Lines -/

/-- A blank that does not end a line. -/
def isInlineBlank (c : Char) : Bool := Text.isBlank c && c != '\n' && c != '\r'

/-- A character that ends a line. -/
def isLineEnd (c : Char) : Bool := c == '\n' || c == '\r'

/-- Moves past one line end. -/
def dropLineEnd : List Char → List Char
  | '\r' :: '\n' :: r => r
  | c :: r => if isLineEnd c then r else c :: r
  | [] => []

/-- Moves past the rest of a line. -/
def dropLine (cs : List Char) : List Char := dropLineEnd (cs.dropWhile fun c => !isLineEnd c)

/-- Moves past the word `export` and the blanks after it. -/
def dropExport (cs : List Char) : List Char :=
  match cs with
  | 'e' :: 'x' :: 'p' :: 'o' :: 'r' :: 't' :: c :: r =>
    if isInlineBlank c then r.dropWhile isInlineBlank else cs
  | _ => cs

/-- Splits a text after an opening quote at the closing one. A backslash takes the character after
it along. -/
def splitQuote (quote : Char) : List Char → Option (List Char × List Char)
  | [] => none
  | '\\' :: c :: r => (splitQuote quote r).map fun (value, rest) => ('\\' :: c :: value, rest)
  | c :: r =>
    if c = quote then some ([], r)
    else (splitQuote quote r).map fun (value, rest) => (c :: value, rest)

/-- The character of an escape between single quotes. -/
def singleEscape? : Char → Option Char
  | '\\' => some '\\'
  | '\'' => some '\''
  | _ => none

/-- The character of an escape between double quotes. -/
def doubleEscape? : Char → Option Char
  | '\\' => some '\\'
  | '\'' => some '\''
  | '"' => some '"'
  | 'a' => some '\x07'
  | 'b' => some '\x08'
  | 'f' => some '\x0c'
  | 'n' => some '\n'
  | 'r' => some '\r'
  | 't' => some '\t'
  | 'v' => some '\x0b'
  | _ => none

/-- Replaces escapes; a backslash before any other character stands for itself. -/
def unescape (escape? : Char → Option Char) : List Char → List Char
  | '\\' :: c :: r =>
    match escape? c with
    | some x => x :: unescape escape? r
    | none => '\\' :: unescape escape? (c :: r)
  | c :: r => c :: unescape escape? r
  | [] => []

/-- Cuts off a comment: blanks, a number sign, and the rest. -/
def dropComment : List Char → List Char
  | [] => []
  | c :: r =>
    if Text.isBlank c && (r.dropWhile Text.isBlank).head? == some '#' then []
    else c :: dropComment r

/-- Reads a value after the equals sign; nothing for a quote that is never closed. The blanks before
a value without quotes are no part of it, but they may begin a comment. -/
def value? (cs : List Char) : Option (String × List Char) :=
  match cs.dropWhile isInlineBlank with
  | '\'' :: r => (splitQuote '\'' r).map fun (v, rest) =>
    (String.ofList (unescape singleEscape? v), rest)
  | '"' :: r => (splitQuote '"' r).map fun (v, rest) =>
    (String.ofList (unescape doubleEscape? v), rest)
  | _ =>
    let line := cs.takeWhile fun c => !isLineEnd c
    some (String.ofList (Text.trim Text.isBlank (dropComment line)), cs.drop line.length)

/-- Reads the name of a setting, nothing before a comment. Fails where no name can be read. -/
def name? (cs : List Char) : Except (List Char) (Option String × List Char) :=
  match cs with
  | '#' :: _ => .ok (none, cs)
  | '\'' :: r =>
    let name := r.takeWhile (· != '\'')
    match r.drop name.length with
    | _ :: rest => if name.isEmpty then .error cs else .ok (some (String.ofList name), rest)
    | [] => .error cs
  | _ =>
    let name := cs.takeWhile fun c => c != '=' && c != '#' && !Text.isBlank c
    if name.isEmpty then .error cs
    else .ok (some (String.ofList name), cs.drop name.length)

/-- Moves past blanks, a comment and the line end. Fails before anything else. -/
def endOfLine (cs : List Char) : Except (List Char) (List Char) :=
  let cs :=
    match cs.dropWhile isInlineBlank with
    | '#' :: r => r.dropWhile fun c => !isLineEnd c
    | _ => cs
  match cs.dropWhile isInlineBlank with
  | [] => .ok []
  | c :: r => if isLineEnd c then .ok (dropLineEnd (c :: r)) else .error cs

/-- Reads one setting after the blanks before it. The error is what is left of a faulty line. -/
def setting (cs : List Char) :
    Except (List Char) (Option (String × Option String) × List Char) := do
  let (name, cs) ← name? (dropExport cs)
  let cs := cs.dropWhile isInlineBlank
  let (value, cs) ← match cs with
    | '=' :: r =>
      match value? r with
      | some (v, rest) => pure (some v, rest)
      | none => throw r
    | _ => pure (none, cs)
  let cs ← endOfLine cs
  return (name.map fun n => (n, value), cs)

/-- Reads the settings of a text. Every step takes at least one character. -/
def settings : (fuel : Nat) → List Char → Entries
  | 0, _ => []
  | fuel + 1, cs =>
    match cs.dropWhile Text.isBlank with
    | [] => []
    | cs =>
      match setting cs with
      | .ok (some s, rest) => s :: settings fuel rest
      | .ok (none, rest) => settings fuel rest
      | .error rest => settings fuel (dropLine rest)

/-! ## Other settings in values -/

/-- A reference to another setting at the start of a text, after its dollar sign: the name, the
default, and the rest. -/
def reference? (cs : List Char) : Option (String × Option String × List Char) :=
  match cs with
  | '\x7b' :: r =>
    let name := r.takeWhile fun c => c != '\x7d' && c != ':'
    match r.drop name.length with
    | '\x7d' :: rest => some (String.ofList name, none, rest)
    | ':' :: '-' :: r =>
      let default := r.takeWhile (· != '\x7d')
      match r.drop default.length with
      | _ :: rest => some (String.ofList name, some (String.ofList default), rest)
      | [] => none
    | _ => none
  | _ => none

/-- Replaces the references in a value. -/
def expand (lookup : String → Option (Option String)) : (fuel : Nat) → List Char → String
  | 0, cs => String.ofList cs
  | _, [] => ""
  | fuel + 1, c :: r =>
    match if c = '$' then reference? r else none with
    | some (name, default, rest) =>
      let value :=
        match lookup name with
        | some v => v.getD ""
        | none => default.getD ""
      value ++ expand lookup fuel rest
    | none => String.singleton c ++ expand lookup fuel r

/-- The settings of a file with the references in their values replaced. A name that is given twice
has its last value. -/
def resolve (e : Environment) (entries : Entries) : Entries :=
  entries.foldl (fun done (name, value) =>
    let lookup (n : String) : Option (Option String) :=
      match done.lookup n with
      | some v => some v
      | none => (e.get? n).map some
    Named.assign done name (value.map fun v => expand lookup (v.length + 1) v.toList)) []

/-- Drops the byte order mark at the start of a text. -/
def dropMark : List Char → List Char
  | '\ufeff' :: r => r
  | cs => cs

/-- The settings in the text of a file. -/
def parse (e : Environment) (text : String) : Entries :=
  let cs := dropMark (Text.withLineFeeds text).toList
  resolve e (settings (cs.length + 1) cs)

end StartupGate.Dotenv
