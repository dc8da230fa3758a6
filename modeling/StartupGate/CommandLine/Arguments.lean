/-!
# Arguments of a command

The arguments of a command are options and words. An option begins with two dashes and a name, or
with one dash and one letter; several letters may share a dash. Its value is the next argument, or
follows the name after an equals sign, or follows the letter directly. After two dashes alone only
words come.

`Arguments.read` splits arguments by a table of options. It does not look at the values.
-/

namespace StartupGate

/-- Why arguments are refused. -/
inductive UsageError where
  | missingCommand
  | unknownCommand (name : String)
  | unknownOption (name : String)
  | missingValue (option : String)
  /-- A value for an option that takes none. -/
  | needlessValue (option : String)
  | extraArgument (word : String)
  /-- A value that is no integer. -/
  | notInteger (value : String)
  /-- An integer below the least one. -/
  | tooSmall (value : Int)
  /-- A path that no file can have. -/
  | badPath (path : String)
  /-- A file that cannot be opened. -/
  | unreadableFile (path : String)
  /-- No configuration is given at all. -/
  | noConfiguration
deriving Repr, DecidableEq

/-- The wording of a usage error. -/
def UsageError.message : UsageError → String
  | .missingCommand => "no command is given"
  | .unknownCommand name => "there is no command " ++ name
  | .unknownOption name => "there is no option " ++ name
  | .missingValue option => "option " ++ option ++ " needs a value"
  | .needlessValue option => "option " ++ option ++ " takes no value"
  | .extraArgument word => "nothing is done with " ++ word
  | .notInteger value => value ++ " is no integer"
  | .tooSmall value => toString value ++ " is less than one"
  | .badPath _ => "no file can have that path"
  | .unreadableFile path => path ++ " cannot be opened"
  | .noConfiguration =>
    "no configuration is given; pass -c/--config or set DEPENDENCY_GATE_CONFIG_FILE"

/-- What arguments are made of: the options given, in order, with their values, and the words. -/
structure Arguments (κ : Type) where
  options : List (κ × String) := []
  words : List String := []

namespace Arguments

/-- The last value of an option. -/
def last? {κ : Type} [BEq κ] (a : Arguments κ) (k : κ) : Option String :=
  (a.options.reverse.find? fun (o, _) => o == k).map (·.2)

/-- Whether an option is given. -/
def has {κ : Type} [BEq κ] (a : Arguments κ) (k : κ) : Bool := a.options.any fun (o, _) => o == k

/-- Splits a text at its first equals sign. -/
def splitEquals (cs : List Char) : String × Option String :=
  let name := cs.takeWhile (· != '=')
  (String.ofList name,
    match cs.drop name.length with
    | [] => none
    | _ :: value => some (String.ofList value))

/-- The options behind a single dash: flags, and at most one option with a value, which takes the
rest of the letters or else the next argument. -/
def readLetters {κ : Type} (option? : String → Option (κ × Bool)) :
    List Char → (following : List String) → Except UsageError (List (κ × String) × List String)
  | [], following => .ok ([], following)
  | c :: r, following =>
    let name := String.ofList ['-', c]
    match option? name with
    | none => .error (.unknownOption name)
    | some (k, false) => do
      let (options, following) ← readLetters option? r following
      return ((k, "") :: options, following)
    | some (k, true) =>
      if !r.isEmpty then .ok ([(k, String.ofList r)], following)
      else match following with
        | value :: following => .ok ([(k, value)], following)
        | [] => .error (.missingValue name)

/-- The option behind two dashes. -/
def readName {κ : Type} (option? : String → Option (κ × Bool)) (cs : List Char)
    (following : List String) : Except UsageError (List (κ × String) × List String) :=
  let (name, value?) := splitEquals cs
  match option? name, value? with
  | none, _ => .error (.unknownOption name)
  | some (_, false), some _ => .error (.needlessValue name)
  | some (k, false), none => .ok ([(k, "")], following)
  | some (k, true), some value => .ok ([(k, value)], following)
  | some (k, true), none =>
    match following with
    | value :: following => .ok ([(k, value)], following)
    | [] => .error (.missingValue name)

/-- Splits arguments; `option?` finds an option by its name with its dashes, and says whether it
takes a value. Where `mixed` is false the first word ends the options. Every step takes an
argument. -/
def readLoop {κ : Type} (option? : String → Option (κ × Bool)) (mixed : Bool) :
    (fuel : Nat) → List String → Except UsageError (Arguments κ)
  | 0, _ => .ok {}
  | _, [] => .ok {}
  | fuel + 1, arg :: following =>
    match arg.toList with
    | ['-', '-'] => .ok { words := following }
    | '-' :: c :: r => do
      let (options, following) ←
        if c == '-' then readName option? ('-' :: c :: r) following
        else readLetters option? (c :: r) following
      let rest ← readLoop option? mixed fuel following
      return { rest with options := options ++ rest.options }
    | _ =>
      if mixed then do
        let rest ← readLoop option? mixed fuel following
        return { rest with words := arg :: rest.words }
      else .ok { words := arg :: following }

/-- Splits arguments. -/
def read {κ : Type} (option? : String → Option (κ × Bool)) (mixed : Bool) (args : List String) :
    Except UsageError (Arguments κ) :=
  readLoop option? mixed (args.length + 1) args

end Arguments

end StartupGate
