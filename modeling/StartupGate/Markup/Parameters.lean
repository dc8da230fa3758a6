import StartupGate.Text.Blank
import StartupGate.Text.Digit
import StartupGate.Text.Printable
import StartupGate.Text.Quoted
/-!
# Parameters of a tag

A tag whose name begins with an at sign names an action. Its parameters are the name of a handler,
perhaps with values in parentheses, or else values alone. Values are constants: numbers, texts
between quotes, `True`, `False`, `None`, and collections of constants.

`Parameters.fault?` finds why parameters are no values. Faults of the text come first, wherever they
stand; then the first place where no value can be read.
-/

namespace StartupGate.Markup.Parameters

/-- Why parameters are no values. -/
inductive Fault where
  /-- A text without its closing quote. -/
  | unfinishedText
  /-- A closing bracket that nothing opens. -/
  | unmatched (closing : Char)
  /-- A closing bracket of another kind than the opening one. -/
  | mismatched (closing opening : Char)
  /-- An opening bracket that nothing closes. -/
  | neverClosed (opening : Char)
  /-- A backslash that does not end a line. -/
  | afterBackslash
  /-- A control character. -/
  | control (code : Nat)
  /-- Something that is nearly a number of some kind. -/
  | badNumber (kind : String)
  /-- A digit that is too great for the base of a number. -/
  | badDigit (digit : Char) (kind : String)
  /-- A number with a leading zero. -/
  | leadingZero
  /-- Two values with nothing between them. -/
  | missingComma
  | invalid
  /-- An expression that is no constant. -/
  | notConstant
deriving Repr, DecidableEq

/-- The wording of a fault. -/
def Fault.message : Fault → String
  | .unfinishedText => "unterminated string literal (detected at line 1)"
  | .unmatched closing => "unmatched '" ++ String.singleton closing ++ "'"
  | .mismatched closing opening =>
    "closing parenthesis '" ++ String.singleton closing
      ++ "' does not match opening parenthesis '" ++ String.singleton opening ++ "'"
  | .neverClosed opening => "'" ++ String.singleton opening ++ "' was never closed"
  | .afterBackslash => "unexpected character after line continuation character"
  | .control code =>
    "invalid non-printable character U+"
      ++ String.ofList ((Text.Quoted.hexDigits 4 code).map Char.toUpper)
  | .badNumber kind => "invalid " ++ kind ++ " literal"
  | .badDigit digit kind =>
    "invalid digit '" ++ String.singleton digit ++ "' in " ++ kind ++ " literal"
  | .leadingZero =>
    "leading zeros in decimal integer literals are not permitted; " ++
      "use an 0o prefix for octal integers"
  | .missingComma => "invalid syntax. Perhaps you forgot a comma?"
  | .invalid => "invalid syntax"
  | .notConstant => "malformed node or string"

/-! ## Tokens -/

/-- A token. -/
inductive Token where
  | name (s : String)
  | number (isImaginary : Bool)
  | text
  | symbol (s : String)
deriving Repr, DecidableEq

/-- A character of a name. -/
def isNameChar (c : Char) : Bool :=
  c.isAlphanum || c == '_' || (0x80 ≤ c.toNat && Text.isPrintable c)

/-- The closing bracket of an opening one. -/
def closing? : Char → Option Char
  | '(' => some ')'
  | '\x7b' => some '\x7d'
  | '[' => some ']'
  | _ => none

/-- The symbols of two characters. -/
def longSymbols : List String :=
  ["**", "//", "<<", ">>", "<=", ">=", "==", "!=", ":=", "->", "+=", "-=", "*=", "/="]

/-- Drops the rest of a text between quotes; nothing if it has no end. -/
def dropText (quote : Char) : List Char → Option (List Char)
  | [] => none
  | '\\' :: _ :: r => dropText quote r
  | c :: r => if c = quote then some r else if c = '\n' then none else dropText quote r

/-! ### Numbers -/

/-- What ends the reading of a number: its token and the rest, or a fault. -/
abbrev NumberRead := Except Fault (Token × List Char)

/-- Names that may stand right after a number. -/
def followers : List String := ["and", "else", "for", "if", "in", "is", "or", "not"]

/-- Ends a number of a kind. No name may follow, except a few. -/
def endNumber (kind : String) (isImaginary : Bool) (r : List Char) : NumberRead :=
  let follows := followers.any fun w => r.take w.length = w.toList
  if !follows && r.head?.any fun c => c.toNat < 0x80 && isNameChar c then .error (.badNumber kind)
  else .ok (.number isImaginary, r)

/-- Drops digits, with single underscores between them, after a digit. -/
def dropDigits (kind : String) (isDigit : Char → Bool) : List Char → Except Fault (List Char)
  | '_' :: d :: r => if isDigit d then dropDigits kind isDigit r else .error (.badNumber kind)
  | ['_'] => .error (.badNumber kind)
  | d :: r => if isDigit d then dropDigits kind isDigit r else .ok (d :: r)
  | [] => .ok []

/-- Drops the digits of a decimal number. -/
def dropDecimals : List Char → Except Fault (List Char) := dropDigits "decimal" Text.isAsciiDigit

/-- Reads a number in another base after its mark. -/
def numberInBase (kind : String) (isDigit : Char → Bool) (r : List Char) : NumberRead := do
  let r := if r.head? = some '_' then r.drop 1 else r
  let refuse (r : List Char) : Fault :=
    match r with
    | c :: _ => if Text.isAsciiDigit c then .badDigit c kind else .badNumber kind
    | [] => .badNumber kind
  if r.head?.any isDigit then
    let rest ← (dropDigits kind isDigit r).mapError fun f =>
      match (r.dropWhile fun c => isDigit c).drop 1 with
      | c :: _ => if Text.isAsciiDigit c then .badDigit c kind else f
      | [] => f
    if rest.head?.any Text.isAsciiDigit then throw (refuse rest)
    endNumber kind false rest
  else throw (refuse r)

/-- Reads the imaginary mark after a number that holds a point or an exponent. -/
def endFloat : List Char → NumberRead
  | c :: r =>
    if c = 'j' || c = 'J' then endNumber "imaginary" true r else endNumber "decimal" false (c :: r)
  | [] => endNumber "decimal" false []

/-- Reads the exponent and the imaginary mark of a number. -/
def readExponent : List Char → NumberRead
  | [] => endFloat []
  | e :: r =>
    if e = 'e' || e = 'E' then
      let digits :=
        match r with
        | '+' :: t => t
        | '-' :: t => t
        | _ => r
      if digits.head?.any Text.isAsciiDigit then do endFloat (← dropDecimals digits)
      else if digits.length < r.length then .error (.badNumber "decimal")
      else endNumber "decimal" false (e :: r)
    else endFloat (e :: r)

/-- Reads what follows the point of a number. -/
def readFraction (r : List Char) : NumberRead := do
  readExponent (← if r.head?.any Text.isAsciiDigit then dropDecimals r else .ok r)

/-- Whether a character ends the whole part of a number and makes it no whole number. -/
def continuesNumber (c : Char) : Bool := ".eEjJ".contains c

/-- Reads a number: the token and the rest. -/
def number (cs : List Char) : NumberRead := do
  match cs with
  | '.' :: r => readFraction r
  | '0' :: 'x' :: r | '0' :: 'X' :: r => numberInBase "hexadecimal" Text.isHexDigit r
  | '0' :: 'o' :: r | '0' :: 'O' :: r =>
    numberInBase "octal" (fun c => '0' ≤ c && c ≤ '7') r
  | '0' :: 'b' :: r | '0' :: 'B' :: r => numberInBase "binary" (fun c => c = '0' || c = '1') r
  | _ =>
    let rest ← dropDecimals cs
    let whole := cs.take (cs.length - rest.length)
    match rest with
    | '.' :: r => readFraction r
    | _ =>
      if cs.head? = some '0' && whole.any (fun c => c != '0' && c != '_')
          && !rest.head?.any continuesNumber then throw .leadingZero
      else readExponent rest

/-! ### Splitting -/

/-- Splits a text into tokens; `opened` are the open brackets. Gives the tokens, the brackets that
stay open, and the fault that ends them if there is one. -/
def tokens : (fuel : Nat) → (opened : List Char) → List Char →
    List Token × List Char × Option Fault
  | 0, opened, _ => ([], opened, none)
  | _, opened, [] => ([], opened, none)
  | fuel + 1, opened, c :: r =>
    let more (t : Token) (opened rest : List Char) :=
      let (ts, o, f) := tokens fuel opened rest
      (t :: ts, o, f)
    if c = '\n' && opened.isEmpty then more (.symbol "\n") opened r
    else if c = ' ' || c = '\t' || c = '\n' || c = '\x0c' then tokens fuel opened r
    else if c = '#' then tokens fuel opened (r.dropWhile (· != '\n'))
    else if c = '\\' then
      match r with
      | '\n' :: n :: r => tokens fuel opened (n :: r)
      | _ => ([], opened, some .afterBackslash)
    else if c = '\'' || c = '"' then
      match dropText c r with
      | some rest => more .text opened rest
      | none => ([], opened, some .unfinishedText)
    else if Text.isAsciiDigit c || (c == '.' && r.head?.any Text.isAsciiDigit) then
      match number (c :: r) with
      | .ok (t, rest) => more t opened rest
      | .error f => ([], opened, some f)
    else if isNameChar c then
      let name := c :: r.takeWhile isNameChar
      let rest := r.dropWhile isNameChar
      let isMark := name.length ≤ 2 && name.all ("bBrRuUfF".contains ·)
      match rest with
      | q :: t =>
        if isMark && (q = '\'' || q = '"') then
          match dropText q t with
          | some rest => more .text opened rest
          | none => ([], opened, some .unfinishedText)
        else more (.name (String.ofList name)) opened rest
      | [] => more (.name (String.ofList name)) opened rest
    else if c.toNat < 0x20 || c.toNat = 0x7f then ([], opened, some (.control c.toNat))
    else if (closing? c).isSome then more (.symbol (String.singleton c)) (c :: opened) r
    else if c = ')' || c = '\x7d' || c = ']' then
      match opened with
      | [] => ([], opened, some (.unmatched c))
      | o :: outer =>
        if closing? o = some c then more (.symbol (String.singleton c)) outer r
        else ([], opened, some (.mismatched c o))
    else
      let long := String.ofList (c :: r.take 1)
      if c = '.' && r.take 2 = ['.', '.'] then more (.name "...") opened (r.drop 2)
      else if longSymbols.contains long then more (.symbol long) opened (r.drop 1)
      else more (.symbol (String.singleton c)) opened r

/-! ## Values -/

/-- What an expression stands for. -/
inductive Kind where
  | real
  | imaginary
  /-- A constant that is no number, or a sum of two numbers. -/
  | constant
  | other
deriving Repr, DecidableEq

/-- Why no expression can be read: the tokens end, or one of them does not fit. -/
inductive Stop where
  | atEnd
  | fault (f : Fault)

/-- Names that stand between two values. -/
def isJoiningName (s : String) : Bool := ["and", "or", "in", "is"].contains s

/-- Names that stand for no value. -/
def isReserved (s : String) : Bool :=
  isJoiningName s || ["not", "if", "else", "for", "while", "def", "class", "return", "import",
    "from", "as", "with", "try", "except", "finally", "raise", "global", "nonlocal", "del", "pass",
    "break", "continue", "assert", "elif", "async", "await", "yield", "lambda"].contains s

/-- Names of constants. -/
def isConstantName (s : String) : Bool := ["True", "False", "None", "..."].contains s

/-- Symbols that stand between two values. -/
def isJoiningSymbol (s : String) : Bool :=
  ["+", "-", "*", "/", "%", "@", "&", "|", "^", "<", ">", "**", "//", "<<", ">>", "<=", ">=",
    "==", "!="].contains s

/-- Whether a value may begin with a token. -/
def beginsValue : Token → Bool
  | .name s => !isReserved s || s == "not"
  | .number _ | .text => true
  | .symbol s => s == "(" || s == "\x7b" || s == "["

/-- A step in reading values. -/
abbrev Read := Except Stop (Kind × List Token)

/-- The kind of a collection with an item of a kind. -/
def withItem (collection item : Kind) : Kind :=
  if collection = .other || item = .other then .other else .constant

/-- The kind of two values with a symbol between them. -/
def joined (symbol : String) (a b : Kind) : Kind :=
  if (symbol = "+" || symbol = "-") && a = .real && b = .imaginary then .constant else .other

/-- The kind of a value with a symbol before it. -/
def signed (symbol : String) (a : Kind) : Kind :=
  if (symbol = "+" || symbol = "-") && (a = .real || a = .imaginary) then a else .other

mutual

/-- Reads a value; `level` counts the open brackets. -/
def value : (fuel : Nat) → (level : Nat) → List Token → Read
  | 0, _, _ => .error .atEnd
  | fuel + 1, level, ts => do
    let (a, rest) ← operand fuel level ts
    operation fuel level ts.head? a rest

/-- Reads what follows a value: an operator and another value, or nothing. -/
def operation : (fuel : Nat) → (level : Nat) → (first : Option Token) → Kind → List Token → Read
  | 0, _, _, _, _ => .error .atEnd
  | fuel + 1, level, first, a, ts =>
    match ts with
    | .symbol s :: rest =>
      if isJoiningSymbol s then do
        let (b, after) ← operand fuel level rest
        operation fuel level none (joined s a b) after
      else .ok (a, ts)
    | .name s :: rest =>
      if isJoiningName s then do
        let (_, after) ← operand fuel level rest
        operation fuel level none .other after
      else adjacent fuel level first a ts
    | _ => adjacent fuel level first a ts

/-- Refuses a value that follows another one directly. -/
def adjacent : (fuel : Nat) → (level : Nat) → (first : Option Token) → Kind → List Token → Read
  | 0, _, _, _, _ => .error .atEnd
  | fuel + 1, level, first, a, ts =>
    match ts with
    | [] => .ok (a, [])
    | t :: _ =>
      let isMarkedText :=
        match first, t with
        | some (.name _), .text => true
        | _, _ => false
      if !beginsValue t || level = 0 || isMarkedText then .ok (a, ts)
      else
        match value fuel level ts with
        | .ok (_, []) => .error .atEnd
        | .ok _ => .error (.fault .missingComma)
        | .error e => .error e

/-- Reads a value without operators after it, with its calls and members. -/
def operand : (fuel : Nat) → (level : Nat) → List Token → Read
  | 0, _, _ => .error .atEnd
  | _, _, [] => .error .atEnd
  | fuel + 1, level, t :: rest =>
    match t with
    | .number isImaginary => follow fuel level (if isImaginary then .imaginary else .real) rest
    | .text => follow fuel level .constant (rest.dropWhile (· == .text))
    | .name s =>
      if s = "not" then (operand fuel level rest).map fun (_, r) => (.other, r)
      else if isReserved s then .error (.fault .invalid)
      else if isConstantName s then follow fuel level .constant rest
      else follow fuel level .other rest
    | .symbol s =>
      if s = "+" || s = "-" || s = "~" then
        (operand fuel level rest).map fun (a, r) => (signed s a, r)
      else if s = "(" then do
        let (a, rest) ← items fuel level ")" .constant true rest
        follow fuel level a rest
      else if s = "\x7b" then do
        let (a, rest) ← items fuel level "\x7d" .constant true rest
        follow fuel level a rest
      else .error (.fault .invalid)

/-- Reads the calls and members after a value. -/
def follow : (fuel : Nat) → (level : Nat) → Kind → List Token → Read
  | 0, _, _, _ => .error .atEnd
  | fuel + 1, level, a, ts =>
    match ts with
    | .symbol "(" :: rest => do
      let (_, rest) ← items fuel level ")" .constant true rest
      follow fuel level .other rest
    | .symbol "." :: .name s :: rest =>
      if isReserved s || isConstantName s then .error (.fault .invalid)
      else follow fuel level .other rest
    | [.symbol "."] => .error .atEnd
    | _ => .ok (a, ts)

/-- Reads items up to a closing bracket. A single item in parentheses stands for itself. -/
def items : (fuel : Nat) → (level : Nat) → (last : String) → Kind → (isFirst : Bool) →
    List Token → Read
  | 0, _, _, _, _, _ => .error .atEnd
  | fuel + 1, level, last, kind, isFirst, ts =>
    if ts.head? = some (.symbol last) then .ok (kind, ts.drop 1)
    else do
      let (a, rest) ← value fuel (level + 1) ts
      let (a, rest) ←
        match rest with
        | .symbol ":" :: r =>
          if last = "\x7d" then do
            let (b, r) ← value fuel (level + 1) r
            pure (withItem a b, r)
          else throw (.fault .invalid)
        | _ => pure (a, rest)
      match rest with
      | [] => throw .atEnd
      | .symbol "," :: r => items fuel level last (withItem kind a) false r
      | t :: r =>
        if t = .symbol last then
          return (if isFirst && last = ")" then a else withItem kind a, r)
        else throw (.fault .invalid)

end

/-- Reads values that stand without brackets, up to the end. -/
def values : (fuel : Nat) → Kind → (isFirst : Bool) → List Token → Except Stop Kind
  | 0, _, _, _ => .error .atEnd
  | fuel + 1, kind, isFirst, ts => do
    let (a, rest) ← value fuel 0 ts
    match rest with
    | [] => return if isFirst then a else withItem kind a
    | [.symbol ","] => return withItem kind a
    | .symbol "," :: r => values fuel (withItem kind a) false r
    | _ => throw (.fault .invalid)

/-- Drops the ends of lines at the end of tokens. -/
def dropEnds (ts : List Token) : List Token :=
  (ts.reverse.dropWhile (· == .symbol "\n")).reverse

/-- Why a text is no list of values. A fault of the text that ends its tokens comes first, but a
stray backslash counts only where a value is looked for. -/
def fault? (text : List Char) : Option Fault :=
  let (ts, opened, fault) := tokens (text.length + 1) [] text
  let read := values (8 * ts.length + 16) .constant true (dropEnds ts)
  match fault, read with
  | some .afterBackslash, .error (.fault f) => some f
  | some f, _ => some f
  | none, .ok .other => some .notConstant
  | none, .ok _ => none
  | none, .error (.fault f) => some f
  | none, .error .atEnd => some ((opened.head?.map Fault.neverClosed).getD .invalid)

/-! ## Handlers -/

/-- What has to be values in parameters: all of them, or only what stands in the parentheses after
the name of a handler. -/
def valuePart (parameters : List Char) : List Char :=
  let name := parameters.takeWhile fun c => isNameChar c || c == '.'
  match parameters.drop name.length with
  | [] => ['(', ')']
  | '(' :: r => if r.getLast? = some ')' then '(' :: r else parameters
  | _ => parameters

end StartupGate.Markup.Parameters
