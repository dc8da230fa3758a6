import StartupGate.Text.Printable
import StartupGate.Text.Surrogate
/-!
# Quoted text

A quoted text stands between single quotes, or between double quotes when it holds a single quote
and no double quote. Inside, the backslash and the quote in use are escaped, tab, line feed and
carriage return have their letters, and any other character that is not printable is written by its
code point in hexadecimal: two digits after `\x`, four after `\u`, eight after `\U`, whichever is
the shortest that fits.
-/

namespace StartupGate.Text.Quoted

/-- The quote that encloses a text. -/
def delimiter (s : List Char) : Char :=
  if s.contains '\'' && !s.contains '"' then '"' else '\''

/-- A lower-case hexadecimal digit. -/
def hexDigit (n : Nat) : Char :=
  if n < 10 then Char.ofNat (48 + n) else Char.ofNat (87 + n)

/-- The last `width` hexadecimal digits of a number. -/
def hexDigits : (width n : Nat) → List Char
  | 0, _ => []
  | w + 1, n => hexDigits w (n / 16) ++ [hexDigit (n % 16)]

/-- How one character is written inside the quote `q`. -/
def encodeChar (q c : Char) : List Char :=
  if c == q || c == '\\' then ['\\', c]
  else if c == '\t' then ['\\', 't']
  else if c == '\n' then ['\\', 'n']
  else if c == '\r' then ['\\', 'r']
  else if isPrintable c then [c]
  else if c.toNat < 0x100 then '\\' :: 'x' :: hexDigits 2 c.toNat
  else if codeOfChar c < 0x10000 then '\\' :: 'u' :: hexDigits 4 (codeOfChar c)
  else '\\' :: 'U' :: hexDigits 8 c.toNat

/-- A list of characters between quotes. -/
def encodeChars (s : List Char) : List Char :=
  let q := delimiter s
  q :: s.flatMap (encodeChar q) ++ [q]

end StartupGate.Text.Quoted

namespace StartupGate.Text

/-- A text between quotes. -/
def quote (s : String) : String := String.ofList (Quoted.encodeChars s.toList)

end StartupGate.Text
