/-!
# Text from bytes

`decodeUtf8?` reads bytes as UTF-8 and accepts the shortest form of each character only;
`decodeLongest` reads as much of them as is well formed. Reading a file as text also turns every
line end into a line feed.
-/

namespace StartupGate.Text

/-- The text that bytes stand for, if they are well formed. -/
def decodeUtf8? (bytes : List UInt8) : Option String :=
  String.fromUTF8? (ByteArray.mk bytes.toArray)

/-- The count of bytes of a character by its first byte; zero for a byte that begins none. -/
def utf8Width (b : UInt8) : Nat :=
  if b < 0x80 then 1
  else if b < 0xc2 then 0
  else if b < 0xe0 then 2
  else if b < 0xf0 then 3
  else if b < 0xf5 then 4
  else 0

/-- The character that exactly these bytes stand for. -/
def decodeChar? (bytes : List UInt8) : Option Char :=
  match (decodeUtf8? bytes).map String.toList with
  | some [c] => some c
  | _ => none

/-- Reads characters as long as the bytes are well formed, and gives the bytes after them. Every
step takes at least one byte. -/
def decodeLongest : (fuel : Nat) → List UInt8 → List Char × List UInt8
  | 0, bytes => ([], bytes)
  | _, [] => ([], [])
  | fuel + 1, b :: r =>
    let width := utf8Width b
    match decodeChar? ((b :: r).take width) with
    | some c =>
      let (cs, left) := decodeLongest fuel ((b :: r).drop width)
      (c :: cs, left)
    | none => ([], b :: r)

/-- Makes a line feed of every carriage return, and of one with the line feed after it. -/
def unifyLineEnds : List Char → List Char
  | [] => []
  | '\r' :: '\n' :: r => '\n' :: unifyLineEnds r
  | '\r' :: r => '\n' :: unifyLineEnds r
  | c :: r => c :: unifyLineEnds r

/-- A text with line feeds for all line ends. -/
def withLineFeeds (s : String) : String := String.ofList (unifyLineEnds s.toList)

end StartupGate.Text
