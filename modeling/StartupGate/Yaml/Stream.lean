import StartupGate.Text.Surrogate
import StartupGate.Text.Utf8
import StartupGate.Yaml.Error
/-!
# The stream of a document

A document is read in pieces of `pieceSize` characters, and a piece only when the scan needs a
character of it; the first two pieces are read together. A piece that holds a fault is not given at
all. So the scan may find an error of its own before it meets the fault, and a `Stream` is the text
up to the faulty piece with the failure that stands behind it.

Bytes are decoded in chunks of `chunkSize`, each when a piece needs a character of it.
-/

namespace StartupGate.Yaml

/-- The text of a document as far as it can be read, and what broke off the reading if anything
did. -/
structure Stream where
  text : List Char
  failure : Option Error := none

namespace Stream

/-- The count of characters in a piece. -/
def pieceSize : Nat := 4096

/-- The count of bytes that are decoded together. -/
def chunkSize : Nat := 8192

/-- A character that may stand in a document. -/
def isDocumentChar (c : Char) : Bool :=
  let n := c.toNat
  c == '\t' || c == '\n' || c == '\r' || n == 0x85 || (0x20 ≤ n && n ≤ 0x7e)
    || (0xa0 ≤ n && n ≤ 0xd7ff) || (0xe000 ≤ n && n ≤ 0xfffd)
    || (0x10000 ≤ n && !Text.isStandIn c)

/-- The index at which the piece with the character at an index begins. -/
def pieceStart (index : Nat) : Nat :=
  if index < 2 * pieceSize then 0 else index / pieceSize * pieceSize

/-- The stream of characters, with what stands behind them. -/
def ofChars (cs : List Char) (failure : Option Error) : Stream :=
  let good := (cs.takeWhile isDocumentChar).length
  if good = cs.length then { text := cs, failure }
  else { text := cs.take (pieceStart good), failure := some .unprintable }

/-- The stream of a text. -/
def ofText (text : String) : Stream := ofChars text.toList none

/-- How far into bytes that begin with no character the first one is that does not fit; it may be
the end. -/
def misfit (left : List UInt8) : Nat :=
  let width := Text.utf8Width (left.headD 0)
  let continued := ((left.drop 1).takeWhile fun b => 0x80 ≤ b && b < 0xc0).length
  if width = 0 then 0 else if continued < width - 1 then 1 + continued else 1

/-- The characters of bytes with line feeds for all line ends, as far as they are well formed. A
carriage return at the end is held back. -/
def charsBefore (bytes : List UInt8) : List Char :=
  let cs := (Text.decodeLongest bytes.length bytes).1
  Text.unifyLineEnds (if cs.getLast? == some '\r' then cs.dropLast else cs)

/-- The stream of a file. -/
def ofBytes (bytes : List UInt8) : Stream :=
  match Text.decodeLongest bytes.length bytes with
  | (cs, []) => ofChars (Text.unifyLineEnds cs) none
  | (_, left) =>
    let fault := bytes.length - left.length + misfit left
    let before := charsBefore (bytes.take (fault / chunkSize * chunkSize))
    ofChars (before.take (pieceStart before.length)) (some .undecodable)

end Stream

end StartupGate.Yaml
