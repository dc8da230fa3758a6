/-!
# Halves of surrogate pairs

An escape may name one half of a surrogate pair alone. Such a half is a code point but no character.
A text holds a stand-in for it, a character of a block for private use with as many places as there
are halves, and every form of a text that shows code points shows the half itself. No UTF-8 can be
written for a text with a half.

The characters of this block, U+10F000 to U+10F7FF, are not told from the halves that they stand
for. So a text with one of them is treated as if it had a half, and cannot be written either.
-/

namespace StartupGate.Text

/-- Whether a code point is half of a surrogate pair. -/
def isHalf (code : Nat) : Bool := 0xd800 ≤ code && code < 0xe000

/-- The distance from a half to its stand-in. -/
def standInShift : Nat := 0x101800

/-- The character of a code point; a stand-in for one half of a surrogate pair. -/
def charOfCode (code : Nat) : Char := Char.ofNat (if isHalf code then code + standInShift else code)

/-- Whether a character stands for one half of a surrogate pair. -/
def isStandIn (c : Char) : Bool := 0x10f000 ≤ c.toNat && c.toNat < 0x10f800

/-- The code point of a character; for a stand-in the half that it stands for. -/
def codeOfChar (c : Char) : Nat := if isStandIn c then c.toNat - standInShift else c.toNat

/-- Whether a text can be written as UTF-8. -/
def isWritable (s : String) : Bool := s.toList.all fun c => !isStandIn c

/-- A text with three replacement characters for each half of a surrogate pair, one for each byte
that the half would take. -/
def withoutHalves (s : String) : String :=
  String.ofList (s.toList.flatMap fun c =>
    if isStandIn c then List.replicate 3 '\ufffd' else [c])

end StartupGate.Text
