import StartupGate.Markup.EmojiNames
import StartupGate.Text.Blank
import StartupGate.Text.LetterCase
/-!
# Emoji codes

A text may hold emoji by their names between colons, as in `:heart:`, in capitals or small letters.
A name may end in `-text` or `-emoji`, which asks for one of the two ways to draw the emoji. A name
that is not known stays as it is, colons included.

`emojiLines` holds the names. From a name with tones come five others, such as
`wave_medium-dark_skin_tone`, and from a flag with a long name one more, such as `flag_for_austria`.
-/

namespace StartupGate.Markup

/-- The emoji under a name in a list of names and emoji in turn, with the marks after it. -/
def listed? (name : String) : List String → Option (List Char)
  | n :: emoji :: rest => if n = name then some emoji.toList else listed? name rest
  | _ => none

/-- The marks that stand after an emoji. -/
def isEmojiMark (c : Char) : Bool := c == '+' || c == '*'

/-- The tones of skin by name. -/
def tones : List (String × Char) :=
  [("light", Char.ofNat 0x1f3fb), ("medium-light", Char.ofNat 0x1f3fc),
   ("medium", Char.ofNat 0x1f3fd), ("medium-dark", Char.ofNat 0x1f3fe),
   ("dark", Char.ofNat 0x1f3ff)]

/-- An emoji in a tone. The tone stands behind the first character, in place of the selector. -/
def inTone (tone : Char) : List Char → List Char
  | c :: '\ufe0f' :: r => c :: tone :: r
  | c :: r => c :: tone :: r
  | [] => []

/-- What stands before an ending, if a text ends in it. -/
def withoutEnding? (ending text : String) : Option String :=
  if text.endsWith ending then
    some (String.ofList (text.toList.take (text.length - ending.length)))
  else none

/-- What stands after a beginning, if a text begins with it. -/
def withoutBeginning? (beginning text : String) : Option String :=
  if text.startsWith beginning then some (String.ofList (text.toList.drop beginning.length))
  else none

/-- The emoji of a name in small letters. -/
def emoji? (name : String) : Option (List Char) :=
  let list := emojiLines.flatMap (·.splitOn " ")
  match listed? name list with
  | some emoji => some (emoji.filter fun c => !isEmojiMark c)
  | none =>
    let toned := tones.findSome? fun (tone, character) => do
      let base ← withoutEnding? ("_" ++ tone ++ "_skin_tone") name
      let emoji ← listed? base list
      if emoji.contains '+' then some (inTone character (emoji.filter fun c => !isEmojiMark c))
      else none
    toned.orElse fun _ => do
      let country ← withoutBeginning? "flag_for_" name
      let emoji ← listed? country list
      if emoji.contains '*' then some (emoji.filter fun c => !isEmojiMark c) else none

/-- The emoji of what stands between two colons. -/
def emojiOfCode? (code : List Char) : Option (List Char) :=
  let code := String.ofList code
  let (name, selector) :=
    match withoutEnding? "-text" code, withoutEnding? "-emoji" code with
    | some name, _ => (name, ['\ufe0e'])
    | _, some name => (name, ['\ufe0f'])
    | none, none => (code, [])
  (emoji? (Text.lowercase name)).map (· ++ selector)

/-- Replaces the emoji codes of a text. Every step takes at least one character. -/
def replaceEmoji : (fuel : Nat) → List Char → List Char
  | 0, cs => cs
  | _, [] => []
  | fuel + 1, c :: r =>
    if c = ':' then
      let code := r.takeWhile fun c => c != ':' && !Text.isBlank c
      match r.drop code.length with
      | ':' :: rest =>
        (emojiOfCode? code).getD (':' :: code ++ [':']) ++ replaceEmoji fuel rest
      | _ => ':' :: replaceEmoji fuel r
    else c :: replaceEmoji fuel r

end StartupGate.Markup
