import StartupGate.Number.Literal
import StartupGate.Text.LetterCase
/-!
# Styles

A style is written as words: attributes such as `bold`, a colour, `on` with a colour of the
background, `not` with an attribute, and `link` with an address. `Style.normalName` writes it in one
way: the attributes in a fixed order and by their long names, then the colour, the background and
the link. A text that is no style is only trimmed and put in small letters.
-/

namespace StartupGate.Markup

/-! ## Attributes -/

/-- The attributes of a style in their order, each with its short name if it has one. -/
def attributeNames : List (String × String) :=
  [("bold", "b"), ("dim", "d"), ("italic", "i"), ("underline", "u"), ("blink", ""), ("blink2", ""),
   ("reverse", "r"), ("conceal", "c"), ("strike", "s"), ("underline2", "uu"), ("frame", ""),
   ("encircle", ""), ("overline", "o")]

/-- The long name of an attribute. -/
def attribute? (word : String) : Option String :=
  if word = "" then none
  else (attributeNames.find? fun (long, short) => word = long || word = short).map (·.1)

/-! ## Colours -/

/-- The names of colours. -/
def colourNames : List String :=
  ["black red green yellow blue magenta cyan white bright_black bright_red bright_green",
   "bright_yellow bright_blue bright_magenta bright_cyan bright_white grey0 gray0 navy_blue",
   "dark_blue blue3 blue1 dark_green deep_sky_blue4 dodger_blue3 dodger_blue2 green4",
   "spring_green4 turquoise4 deep_sky_blue3 dodger_blue1 green3 spring_green3 dark_cyan",
   "light_sea_green deep_sky_blue2 deep_sky_blue1 spring_green2 cyan3 dark_turquoise",
   "turquoise2 green1 spring_green1 medium_spring_green cyan2 cyan1 dark_red deep_pink4",
   "purple4 purple3 blue_violet orange4 grey37 gray37 medium_purple4 slate_blue3 royal_blue1",
   "chartreuse4 dark_sea_green4 pale_turquoise4 steel_blue steel_blue3 cornflower_blue",
   "chartreuse3 cadet_blue sky_blue3 steel_blue1 pale_green3 sea_green3 aquamarine3",
   "medium_turquoise chartreuse2 sea_green2 sea_green1 aquamarine1 dark_slate_gray2",
   "dark_magenta dark_violet purple light_pink4 plum4 medium_purple3 slate_blue1 yellow4",
   "wheat4 grey53 gray53 light_slate_grey light_slate_gray medium_purple light_slate_blue",
   "dark_olive_green3 dark_sea_green light_sky_blue3 sky_blue2 dark_sea_green3",
   "dark_slate_gray3 sky_blue1 chartreuse1 light_green pale_green1 dark_slate_gray1 red3",
   "medium_violet_red magenta3 dark_orange3 indian_red hot_pink3 medium_orchid3",
   "medium_orchid medium_purple2 dark_goldenrod light_salmon3 rosy_brown grey63 gray63",
   "medium_purple1 gold3 dark_khaki navajo_white3 grey69 gray69 light_steel_blue3",
   "light_steel_blue yellow3 dark_sea_green2 light_cyan3 light_sky_blue1 green_yellow",
   "dark_olive_green2 dark_sea_green1 pale_turquoise1 deep_pink3 magenta2 hot_pink2 orchid",
   "medium_orchid1 orange3 light_pink3 pink3 plum3 violet light_goldenrod3 tan misty_rose3",
   "thistle3 plum2 khaki3 light_goldenrod2 light_yellow3 grey84 gray84 light_steel_blue1",
   "yellow2 dark_olive_green1 honeydew2 light_cyan1 red1 deep_pink2 deep_pink1 magenta1",
   "orange_red1 indian_red1 hot_pink dark_orange salmon1 light_coral pale_violet_red1",
   "orchid2 orchid1 orange1 sandy_brown light_salmon1 light_pink1 pink1 plum1 gold1",
   "navajo_white1 misty_rose1 thistle1 yellow1 light_goldenrod1 khaki1 wheat1 cornsilk1",
   "grey100 gray100 grey3 gray3 grey7 gray7 grey11 gray11 grey15 gray15 grey19 gray19 grey23",
   "gray23 grey27 gray27 grey30 gray30 grey35 gray35 grey39 gray39 grey42 gray42 grey46",
   "gray46 grey50 gray50 grey54 gray54 grey58 gray58 grey62 gray62 grey66 gray66 grey70",
   "gray70 grey74 gray74 grey78 gray78 grey82 gray82 grey85 gray85 grey89 gray89 grey93",
   "gray93"].flatMap (·.splitOn " ")

/-- What stands between an opening text and a closing parenthesis at the end. -/
def inParentheses? (opening : String) (cs : List Char) : Option (List Char) :=
  let opening := opening.toList ++ ['(']
  if cs.take opening.length = opening && cs.getLast? = some ')' then
    some ((cs.drop opening.length).dropLast)
  else none

/-- The parts of a list of characters between commas. -/
def splitCommas : List Char → List (List Char)
  | [] => [[]]
  | c :: r =>
    if c = ',' then [] :: splitCommas r
    else match splitCommas r with
      | [] => [[c]]
      | part :: parts => (c :: part) :: parts

/-- The greatest number of a colour, and the greatest share of red, green or blue in one. -/
def colourLimit : Int := 255

/-- Whether a word in small letters is a colour: a name, six hexadecimal digits after a number sign,
or numbers in parentheses. Fails where a share is not written at all. -/
def isColour (word : String) : Except Number.LiteralError Bool :=
  let cs := word.toList
  if word = "default" || colourNames.contains word then .ok true
  else match cs with
    | '#' :: digits => .ok (digits.length = 6 && digits.all Text.isHexDigit)
    | _ =>
      match inParentheses? "color" cs, inParentheses? "rgb" cs with
      | some number, _ =>
        .ok (0 < number.length && number.length ≤ 3 && number.all Text.isAsciiDigit
          && (Number.ofAsciiDigits number : Int) ≤ colourLimit)
      | _, some shares =>
        let parts := splitCommas shares
        if !shares.isEmpty && shares.all (fun c => c = ',' || (Text.digitValue? c).isSome)
            && parts.length = 3 then do
          let values ← parts.mapM fun p => Number.readInteger 10 (String.ofList p)
          return values.all (· ≤ colourLimit)
        else .ok false
      | none, none => .ok false

/-! ## Styles -/

/-- A style. -/
structure Style where
  /-- The attributes that are set or unset, by their long names; the last one counts. -/
  attributes : List (String × Bool) := []
  colour : Option String := none
  background : Option String := none
  link : Option String := none

/-- The words of a text. -/
def wordsOf (cs : List Char) : List String :=
  (cs.foldr (fun c (words : List (List Char)) =>
    if Text.isBlank c then [] :: words
    else match words with
      | [] => [[c]]
      | word :: rest => (c :: word) :: rest) [[]]).filterMap fun w =>
    if w.isEmpty then none else some (String.ofList w)

/-- Reads the words of a style; nothing if they are none. -/
def Style.read : List String → Style → Except Number.LiteralError (Option Style)
  | [], s => .ok (some s)
  | [word], s => do
    let word := Text.lowercase word
    match attribute? word with
    | some a => return some { s with attributes := s.attributes ++ [(a, true)] }
    | none =>
      return if ← isColour word then some { s with colour := some word } else none
  | word :: next :: rest, s => do
    let word := Text.lowercase word
    if word = "on" then
      let colour := Text.lowercase next
      if ← isColour colour then Style.read rest { s with background := some colour }
      else return none
    else if word = "not" then
      match attribute? next with
      | some a => Style.read rest { s with attributes := s.attributes ++ [(a, false)] }
      | none => return none
    else if word = "link" then Style.read rest { s with link := some next }
    else match attribute? word with
      | some a => Style.read (next :: rest) { s with attributes := s.attributes ++ [(a, true)] }
      | none =>
        if ← isColour word then Style.read (next :: rest) { s with colour := some word }
        else return none

/-- The words that a style is written with. -/
def Style.name (s : Style) : String :=
  let marked := attributeNames.filterMap fun (long, _) =>
    (s.attributes.reverse.lookup long).map fun set => if set then long else "not " ++ long
  let words := marked ++ s.colour.toList ++ s.background.toList.map ("on " ++ ·)
    ++ s.link.toList.map ("link " ++ ·)
  if words.isEmpty then "none" else " ".intercalate words

/-- The normal form of the text of a style. -/
def Style.normalName (text : String) : Except Number.LiteralError String := do
  match ← Style.read (wordsOf text.toList) {} with
  | some s => return s.name
  | none => return Text.lowercase (Text.stripBlank text)

end StartupGate.Markup
