import ElasticEndpoint.Text.Case
import ElasticEndpoint.Text.Integer
import ElasticEndpoint.Text.Split

/-!
Styles. A style is written as words for the features it turns on or off, its color, the color
behind it and a link. Styles with the same effect have the same normal form.
-/

namespace ElasticEndpoint.Console

def colorNames : List String := [
  "black", "red", "green", "yellow", "blue", "magenta", "cyan", "white", "bright_black",
  "bright_red", "bright_green", "bright_yellow", "bright_blue", "bright_magenta", "bright_cyan",
  "bright_white", "grey0", "gray0", "navy_blue", "dark_blue", "blue3", "blue1", "dark_green",
  "deep_sky_blue4", "dodger_blue3", "dodger_blue2", "green4", "spring_green4", "turquoise4",
  "deep_sky_blue3", "dodger_blue1", "green3", "spring_green3", "dark_cyan", "light_sea_green",
  "deep_sky_blue2", "deep_sky_blue1", "spring_green2", "cyan3", "dark_turquoise", "turquoise2",
  "green1", "spring_green1", "medium_spring_green", "cyan2", "cyan1", "dark_red", "deep_pink4",
  "purple4", "purple3", "blue_violet", "orange4", "grey37", "gray37", "medium_purple4",
  "slate_blue3", "royal_blue1", "chartreuse4", "dark_sea_green4", "pale_turquoise4", "steel_blue",
  "steel_blue3", "cornflower_blue", "chartreuse3", "cadet_blue", "sky_blue3", "steel_blue1",
  "pale_green3", "sea_green3", "aquamarine3", "medium_turquoise", "chartreuse2", "sea_green2",
  "sea_green1", "aquamarine1", "dark_slate_gray2", "dark_magenta", "dark_violet", "purple",
  "light_pink4", "plum4", "medium_purple3", "slate_blue1", "yellow4", "wheat4", "grey53", "gray53",
  "light_slate_grey", "light_slate_gray", "medium_purple", "light_slate_blue", "dark_olive_green3",
  "dark_sea_green", "light_sky_blue3", "sky_blue2", "dark_sea_green3", "dark_slate_gray3",
  "sky_blue1", "chartreuse1", "light_green", "pale_green1", "dark_slate_gray1", "red3",
  "medium_violet_red", "magenta3", "dark_orange3", "indian_red", "hot_pink3", "medium_orchid3",
  "medium_orchid", "medium_purple2", "dark_goldenrod", "light_salmon3", "rosy_brown", "grey63",
  "gray63", "medium_purple1", "gold3", "dark_khaki", "navajo_white3", "grey69", "gray69",
  "light_steel_blue3", "light_steel_blue", "yellow3", "dark_sea_green2", "light_cyan3",
  "light_sky_blue1", "green_yellow", "dark_olive_green2", "dark_sea_green1", "pale_turquoise1",
  "deep_pink3", "magenta2", "hot_pink2", "orchid", "medium_orchid1", "orange3", "light_pink3",
  "pink3", "plum3", "violet", "light_goldenrod3", "tan", "misty_rose3", "thistle3", "plum2",
  "khaki3", "light_goldenrod2", "light_yellow3", "grey84", "gray84", "light_steel_blue1",
  "yellow2", "dark_olive_green1", "honeydew2", "light_cyan1", "red1", "deep_pink2", "deep_pink1",
  "magenta1", "orange_red1", "indian_red1", "hot_pink", "dark_orange", "salmon1", "light_coral",
  "pale_violet_red1", "orchid2", "orchid1", "orange1", "sandy_brown", "light_salmon1",
  "light_pink1", "pink1", "plum1", "gold1", "navajo_white1", "misty_rose1", "thistle1", "yellow1",
  "light_goldenrod1", "khaki1", "wheat1", "cornsilk1", "grey100", "gray100", "grey3", "gray3",
  "grey7", "gray7", "grey11", "gray11", "grey15", "gray15", "grey19", "gray19", "grey23", "gray23",
  "grey27", "gray27", "grey30", "gray30", "grey35", "gray35", "grey39", "gray39", "grey42",
  "gray42", "grey46", "gray46", "grey50", "gray50", "grey54", "gray54", "grey58", "gray58",
  "grey62", "gray62", "grey66", "gray66", "grey70", "gray70", "grey74", "gray74", "grey78",
  "gray78", "grey82", "gray82", "grey85", "gray85", "grey89", "gray89", "grey93", "gray93"
]

/-- The features in the order of the normal form, each with its other spellings. -/
def featureNames : List (String × List String) := [
  ("bold", ["b"]), ("dim", ["d"]), ("italic", ["i"]), ("underline", ["u"]), ("blink", []), ("blink2", []),
  ("reverse", ["r"]), ("conceal", ["c"]), ("strike", ["s"]), ("underline2", ["uu"]), ("frame", []),
  ("encircle", []), ("overline", ["o"])]

def feature? (word : String) : Option String :=
  (featureNames.find? fun names => names.1 == word || names.2.contains word).map (·.1)

/-- What a word holds between a beginning and a closing parenthesis. -/
def argument? (beginning word : String) : Option (List Char) :=
  let text := word.toList
  if beginning.toList.isPrefixOf text && text.getLast? == some ')' then
    some ((text.drop beginning.length).dropLast)
  else none

/-- Why words are no style: some of them mean nothing, or a number in them cannot be read. -/
inductive StyleFault where
  | notStyle
  | unreadableNumber
  deriving DecidableEq

def greatestPart : Nat := 255

def isColorNumber (digits : List Char) : Bool :=
  !digits.isEmpty && digits.length ≤ 3 && digits.all Char.isDigit &&
    (Text.decimalNumber? digits).any (· ≤ greatestPart)

/-- Whether a word names a color by its name, by six hexadecimal digits or by a number. -/
def isPlainColor (word : String) : Bool :=
  word == "default" || colorNames.contains word ||
    (match word.toList with
      | '#' :: digits => digits.length == 6 && digits.all fun c => c.isDigit || ('a' ≤ c && c ≤ 'f')
      | _ => false) ||
    (argument? "color(" word).any isColorNumber

def readPart? (part : List Char) : Option Nat :=
  if part.isEmpty || Text.digitLimit < part.length then none else Text.decimalNumber? part

/-- Whether the parts of red, green and blue are a color. Digits of any script are taken for them, and
a part that is left out is no number. -/
def checkParts (text : List Char) : Except StyleFault Unit :=
  let parts := Text.splitOn ',' text
  if text.isEmpty || parts.length != 3 || !text.all fun c => c == ',' || (Text.decimalValue? c).isSome then
    .error .notStyle
  else match parts.mapM readPart? with
    | none => .error .unreadableNumber
    | some numbers => if numbers.all (· ≤ greatestPart) then .ok () else .error .notStyle

def checkColor (word : String) : Except StyleFault Unit :=
  if isPlainColor word then .ok ()
  else match argument? "rgb(" word with
    | some parts => checkParts parts
    | none => .error .notStyle

structure Style where
  features : List (String × Bool) := []
  color : Option String := none
  background : Option String := none
  link : Option String := none

namespace Style

/-- The style with one feature turned on or off. -/
def set (style : Style) (feature : String) (isOn : Bool) : Style :=
  { style with features := (feature, isOn) :: style.features }

def lowered (word : String) : String := String.ofList (Text.toLower word.toList)

def ofWords (style : Style) : List String → Except StyleFault Style
  | [] => .ok style
  | word :: rest =>
    let lower := lowered word
    if lower == "on" || lower == "not" || lower == "link" then
      match rest with
      | [] => .error .notStyle
      | argument :: rest =>
        if lower == "on" then
          match checkColor (lowered argument) with
          | .ok () => ofWords { style with background := some (lowered argument) } rest
          | .error fault => .error fault
        else if lower == "not" then
          match feature? argument with
          | some feature => ofWords (style.set feature false) rest
          | none => .error .notStyle
        else ofWords { style with link := some argument } rest
    else match feature? lower with
      | some feature => ofWords (style.set feature true) rest
      | none =>
        match checkColor lower with
        | .ok () => ofWords { style with color := some lower } rest
        | .error fault => .error fault

def words (style : Style) : List String :=
  (featureNames.flatMap fun (feature, _) =>
    match style.features.lookup feature with
    | none => []
    | some true => [feature]
    | some false => ["not", feature]) ++
  style.color.toList ++ (style.background.elim [] fun color => ["on", color]) ++
  (style.link.elim [] fun link => ["link", link])

end Style

def wordsOf (text : List Char) : List String :=
  let marked := text.map fun c => if Text.isBlank c then ' ' else c
  ((Text.splitOn ' ' marked).filter fun word => !word.isEmpty).map String.ofList

/-- The style that a text denotes; a single word says that there is none. -/
def readStyle (text : List Char) : Except StyleFault Style :=
  let words := wordsOf text
  if words == ["none"] then .ok {} else Style.ofWords {} words

/-- The normal form of what a style is written as; of anything else the text in lower case, without
blanks around it. There is none for a number that cannot be read. -/
def normalStyle? (text : List Char) : Option String :=
  match readStyle text with
  | .ok style => some (if style.words.isEmpty then "none" else " ".intercalate style.words)
  | .error .notStyle => some (String.ofList (Text.toLower (Text.trim Text.isBlank text)))
  | .error .unreadableNumber => none

end ElasticEndpoint.Console
