import InlineCheck.Number.Whole
import InlineCheck.Text.LowerCase

/-! # Tags

* `Style` and `readStyle` — the styles that a tag can name.
* `normalName` — the name by which a closing tag finds its opening tag.
-/

namespace InlineCheck.Console

def tagName (body : List Char) : List Char :=
  body.takeWhile (· != '=')

def lowered (s : String) : String :=
  String.ofList (Text.lower s.toList)

/-! ## Colors -/

def colorNames : List String :=
  ["black", "red", "green", "yellow", "blue", "magenta", "cyan", "white", "bright_black",
    "bright_red", "bright_green", "bright_yellow", "bright_blue", "bright_magenta", "bright_cyan",
    "bright_white", "grey0", "gray0", "navy_blue", "dark_blue", "blue3", "blue1", "dark_green",
    "deep_sky_blue4", "dodger_blue3", "dodger_blue2", "green4", "spring_green4", "turquoise4",
    "deep_sky_blue3", "dodger_blue1", "green3", "spring_green3", "dark_cyan", "light_sea_green",
    "deep_sky_blue2", "deep_sky_blue1", "spring_green2", "cyan3", "dark_turquoise", "turquoise2",
    "green1", "spring_green1", "medium_spring_green", "cyan2", "cyan1", "dark_red", "deep_pink4",
    "purple4", "purple3", "blue_violet", "orange4", "grey37", "gray37", "medium_purple4",
    "slate_blue3", "royal_blue1", "chartreuse4", "dark_sea_green4", "pale_turquoise4",
    "steel_blue", "steel_blue3", "cornflower_blue", "chartreuse3", "cadet_blue", "sky_blue3",
    "steel_blue1", "pale_green3", "sea_green3", "aquamarine3", "medium_turquoise", "chartreuse2",
    "sea_green2", "sea_green1", "aquamarine1", "dark_slate_gray2", "dark_magenta", "dark_violet",
    "purple", "light_pink4", "plum4", "medium_purple3", "slate_blue1", "yellow4", "wheat4",
    "grey53", "gray53", "light_slate_grey", "light_slate_gray", "medium_purple",
    "light_slate_blue", "dark_olive_green3", "dark_sea_green", "light_sky_blue3", "sky_blue2",
    "dark_sea_green3", "dark_slate_gray3", "sky_blue1", "chartreuse1", "light_green",
    "pale_green1", "dark_slate_gray1", "red3", "medium_violet_red", "magenta3", "dark_orange3",
    "indian_red", "hot_pink3", "medium_orchid3", "medium_orchid", "medium_purple2",
    "dark_goldenrod", "light_salmon3", "rosy_brown", "grey63", "gray63", "medium_purple1", "gold3",
    "dark_khaki", "navajo_white3", "grey69", "gray69", "light_steel_blue3", "light_steel_blue",
    "yellow3", "dark_sea_green2", "light_cyan3", "light_sky_blue1", "green_yellow",
    "dark_olive_green2", "dark_sea_green1", "pale_turquoise1", "deep_pink3", "magenta2",
    "hot_pink2", "orchid", "medium_orchid1", "orange3", "light_pink3", "pink3", "plum3", "violet",
    "light_goldenrod3", "tan", "misty_rose3", "thistle3", "plum2", "khaki3", "light_goldenrod2",
    "light_yellow3", "grey84", "gray84", "light_steel_blue1", "yellow2", "dark_olive_green1",
    "honeydew2", "light_cyan1", "red1", "deep_pink2", "deep_pink1", "magenta1", "orange_red1",
    "indian_red1", "hot_pink", "dark_orange", "salmon1", "light_coral", "pale_violet_red1",
    "orchid2", "orchid1", "orange1", "sandy_brown", "light_salmon1", "light_pink1", "pink1",
    "plum1", "gold1", "navajo_white1", "misty_rose1", "thistle1", "yellow1", "light_goldenrod1",
    "khaki1", "wheat1", "cornsilk1", "grey100", "gray100", "grey3", "gray3", "grey7", "gray7",
    "grey11", "gray11", "grey15", "gray15", "grey19", "gray19", "grey23", "gray23", "grey27",
    "gray27", "grey30", "gray30", "grey35", "gray35", "grey39", "gray39", "grey42", "gray42",
    "grey46", "gray46", "grey50", "gray50", "grey54", "gray54", "grey58", "gray58", "grey62",
    "gray62", "grey66", "gray66", "grey70", "gray70", "grey74", "gray74", "grey78", "gray78",
    "grey82", "gray82", "grey85", "gray85", "grey89", "gray89", "grey93", "gray93"]

/-- Why words are no style: one of them means nothing, or a part of a color is no number. -/
inductive StyleFault where
  | meaningless
  | number (cause : Number.WholeFault)
  deriving DecidableEq, Repr

def inside? (function : String) (word : List Char) : Option (List Char) := do
  let rest ← Text.dropPrefix? (function.toList ++ ['(']) word
  if rest.getLast? = some ')' then return rest.dropLast else none

def isHexColor (word : List Char) : Bool :=
  match word with
  | '#' :: ds => ds.length == 6 && ds.all fun c => c.isDigit || ('a' ≤ c && c ≤ 'f')
  | _ => false

def isNumbered (ds : List Char) : Bool :=
  0 < ds.length && ds.length ≤ 3 && ds.all Char.isDigit
    && (Number.readWhole ds).toOption.any (· ≤ 255)

def isMixed (inside : List Char) : Except Number.WholeFault Bool :=
  match Text.splitAt ',' inside with
  | [red, green, blue] => do
    let red ← Number.readWhole red
    let green ← Number.readWhole green
    let blue ← Number.readWhole blue
    return red ≤ 255 && green ≤ 255 && blue ≤ 255
  | _ => return false

def readColor (known : List String) (word : String) : Except StyleFault String :=
  let word := lowered word
  let cs := word.toList
  if word == "default" || known.contains word || isHexColor cs
      || (inside? "color" cs).any isNumbered then .ok word
  else
    match (inside? "rgb" cs).filter fun ds =>
        !ds.isEmpty && ds.all fun c => Text.isDecimal c || c == ',' with
    | none => .error .meaningless
    | some inside =>
      match isMixed inside with
      | .ok mixed => if mixed then .ok word else .error .meaningless
      | .error cause => .error (.number cause)

/-! ## Styles -/

def attributes : List (String × List String) :=
  [("bold", ["b"]), ("dim", ["d"]), ("italic", ["i"]), ("underline", ["u"]), ("blink", []),
    ("blink2", []), ("reverse", ["r"]), ("conceal", ["c"]), ("strike", ["s"]),
    ("underline2", ["uu"]), ("frame", []), ("encircle", []), ("overline", ["o"])]

def attribute? (word : String) : Option String :=
  (attributes.find? fun (name, short) => name == word || short.contains word).map (·.1)

/-- What a style says: the attributes that it sets, the latest first, and the rest. -/
structure Style where
  on : List (String × Bool) := []
  color : Option String := none
  ground : Option String := none
  link : Option String := none

namespace Style

def addWord (known : List String) (s : Style) (word : String) : Except StyleFault Style :=
  match attribute? (lowered word) with
  | some a => .ok { s with on := (a, true) :: s.on }
  | none => (readColor known word).map fun color => { s with color := some color }

def addPair? (known : List String) (s : Style) (word next : String) :
    Option (Except StyleFault Style) :=
  match lowered word with
  | "on" => some ((readColor known next).map fun color => { s with ground := some color })
  | "not" =>
    match attribute? next with
    | some a => some (.ok { s with on := (a, false) :: s.on })
    | none => some (.error .meaningless)
  | "link" => some (.ok { s with link := some next })
  | _ => none

/-- A style in its own order: attributes, color, background, link. -/
def text (s : Style) : String :=
  let attrs := attributes.filterMap fun (name, _) =>
    (s.on.find? (·.1 == name)).map fun (_, holds) => if holds then name else "not " ++ name
  let parts := attrs ++ s.color.toList ++ (s.ground.map ("on " ++ ·)).toList
    ++ (s.link.map ("link " ++ ·)).toList
  if parts.isEmpty then "none" else String.intercalate " " parts

end Style

def readStyle (known : List String) (s : Style) : List String → Except StyleFault Style
  | [] => .ok s
  -- these words need another one behind them
  | [word] =>
    if ["on", "not", "link"].contains (lowered word) then .error .meaningless
    else s.addWord known word
  | word :: next :: rest =>
    match s.addPair? known word next with
    | some (.ok s) => readStyle known s rest
    | some (.error f) => .error f
    | none =>
      match s.addWord known word with
      | .ok s => readStyle known s (next :: rest)
      | .error f => .error f

/-- The name of a tag by which it is closed: a style in its own order, and any other name in lower
case without outer blanks. -/
def normalName (known : List String) (name : String) : Except Number.WholeFault String :=
  if Text.strip name == "none" then .ok "none"
  else
    match readStyle known {} (Text.words name) with
    | .ok s => .ok s.text
    | .error .meaningless => .ok (lowered (Text.strip name))
    | .error (.number cause) => .error cause

end InlineCheck.Console
