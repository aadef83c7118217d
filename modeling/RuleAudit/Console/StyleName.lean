import RuleAudit.Text.Blank
import RuleAudit.Text.Casing
import RuleAudit.Text.Lines

/-!
# Style names

A style in console markup is a list of words: attributes, perhaps negated, a colour, a background
after `on`, and a link. Two spellings of one style have the same normal form. A name that is no
style is only put in lower case.
-/

namespace RuleAudit.Console

/-- The attributes in the order of the normal form, each with its short spelling. -/
def styleAttributes : List (String × String) :=
  [("bold", "b"), ("dim", "d"), ("italic", "i"), ("underline", "u"), ("blink", ""), ("blink2", ""),
   ("reverse", "r"), ("conceal", "c"), ("strike", "s"), ("underline2", "uu"), ("frame", ""),
   ("encircle", ""), ("overline", "o")]

/-- The names of colours, in rows divided by blanks. -/
def colorRows : List String :=
  ["default black red green yellow blue magenta cyan white bright_black bright_red bright_green",
   "bright_yellow bright_blue bright_magenta bright_cyan bright_white grey0 gray0 navy_blue",
   "dark_blue blue3 blue1 dark_green deep_sky_blue4 dodger_blue3 dodger_blue2 green4",
   "spring_green4 turquoise4 deep_sky_blue3 dodger_blue1 green3 spring_green3 dark_cyan",
   "light_sea_green deep_sky_blue2 deep_sky_blue1 spring_green2 cyan3 dark_turquoise",
   "turquoise2 green1 spring_green1 medium_spring_green cyan2 cyan1 dark_red deep_pink4",
   "purple4 purple3 blue_violet orange4 grey37 gray37 medium_purple4 slate_blue3 royal_blue1",
   "chartreuse4 dark_sea_green4 pale_turquoise4 steel_blue steel_blue3 cornflower_blue",
   "chartreuse3 cadet_blue sky_blue3 steel_blue1 pale_green3 sea_green3 aquamarine3",
   "medium_turquoise chartreuse2 sea_green2 sea_green1 aquamarine1 dark_slate_gray2",
   "dark_magenta dark_violet purple light_pink4 plum4 medium_purple3 slate_blue1 yellow4",
   "wheat4 grey53 gray53 light_slate_grey light_slate_gray medium_purple light_slate_blue",
   "dark_olive_green3 dark_sea_green light_sky_blue3 sky_blue2 dark_sea_green3",
   "dark_slate_gray3 sky_blue1 chartreuse1 light_green pale_green1 dark_slate_gray1 red3",
   "medium_violet_red magenta3 dark_orange3 indian_red hot_pink3 medium_orchid3",
   "medium_orchid medium_purple2 dark_goldenrod light_salmon3 rosy_brown grey63 gray63",
   "medium_purple1 gold3 dark_khaki navajo_white3 grey69 gray69 light_steel_blue3",
   "light_steel_blue yellow3 dark_sea_green2 light_cyan3 light_sky_blue1 green_yellow",
   "dark_olive_green2 dark_sea_green1 pale_turquoise1 deep_pink3 magenta2 hot_pink2 orchid",
   "medium_orchid1 orange3 light_pink3 pink3 plum3 violet light_goldenrod3 tan misty_rose3",
   "thistle3 plum2 khaki3 light_goldenrod2 light_yellow3 grey84 gray84 light_steel_blue1",
   "yellow2 dark_olive_green1 honeydew2 light_cyan1 red1 deep_pink2 deep_pink1 magenta1",
   "orange_red1 indian_red1 hot_pink dark_orange salmon1 light_coral pale_violet_red1",
   "orchid2 orchid1 orange1 sandy_brown light_salmon1 light_pink1 pink1 plum1 gold1",
   "navajo_white1 misty_rose1 thistle1 yellow1 light_goldenrod1 khaki1 wheat1 cornsilk1",
   "grey100 gray100 grey3 gray3 grey7 gray7 grey11 gray11 grey15 gray15 grey19 gray19 grey23",
   "gray23 grey27 gray27 grey30 gray30 grey35 gray35 grey39 gray39 grey42 gray42 grey46",
   "gray46 grey50 gray50 grey54 gray54 grey58 gray58 grey62 gray62 grey66 gray66 grey70",
   "gray70 grey74 gray74 grey78 gray78 grey82 gray82 grey85 gray85 grey89 gray89 grey93",
   "gray93"]

/-- The attribute a word stands for. -/
def attribute? (word : String) : Option String :=
  (styleAttributes.find? fun a => a.1 == word || (!a.2.isEmpty && a.2 == word)).map Prod.fst

/-- Whether a number of up to three digits is at most 255. -/
def isOctet (cs : List Char) : Bool :=
  !cs.isEmpty && cs.all Char.isDigit && (String.ofList cs).toNat?.all (· ≤ 255)

/-- The inside of `name(…)`. -/
def argument? (name : String) (cs : List Char) : Option (List Char) :=
  let opened := name.toList ++ ['(']
  if opened.isPrefixOf cs && cs.getLast? == some ')' then
    some ((cs.drop opened.length).dropLast)
  else none

/-- Whether a word in lower case is a colour. -/
def isColor (word : String) : Bool :=
  let cs := word.toList
  let hex (c : Char) : Bool := c.isDigit || ('a' ≤ c && c ≤ 'f')
  (colorRows.any fun row => (Text.splitOnChar ' ' row.toList).contains cs) ||
    (match cs with
      | '#' :: digits => digits.length == 6 && digits.all hex
      | _ => false) ||
    (match argument? "color" cs with
      | some digits => digits.length ≤ 3 && isOctet digits
      | none => false) ||
    (match argument? "rgb" cs with
      | some inner =>
        let parts := Text.splitOnChar ',' inner
        parts.length == 3 && parts.all isOctet
      | none => false)

/-- A style: attributes with their setting, colour, background and link. -/
structure Style where
  attributes : List (String × Bool) := []
  color : Option String := none
  background : Option String := none
  link : Option String := none

/-- A word that needs the word after it. -/
inductive StylePrefix where
  | on
  | not
  | link

/-- The style with one more word, after a word that needs it or on its own. -/
def Style.add (s : Style) (word : String) : Option StylePrefix → Option Style
  | some .on =>
    if isColor (Text.lower word) then some { s with background := some (Text.lower word) } else none
  | some .not => (attribute? word).map fun a => { s with attributes := (a, false) :: s.attributes }
  | some .link => some { s with link := some word }
  | none =>
    match attribute? (Text.lower word) with
    | some a => some { s with attributes := (a, true) :: s.attributes }
    | none =>
      if isColor (Text.lower word) then some { s with color := some (Text.lower word) } else none

/-- The word that needs the word after it. -/
def stylePrefix? (word : String) : Option StylePrefix :=
  match Text.lower word with
  | "on" => some .on
  | "not" => some .not
  | "link" => some .link
  | _ => none

/-- Read the words of a style; a word that needs another may be pending. -/
def readStyle : Option StylePrefix → Style → List String → Option Style
  | none, s, [] => some s
  | some _, _, [] => none
  | some pending, s, word :: rest => (s.add word (some pending)).bind (readStyle none · rest)
  | none, s, word :: rest =>
    match stylePrefix? word with
    | some pending => readStyle (some pending) s rest
    | none => (s.add word none).bind (readStyle none · rest)

/-- The normal form of a style. -/
def Style.normal (s : Style) : String :=
  let set := styleAttributes.filterMap fun (name, _) =>
    (s.attributes.find? (·.1 == name)).map fun entry => if entry.2 then name else "not " ++ name
  let words := set ++ s.color.toList ++ (s.background.map ("on " ++ ·)).toList ++
    (s.link.map ("link " ++ ·)).toList
  if words.isEmpty then "none" else " ".intercalate words

/-- The words of a text. -/
def wordsOf (cs : List Char) : List String :=
  let step (s : List (List Char) × List Char) (c : Char) : List (List Char) × List Char :=
    if Text.isBlank c then (if s.2.isEmpty then s.1 else s.2.reverse :: s.1, [])
    else (s.1, c :: s.2)
  let (done, last) := cs.foldl step ([], [])
  ((if last.isEmpty then done else last.reverse :: done).reverse).map String.ofList

/-- The normal form of a style name. -/
def normalStyle (name : String) : String :=
  let words := wordsOf name.toList
  if words.isEmpty || words == ["none"] then "none"
  else match readStyle none {} words with
    | some s => s.normal
    | none => Text.lower (Text.trim name)

end RuleAudit.Console
