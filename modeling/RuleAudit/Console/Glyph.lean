import RuleAudit.Text.Blank
import RuleAudit.Text.Classes

/-!
# Glyphs

A text on its way to the console is a list of glyphs: characters, each with the number of the piece
of text it belongs to, so that a piece keeps its style wherever a line ends. Control characters are
dropped, and tabs run to the next multiple of eight columns. A line that is too long is broken
between words; a word that is too long for any line is cut, or stands out.
-/

namespace RuleAudit.Console

/-- A character of a numbered piece of text. -/
structure Glyph where
  char : Char
  piece : Nat := 0
  deriving Repr, DecidableEq

namespace Glyph

/-- Whether a glyph is a blank. -/
def isBlank (g : Glyph) : Bool :=
  Text.isBlank g.char

/-- Control characters that are never printed: bell, backspace, vertical tab, form feed, return. -/
def isDropped (g : Glyph) : Bool :=
  [7, 8, 11, 12, 13].contains g.char.toNat

end Glyph

/-- The glyphs of a piece of text. -/
def glyphs (piece : Nat) (cs : List Char) : List Glyph :=
  cs.map fun c => ⟨c, piece⟩

/-- The text of glyphs. -/
def glyphText (gs : List Glyph) : String :=
  String.ofList (gs.map Glyph.char)

/-- Terminal columns of glyphs. -/
def width (gs : List Glyph) : Nat :=
  gs.foldl (fun n g => n + Text.charColumns g.char) 0

/-! ## Lines -/

/-- Glyphs divided at line ends. -/
def splitLines (gs : List Glyph) : List (List Glyph) :=
  let step (g : Glyph) (lines : List (List Glyph)) : List (List Glyph) :=
    if g.char == '\n' then [] :: lines
    else match lines with
      | line :: rest => (g :: line) :: rest
      | [] => [[g]]
  gs.foldr step [[]]

/-- A line with tabs replaced by blanks up to the next multiple of eight columns. -/
def expandTabs (line : List Glyph) : List Glyph :=
  let step (s : List Glyph × Nat) (g : Glyph) : List Glyph × Nat :=
    if g.char == '\t' then
      let room := 8 - s.2 % 8
      (List.replicate room { g with char := ' ' } ++ s.1, s.2 + room)
    else (g :: s.1, s.2 + Text.charColumns g.char)
  (line.foldl step ([], 0)).1.reverse

/-- The lines glyphs are printed on, however long. -/
def linesOf (gs : List Glyph) : List (List Glyph) :=
  (splitLines (gs.filter fun g => !g.isDropped)).map expandTabs

/-! ## Long lines -/

/-- The state of cutting a line into words: the words so far, last first; the glyphs of the word at
hand, last first; whether it has a letter yet; and whether a blank followed its letters. -/
structure WordCut where
  words : List (List Glyph) := []
  word : List Glyph := []
  begun : Bool := false
  ended : Bool := false

/-- One glyph of a line cut into words. -/
def WordCut.add (s : WordCut) (g : Glyph) : WordCut :=
  if g.isBlank then { s with word := g :: s.word, ended := s.begun }
  else if s.ended then { words := s.word.reverse :: s.words, word := [g], begun := true }
  else { s with word := g :: s.word, begun := true }

/-- The words of a line, each with the blanks after it, the first also with those before it; none
when the line is blank. -/
def words (line : List Glyph) : List (List Glyph) :=
  let s : WordCut := line.foldl WordCut.add {}
  (if s.begun then s.word.reverse :: s.words else s.words).reverse

/-- A word without the blanks after it. -/
def bare (word : List Glyph) : List Glyph :=
  (word.reverse.dropWhile Glyph.isBlank).reverse

/-- A word cut into pieces of at most `limit` columns. -/
def chop (limit : Nat) (word : List Glyph) : List (List Glyph) :=
  let step (s : List (List Glyph) × List Glyph × Nat) (g : Glyph) :
      List (List Glyph) × List Glyph × Nat :=
    let (pieces, piece, used) := s
    let size := Text.charColumns g.char
    if used + size > limit then (piece.reverse :: pieces, [g], size)
    else (pieces, g :: piece, used + size)
  let (pieces, piece, _) := word.foldl step ([], [], 0)
  (piece.reverse :: pieces).reverse

/-- Lines being filled: those that are full, last first, the one at hand, and its columns. -/
structure Filling where
  lines : List (List Glyph) := []
  line : List Glyph := []
  used : Nat := 0

/-- End the line at hand and go on with another. -/
def Filling.next (f : Filling) (line : List Glyph) : Filling :=
  { lines := if f.line.isEmpty then f.lines else f.line :: f.lines
    line := line
    used := width line }

/-- Put one word on the line at hand or on the next one. A word that no line can hold is cut when
`cut` is set, and else has a line of its own. -/
def Filling.add (cut : Bool) (limit : Nat) (f : Filling) (word : List Glyph) : Filling :=
  let size := width (bare word)
  if f.used + size ≤ limit then
    { f with line := f.line ++ word, used := f.used + width word }
  else if cut && size > limit then (chop limit word).foldl Filling.next f
  else f.next word

/-- A line without those blanks at its end that lie beyond `limit` characters. -/
def trimBeyond (limit : Nat) (line : List Glyph) : List Glyph :=
  let blanks := line.length - (bare line).length
  line.take (line.length - min blanks (line.length - limit))

/-- The lines of at most `limit` columns that a line is broken into. -/
def wrap (cut : Bool) (limit : Nat) (line : List Glyph) : List (List Glyph) :=
  let broken :=
    match words line with
    | [] => [line]
    | ws =>
      let f : Filling := ws.foldl (Filling.add cut limit) {}
      (f.line :: f.lines).reverse
  broken.map (trimBeyond limit)

/-- The glyphs at the start of a line that fit into `limit` columns, filled up with blanks. -/
def fill (limit : Nat) (line : List Glyph) : List Glyph :=
  let step (s : List Glyph × Nat × Bool) (g : Glyph) : List Glyph × Nat × Bool :=
    let (kept, used, full) := s
    let size := Text.charColumns g.char
    if full || used + size > limit then (kept, used, true) else (g :: kept, used + size, false)
  let (kept, used, _) := line.foldl step ([], 0, false)
  kept.reverse ++ List.replicate (limit - used) ⟨' ', 0⟩

/-- A line of at most `limit` columns, with an ellipsis in place of what does not fit. -/
def shorten (limit : Nat) (line : List Glyph) : List Glyph :=
  if width line > limit then fill (limit - 1) line ++ [⟨'…', 0⟩] else line

end RuleAudit.Console
