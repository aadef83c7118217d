/-!
# Lines of a text

Reading unifies line ends (`\r\n` and `\r` become `\n`); a text is then cut at every character that
Unicode or ASCII uses to end a line.
-/

namespace RuleAudit.Text

/-- One character of `unifyLineEnds`; the state is the output, last first, and whether the last
character read was a carriage return. -/
def unifyStep (s : List Char × Bool) (c : Char) : List Char × Bool :=
  if c == '\r' then ('\n' :: s.1, true)
  else if c == '\n' && s.2 then (s.1, false)
  else (c :: s.1, false)

/-- A text with `\n` for `\r\n` and for `\r`. -/
def unifyLineEnds (s : String) : String :=
  String.ofList (s.toList.foldl unifyStep ([], false)).1.reverse

/-- A character that ends a line. -/
def endsLine (c : Char) : Bool :=
  let n := c.toNat
  (0x0A ≤ n && n ≤ 0x0D) || (0x1C ≤ n && n ≤ 0x1E) || n == 0x85 || n == 0x2028 || n == 0x2029

/-- One character of `lines`; the state is the finished lines and the current one, last first. -/
def lineStep (s : List (List Char) × List Char) (c : Char) : List (List Char) × List Char :=
  if endsLine c then (s.2.reverse :: s.1, []) else (s.1, c :: s.2)

/-- The lines of a text whose line ends are unified; a last line end opens no further line. -/
def lines (s : String) : List (List Char) :=
  let (done, current) := s.toList.foldl lineStep ([], [])
  (if current.isEmpty then done else current.reverse :: done).reverse

/-- Cut at every separator; `n` separators give `n + 1` pieces. -/
def splitOnChar (sep : Char) (cs : List Char) : List (List Char) :=
  let (done, current) := cs.foldl
    (fun (s : List (List Char) × List Char) c =>
      if c == sep then (s.2.reverse :: s.1, []) else (s.1, c :: s.2)) ([], [])
  (current.reverse :: done).reverse

end RuleAudit.Text
