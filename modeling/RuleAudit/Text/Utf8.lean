/-!
# UTF-8

Octets are read one at a time by a machine that knows how many continuation octets are still owed
and the bounds of the next one. A malformed stretch counts once for each maximal part that could
have begun a character: `decode?` refuses it and `decodeReplacing` puts U+FFFD in its place.
-/

namespace RuleAudit.Text

/-- A character under way: its bits so far, the octets owed, and the bounds of the next octet. -/
structure Owed where
  bits : Nat
  count : Nat
  least : Nat
  greatest : Nat

/-- The decoder between octets: what was read, last first (`none` for a malformed part), and the
character under way. -/
structure Utf8State where
  read : List (Option Char) := []
  owed : Option Owed := none

/-- An octet that begins a character, or is malformed. -/
def Utf8State.begin (read : List (Option Char)) (b : Nat) : Utf8State :=
  if b < 0x80 then ⟨some (Char.ofNat b) :: read, none⟩
  else if b < 0xC2 then ⟨none :: read, none⟩
  else if b < 0xE0 then ⟨read, some ⟨b - 0xC0, 1, 0x80, 0xBF⟩⟩
  else if b = 0xE0 then ⟨read, some ⟨0, 2, 0xA0, 0xBF⟩⟩
  else if b = 0xED then ⟨read, some ⟨0xD, 2, 0x80, 0x9F⟩⟩
  else if b < 0xF0 then ⟨read, some ⟨b - 0xE0, 2, 0x80, 0xBF⟩⟩
  else if b = 0xF0 then ⟨read, some ⟨0, 3, 0x90, 0xBF⟩⟩
  else if b < 0xF4 then ⟨read, some ⟨b - 0xF0, 3, 0x80, 0xBF⟩⟩
  else if b = 0xF4 then ⟨read, some ⟨4, 3, 0x80, 0x8F⟩⟩
  else ⟨none :: read, none⟩

/-- One octet. -/
def Utf8State.step (s : Utf8State) (octet : UInt8) : Utf8State :=
  let b := octet.toNat
  match s.owed with
  | none => begin s.read b
  | some o =>
    if o.least ≤ b && b ≤ o.greatest then
      let bits := o.bits * 64 + (b - 0x80)
      if o.count ≤ 1 then ⟨some (Char.ofNat bits) :: s.read, none⟩
      else ⟨s.read, some ⟨bits, o.count - 1, 0x80, 0xBF⟩⟩
    else begin (none :: s.read) b

/-- The end of the octets: a character under way is malformed. -/
def Utf8State.finish (s : Utf8State) : List (Option Char) :=
  match s.owed with
  | none => s.read
  | some _ => none :: s.read

/-- Everything read, last first. -/
def readOctets (octets : List UInt8) : List (Option Char) :=
  (octets.foldl Utf8State.step {}).finish

/-- The text of well-formed octets. -/
def decode? (octets : List UInt8) : Option String :=
  (readOctets octets).foldl
    (fun acc part => match acc, part with
      | some cs, some c => some (c :: cs)
      | _, _ => none)
    (some []) |>.map String.ofList

/-- The text of any octets, with U+FFFD for each malformed part. -/
def decodeReplacing (octets : List UInt8) : String :=
  String.ofList ((readOctets octets).foldl
    (fun cs part => part.getD (Char.ofNat 0xFFFD) :: cs) [])

end RuleAudit.Text
