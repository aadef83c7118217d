/-!
# Double-precision numbers

Numbers `±m · 2^e` with `m < 2^53`, the infinities and the undefined result. Quotients of integers
are rounded to the nearest number, a tie to the even mantissa; every other operation is done
exactly and rounded once. `text` gives the fewest digits that read back.
-/

namespace RuleAudit

/-- A double: a finite `±mantissa · 2^exponent`, an infinity, or no number. -/
inductive Binary64 where
  | finite (negative : Bool) (mantissa : Nat) (exponent : Int)
  | infinite (negative : Bool)
  | nan
  deriving Repr, DecidableEq

namespace Binary64

/-- The quotient rounded to the nearest natural number, a tie to the even one. -/
def roundDiv (num den : Nat) : Nat :=
  let q := num / den
  let twice := 2 * (num % den)
  if twice < den || (twice == den && q % 2 == 0) then q else q + 1

/-- The exponent of the leading bit of `num / den`, both positive. -/
def leadingBit (num den : Nat) : Int :=
  let k : Int := Int.ofNat (Nat.log2 num) - Int.ofNat (Nat.log2 den)
  let reaches := if 0 ≤ k then den * Nat.pow 2 k.toNat ≤ num else den ≤ num * Nat.pow 2 (-k).toNat
  if reaches then k else k - 1

/-- The double nearest to `±num / den`; `den` is positive. -/
def ofRatio (negative : Bool) (num den : Nat) : Binary64 :=
  if num == 0 then .finite negative 0 (-1074)
  else
    let e := max (leadingBit num den - 52) (-1074)
    let m := if 0 ≤ e then roundDiv num (den * Nat.pow 2 e.toNat)
      else roundDiv (num * Nat.pow 2 (-e).toNat) den
    let (m, e) := if m == Nat.pow 2 53 then (Nat.pow 2 52, e + 1) else (m, e)
    if e > 971 then .infinite negative else .finite negative m e

/-- The double nearest to `±digits · 10^exponent`. -/
def ofDecimal (negative : Bool) (digits : Nat) (exponent : Int) : Binary64 :=
  if digits == 0 then .finite negative 0 (-1074)
  else
    let size : Int := (Nat.toDigits 10 digits).length
    if exponent + size > 400 then .infinite negative
    else if exponent + size < -400 then .finite negative 0 (-1074)
    else if 0 ≤ exponent then ofRatio negative (digits * Nat.pow 10 exponent.toNat) 1
    else ofRatio negative digits (Nat.pow 10 (-exponent).toNat)

/-- The double nearest to an integer. -/
def ofInt (n : Int) : Binary64 :=
  ofRatio (n < 0) n.natAbs 1

/-- A finite double as an exact fraction. -/
def toRatio? : Binary64 → Option (Int × Nat)
  | .finite negative m e =>
    let sign : Int := if negative then -1 else 1
    if 0 ≤ e then some (sign * Int.ofNat (m * Nat.pow 2 e.toNat), 1)
    else some (sign * Int.ofNat m, Nat.pow 2 (-e).toNat)
  | _ => none

/-- The integer a finite double without fraction stands for. -/
def toInt? (x : Binary64) : Option Int :=
  match x.toRatio? with
  | some (num, den) => if num % Int.ofNat den == 0 then some (num / Int.ofNat den) else none
  | none => none

/-- The double nearest to a fraction. -/
def ofFraction (num : Int) (den : Nat) : Binary64 :=
  ofRatio (num < 0) num.natAbs den

/-- Sum, rounded once; a sum with something not finite is undefined. -/
def add (x y : Binary64) : Binary64 :=
  match x.toRatio?, y.toRatio? with
  | some (a, b), some (c, d) => ofFraction (a * Int.ofNat d + c * Int.ofNat b) (b * d)
  | _, _ => .nan

/-- The number with the other sign. -/
def neg : Binary64 → Binary64
  | .finite s m e => .finite (!s) m e
  | .infinite s => .infinite (!s)
  | .nan => .nan

/-- Product, rounded once; a product with something not finite is undefined. -/
def mul (x y : Binary64) : Binary64 :=
  match x.toRatio?, y.toRatio? with
  | some (a, b), some (c, d) => ofFraction (a * c) (b * d)
  | _, _ => .nan

/-- Whether a finite double lies below zero. -/
def isNegative : Binary64 → Bool
  | .finite s m _ => s && m != 0
  | .infinite s => s
  | .nan => false

/-- Whether a double is zero, of either sign. -/
def isZero : Binary64 → Bool
  | .finite _ m _ => m == 0
  | _ => false

/-! ## Texts -/

/-- The exponent of the leading decimal digit of `num / den`, both positive. -/
def leadingDigit (num den : Nat) : Int :=
  let below (k : Int) : Bool :=
    if 0 ≤ k then den * Nat.pow 10 k.toNat ≤ num else den ≤ num * Nat.pow 10 (-k).toNat
  let guess := (leadingBit num den * 30103) / 100000
  if below (guess + 1) then guess + 1 else if below guess then guess else guess - 1

/-- Digits and the exponent of their last place: the shortest decimals that read back as the
positive double `x`, whose exact value is `num / den`, searched from `places` digits on. Of two
such decimals the nearer wins, and of two as near the even one. -/
def shortestFrom (x : Binary64) (num den : Nat) (lead : Int) : Nat → Nat → Nat × Int
  | 0, places => (roundDiv num den, Int.ofNat places)
  | fuel + 1, places =>
    let last := lead - Int.ofNat places + 1
    let (n, d) := if 0 ≤ last then (num, den * Nat.pow 10 last.toNat)
      else (num * Nat.pow 10 (-last).toNat, den)
    let near := roundDiv n d
    let far := if near == n / d then near + 1 else n / d
    if ofDecimal false near last == x then (near, last)
    else if ofDecimal false far last == x then (far, last)
    else shortestFrom x num den lead fuel (places + 1)

/-- Digits without the zeros at their end, and the exponent moved along. -/
def dropZeros : Nat → Nat × Int → Nat × Int
  | 0, p => p
  | fuel + 1, (digits, exponent) =>
    if digits != 0 && digits % 10 == 0 then dropZeros fuel (digits / 10, exponent + 1)
    else (digits, exponent)

/-- Positional notation of `digits · 10^exponent`, with at least one decimal place. -/
def positional (digits : List Char) (exponent : Int) : List Char :=
  if 0 ≤ exponent then digits ++ List.replicate exponent.toNat '0' ++ ['.', '0']
  else
    let places := (-exponent).toNat
    let padded := List.replicate (places + 1 - digits.length) '0' ++ digits
    padded.take (padded.length - places) ++ '.' :: padded.drop (padded.length - places)

/-- Scientific notation with a signed exponent of at least two digits. -/
def scientific (digits : List Char) (lead : Int) : List Char :=
  let exponent := Nat.toDigits 10 lead.natAbs
  let mark := ['e', if lead < 0 then '-' else '+'] ++
    List.replicate (2 - exponent.length) '0' ++ exponent
  match digits with
  | [] => mark
  | [d] => d :: mark
  | d :: rest => d :: '.' :: rest ++ mark

/-- The fewest digits that read back; positional from `10^-4` up to below `10^16`. -/
def text (x : Binary64) : String :=
  match x with
  | .nan => "nan"
  | .infinite negative => if negative then "-inf" else "inf"
  | .finite negative m e =>
    let sign := if negative then ['-'] else []
    if m == 0 then String.ofList (sign ++ ['0', '.', '0'])
    else
      let (num, den) := if 0 ≤ e then (m * Nat.pow 2 e.toNat, 1) else (m, Nat.pow 2 (-e).toNat)
      let lead := leadingDigit num den
      let (n, exponent) := dropZeros 20 (shortestFrom (.finite false m e) num den lead 17 1)
      let digits := Nat.toDigits 10 n
      let lead := exponent + Int.ofNat digits.length - 1
      let body := if -4 ≤ lead && lead < 16 then positional digits exponent
        else scientific digits lead
      String.ofList (sign ++ body)

/-- A finite double with exactly three decimal places, a tie to the even digit. -/
def textThousandths (x : Binary64) : String :=
  match x.toRatio? with
  | none => x.text
  | some (num, den) =>
    let digits := Nat.toDigits 10 (roundDiv (num.natAbs * 1000) den)
    let padded := List.replicate (4 - digits.length) '0' ++ digits
    let whole := padded.take (padded.length - 3)
    let sign := if num < 0 then ['-'] else []
    String.ofList (sign ++ whole ++ '.' :: padded.drop (padded.length - 3))

end Binary64

end RuleAudit
