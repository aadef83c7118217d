import RuleAudit.Value.JsonToken

/-!
# Reading JSON

Tokens are folded into a value with the containers part way through held in a list of frames. A
repeated key keeps its first place with its last value; `NaN` and the infinities are read too.
-/

namespace RuleAudit.Json

/-- A container part way through; a table waits for the value of its pending key. -/
inductive Frame where
  | list (items : List Value)
  | table (fields : Keyed Value) (pending : String)

/-- What the next token may be. -/
inductive Expect where
  | value
  | valueOrEnd
  | key
  | keyOrEnd
  | colon
  | next
  deriving DecidableEq

/-- The reader between tokens. -/
structure ReadState where
  frames : List Frame := []
  expect : Expect := .value
  result : Option Value := none

/-- The decimal digits of a list, as a number. -/
def digitsValue (cs : List Char) : Nat :=
  cs.foldl (fun n c => n * 10 + (c.toNat - '0'.toNat)) 0

/-- The exponent part of a number: nothing, or `e`, a sign and digits. -/
def exponent? (cs : List Char) : Option (Option Int) :=
  match cs with
  | [] => some none
  | e :: rest =>
    if e != 'e' && e != 'E' then none
    else
      let (negative, digits) := match rest with
        | '-' :: ds => (true, ds)
        | '+' :: ds => (false, ds)
        | ds => (false, ds)
      if digits.isEmpty || !digits.all Char.isDigit then none
      else
        let n := Int.ofNat (digitsValue digits)
        some (some (if negative then -n else n))

/-- The number a bare word spells. -/
def number? (cs : List Char) : Option (Except ReadError Value) :=
  let (negative, body) := match cs with
    | '-' :: rest => (true, rest)
    | rest => (false, rest)
  let whole := body.takeWhile Char.isDigit
  let rest := body.dropWhile Char.isDigit
  if whole.isEmpty || (whole.length > 1 && whole.head? == some '0') then none
  else
    let (fraction, tail, pointOk) := match rest with
      | '.' :: more => (more.takeWhile Char.isDigit, more.dropWhile Char.isDigit,
          !(more.takeWhile Char.isDigit).isEmpty)
      | _ => ([], rest, true)
    if !pointOk then none
    else match exponent? tail with
      | none => none
      | some exponent =>
        if fraction.isEmpty && exponent.isNone then
          if whole.length > 4300 then some (.error (.tooManyDigits whole.length))
          else
            let n := Int.ofNat (digitsValue whole)
            some (.ok (.int (if negative then -n else n)))
        else
          let digits := digitsValue (whole ++ fraction)
          some (.ok (.float (Binary64.ofDecimal negative digits
            (exponent.getD 0 - Int.ofNat fraction.length))))

/-- The value a bare word stands for. -/
def word? (cs : List Char) : Option (Except ReadError Value) :=
  match String.ofList cs with
  | "true" => some (.ok (.bool true))
  | "false" => some (.ok (.bool false))
  | "null" => some (.ok .null)
  | "NaN" => some (.ok (.float .nan))
  | "Infinity" => some (.ok (.float (.infinite false)))
  | "-Infinity" => some (.ok (.float (.infinite true)))
  | _ => number? cs

/-- A finished value goes into the innermost container, or is the document. -/
def ReadState.deliver (v : Value) : List Frame → ReadState
  | [] => ⟨[], .next, some v⟩
  | .list items :: outer => ⟨.list (v :: items) :: outer, .next, none⟩
  | .table fields key :: outer => ⟨.table (fields.put key v) "" :: outer, .next, none⟩

/-- The value of a closed container. -/
def Frame.close : Frame → Value
  | .list items => .list items.reverse
  | .table fields _ => .table fields

/-- Whether a closing mark belongs to a frame. -/
def Frame.closedBy (c : Char) : Frame → Bool
  | .list _ => c == ']'
  | .table .. => c == '\x7d'

/-- One token. -/
def ReadState.step (s : ReadState) (t : Token) : Except ReadError ReadState :=
  let close (c : Char) : Except ReadError ReadState :=
    match s.frames with
    | frame :: outer => if frame.closedBy c then .ok (deliver frame.close outer)
        else .error .malformed
    | [] => .error .malformed
  match s.expect, t with
  | .next, .mark ',' =>
    match s.frames with
    | .list _ :: _ => .ok { s with expect := .value }
    | .table .. :: _ => .ok { s with expect := .key }
    | [] => .error .malformed
  | .next, .mark c => close c
  | .colon, .mark ':' => .ok { s with expect := .value }
  | .key, .string key | .keyOrEnd, .string key =>
    match s.frames with
    | .table fields _ :: outer =>
      .ok { s with frames := .table fields key :: outer, expect := .colon }
    | _ => .error .malformed
  | .keyOrEnd, .mark '\x7d' => close '\x7d'
  | .valueOrEnd, .mark ']' => close ']'
  | .value, t | .valueOrEnd, t =>
    match t with
    | .mark '[' => .ok { s with frames := .list [] :: s.frames, expect := .valueOrEnd }
    | .mark '\x7b' => .ok { s with frames := .table [] "" :: s.frames, expect := .keyOrEnd }
    | .mark _ => .error .malformed
    | .string text => .ok (deliver (.text text) s.frames)
    | .word cs => match word? cs with
      | some (.ok v) => .ok (deliver v s.frames)
      | some (.error e) => .error e
      | none => .error .malformed
  | _, _ => .error .malformed

/-- The value of a JSON document. -/
def read (text : String) : Except ReadError Value :=
  match tokens? text.toList with
  | none => .error .malformed
  | some tokens =>
    match tokens.foldlM ReadState.step {} with
    | .error e => .error e
    | .ok s => match s.frames, s.result with
      | [], some v => .ok v
      | _, _ => .error .malformed

end RuleAudit.Json
