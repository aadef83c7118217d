import RuleAudit.Toml.Scalar
import RuleAudit.Toml.Table

/-!
# Reading TOML

A document is a sequence of statements, one a line: a key with a value, a table header, or the
header of one more table in a list.
-/

namespace RuleAudit.Toml

/-- A character of a key without quotes. -/
def isBareKey (c : Char) : Bool :=
  c.isAlphanum || c == '-' || c == '_'

/-- One part of a key. -/
def keyPart : Reader String := fun cs =>
  match cs with
  | '"' :: rest => basicString rest
  | '\'' :: rest => literalString rest
  | _ =>
    let bare := cs.takeWhile isBareKey
    if bare.isEmpty then none else some (String.ofList bare, cs.drop bare.length)

/-- Further parts of a key, each after a dot. -/
def keyParts : Nat → Key → Reader Key
  | 0, key, cs => some (key, cs)
  | fuel + 1, key, cs =>
    match cs with
    | '.' :: rest =>
      match keyPart (skipSpace rest) with
      | none => none
      | some (part, rest) => keyParts fuel (key ++ [part]) (skipSpace rest)
    | _ => some (key, cs)

/-- A key with the blanks after it. -/
def key : Reader Key := fun cs =>
  match keyPart cs with
  | none => none
  | some (part, rest) => keyParts (rest.length + 1) [part] (skipSpace rest)

/-- The rest after a comment, if one starts here. -/
def skipComment (cs : List Char) : Option (List Char) :=
  match cs with
  | '#' :: rest =>
    let body := rest.takeWhile (· != '\n')
    if body.any isControl then none else some (rest.drop body.length)
  | _ => some cs

/-- The rest after blanks, line ends and comments. -/
def skipFiller : Nat → List Char → Option (List Char)
  | 0, cs => some cs
  | fuel + 1, cs =>
    let past := cs.dropWhile isSpaceOrEnd
    match past with
    | '#' :: _ => (skipComment past).bind (skipFiller fuel)
    | _ => some past

/-- Filler, with enough steps for the characters at hand. -/
def filler (cs : List Char) : Option (List Char) :=
  skipFiller (cs.length + 1) cs

/-- An inline table part way through. -/
structure Inline where
  fields : Keyed Value := []
  marks : List Marking := []

/-- A key and value added to an inline table. -/
def Inline.add (t : Inline) (k : Key) (v : Value) : Option Inline :=
  if marked t.marks k .frozen then none
  else
    match k.getLast? with
    | none => none
    | some last =>
      (changeAt false (addNew last v) k.dropLast t.fields).map fun fields =>
        let frozen := match v with
          | .table _ | .list _ => true
          | _ => false
        ⟨fields, if frozen then t.marks ++ [⟨k, .frozen, true⟩] else t.marks⟩

mutual

/-- A value. -/
def value : Nat → Reader Value
  | 0, _ => none
  | fuel + 1, cs =>
    match cs with
    | '"' :: rest =>
      let read := if startsWith "\"\"" rest then multilineString false (rest.drop 2)
        else basicString rest
      read.map fun (s, tail) => (.text s, tail)
    | '\'' :: rest =>
      let read := if startsWith "''" rest then multilineString true (rest.drop 2)
        else literalString rest
      read.map fun (s, tail) => (.text s, tail)
    | '[' :: rest => (filler rest).bind fun rest => items fuel [] rest
    | '\x7b' :: rest =>
      match skipSpace rest with
      | '\x7d' :: tail => some (.table [], tail)
      | rest => members fuel {} rest
    | _ =>
      if startsWith "true" cs then some (.bool true, cs.drop 4)
      else if startsWith "false" cs then some (.bool false, cs.drop 5)
      else match dateTime cs with
        | some read => read
        | none =>
          match clock cs with
          | some (c, tail) => some (.moment (.time c), tail)
          | none => basedInteger cs <|> decimalNumber cs <|> specialNumber cs

/-- The items of a list, after those read so far, last first; filler was skipped. -/
def items : Nat → List Value → Reader Value
  | 0, _, _ => none
  | fuel + 1, read, cs =>
    match cs with
    | ']' :: tail => some (.list read.reverse, tail)
    | _ =>
      match value fuel cs with
      | none => none
      | some (v, rest) =>
        match filler rest with
        | some (']' :: tail) => some (.list (v :: read).reverse, tail)
        | some (',' :: more) => (filler more).bind fun more => items fuel (v :: read) more
        | _ => none

/-- The members of an inline table. -/
def members : Nat → Inline → Reader Value
  | 0, _, _ => none
  | fuel + 1, table, cs =>
    match key cs with
    | some (k, '=' :: rest) =>
      match value fuel (skipSpace rest) with
      | none => none
      | some (v, rest) =>
        match table.add k v with
        | none => none
        | some table =>
          match skipSpace rest with
          | '\x7d' :: tail => some (.table table.fields, tail)
          | ',' :: more => members fuel table (skipSpace more)
          | _ => none
    | _ => none

end

/-! ## Statements -/

/-- A document part way through: its tables, the marks, the marks that take effect at the next
header, and the table that keys go to. -/
structure Document where
  root : Keyed Value := []
  marks : List Marking := []
  pending : List Marking := []
  header : Key := []

/-- The non-empty proper beginnings of a key. -/
def beginnings (k : Key) : List Key :=
  (List.range (k.length - 1)).map fun n => k.take (n + 1)

/-- A key with a value. -/
def Document.assign (d : Document) (k : Key) (v : Value) : Option Document :=
  let parents := (beginnings k).map (d.header ++ ·)
  if parents.any fun p => marked d.marks p .declared then none
  else
    let holder := d.header ++ k.dropLast
    if marked d.marks holder .frozen then none
    else match k.getLast? with
      | none => none
      | some last =>
        (changeAt true (addNew last v) holder d.root).map fun root =>
          let frozen := match v with
            | .table _ | .list _ => [⟨d.header ++ k, .frozen, true⟩]
            | _ => []
          { d with
            root := root
            marks := d.marks ++ frozen
            pending := d.pending ++ parents.map fun p => ⟨p, .declared, false⟩ }

/-- The pending marks take effect. -/
def Document.settle (d : Document) : Document :=
  { d with marks := d.marks ++ d.pending, pending := [] }

/-- A table header. -/
def Document.openTable (d : Document) (k : Key) : Option Document :=
  if marked d.marks k .declared || marked d.marks k .frozen then none
  else (changeAt true some k d.root).map fun root =>
    { d with root := root, marks := d.marks ++ [⟨k, .declared, false⟩], header := k }

/-- The header of one more table in a list. -/
def Document.openItem (d : Document) (k : Key) : Option Document :=
  if marked d.marks k .frozen then none
  else match k.getLast? with
    | none => none
    | some last =>
      (changeAt true (appendTable last) k.dropLast d.root).map fun root =>
        { d with
          root := root
          marks := unmark d.marks k ++ [⟨k, .declared, false⟩]
          header := k }

/-- A statement, if one starts here; gives the rest of its line. -/
def statement (d : Document) (cs : List Char) : Option (Document × List Char) :=
  match cs with
  | '[' :: '[' :: rest =>
    match key (skipSpace rest) with
    | some (k, ']' :: ']' :: tail) => (d.settle.openItem k).map fun d => (d, skipSpace tail)
    | _ => none
  | '[' :: rest =>
    match key (skipSpace rest) with
    | some (k, ']' :: tail) => (d.settle.openTable k).map fun d => (d, skipSpace tail)
    | _ => none
  | '#' :: _ => some (d, cs)
  | _ =>
    match key cs with
    | some (k, '=' :: rest) =>
      match value (2 * rest.length + 2) (skipSpace rest) with
      | none => none
      | some (v, tail) => (d.assign k v).map fun d => (d, skipSpace tail)
    | _ => none

/-- Statements up to the end. -/
def statements : Nat → Document → List Char → Option Document
  | 0, d, _ => some d
  | fuel + 1, d, cs =>
    match skipSpace cs with
    | [] => some d
    | '\n' :: rest => statements fuel d rest
    | cs =>
      match statement d cs with
      | none => none
      | some (d, rest) =>
        match skipComment rest with
        | some [] => some d
        | some ('\n' :: rest) => statements fuel d rest
        | _ => none

/-- A line end written with a carriage return counts as a line end. -/
def unifyEnds (cs : List Char) : List Char :=
  (cs.foldl (fun (past : List Char) c =>
    match c, past with
    | '\n', '\r' :: past => '\n' :: past
    | c, past => c :: past) []).reverse

/-- The root table of a document; `none` when it is malformed. -/
def read (text : String) : Option (Keyed Value) :=
  let cs := unifyEnds text.toList
  (statements (cs.length + 1) {} cs).map Document.root

end RuleAudit.Toml
