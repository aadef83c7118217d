import RuleAudit.Fault
import RuleAudit.FilePath
import RuleAudit.Text.Utf8

/-!
# File trees

Files and directories, as a list of places with what they hold. A place is a list of components:
below the working directory, or after `/` from the root, or after one `..` for each directory up.
Every directory above an entry is an entry too. Looking a path up walks its components, so that a
component below a file, a missing one and one that is too long are told apart.
-/

namespace RuleAudit

/-- What a file holds. -/
inductive Content where
  | text (s : String)
  | octets (bytes : List UInt8)
  | zeros (count : Nat)
  deriving Repr

namespace Content

/-- The size in octets. -/
def size : Content → Nat
  | .text s => s.utf8ByteSize
  | .octets bytes => bytes.length
  | .zeros count => count

/-- The text of well-formed contents. -/
def decode? : Content → Option String
  | .text s => some s
  | .octets bytes => Text.decode? bytes
  | .zeros count => some (String.ofList (List.replicate count (Char.ofNat 0)))

/-- The text of any contents, with U+FFFD for malformed parts. -/
def decodeReplacing : Content → String
  | .octets bytes => Text.decodeReplacing bytes
  | c => c.decode?.getD ""

end Content

/-- A file or a directory. -/
inductive Entry where
  | file (content : Content)
  | directory
  deriving Repr

/-- Whether an entry is a file. -/
def Entry.isFile : Entry → Bool
  | .file _ => true
  | .directory => false

/-- Entries by their places. -/
abbrev FileTree := List (List String × Entry)

namespace FileTree

/-- The entry at a place; the working directory is a directory itself. -/
def at? (t : FileTree) (parts : List String) : Option Entry :=
  if parts.isEmpty then some .directory
  else (t.find? (·.1 == parts)).map Prod.snd

/-- The tree with an entry put at a place. -/
def put (t : FileTree) (parts : List String) (e : Entry) : FileTree :=
  if t.any (·.1 == parts) then t.map fun old => if old.1 == parts then (parts, e) else old
  else t ++ [(parts, e)]

/-- The tree with an entry and all directories above it. -/
def add (t : FileTree) (parts : List String) (e : Entry) : FileTree :=
  let above := (List.range parts.length).map fun n => parts.take n
  let withParents := above.foldl
    (fun t dir => if dir.isEmpty || (t.at? dir).isSome then t else t.put dir .directory) t
  withParents.put parts e

/-- The greatest length of a component in octets. -/
def nameLimit : Nat := 255

/-- The place a path starts from. -/
def start (p : FilePath) : List String :=
  if p.root.isEmpty then [] else ["/"]

/-- The place of the directory above one; the root is above itself. -/
def above (here : List String) : List String :=
  if here == ["/"] then here
  else match here.getLast? with
    | none | some ".." => here ++ [".."]
    | some _ => here.dropLast

/-- The place reached from a directory by components that are there. -/
def walk (t : FileTree) : List String → List String → Except FileProblem (List String)
  | here, [] => .ok here
  | here, part :: rest =>
    if part == ".." then walk t (above here) rest
    else if part.utf8ByteSize > nameLimit then .error .nameTooLong
    else match t.at? (here ++ [part]) with
      | none => .error .absent
      | some .directory => walk t (here ++ [part]) rest
      | some (.file _) => if rest.isEmpty then .ok (here ++ [part]) else .error .notDirectory

/-- The greatest length of a path in octets. -/
def pathLimit : Nat := 4095

/-- Whether a path is too long to be looked up at all. -/
def isTooLong (p : FilePath) : Bool :=
  p.text.utf8ByteSize > pathLimit

/-- The place a path leads to. -/
def locate (t : FileTree) (p : FilePath) : Except FileProblem (List String) :=
  if isTooLong p then .error .nameTooLong else t.walk (start p) p.parts

/-- The entry a path leads to; directories outside the tree are known only as such. -/
def lookup (t : FileTree) (p : FilePath) : Except FileProblem Entry :=
  (t.locate p).map fun place => (t.at? place).getD .directory

/-- No file can have a null character in its path. -/
def nullFault : Fault :=
  .plain .value (some "embedded null byte")

/-- The entry a path leads to, or the fault of using it. -/
def entry (t : FileTree) (p : FilePath) : Except Fault Entry :=
  if p.hasNull then .error nullFault
  else match t.lookup p with
    | .ok e => .ok e
    | .error problem => .error (.file problem p.text)

/-- The entry a path leads to, if any; only a path or component that is too long is a fault. -/
def entry? (t : FileTree) (p : FilePath) : Except Fault (Option Entry) :=
  if p.hasNull then .ok none
  else match t.lookup p with
    | .ok e => .ok (some e)
    | .error .nameTooLong => .error (.file .nameTooLong p.text)
    | .error _ => .ok none

/-- The contents of a file. -/
def readFile (t : FileTree) (p : FilePath) : Except Fault Content := do
  match ← t.entry p with
  | .file c => .ok c
  | .directory => .error (.file .isDirectory p.text)

/-- The size of an entry; a directory counts as one block. -/
def sizeOf (t : FileTree) (p : FilePath) : Except Fault Nat := do
  match ← t.entry p with
  | .file c => .ok c.size
  | .directory => .ok 4096

/-- The components that lead from a directory to a place below it. -/
def below? (dir place : List String) : Option (List String) :=
  match place.drop dir.length with
  | [] => none
  | part :: rest =>
    if dir.isPrefixOf place && part != "/" && part != ".." then some (part :: rest) else none

/-- The places of the entries of a kind below a directory, as components below it, in the order of
their components. -/
def placesBelow (t : FileTree) (kind : Entry → Bool) (dir : List String) : List (List String) :=
  let places := (t.filter fun x => kind x.2).map Prod.fst
  (places.filterMap (below? dir)).mergeSort fun a b => !(b < a)

end FileTree

end RuleAudit
