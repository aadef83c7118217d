import RuleAudit.FileTree
import RuleAudit.Settings
import RuleAudit.Text.Classes
import RuleAudit.Toml.Reader

/-!
# Settings documents

Settings come from a section of the project document and from a document of their own, in this
order. References to environment variables in texts are replaced in each document; the documents
are merged table by table, the later one winning for everything that is not a table.
-/

namespace RuleAudit

/-! ## Merging tables -/

mutual

/-- A value laid over another: tables are merged, anything else is replaced. -/
def overlay (base : Value) : Value → Value
  | .table fields =>
    match base with
    | .table baseFields => .table (overlayFields baseFields fields)
    | _ => .table fields
  | v => v

/-- Fields laid over others: old keys keep their place, new ones go to the end. -/
def overlayFields (base : Keyed Value) : List (String × Value) → Keyed Value
  | [] => base
  | (k, v) :: rest =>
    let merged := match base.get? k with
      | some old => overlay old v
      | none => v
    overlayFields (base.put k merged) rest

end

/-! ## Environment references -/

/-- A piece of a text: a character as it is, or a reference to a variable as it was written. -/
inductive Piece where
  | plain (c : Char)
  | reference (name written : List Char)
  deriving Repr, DecidableEq

/-- The reference that starts after a dollar sign: a run of word characters, or a name in braces. -/
def reference? (rest : List Char) : Option Piece :=
  let word := rest.takeWhile Text.isWord
  if !word.isEmpty then some (.reference word ('$' :: word))
  else match rest with
    | '\x7b' :: more =>
      let name := more.takeWhile (· != '\x7d')
      match more.drop name.length with
      | close :: _ =>
        if name.isEmpty then none else some (.reference name ('$' :: '\x7b' :: name ++ [close]))
      | [] => none
    | _ => none

/-- The characters a piece was written with. -/
def Piece.written : Piece → List Char
  | .plain c => [c]
  | .reference _ written => written

/-- The pieces of a text, after passing over `skip` characters. -/
def piecesFrom : Nat → List Char → List Piece
  | _, [] => []
  | skip + 1, _ :: rest => piecesFrom skip rest
  | 0, c :: rest =>
    match if c == '$' then reference? rest else none with
    | some piece => piece :: piecesFrom (piece.written.length - 1) rest
    | none => .plain c :: piecesFrom 0 rest

/-- The pieces of a text from left to right. -/
def pieces (cs : List Char) : List Piece :=
  piecesFrom 0 cs

/-- The text a piece becomes: a variable that is set gives its value, anything else stays. -/
def Piece.expand (env : Keyed String) : Piece → List Char
  | .plain c => [c]
  | .reference name written =>
    match env.get? (String.ofList name) with
    | some value => value.toList
    | none => written

/-- A text with its references replaced once. -/
def expandText (env : Keyed String) (s : String) : String :=
  String.ofList ((pieces s.toList).flatMap (Piece.expand env))

mutual

/-- A value with the references in its texts replaced. -/
def expandValue (env : Keyed String) : Value → Value
  | .text s => .text (expandText env s)
  | .list items => .list (expandItems env items)
  | .table fields => .table (expandFields env fields)
  | v => v

/-- Items with the references in their texts replaced. -/
def expandItems (env : Keyed String) : List Value → List Value
  | [] => []
  | v :: rest => expandValue env v :: expandItems env rest

/-- Fields with the references in their values replaced; keys stay. -/
def expandFields (env : Keyed String) : List (String × Value) → List (String × Value)
  | [] => []
  | (k, v) :: rest => (k, expandValue env v) :: expandFields env rest

end

/-! ## Documents -/

/-- The document of a whole project. -/
def projectDocument : String := "pyproject.toml"

/-- The document that holds nothing but settings. -/
def settingsDocument : String := "lintweave.toml"

/-- The tables of the project document that lead to the settings. -/
def projectSection : List String := ["tool", "lintweave"]

/-- A place that settings come from. -/
inductive SettingsSource where
  /-- A whole document. -/
  | document (path : FilePath)
  /-- The settings section of a project document. -/
  | project (path : FilePath)
  deriving Repr, DecidableEq

namespace SettingsSource

/-- What a source is called. -/
def describe : SettingsSource → String
  | .document path => s!"TOML configuration at {path.text}"
  | .project path => s!"pyproject.toml ({path.text})"

/-- The table at a path of keys; empty when something on the way is missing or no table. -/
def sectionAt : List String → Keyed Value → Keyed Value
  | [], t => t
  | k :: rest, t =>
    match t.get? k with
    | some (.table inner) => sectionAt rest inner
    | _ => []

/-- The table of a document, references replaced; an absent document is empty. -/
def loadDocument (tree : FileTree) (env : Keyed String) (path : FilePath) :
    Except Fault (Keyed Value) := do
  match ← tree.entry? path with
  | none => .ok []
  | some .directory =>
    .error (.settingsUnreadable path.text (.file .isDirectory path.text))
  | some (.file content) =>
    match content.decode? with
    | none => .error .undecodable
    | some text =>
      match Toml.read text with
      | none => .error (.settingsUnreadable path.text (.malformed "TOML"))
      | some table => .ok (expandFields env table)

/-- The settings table of a source. -/
def load (tree : FileTree) (env : Keyed String) : SettingsSource → Except Fault (Keyed Value)
  | .document path => loadDocument tree env path
  | .project path => (loadDocument tree env path).map (sectionAt projectSection)

end SettingsSource

/-- The sources of a project's settings, the later winning. -/
def settingsSources (root : FilePath) (explicit : Option FilePath) : List SettingsSource :=
  [.project (root.join [projectDocument]),
   .document (explicit.getD (root.join [settingsDocument]))]

mutual

/-- The names of the variables that the texts of a value refer to. -/
def referencedNames : Value → List String
  | .text s => (pieces s.toList).filterMap fun piece =>
    match piece with
    | .plain _ => none
    | .reference name _ => some (String.ofList name)
  | .list items => itemNames items
  | .table fields => fieldNames fields
  | _ => []

/-- The names of the variables that items refer to. -/
def itemNames : List Value → List String
  | [] => []
  | v :: rest => referencedNames v ++ itemNames rest

/-- The names of the variables that the values of fields refer to. -/
def fieldNames : List (String × Value) → List String
  | [] => []
  | (_, v) :: rest => referencedNames v ++ fieldNames rest

end

/-- The names of the variables that a project's settings refer to. -/
def settingsReferences (tree : FileTree) (root : FilePath) (explicit : Option FilePath) :
    List String :=
  (settingsSources root explicit).flatMap fun source =>
    match source.load tree [] with
    | .ok table => referencedNames (.table table)
    | .error _ => []

/-- The merged table of sources. -/
def mergeSources (tree : FileTree) (env : Keyed String) :
    Keyed Value → List SettingsSource → Except Fault (Keyed Value)
  | merged, [] => .ok merged
  | merged, source :: rest =>
    match source.load tree env with
    | .error f => .error f
    | .ok table => mergeSources tree env (overlayFields merged table) rest

/-- The settings of a project; an explicit document must exist. -/
def loadSettings (tree : FileTree) (root : FilePath) (explicit : Option FilePath)
    (env : Keyed String) : Except Fault Settings := do
  if let some path := explicit then
    if (← tree.entry? path).isNone then throw (.settingsMissing path.text)
  let merged ← mergeSources tree env [] (settingsSources root explicit)
  match Settings.read (.table merged) with
  | .error (.invalid model issues) => .error (.settingsInvalid (.invalid model issues))
  | result => result

end RuleAudit
