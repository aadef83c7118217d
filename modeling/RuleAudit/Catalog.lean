import RuleAudit.Catalog.Bundled
import RuleAudit.FileTree
import RuleAudit.Value.JsonReader

/-!
# The rule catalog

A catalog resolves rule identifiers. It reads its registry on first use, all or nothing: a registry
that cannot be read or holds a bad entry leaves the catalog as it was, and the next use tries again.
-/

namespace RuleAudit

/-! ## Registry documents -/

/-- An entry of a registry document: under a key, or in a list. -/
inductive RegistryEntry where
  | keyed (key : String) (payload : Value)
  | listed (payload : Value)

/-- The entries of a registry document: a table by identifier, alone or under `rules`, or a list. -/
def registryEntries (source : String) (document : Value) : Except Fault (List RegistryEntry) :=
  let rules := match document with
    | .table fields => (Keyed.get? fields "rules").getD document
    | v => v
  match rules with
  | .table entries => .ok (entries.map fun e => .keyed e.1 e.2)
  | .list items => .ok (items.map .listed)
  | _ => .error (.registryLayout source)

/-- The fields of an entry with its identifier; an entry's own identifier wins over its key. -/
def RegistryEntry.fields (source : String) : RegistryEntry → Except Fault (Keyed Value)
  | .keyed key (.table fields) => .ok (Keyed.ofEntries (("id", .text key) :: fields))
  | .keyed key _ => .error (.registryEntry source key)
  | .listed (.table fields) =>
    if Keyed.has fields "id" then .ok fields else .error (.registryAnonymous source)
  | .listed _ => .error (.registryAnonymous source)

/-- The rule of an entry. -/
def RegistryEntry.rule (source : String) (entry : RegistryEntry) : Except Fault Rule := do
  let fields ← entry.fields source
  match Rule.read (.table fields) with
  | .error (.invalid model issues) =>
    .error (.registryRule source ((fields.get? "id").getD .null).literal (.invalid model issues))
  | result => result

/-- The rules of entries by identifier, added to those loaded; the last of equal ones counts. -/
def loadEntries (source : String) : Keyed Rule → List RegistryEntry → Except Fault (Keyed Rule)
  | loaded, [] => .ok loaded
  | loaded, entry :: rest =>
    match entry.rule source with
    | .error f => .error f
    | .ok rule => loadEntries source (loaded.put rule.id rule) rest

/-- The rules of a registry document by identifier. -/
def loadDocument (source : String) (document : Value) : Except Fault (Keyed Rule) :=
  match registryEntries source document with
  | .error f => .error f
  | .ok entries => loadEntries source [] entries

/-- The message for an integer with more digits than are accepted. -/
def tooManyDigits (digits : Nat) : String :=
  "Exceeds the limit (4300 digits) for integer string conversion: " ++
    s!"value has {digits} digits; use sys.set_int_max_str_digits() to increase the limit"

/-- The document in a registry file. -/
def readRegistry (tree : FileTree) (path : FilePath) : Except Fault Value :=
  match tree.readFile path with
  | .error (.file .absent _) => .error (.registryMissing path.text)
  | .error (.file problem p) => .error (.registryUnreadable path.text (.file problem p))
  | .error f => .error f
  | .ok content =>
    match content.decode? with
    | none => .error .undecodable
    | some text =>
      match Json.read text with
      | .ok v => .ok v
      | .error .malformed => .error (.registryUnreadable path.text (.malformed "JSON"))
      | .error (.tooManyDigits n) => .error (.plain .value (some (tooManyDigits n)))

/-! ## Catalogs -/

/-- Where a catalog gets its rules from. -/
inductive CatalogSource where
  | bundled
  | registry (path : FilePath)
  deriving Repr, DecidableEq

/-- A catalog: its source and, once loaded, its rules by identifier. -/
structure Catalog where
  source : CatalogSource := .bundled
  loaded : Option (Keyed Rule) := none
  deriving Repr

namespace Catalog

/-- Rules by identifier; the last of equal ones counts. -/
def byId (rules : List Rule) : Keyed Rule :=
  Keyed.ofEntries (rules.map fun r => (r.id, r))

/-- A loaded catalog of given rules. -/
def ofRules (rules : List Rule) : Catalog :=
  { loaded := some (byId rules) }

/-- A catalog of the rules in a registry file, or of the bundled ones. -/
def ofRegistry (path : Option FilePath) : Catalog :=
  match path with
  | some p => { source := .registry p }
  | none => {}

/-- Whether the rules have been loaded. -/
def isLoaded (c : Catalog) : Bool :=
  c.loaded.isSome

/-- The file name of the registry. -/
def registryName (c : Catalog) : String :=
  match c.source with
  | .bundled => "rules.json"
  | .registry path => path.name

/-- The rules of a catalog's source. -/
def readSource (tree : FileTree) : CatalogSource → Except Fault (Keyed Rule)
  | .bundled => .ok (byId bundledRules)
  | .registry path =>
    match readRegistry tree path with
    | .error f => .error f
    | .ok document => loadDocument path.text document

/-- The catalog with its rules loaded. -/
def load (tree : FileTree) (c : Catalog) : Except Fault Catalog :=
  match c.loaded with
  | some _ => .ok c
  | none => (readSource tree c.source).map fun rules => { c with loaded := some rules }

/-- The rules by identifier; none before they are loaded. -/
def rulesById (c : Catalog) : Keyed Rule :=
  c.loaded.getD []

/-- The rules in registry order. -/
def rules (c : Catalog) : List Rule :=
  c.rulesById.values

/-- The rule of an identifier in any case. -/
def find? (c : Catalog) (id : String) : Option Rule :=
  c.rulesById.get? (Rule.normalizeId id)

/-- The rules of a category in any case. -/
def ofCategory (c : Catalog) (category : String) : List Rule :=
  c.rules.filter fun r => r.category == Text.lower category

/-- Identifiers normalised, without blank and repeated ones, after those already seen. -/
def distinctIds : List String → List String → List String
  | _, [] => []
  | seen, raw :: rest =>
    let id := Rule.normalizeId raw
    if id.isEmpty || seen.contains id then distinctIds seen rest
    else id :: distinctIds (id :: seen) rest

/-- The rules of identifiers and the identifiers without a rule, both in first-seen order. -/
def resolve (c : Catalog) (ids : List String) : List Rule × List String :=
  let distinct := distinctIds [] ids
  (distinct.filterMap c.find?, distinct.filter fun id => (c.find? id).isNone)

/-! ## Lookups -/

/-- What a catalog is asked. -/
inductive Query where
  | load
  | find (id : String)
  | all
  | ids
  | category (name : String)
  | resolve (raw : List String)
  | size
  /-- Whether something is the identifier of a rule. -/
  | contains (item : Value)

/-- What a catalog answers. -/
inductive Answer where
  | done
  | found (rule : Option Rule)
  | rules (rules : List Rule)
  | ids (ids : List String)
  | resolved (rules : List Rule) (unknown : List String)
  | size (n : Nat)
  | contains (b : Bool)

/-- Whether a query looks rules up. -/
def Query.looksUp : Query → Bool
  | .resolve raw => !(distinctIds [] raw).isEmpty
  | .contains (.text _) => true
  | .contains _ => false
  | .load | .find _ | .all | .ids | .category _ | .size => true

/-- The answer from the rules at hand. -/
def answer (c : Catalog) : Query → Answer
  | .load => .done
  | .find id => .found (c.find? id)
  | .all => .rules c.rules
  | .ids => .ids c.rulesById.keys
  | .category name => .rules (c.ofCategory name)
  | .resolve raw => .resolved (c.resolve raw).1 (c.resolve raw).2
  | .size => .size c.rules.length
  | .contains (.text id) => .contains (c.find? id).isSome
  | .contains _ => .contains false

/-- Answer a query; what looks rules up has them loaded first. -/
def ask (tree : FileTree) (c : Catalog) (query : Query) : Catalog × Except Fault Answer :=
  if query.looksUp then
    match c.load tree with
    | .ok c => (c, .ok (c.answer query))
    | .error f => (c, .error f)
  else (c, .ok (c.answer query))

end Catalog

end RuleAudit
