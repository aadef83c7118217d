import RuleAudit.Auditor

/-!
# Selecting work

What the arguments of a command stand for: files and directories become files, lists of identifiers
and categories become rules, and the name of a profile becomes limits.
-/

namespace RuleAudit.Selection

/-! ## Files -/

/-- The source files below a directory, in the order of their components. A path below it that is
too long is a fault; the walk meets directories before it looks at files. -/
def sourcesBelow (tree : FileTree) (dir : FilePath) (place : List String) :
    Except Fault (List FilePath) :=
  let directories := (tree.placesBelow (fun e => !e.isFile) place).map dir.join
  let files := (tree.placesBelow Entry.isFile place).map dir.join
  match (directories ++ files).find? FileTree.isTooLong with
  | some p => .error (.file .nameTooLong p.text)
  | none => .ok (files.filter fun p => (languageOf? p).isSome)

/-- The files an argument stands for: itself, or the source files below it. -/
def filesOf (tree : FileTree) (path : FilePath) : Except Fault (List FilePath) :=
  match tree.entry? path with
  | .error f => .error f
  | .ok none => .error (.command s!"Path does not exist: {path.text}" 2)
  | .ok (some (.file _)) => .ok [path]
  | .ok (some .directory) =>
    match tree.locate path with
    | .ok place => sourcesBelow tree path place
    | .error _ => .ok []

/-- Paths added to those collected, each once. -/
def addPaths (collected more : List FilePath) : List FilePath :=
  more.foldl (fun all p => if all.contains p then all else all ++ [p]) collected

/-- The files of arguments, after those collected. -/
def collectFrom (tree : FileTree) : List FilePath → List FilePath → Except Fault (List FilePath)
  | collected, [] => .ok collected
  | collected, path :: rest =>
    match filesOf tree path with
    | .error f => .error f
    | .ok files => collectFrom tree (addPaths collected files) rest

/-- The files that arguments stand for, each once, in the order of the arguments. -/
def collectFiles (tree : FileTree) (paths : List FilePath) : Except Fault (List FilePath) :=
  collectFrom tree [] paths

/-! ## Rules -/

/-- The identifiers in lists divided by commas. -/
def splitIds (values : List String) : List String :=
  values.flatMap fun v =>
    ((Text.splitOnChar ',' v.toList).map fun part => Rule.normalizeId (String.ofList part)).filter
      fun id => !id.isEmpty

/-- The rules of categories that were not named already. -/
def addCategories (catalog : Catalog) (seen : List String) (categories : List String) :
    List Rule :=
  let step (s : List String × List Rule) (rule : Rule) : List String × List Rule :=
    if s.1.contains rule.id then s else (rule.id :: s.1, s.2 ++ [rule])
  ((categories.flatMap catalog.ofCategory).foldl step (seen, [])).2

/-- The rules asked for by identifier and category; all rules when neither is given. -/
def selectRules (catalog : Catalog) (ids categories : List String) : List RuleInput :=
  if ids.isEmpty && categories.isEmpty then catalog.rules.map .rule
  else ids.map .id ++ (addCategories catalog ids categories).map .rule

/-- The same with a catalog that is loaded when its rules are needed. -/
def select (tree : FileTree) (catalog : Catalog) (ids categories : List String) :
    Except Fault (List RuleInput) :=
  if !ids.isEmpty && categories.isEmpty then .ok (selectRules catalog ids categories)
  else (catalog.load tree).map fun catalog => selectRules catalog ids categories

/-! ## Profiles -/

/-- The name that lets the number of files decide. -/
def autoProfile : String := "auto"

/-- The name for no profile. -/
def noProfile : String := "none"

/-- The profile of a name in any case, for a number of files. -/
def profileOf (name : String) (files : Nat) : Except Fault (Option Profile) :=
  let key := Text.lower (Text.trim name)
  if key == noProfile then .ok none
  else if key == autoProfile then .ok (some (Profile.forSize files))
  else match Profile.ofName? key with
    | some p => .ok (some p)
    | none =>
      let choices := ", ".intercalate ([autoProfile, noProfile] ++ Profile.shipped.map Profile.name)
      .error (.command s!"Unknown performance profile '{name}' (choose from {choices})" 2)

/-- The settings with the profile of a name, and the name of the profile applied. -/
def applyProfile (settings : Settings) (name : String) (files : Nat) :
    Except Fault (Settings × Option String) :=
  (profileOf name files).map fun profile =>
    match profile with
    | some p => (settings.applyProfile p, some p.name)
    | none => (settings, none)

end RuleAudit.Selection
