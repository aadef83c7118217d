import RuleAudit.Value

/-!
# Tables under construction

A TOML document fills nested tables key by key. Marks on key paths say which tables were declared
and which values are closed for good, so that nothing is declared twice or changed later.
-/

namespace RuleAudit.Toml

/-- A path of keys. -/
abbrev Key := List String

/-- What a mark says about a key path. -/
inductive Mark where
  /-- A value written in one piece; nothing may be added to it. -/
  | frozen
  /-- A table that was declared and may not be declared again. -/
  | declared
  deriving DecidableEq

/-- A mark on a key path, perhaps on everything below it too. -/
structure Marking where
  key : Key
  mark : Mark
  below : Bool

/-- Whether a mark lies on a key path. -/
def marked (marks : List Marking) (key : Key) (mark : Mark) : Bool :=
  !key.isEmpty && marks.any fun m =>
    m.mark == mark && (m.key == key || (m.below && m.key.isPrefixOf key))

/-- The marks without those on a key path and below it. -/
def unmark (marks : List Marking) (key : Key) : List Marking :=
  marks.filter fun m => !key.isPrefixOf m.key

/-- Change the table at a key path, making tables on the way. A list on the way stands for its last
item when `throughLists` is set. `none` when something else than a table is in the way. -/
def changeAt (throughLists : Bool) (f : Keyed Value → Option (Keyed Value)) :
    Key → Keyed Value → Option (Keyed Value)
  | [], t => f t
  | k :: rest, t =>
    match t.get? k with
    | none => (changeAt throughLists f rest []).map fun inner => t.put k (.table inner)
    | some (.table inner) =>
      (changeAt throughLists f rest inner).map fun inner => t.put k (.table inner)
    | some (.list items) =>
      match throughLists, items.getLast? with
      | true, some (.table inner) =>
        (changeAt throughLists f rest inner).map fun inner =>
          t.put k (.list (items.dropLast ++ [.table inner]))
      | _, _ => none
    | some _ => none

/-- Add a value under a new key. -/
def addNew (k : String) (v : Value) (t : Keyed Value) : Option (Keyed Value) :=
  if t.has k then none else some (t.put k v)

/-- Add an empty table to the list under a key. -/
def appendTable (k : String) (t : Keyed Value) : Option (Keyed Value) :=
  match t.get? k with
  | none => some (t.put k (.list [.table []]))
  | some (.list items) => some (t.put k (.list (items ++ [.table []])))
  | some _ => none

end RuleAudit.Toml
