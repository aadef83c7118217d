import RuleAudit.Keyed
import RuleAudit.Moment
import RuleAudit.Number.Binary64
import RuleAudit.Text.Quoted

/-!
# Values

The data of settings documents, rule registries and engine reports: scalars, lists and tables whose
keys keep the order of their first appearance. A value has a literal form, used inside other texts,
and a display form, in which a text stands for itself.
-/

namespace RuleAudit

/-- A value of a data document. -/
inductive Value where
  | null
  | bool (b : Bool)
  | int (n : Int)
  | float (x : Binary64)
  | text (s : String)
  | moment (m : Moment)
  | list (items : List Value)
  | table (fields : List (String × Value))
  deriving Repr

instance : Inhabited Value := ⟨.null⟩

namespace Value

/-- The kind of a value, as messages name it. -/
def kindName : Value → String
  | .null => "NoneType"
  | .bool _ => "bool"
  | .int _ => "int"
  | .float _ => "float"
  | .text _ => "str"
  | .moment (.date _) => "datetime.date"
  | .moment (.time _) => "datetime.time"
  | .moment (.instant ..) => "datetime.datetime"
  | .list _ => "list"
  | .table _ => "dict"

/-- Whether a value counts as given: null, false, zero and empty ones do not. -/
def isTruthy : Value → Bool
  | .null => false
  | .bool b => b
  | .int n => n != 0
  | .float x => !x.isZero
  | .text s => !s.isEmpty
  | .moment _ => true
  | .list items => !items.isEmpty
  | .table fields => !fields.isEmpty

mutual

/-- The literal form of a value. -/
def literal : Value → String
  | .null => "None"
  | .bool b => if b then "True" else "False"
  | .int n => toString n
  | .float x => x.text
  | .text s => Text.quoted s
  | .moment m => m.literal
  | .list items => "[" ++ literalItems items ++ "]"
  | .table fields => "\x7b" ++ literalFields fields ++ "\x7d"

/-- The literal forms of list items, separated by commas. -/
def literalItems : List Value → String
  | [] => ""
  | [v] => literal v
  | v :: rest => literal v ++ ", " ++ literalItems rest

/-- The literal forms of table fields, separated by commas. -/
def literalFields : List (String × Value) → String
  | [] => ""
  | [(k, v)] => Text.quoted k ++ ": " ++ literal v
  | (k, v) :: rest => Text.quoted k ++ ": " ++ literal v ++ ", " ++ literalFields rest

end

/-- The display form of a value: a text is itself, anything else its literal form. -/
def display : Value → String
  | .text s => s
  | .moment m => m.plain
  | v => v.literal

/-- The value under a key of a table. -/
def get? (v : Value) (key : String) : Option Value :=
  match v with
  | .table fields => Keyed.get? fields key
  | _ => none

/-- A list of texts as a value. -/
def texts (items : List String) : Value :=
  .list (items.map .text)

/-- An optional value, null when absent. -/
def ofOption {α : Type} (f : α → Value) : Option α → Value
  | none => .null
  | some a => f a

/-- A natural number as a value. -/
def nat (n : Nat) : Value :=
  .int (Int.ofNat n)

end Value

end RuleAudit
