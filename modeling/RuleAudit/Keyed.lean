/-!
# Keyed lists

A finite map that remembers the order in which its keys were first put. Putting a key again
replaces its value and keeps its place.
-/

namespace RuleAudit

/-- Pairs of a key and a value, in the order of first insertion. -/
abbrev Keyed (α : Type) := List (String × α)

namespace Keyed

variable {α β : Type}

/-- The keys in order. -/
def keys (m : Keyed α) : List String :=
  m.map Prod.fst

/-- The values in key order. -/
def values (m : Keyed α) : List α :=
  m.map Prod.snd

/-- The value under a key. -/
def get? : Keyed α → String → Option α
  | [], _ => none
  | (k, v) :: rest, key => if k == key then some v else get? rest key

/-- Whether a key is present. -/
def has (m : Keyed α) (key : String) : Bool :=
  (m.get? key).isSome

/-- The map with `value` under `key`: in the key's place, or at the end for a new key. -/
def put : Keyed α → String → α → Keyed α
  | [], key, value => [(key, value)]
  | (k, v) :: rest, key, value =>
    if k == key then (k, value) :: rest else (k, v) :: put rest key value

/-- The map without a key. -/
def erase (m : Keyed α) (key : String) : Keyed α :=
  m.filter fun entry => !(entry.1 == key)

/-- The map changed under one key; a new key starts from `initial`. -/
def alter (m : Keyed α) (key : String) (initial : α) (f : α → α) : Keyed α :=
  m.put key (f ((m.get? key).getD initial))

/-- Entries put one after another. -/
def ofEntries (entries : List (String × α)) : Keyed α :=
  entries.foldl (fun m entry => put m entry.1 entry.2) []

/-! ## Look-ups after an update -/

@[simp] theorem get?_nil (key : String) : get? ([] : Keyed α) key = none := rfl

@[simp] theorem get?_put_self (m : Keyed α) (key : String) (value : α) :
    (m.put key value).get? key = some value := by
  induction m with
  | nil => simp [put, get?]
  | cons entry rest ih =>
    obtain ⟨k, v⟩ := entry
    by_cases h : k = key <;> simp [put, get?, h, ih]

theorem get?_put_ne (m : Keyed α) {key other : String} (value : α) (h : other ≠ key) :
    (m.put key value).get? other = m.get? other := by
  induction m with
  | nil => simp [put, get?, Ne.symm h]
  | cons entry rest ih =>
    obtain ⟨k, v⟩ := entry
    by_cases hk : k = key
    · subst hk; simp [put, get?, Ne.symm h]
    · simp [put, get?, hk, ih]

/-- A new key goes to the end; an old one keeps its place. -/
theorem keys_put (m : Keyed α) (key : String) (value : α) :
    (m.put key value).keys = if key ∈ m.keys then m.keys else m.keys ++ [key] := by
  induction m with
  | nil => simp [put, keys]
  | cons entry rest ih =>
    obtain ⟨k, v⟩ := entry
    simp only [keys] at ih
    by_cases hk : k = key
    · subst hk; simp [put, keys]
    · have hk' : key ≠ k := fun e => hk e.symm
      by_cases hm : key ∈ rest.map Prod.fst <;> simp [put, keys, hk, hk', ih, hm]

end Keyed

end RuleAudit
