/-!
# Entries

Pairs of a text key and a value, in the order in which the keys first came. Storing under a key that
is present replaces its value and keeps its place.
-/

namespace Songbook

universe u v

abbrev Entries (α : Type u) := List (String × α)

namespace Entries

variable {α : Type u} {β : Type v}

def get? (key : String) : Entries α → Option α
  | [] => none
  | (k, a) :: rest => if k = key then some a else get? key rest

/-- Stores what `f` makes of the value under the key, or of its absence. -/
def alter (key : String) (f : Option α → α) : Entries α → Entries α
  | [] => [(key, f none)]
  | (k, a) :: rest => if k = key then (k, f (some a)) :: rest else (k, a) :: alter key f rest

def insert (key : String) (value : α) (entries : Entries α) : Entries α :=
  entries.alter key fun _ => value

def ofList (pairs : List (String × α)) : Entries α :=
  pairs.foldl (fun entries pair => entries.insert pair.1 pair.2) []

def keys (entries : Entries α) : List String :=
  entries.map Prod.fst

@[simp] theorem get?_nil (key : String) : get? key ([] : Entries α) = none := rfl

theorem get?_cons (key k : String) (a : α) (rest : Entries α) :
    get? key ((k, a) :: rest) = if k = key then some a else get? key rest := rfl

theorem get?_alter_self (key : String) (f : Option α → α) (entries : Entries α) :
    (entries.alter key f).get? key = some (f (entries.get? key)) := by
  induction entries with
  | nil => simp [alter, get?]
  | cons entry rest ih =>
    obtain ⟨k, a⟩ := entry
    by_cases h : k = key <;> simp [alter, get?, h, ih]

theorem get?_alter_of_ne {key other : String} (hne : key ≠ other) (f : Option α → α)
    (entries : Entries α) : (entries.alter key f).get? other = entries.get? other := by
  induction entries with
  | nil => simp [alter, get?, hne]
  | cons entry rest ih =>
    obtain ⟨k, a⟩ := entry
    by_cases h : k = key
    · simp [alter, get?, h, hne]
    · by_cases ho : k = other
      · simp [alter, get?, ho, Ne.symm hne]
      · simp [alter, get?, h, ho, ih]

theorem keys_alter (key : String) (f : Option α → α) (entries : Entries α) :
    (entries.alter key f).keys =
      if key ∈ entries.keys then entries.keys else entries.keys ++ [key] := by
  induction entries with
  | nil => simp [alter, keys]
  | cons entry rest ih =>
    obtain ⟨k, a⟩ := entry
    by_cases h : k = key
    · simp [alter, keys, h]
    · simp only [keys] at ih
      by_cases hmem : key ∈ rest.map Prod.fst <;>
        simp_all [alter, keys, Ne.symm h]

end Entries

end Songbook
