import TemplateLint.Text.Basic

/-!
# Entries

A table from names to values that keeps the order in which the names came first.  Writing a name
again changes its value and not its place (`keys_put_of_mem`); reading gives the value written last
(`get?_put`).
-/
namespace TemplateLint

/-- Named values in the order in which the names came first. -/
abbrev Entries (α : Type) := List (Text × α)

namespace Entries

variable {α : Type}

/-- The value of a name. -/
def get? (name : Text) (entries : Entries α) : Option α := entries.lookup name

/-- The names in their order. -/
def keys (entries : Entries α) : List Text := entries.map (·.1)

/-- The table with a name written; a new name comes last. -/
def put (name : Text) (value : α) : Entries α → Entries α
  | [] => [(name, value)]
  | (key, old) :: rest =>
    if key = name then (key, value) :: rest else (key, old) :: put name value rest

/-- The table with a name written from its old value. -/
def update (name : Text) (change : Option α → α) (entries : Entries α) : Entries α :=
  put name (change (get? name entries)) entries

/-- The table with the entries of another written into it one by one. -/
def putAll (entries more : Entries α) : Entries α :=
  more.foldl (fun table entry => put entry.1 entry.2 table) entries

/-- The table without a name. -/
def erase (name : Text) (entries : Entries α) : Entries α := entries.filter (·.1 ≠ name)

theorem get?_cons (name key : Text) (value : α) (rest : Entries α) :
    get? name ((key, value) :: rest) = if name = key then some value else get? name rest := by
  by_cases h : name = key
  · simp [get?, h]
  · have hb : (name == key) = false := by simpa using h
    simp [get?, List.lookup_cons, h, hb]

/-- Reading gives the value written last. -/
theorem get?_put (name key : Text) (value : α) (entries : Entries α) :
    get? name (put key value entries) = if name = key then some value else get? name entries := by
  induction entries with
  | nil => simp [put, get?_cons]
  | cons entry rest ih =>
    obtain ⟨first, old⟩ := entry
    by_cases hf : first = key
    · subst hf
      by_cases hn : name = first <;> simp [put, get?_cons, hn]
    · by_cases hn : name = first
      · subst hn
        simp [put, get?_cons, hf]
      · simp [put, get?_cons, hf, hn, ih]

/-- Writing a known name keeps the order of the names. -/
theorem keys_put_of_mem {key : Text} {entries : Entries α} (h : key ∈ keys entries) (value : α) :
    keys (put key value entries) = keys entries := by
  induction entries with
  | nil => simp [keys] at h
  | cons entry rest ih =>
    obtain ⟨first, old⟩ := entry
    by_cases hf : first = key
    · simp [put, keys, hf]
    · have hr : key ∈ keys rest := by
        simpa [keys, Ne.symm hf] using h
      simpa [put, keys, hf] using ih hr

/-- A new name comes last. -/
theorem keys_put_of_not_mem {key : Text} {entries : Entries α} (h : key ∉ keys entries)
    (value : α) : keys (put key value entries) = keys entries ++ [key] := by
  induction entries with
  | nil => rfl
  | cons entry rest ih =>
    obtain ⟨first, old⟩ := entry
    simp only [keys, List.map_cons, List.mem_cons, not_or] at h
    simpa [put, keys, Ne.symm h.1] using ih h.2

end Entries

/-- The values without repetition, in the order in which they came first. -/
def firstSeen (values : List Text) : List Text :=
  values.foldl (fun seen value => if value ∈ seen then seen else seen ++ [value]) []

/-- How often each value occurs, in the order in which the values came first. -/
def tally (values : List Text) : Entries Nat :=
  values.foldl (fun counts value => counts.update value fun n => n.getD 0 + 1) []

/-- The counts with some more values counted. -/
def countAll (counts : Entries Nat) (values : List Text) : Entries Nat :=
  values.foldl (fun counts value => counts.update value fun n => n.getD 0 + 1) counts

/-- How many values were counted. -/
def counted (counts : Entries Nat) : Nat := counts.foldr (fun entry n => entry.2 + n) 0

/-- The values that occur most often, at most `limit` of them; of two that occur equally often the one
that came first. -/
def mostFrequent (limit : Nat) (counts : Entries Nat) : List Text :=
  ((counts.mergeSort fun a b => b.2 ≤ a.2).take limit).map (·.1)

end TemplateLint
