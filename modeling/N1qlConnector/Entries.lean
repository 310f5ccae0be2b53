/-!
# Entries: maps that remember the order of their keys

Query results, parameters and column mappings are maps whose order a reader can see. A map is kept
as the list of its entries: a new key goes to the end, and a key that is already there keeps its
place and takes the new value. Nothing here forbids a list with a repeated key, but no operation
makes one out of a list without.

## Main results

* `Entries.keys_insert` — which keys are there after an insertion, and in which order.
* `Entries.lookup_insert` — what an insertion changes, and that it changes nothing else.
* `Entries.nodup_keys_insert` — distinct keys stay distinct.
-/

namespace N1qlConnector

/-- The entries of a map, oldest key first. -/
abbrev Entries (α : Type) := List (String × α)

namespace Entries

variable {α : Type}

/-- The keys, oldest first. -/
def keys (entries : Entries α) : List String := entries.map Prod.fst

/-- Gives `key` the value `value`: in place if the key is there, at the end if it is not. -/
def insert : Entries α → String → α → Entries α
  | [], key, value => [(key, value)]
  | (k, v) :: rest, key, value =>
    if k = key then (key, value) :: rest else (k, v) :: insert rest key value

/-- Inserts the entries of `more` one after the other. -/
def extend (entries more : Entries α) : Entries α :=
  more.foldl (fun collected entry => collected.insert entry.1 entry.2) entries

/-- The map that a list of pairs describes: of a repeated key the first place and the last value
count. -/
def ofPairs (pairs : List (String × α)) : Entries α := extend [] pairs

/-! ## What an insertion does -/

@[simp] theorem keys_nil : keys ([] : Entries α) = [] := rfl

@[simp] theorem keys_cons (entry : String × α) (rest : Entries α) :
    keys (entry :: rest) = entry.1 :: keys rest := rfl

@[simp] theorem keys_append (first second : Entries α) :
    keys (first ++ second) = keys first ++ keys second := by
  simp [keys]

/-- A known key leaves the list of keys alone, a new one is appended. -/
theorem keys_insert (entries : Entries α) (key : String) (value : α) :
    keys (entries.insert key value) =
      if key ∈ keys entries then keys entries else keys entries ++ [key] := by
  induction entries with
  | nil => simp [insert]
  | cons entry rest ih =>
    by_cases same : entry.1 = key
    · simp [insert, same]
    · by_cases known : key ∈ keys rest
      · simp [insert, same, ih, known]
      · simp [insert, same, ih, known, Ne.symm same]

/-- A key that is not there yet is simply appended. -/
theorem insert_of_notMem {entries : Entries α} {key : String} (fresh : key ∉ keys entries)
    (value : α) : entries.insert key value = entries ++ [(key, value)] := by
  induction entries with
  | nil => rfl
  | cons entry rest ih =>
    rw [keys_cons, List.mem_cons, not_or] at fresh
    simp [insert, Ne.symm fresh.1, ih fresh.2]

/-- An insertion is seen under its own key only. -/
theorem lookup_insert (entries : Entries α) (key other : String) (value : α) :
    (entries.insert key value).lookup other =
      if other = key then some value else entries.lookup other := by
  have test (k : String) : (other == k) = decide (other = k) := rfl
  induction entries with
  | nil => by_cases same : other = key <;> simp [insert, List.lookup_cons, test, same]
  | cons entry rest ih =>
    obtain ⟨k, v⟩ := entry
    by_cases here : k = key
    · by_cases same : other = key <;> simp [insert, List.lookup_cons, test, here, same]
    · by_cases same : other = k
      · simp [insert, here, same]
      · simp [insert, List.lookup_cons, test, here, ih, same]

/-- Distinct keys stay distinct. -/
theorem nodup_keys_insert {entries : Entries α} (distinct : (keys entries).Nodup) (key : String)
    (value : α) : (keys (entries.insert key value)).Nodup := by
  rw [keys_insert]
  split
  · exact distinct
  · rename_i fresh
    rw [List.nodup_append]
    exact ⟨distinct, by simp, fun k known other isKey =>
      fun same => fresh (by simp at isKey; rw [← isKey, ← same]; exact known)⟩

end Entries

end N1qlConnector
