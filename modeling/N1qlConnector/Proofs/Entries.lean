import Mathlib.Data.List.Nodup
import N1qlConnector.Entries

/-!
# Laying entries over each other

To extend a map by another one is to lay the second over the first. Keys that both have stay where
the first one has them and take the value of the second; the others come after all keys of the first,
in the order of the second. A list of pairs is made into a map by laying it over the empty one.

Two maps are the same if they have the same keys in the same order and the same value for each, so
these two facts, which keys there are and what is found under them, say everything about a map.

## Main results

* `Entries.keys_extend`, `Entries.lookup_extend` : one map laid over another.
* `Entries.ofPairs_eq_self` : pairs with distinct keys are a map as they are.
* `Entries.eq_of_lookup` : when two maps are the same.
-/

namespace N1qlConnector

namespace Entries

variable {α : Type}

/-! ## Looking up -/

theorem lookup_eq_none_iff {entries : Entries α} {key : String} :
    entries.lookup key = none ↔ key ∉ keys entries := by
  rw [List.lookup_eq_none_iff, keys, List.mem_map, not_exists]
  refine forall_congr' fun entry => ?_
  rw [bne_iff_ne, not_and, ne_comm]

/-- Entries with distinct keys are looked up in any order. -/
theorem lookup_perm {first second : Entries α} (h : first.Perm second)
    (hNodup : (keys first).Nodup) (key : String) : first.lookup key = second.lookup key := by
  induction h with
  | nil => rfl
  | cons entry _ ih => rw [List.lookup_cons, List.lookup_cons, ih (List.nodup_cons.1 hNodup).2]
  | swap second first rest =>
      obtain ⟨own, value⟩ := first
      obtain ⟨own', value'⟩ := second
      have hNe : own' ≠ own := fun hEq => (List.nodup_cons.1 hNodup).1 (hEq ▸ List.mem_cons_self)
      simp only [List.lookup_cons]
      by_cases hOwn : key = own
      · rw [beq_iff_eq.2 hOwn, beq_false_of_ne fun hEq => hNe (hEq.symm.trans hOwn)]
      · rw [beq_false_of_ne hOwn]
  | trans hFirst _ ih ih' =>
      have hMiddle := (hFirst.map Prod.fst).nodup_iff.1 hNodup
      exact (ih hNodup).trans (ih' hMiddle)

/-- A map is known by the order of its keys and the value of each. -/
theorem eq_of_lookup {first second : Entries α} (hNodup : (keys first).Nodup)
    (hKeys : keys first = keys second)
    (hLookup : ∀ key ∈ keys first, first.lookup key = second.lookup key) : first = second := by
  induction first generalizing second with
  | nil => exact (List.map_eq_nil_iff.1 hKeys.symm).symm
  | cons entry rest ih =>
      obtain ⟨hEntry, hRest⟩ := List.nodup_cons.1 hNodup
      cases second with
      | nil => cases hKeys
      | cons other more =>
          obtain ⟨key, value⟩ := entry
          obtain ⟨key', value'⟩ := other
          obtain ⟨hKey, hMore⟩ := List.cons.inj hKeys
          obtain rfl : key = key' := hKey
          have hValue := hLookup key List.mem_cons_self
          simp only [List.lookup_cons, beq_self_eq_true, Option.some.injEq] at hValue
          have hOthers : ∀ name ∈ keys rest, rest.lookup name = more.lookup name := by
            intro name hMem
            have hNe : name ≠ key := fun hEq => hEntry (hEq ▸ hMem)
            have hName := hLookup name (List.mem_cons_of_mem _ hMem)
            simpa only [List.lookup_cons, beq_false_of_ne hNe] using hName
          rw [hValue, ih hRest hMore hOthers]

/-! ## Extending -/

theorem mem_insert {entries : Entries α} {key : String} {value : α} {entry : String × α}
    (h : entry ∈ entries.insert key value) : entry = (key, value) ∨ entry ∈ entries := by
  induction entries with
  | nil => exact .inl (List.mem_singleton.1 h)
  | cons first rest ih =>
      rw [insert] at h
      split at h
      · rcases List.mem_cons.1 h with h | h
        · exact .inl h
        · exact .inr (List.mem_cons_of_mem _ h)
      · rcases List.mem_cons.1 h with h | h
        · exact .inr (h ▸ List.mem_cons_self)
        · exact (ih h).imp_right (List.mem_cons_of_mem _)

/-- Nothing is in a map that was not put there. -/
theorem mem_extend {entries more : Entries α} {entry : String × α}
    (h : entry ∈ entries.extend more) : entry ∈ entries ∨ entry ∈ more := by
  induction more generalizing entries with
  | nil => exact .inl h
  | cons first rest ih =>
      rcases ih h with h | h
      · rcases mem_insert h with rfl | h
        · exact .inr List.mem_cons_self
        · exact .inl h
      · exact .inr (List.mem_cons_of_mem _ h)

theorem nodup_keys_extend {entries more : Entries α} (h : (keys entries).Nodup) :
    (keys (entries.extend more)).Nodup := by
  induction more generalizing entries with
  | nil => exact h
  | cons first rest ih => exact ih (nodup_keys_insert h first.1 first.2)

/-- New keys come after the old ones. -/
theorem keys_prefix_extend (entries more : Entries α) :
    keys entries <+: keys (entries.extend more) := by
  induction more generalizing entries with
  | nil => exact List.prefix_refl _
  | cons first rest ih =>
      refine List.IsPrefix.trans ?_ (ih (entries.insert first.1 first.2))
      rw [keys_insert]
      split
      · exact List.prefix_refl _
      · exact List.prefix_append _ _

/-- New keys that are distinct are all appended. -/
theorem extend_of_nodup {entries more : Entries α} (h : (keys (entries ++ more)).Nodup) :
    entries.extend more = entries ++ more := by
  induction more generalizing entries with
  | nil => exact (List.append_nil _).symm
  | cons first rest ih =>
      have hFresh : first.1 ∉ keys entries := by
        rw [keys_append, keys_cons, List.nodup_append] at h
        exact fun hMem => h.2.2 _ hMem _ List.mem_cons_self rfl
      have hAppend : entries ++ first :: rest = (entries ++ [first]) ++ rest := by simp
      show extend (entries.insert first.1 first.2) rest = _
      rw [insert_of_notMem hFresh, hAppend]
      rw [hAppend] at h
      exact ih h

/-- The keys below stay where they are, and those that are on top only come after them. -/
theorem keys_extend {entries more : Entries α} (h : (keys more).Nodup) :
    keys (entries.extend more) = keys entries ++ (keys more).filter (· ∉ keys entries) := by
  induction more generalizing entries with
  | nil => exact (List.append_nil _).symm
  | cons first rest ih =>
      obtain ⟨hFirst, hRest⟩ := List.nodup_cons.1 h
      show keys (extend (entries.insert first.1 first.2) rest) = _
      rw [ih hRest, keys_insert, keys_cons]
      by_cases hKnown : first.1 ∈ keys entries
      · simp [hKnown]
      · have hOthers : ∀ key ∈ keys rest, key ≠ first.1 := fun key hMem hEq => hFirst (hEq ▸ hMem)
        have hFilter : (keys rest).filter (· ∉ keys entries ++ [first.1]) =
            (keys rest).filter (· ∉ keys entries) := by
          refine List.filter_congr fun key hMem => ?_
          simp [hOthers key hMem]
        rw [if_neg hKnown, hFilter]
        simp [hKnown]

/-- The value on top counts, and the one below where there is none. -/
theorem lookup_extend {entries more : Entries α} (h : (keys more).Nodup) (key : String) :
    (entries.extend more).lookup key = (more.lookup key).or (entries.lookup key) := by
  induction more generalizing entries with
  | nil => rfl
  | cons first rest ih =>
      obtain ⟨hFirst, hRest⟩ := List.nodup_cons.1 h
      obtain ⟨own, value⟩ := first
      show (extend (entries.insert own value) rest).lookup key = _
      rw [ih hRest, lookup_insert, List.lookup_cons]
      by_cases hSame : key = own
      · subst hSame
        rw [lookup_eq_none_iff.2 hFirst, if_pos rfl, beq_self_eq_true]
        rfl
      · rw [if_neg hSame, beq_false_of_ne hSame]

/-! ## Pairs -/

theorem mem_ofPairs {pairs : List (String × α)} {entry : String × α} (h : entry ∈ ofPairs pairs) :
    entry ∈ pairs :=
  (mem_extend h).resolve_left List.not_mem_nil

theorem nodup_keys_ofPairs (pairs : List (String × α)) : (keys (ofPairs pairs)).Nodup :=
  nodup_keys_extend List.nodup_nil

/-- Pairs with distinct keys are a map already. -/
theorem ofPairs_eq_self {pairs : List (String × α)} (h : (keys pairs).Nodup) :
    ofPairs pairs = pairs :=
  extend_of_nodup h

/-- The first key stays the first one. -/
theorem head?_keys_ofPairs (pairs : List (String × α)) :
    (keys (ofPairs pairs)).head? = (keys pairs).head? := by
  cases pairs with
  | nil => rfl
  | cons first rest =>
      obtain ⟨more, hMore⟩ := keys_prefix_extend [first] rest
      have hKeys : keys (ofPairs (first :: rest)) = [first.1] ++ more := hMore.symm
      rw [hKeys]
      rfl

end Entries

end N1qlConnector
