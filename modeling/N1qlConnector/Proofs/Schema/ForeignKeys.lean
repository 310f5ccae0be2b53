import Mathlib.Data.List.Induction
import Mathlib.Data.List.Nodup
import Mathlib.Data.List.Perm.Subperm
import N1qlConnector.Proofs.Json.Values
import N1qlConnector.Schema

/-!
# Which references become foreign keys

The foreign keys of a table are the references of the first kind of document that is declared for it.
They are kept in a map, and the name of a key is made of the table and the document that a reference
names. So two references to one document through different columns have one name between them, and
one key: the one that was declared first gives it its place, and the one that was declared last what
it says. All references are kept just in case no two of them name the same document.

## Main results

* `Entries.keys_ofPairs`, `Entries.lookup_ofPairs` : what a list of pairs with repeated keys describes.
* `TableName.splitAtDots_ofDotted` : how a dotted name is taken apart.
* `Config.foreignKeys_ofFlavor` : the foreign keys of a table.
-/

namespace N1qlConnector

/-! ## Repeated keys -/

namespace Entries

variable {α : Type}

theorem ofPairs_concat (pairs : List (String × α)) (pair : String × α) :
    ofPairs (pairs ++ [pair]) = (ofPairs pairs).insert pair.1 pair.2 := by
  unfold ofPairs extend
  rw [List.foldl_append]
  rfl

/-- Of a repeated key the first place counts. -/
theorem keys_ofPairs (pairs : List (String × α)) :
    keys (ofPairs pairs) = (keys pairs).eraseDups := by
  induction pairs using List.reverseRecOn with
  | nil => rfl
  | append_singleton pairs pair ih =>
      have hMem : pair.1 ∈ (keys pairs).eraseDups ↔ pair.1 ∈ keys pairs := List.mem_eraseDups
      rw [ofPairs_concat, keys_insert, ih, keys_append, List.eraseDups_append]
      by_cases hKnown : pair.1 ∈ keys pairs
      · simp [hMem, hKnown, List.removeAll]
      · simp [hMem, hKnown, List.removeAll, List.eraseDups_cons]

/-- Of a repeated key the last value counts. -/
theorem lookup_ofPairs (pairs : List (String × α)) (key : String) :
    (ofPairs pairs).lookup key = pairs.reverse.lookup key := by
  induction pairs using List.reverseRecOn with
  | nil => rfl
  | append_singleton pairs pair ih =>
      obtain ⟨last, value⟩ := pair
      rw [ofPairs_concat, lookup_insert, ih, List.reverse_append, List.reverse_singleton,
        List.singleton_append, List.lookup_cons]
      by_cases hSame : key = last
      · rw [if_pos hSame, beq_iff_eq.2 hSame]
      · rw [if_neg hSame, beq_false_of_ne hSame]

/-- Nothing is lost just in case there is nothing to be lost. -/
theorem length_ofPairs_eq_iff (pairs : List (String × α)) :
    (ofPairs pairs).length = pairs.length ↔ (keys pairs).Nodup := by
  refine ⟨fun h => ?_, fun h => congrArg List.length (ofPairs_eq_self h)⟩
  have hNodup := nodup_keys_ofPairs pairs
  have hSubset : keys (ofPairs pairs) ⊆ keys pairs := by
    rw [keys_ofPairs]
    exact fun key hKey => List.mem_eraseDups.1 hKey
  have hLength : (keys pairs).length ≤ (keys (ofPairs pairs)).length := by
    simp [keys, h]
  exact ((hNodup.subperm hSubset).perm_of_length_le hLength).nodup_iff.1 hNodup

end Entries

/-! ## Dotted names -/

/-- The segments of a table are the parts of a name between its dots. -/
structure TableName.SplitAtDots (table : TableName) (name : String) : Prop where
  ne_nil : table.segments ≠ []
  dotted : table.dotted = name
  notMem : ∀ segment ∈ table.segments, '.' ∉ segment.toList

theorem splitDots_ne_nil (text : List Char) : splitDots text ≠ [] := by
  cases text with
  | nil => exact List.cons_ne_nil _ _
  | cons c rest =>
      rw [splitDots]
      split
      · exact List.cons_ne_nil _ _
      · split <;> exact List.cons_ne_nil _ _

theorem intercalate_splitDots (text : List Char) : ['.'].intercalate (splitDots text) = text := by
  induction text with
  | nil => rfl
  | cons c rest ih =>
      obtain ⟨segment, segments, hSplit⟩ := List.exists_cons_of_ne_nil (splitDots_ne_nil rest)
      rw [hSplit] at ih
      rw [splitDots, hSplit]
      dsimp only
      split
      · rename_i hDot
        rw [List.intercalate_cons_cons, ih, hDot]
        rfl
      · rw [← ih]
        cases segments <;> simp [List.intercalate_cons_cons]

theorem notMem_of_mem_splitDots {text segment : List Char} (h : segment ∈ splitDots text) :
    '.' ∉ segment := by
  induction text generalizing segment with
  | nil =>
      rw [List.mem_singleton.1 h]
      exact List.not_mem_nil
  | cons c rest ih =>
      obtain ⟨first, others, hSplit⟩ := List.exists_cons_of_ne_nil (splitDots_ne_nil rest)
      rw [hSplit] at ih
      rw [splitDots, hSplit] at h
      dsimp only at h
      split at h
      · rcases List.mem_cons.1 h with rfl | h
        · exact List.not_mem_nil
        · exact ih h
      · rename_i hDot
        rcases List.mem_cons.1 h with rfl | h
        · exact List.not_mem_cons_of_ne_of_not_mem (Ne.symm hDot) (ih List.mem_cons_self)
        · exact ih (List.mem_cons_of_mem _ h)

theorem TableName.splitAtDots_ofDotted (name : String) :
    (TableName.ofDotted name).SplitAtDots name where
  ne_nil := mt List.map_eq_nil_iff.1 (splitDots_ne_nil name.toList)
  dotted := by
    unfold dotted ofDotted
    rw [← String.toList_inj, String.toList_intercalate, List.map_map]
    have hTexts : (splitDots name.toList).map (String.toList ∘ String.ofList) =
        splitDots name.toList := by simp
    rw [hTexts]
    exact intercalate_splitDots name.toList
  notMem := by
    intro segment hSegment
    obtain ⟨text, hText, rfl⟩ := List.mem_map.1 hSegment
    rw [String.toList_ofList]
    exact notMem_of_mem_splitDots hText

/-! ## References -/

/-- The name of the key for references of a table to a document. -/
def TableName.keyName (table : TableName) (target : String) : String :=
  table.dotted ++ " -> " ++ target

/-- The key that a reference stands for. -/
def DocumentReference.foreignKey (reference : DocumentReference) : ForeignKey :=
  ⟨reference.fieldMapping, .ofDotted reference.target⟩

/-- The first kind of document that is declared for a table, in whatever case it is written. -/
def Config.DeclaresFirst (config : Config) (table : TableName) (document : DocumentKind) : Prop :=
  ∃ before after, config.documents = before ++ document :: after ∧
    Text.lower table.dotted = Text.lower document.name ∧
    ∀ other ∈ before, Text.lower table.dotted ≠ Text.lower other.name

/-- The documents that the references of a document name. -/
def DocumentKind.targets (document : DocumentKind) : List String :=
  document.references.map DocumentReference.target

theorem TableName.keyName_injective (table : TableName) : Function.Injective table.keyName :=
  fun _ _ h => String.append_right_inj _ |>.1 h

theorem Config.documentKind_eq_some_iff {config : Config} {table : TableName}
    {document : DocumentKind} :
    config.documentKind table = some document ↔ config.DeclaresFirst table document := by
  unfold documentKind DeclaresFirst TableName.matchesDotted
  rw [List.find?_eq_some_iff_append]
  simp only [beq_iff_eq, Bool.not_eq_true', beq_eq_false_iff_ne, ne_eq]
  constructor
  · rintro ⟨hName, before, after, hSplit, hBefore⟩
    exact ⟨before, after, hSplit, hName, hBefore⟩
  · rintro ⟨before, after, hSplit, hName, hBefore⟩
    exact ⟨hName, before, after, hSplit, hBefore⟩

/-- What is looked up by the name of a key is looked up by its target. -/
theorem lookup_keyName (table : TableName) (references : List DocumentReference) (target : String) :
    (references.map fun reference => (table.keyName reference.target, reference.foreignKey)).lookup
        (table.keyName target) =
      (references.find? (·.target == target)).map DocumentReference.foreignKey := by
  induction references with
  | nil => rfl
  | cons reference rest ih =>
      rw [List.map_cons, List.lookup_cons, List.find?_cons]
      by_cases hSame : reference.target = target
      · simp [hSame]
      · have hName : table.keyName target ≠ table.keyName reference.target :=
          fun h => hSame (table.keyName_injective h).symm
        simp [beq_false_of_ne hName, beq_false_of_ne hSame, ih]

/-- The keys of a table are those of its references, each under its name. -/
theorem declaredKeys_of_declaresFirst {config : Config} {table : TableName}
    {document : DocumentKind} (h : config.DeclaresFirst table document) :
    declaredKeys config table = Entries.ofPairs (document.references.map fun reference =>
      (table.keyName reference.target, reference.foreignKey)) := by
  rw [declaredKeys, Config.documentKind_eq_some_iff.2 h]
  rfl

theorem keys_references (table : TableName) (document : DocumentKind) :
    Entries.keys (document.references.map fun reference =>
      (table.keyName reference.target, reference.foreignKey)) =
        document.targets.map table.keyName := by
  simp [Entries.keys, DocumentKind.targets]

/-- The foreign keys of a table. Without a document that is declared for it there are none. With
one, every name among its references has a place, in the order of the first reference with the name,
and the last reference with the name is the one that the key stands for. So each reference has a key
of its own just in case they all name different documents. -/
theorem Config.foreignKeys_ofFlavor (config : Config) (table : TableName) (flavor : Json) :
    let found := (TableInfo.ofFlavor config table flavor).foreignKeys
    (found = [] ∧ ∀ document ∈ config.documents,
      Text.lower table.dotted ≠ Text.lower document.name) ∨
    ∃ document, config.DeclaresFirst table document ∧
      found.keys = (document.targets.map table.keyName).eraseDups ∧
      (∀ target, found.lookup (table.keyName target) =
        (document.references.reverse.find? (·.target == target)).map
          DocumentReference.foreignKey) ∧
      (∀ reference ∈ document.references,
        reference.foreignKey.columnMapping = reference.fieldMapping ∧
          reference.foreignKey.foreignTable.SplitAtDots reference.target) ∧
      (found = document.references.map (fun reference =>
        (table.keyName reference.target, reference.foreignKey)) ↔ document.targets.Nodup) ∧
      (found.length = document.references.length ↔ document.targets.Nodup) := by
  intro found
  cases hKind : config.documentKind table with
  | none =>
      have hFound : found = [] := by
        show declaredKeys config table = []
        rw [declaredKeys, hKind]
      refine .inl ⟨hFound, fun document hMem hName => ?_⟩
      have hNot := List.find?_eq_none.1 hKind document hMem
      exact hNot (beq_iff_eq.2 hName)
  | some document =>
      have hFirst := Config.documentKind_eq_some_iff.1 hKind
      have hFound : found = _ := declaredKeys_of_declaresFirst hFirst
      have hNodup : (Entries.keys (document.references.map fun reference =>
          (table.keyName reference.target, reference.foreignKey))).Nodup ↔
            document.targets.Nodup := by
        rw [keys_references]
        exact List.nodup_map_iff table.keyName_injective
      have hLength := Entries.length_ofPairs_eq_iff (document.references.map fun reference =>
        (table.keyName reference.target, reference.foreignKey))
      rw [List.length_map, hNodup] at hLength
      rw [hFound]
      refine .inr ⟨document, hFirst, ?_, fun target => ?_, fun reference _ => ?_, ?_, hLength⟩
      · rw [Entries.keys_ofPairs, keys_references]
      · rw [Entries.lookup_ofPairs, ← List.map_reverse, lookup_keyName]
      · exact ⟨rfl, TableName.splitAtDots_ofDotted reference.target⟩
      · refine ⟨fun h => ?_, fun h => Entries.ofPairs_eq_self (hNodup.2 h)⟩
        rw [← hLength, h, List.length_map]

/-- Of two references to one document the later one is left. -/
example :
    let config : Config := { Config.ofBucket "shop" with documents := [⟨"sales.orders",
      [⟨[("billing_id", "id")], "sales.customers"⟩, ⟨[("shipping_id", "id")], "sales.customers"⟩]⟩] }
    declaredKeys config ⟨["sales", "orders"]⟩ =
      [("sales.orders -> sales.customers",
        ⟨[("shipping_id", "id")], ⟨["sales", "customers"]⟩⟩)] := by
  decide +kernel

end N1qlConnector
