import N1qlConnector.Proofs.Format.Records
import N1qlConnector.Proofs.Json.Values

/-!
# What a record holds

To read a record is to look its fields up among the parts it was given: where a part stood matters
for the order of faults, and a record that was read has none. `Record.parts` forgets the places, and
each kind of field is read from it in its own way.

The second half is about texts that are values written down. Their members have distinct keys and
nothing is open or broken, so which parts such a record holds is plain from the value: those of an
object by name, those of an array by place.

## Main results

* `Record.required_eq_ok_iff`, `Record.defaulted_eq_ok_iff`, `Record.finish_eq_ok_iff` : how fields
  are looked up.
* `Record.holds_ofMembers` : what is held of an object that was written down.
* `Reader.record_ofJson_iff` : which values are records, and of what.
-/

namespace N1qlConnector

/-! ## Independent parts -/

namespace Outcome

variable {α β : Type}

theorem map_eq_ok_iff {f : α → β} {outcome : Outcome α} {value : β} :
    f <$> outcome = ok value ↔ ∃ part, outcome = ok part ∧ value = f part := by
  refine ⟨of_map_eq_ok, ?_⟩
  rintro ⟨part, rfl, rfl⟩
  rfl

theorem seq_eq_ok_iff {f : Outcome (α → β)} {outcome : Outcome α} {value : β} :
    f <*> outcome = ok value ↔ ∃ g part, f = ok g ∧ outcome = ok part ∧ value = g part := by
  refine ⟨of_seq_eq_ok, ?_⟩
  rintro ⟨g, part, rfl, rfl, rfl⟩
  rfl

theorem ofRead_eq_ok_iff {place : Nat} {read : Read α} {value : α} :
    ofRead place read = ok value ↔ read = .ok value := by
  refine ⟨of_ofRead_eq_ok, ?_⟩
  rintro rfl
  rfl

end Outcome

/-! ## Fields -/

theorem Entries.lookup_map {α β : Type} (f : α → β) (entries : Entries α) (key : String) :
    (entries.map fun entry => (entry.1, f entry.2)).lookup key = (entries.lookup key).map f := by
  induction entries with
  | nil => rfl
  | cons entry rest ih =>
      rw [List.map_cons, List.lookup_cons, List.lookup_cons, ih]
      split <;> rfl

namespace Record

section Fields

variable {α β : Type} {record : Record α} {name : String} {read : Source → α → Read β} {value : β}

/-- The parts by the fields they were given to. -/
def parts (record : Record α) : Entries α := record.given.map fun entry => (entry.1, entry.2.2)

theorem lookup_parts (record : Record α) (name : String) :
    record.parts.lookup name = (record.given.lookup name).map Prod.snd :=
  Entries.lookup_map Prod.snd record.given name

theorem field?_eq_none (h : record.parts.lookup name = none) : record.field? name read = none := by
  rw [lookup_parts, Option.map_eq_none_iff] at h
  rw [field?, h]
  rfl

theorem exists_field?_eq (read : Source → α → Read β) {part : α}
    (h : record.parts.lookup name = some part) :
    ∃ place, record.field? name read = some (.ofRead place (read record.source part)) := by
  rw [lookup_parts, Option.map_eq_some_iff] at h
  obtain ⟨⟨place, _⟩, hGiven, rfl⟩ := h
  refine ⟨place, ?_⟩
  rw [field?, hGiven]
  rfl

/-- A required field is there and is read. -/
theorem required_eq_ok_iff :
    record.required name read = .ok value ↔
      ∃ part, record.parts.lookup name = some part ∧ read record.source part = .ok value := by
  unfold required
  cases hPart : record.parts.lookup name with
  | none =>
      rw [field?_eq_none hPart, Option.getD_none, missing]
      constructor
      · intro h
        split at h <;> cases h
      · rintro ⟨part, h, -⟩
        cases h
  | some part =>
      obtain ⟨place, hField⟩ := exists_field?_eq read hPart
      rw [hField, Option.getD_some, Outcome.ofRead_eq_ok_iff]
      simp

/-- A field with a default is read if it is there. -/
theorem defaulted_eq_ok_iff {default : β} :
    record.defaulted name default read = .ok value ↔
      (record.parts.lookup name = none ∧ value = default) ∨
        ∃ part, record.parts.lookup name = some part ∧ read record.source part = .ok value := by
  unfold defaulted
  cases hPart : record.parts.lookup name with
  | none =>
      rw [field?_eq_none hPart, Option.getD_none, Outcome.ok.injEq]
      simp [eq_comm]
  | some part =>
      obtain ⟨place, hField⟩ := exists_field?_eq read hPart
      rw [hField, Option.getD_some, Outcome.ofRead_eq_ok_iff]
      simp

/-- An optional field that is not absent was read. -/
theorem of_optional_eq_some [HasWritten α] (h : record.optional name read = .ok (some value)) :
    ∃ part, record.parts.lookup name = some part ∧ read record.source part = .ok value := by
  rcases defaulted_eq_ok_iff.1 h with ⟨-, hNone⟩ | ⟨part, hPart, hRead⟩
  · cases hNone
  · refine ⟨part, hPart, ?_⟩
    split at hRead
    · cases hRead
    · obtain ⟨found, hFound, hSome⟩ := Read.bind_eq_ok.1 hRead
      obtain rfl := Option.some.inj (Except.ok.inj hSome)
      exact hFound

/-- A record is read if its fields are and it ended without a fault. -/
theorem finish_eq_ok_iff {outcome : Outcome β} :
    record.finish outcome = .ok value ↔ outcome = .ok value ∧ record.cause = none := by
  refine ⟨of_finish_eq_ok, ?_⟩
  rintro ⟨rfl, hCause⟩
  unfold finish
  rw [hCause]
  rfl

end Fields

/-! ## Objects that were written down -/

section Objects

variable {α : Type} {fields : List (List String)} {members : Entries α}

/-- The field that a key is a name of. -/
def fieldOf (fields : List (List String)) (key : String) : Option String :=
  match fields.find? (·.contains key) with
  | none | some [] => none
  | some (field :: _) => some field

/-- The members that belong to a field, by field. -/
def assigned (fields : List (List String)) (members : Entries α) : Entries α :=
  members.filterMap fun member => (fieldOf fields member.1).map fun field => (field, member.2)

/-- Members that go by the first names of fields belong to the fields of these names. -/
theorem assigned_eq_self (h : ∀ key ∈ members.keys, fieldOf fields key = some key) :
    assigned fields members = members := by
  induction members with
  | nil => rfl
  | cons member rest ih =>
      have hRest := ih fun key hKey => h key (List.mem_cons_of_mem _ hKey)
      have hMember := h member.1 List.mem_cons_self
      rw [assigned, List.filterMap_cons, hMember]
      exact congrArg (member :: ·) hRest

/-- Where every field has one name only, a member belongs to the field that it names. -/
theorem fieldOf_singletons (names : List String) (key : String) :
    fieldOf (names.map ([·])) key = if key ∈ names then some key else none := by
  induction names with
  | nil => rfl
  | cons name rest ih =>
      unfold fieldOf at ih ⊢
      rw [List.map_cons, List.find?_cons]
      by_cases hSame : key = name
      · subst hSame
        simp
      · have hOther : ([name] : List String).contains key = false := by simpa using hSame
        rw [hOther]
        simpa [hSame] using ih

theorem assigned_singletons (names : List String) (members : Entries α) :
    assigned (names.map ([·])) members = members.filter fun member => member.1 ∈ names := by
  induction members with
  | nil => rfl
  | cons member rest ih =>
      unfold assigned at ih ⊢
      rw [List.filterMap_cons, List.filter_cons, fieldOf_singletons, ih]
      by_cases hName : member.1 ∈ names <;> simp [hName]

/-- A record holds these parts, and it ended without a fault. -/
structure Holds (record : Record α) (source : Source) (parts : Entries α) : Prop where
  source : record.source = source
  parts : record.parts = parts
  cause : record.cause = none

theorem holds_ofMembers_append {source : Source} {place : Nat} {given : List (String × Nat × α)}
    (h : (Entries.keys (given.map (fun entry => (entry.1, entry.2.2)) ++
      assigned fields members)).Nodup) :
    let record := ofMembers source fields true (members.map fun member => (some member.1, member.2))
      place given
    record.Holds source (given.map (fun entry => (entry.1, entry.2.2)) ++
      assigned fields members) ∧ record.positional = false := by
  induction members generalizing place given with
  | nil => exact ⟨⟨rfl, (List.append_nil _).symm, rfl⟩, rfl⟩
  | cons member rest ih =>
      have hUnknown (hField : fieldOf fields member.1 = none) :
          assigned fields (member :: rest) = assigned fields rest := by
        rw [assigned, List.filterMap_cons, hField]
        rfl
      have hKnown {field : String} (hField : fieldOf fields member.1 = some field) :
          assigned fields (member :: rest) = (field, member.2) :: assigned fields rest := by
        rw [assigned, List.filterMap_cons, hField]
        rfl
      rw [List.map_cons]
      unfold ofMembers
      dsimp only
      unfold fieldOf at hUnknown hKnown
      split
      · rename_i hFind
        rw [hUnknown (by rw [hFind])] at h ⊢
        exact ih h
      · rename_i hFind
        rw [hUnknown (by rw [hFind])] at h ⊢
        exact ih h
      · rename_i field names hFind
        rw [hKnown (by rw [hFind])] at h ⊢
        have hFresh : given.any (·.1 == field) = false := by
          rw [Entries.keys_append, Entries.keys_cons, List.nodup_append] at h
          rw [List.any_eq_false]
          intro entry hEntry hSame
          refine h.2.2 entry.1 ?_ field List.mem_cons_self (by simpa using hSame)
          exact List.mem_map_of_mem (List.mem_map_of_mem hEntry)
        rw [hFresh, if_neg Bool.false_ne_true]
        have hMoved : given.map (fun entry => (entry.1, entry.2.2)) ++
            (field, member.2) :: assigned fields rest =
            (given ++ [(field, place, member.2)]).map (fun entry => (entry.1, entry.2.2)) ++
              assigned fields rest := by
          simp
        rw [hMoved] at h ⊢
        exact ih h

/-- Of an object with distinct keys a record holds the members that belong to its fields. -/
theorem holds_ofMembers (source : Source) (h : (assigned fields members).keys.Nodup) :
    let record := ofMembers source fields true (members.map fun member => (some member.1, member.2))
      0 []
    record.Holds source (assigned fields members) ∧ record.positional = false :=
  holds_ofMembers_append h

end Objects

end Record

/-! ## Single values -/

namespace Reader

variable {source : Source} {value : Json}

theorem string_ofJson_iff {text : String} :
    string source (Written.ofJson value) = .ok text ↔ value = .string text := by
  cases value with
  | string found =>
      show Except.ok found = .ok text ↔ _
      rw [Except.ok.injEq, Json.string.injEq]
  | null | bool | number | array | object => exact ⟨nofun, nofun⟩

theorem bool_ofJson_iff {truth : Bool} :
    bool source (Written.ofJson value) = .ok truth ↔ value = .bool truth := by
  cases value with
  | bool found =>
      show Except.ok found = .ok truth ↔ _
      rw [Except.ok.injEq, Json.bool.injEq]
  | null | string | number | array | object => exact ⟨nofun, nofun⟩

/-- A word is written as the number that it is. -/
theorem word_ofJson_iff {n : UInt64} :
    word source (Written.ofJson value) = .ok n ↔ value = .nat n.toNat := by
  constructor
  · intro h
    cases value with
    | number found =>
        cases found with
        | binary found => cases h
        | integer found =>
            unfold word Written.ofJson at h
            dsimp only at h
            split at h
            · rename_i hRange
              obtain rfl := Except.ok.inj h
              have hSize : found.toNat < UInt64.size := by omega
              have hFound : ((UInt64.ofNat found.toNat).toNat : Int) = found := by
                rw [UInt64.toNat_ofNat_of_lt' hSize]
                omega
              rw [Json.nat, hFound]
            · cases h
    | null | string | bool | array | object => cases h
  · rintro rfl
    have hSize : n.toNat < UInt64.size := n.toNat_lt_size
    have hRange : (0 : Int) ≤ n.toNat ∧ (n.toNat : Int) < UInt64.size := by omega
    show (if (0 : Int) ≤ n.toNat ∧ (n.toNat : Int) < UInt64.size
      then (.ok (UInt64.ofNat (n.toNat : Int).toNat) : Read UInt64) else .error .mismatch) = _
    rw [if_pos hRange, Int.toNat_natCast, UInt64.ofNat_toNat]

/-- A list of any values is written as it is. -/
theorem list_json_ofJson_iff (h : value.Orderly) {items : List Json} :
    list json source (Written.ofJson value) = .ok items ↔ value = .array items := by
  cases h with
  | null | bool | number | string => exact ⟨nofun, nofun⟩
  | object => exact ⟨(by rw [Written.ofJson_object]; nofun), nofun⟩
  | @array found hFound =>
      have hItems : (found.map Written.ofJson).mapM (json source) = .ok found :=
        Read.mapM_map_eq_ok fun item hItem => (hFound item hItem).read_ofJson
      rw [Written.ofJson_array]
      unfold list Written.level Written.Level.list
      dsimp only
      rw [hItems, Json.array.injEq]
      show Except.ok found = .ok items ↔ _
      rw [Except.ok.injEq]

end Reader

/-! ## Values that are records -/

namespace Json

/-- What a value holds of a field: an object by name, an array by place. -/
def field? (name : String) (place : Nat) : Json → Option Json
  | object members => members.lookup name
  | array items => items[place]?
  | _ => none

/-- A value can be a record of so many fields. An object may hold more than these, an array not. -/
def IsRecord (count : Nat) : Json → Prop
  | object _ => True
  | array items => items.length ≤ count
  | _ => False

/-- A field of an orderly value is orderly. -/
theorem Orderly.of_field?_eq_some {value part : Json} (h : value.Orderly) {name : String}
    {place : Nat} (hPart : value.field? name place = some part) : part.Orderly := by
  cases h with
  | null | bool | number | string => cases hPart
  | array hItems => exact hItems part (List.mem_of_getElem? hPart)
  | object _ _ hMembers =>
      obtain ⟨before, after, rfl, -⟩ := List.lookup_eq_some_iff.1 hPart
      exact hMembers (name, part) (List.mem_append_right _ List.mem_cons_self)

end Json

/-- A record was read of a value: for its fields it holds what the value does, and the value is to
blame if it ended with a fault. -/
structure Record.Reads (record : Record Written) (source : Source) (names : List String)
    (value : Json) : Prop where
  source : record.source = source
  lookup : ∀ place name, names[place]? = some name →
    record.parts.lookup name = (value.field? name place).map Written.ofJson
  cause : record.cause = none ↔ value.IsRecord names.length

namespace Record

section Lookup

variable {β : Type} {record : Record Written} {source : Source} {names : List String} {value : Json}
  {name : String} {place : Nat} {reader : Reader β} {found : β}

/-- A required field is there as what it is written as. -/
theorem Reads.required_eq_ok_iff (h : record.Reads source names value)
    (hName : names[place]? = some name) {expected : Json}
    (hReader : ∀ part, value.field? name place = some part →
      (reader source (Written.ofJson part) = .ok found ↔ part = expected)) :
    record.required name (on reader) = .ok found ↔ value.field? name place = some expected := by
  rw [Record.required_eq_ok_iff, h.lookup place name hName, h.source]
  cases hField : value.field? name place with
  | none =>
      constructor
      · rintro ⟨_, hPart, -⟩
        cases hPart
      · nofun
  | some part =>
      rw [Option.some.injEq, ← hReader part hField]
      exact ⟨fun ⟨_, hPart, hRead⟩ => Option.some.inj hPart ▸ hRead, fun hRead => ⟨_, rfl, hRead⟩⟩

/-- A field with a default is there as what it is written as, and so is the default. -/
theorem Reads.defaulted_eq_ok_iff (h : record.Reads source names value)
    (hName : names[place]? = some name) {toJson : β → Json} (hInjective : Function.Injective toJson)
    (default : β) (hReader : ∀ part, value.field? name place = some part →
      (reader source (Written.ofJson part) = .ok found ↔ part = toJson found)) :
    record.defaulted name default (on reader) = .ok found ↔
      (value.field? name place).getD (toJson default) = toJson found := by
  rw [Record.defaulted_eq_ok_iff, h.lookup place name hName, h.source]
  cases hField : value.field? name place with
  | none =>
      rw [Option.getD_none, hInjective.eq_iff]
      exact ⟨fun hRead => (hRead.resolve_right fun ⟨_, hPart, _⟩ => nomatch hPart).2.symm,
        fun hDefault => .inl ⟨rfl, hDefault.symm⟩⟩
  | some part =>
      rw [Option.getD_some, ← hReader part hField]
      constructor
      · rintro (⟨hPart, -⟩ | ⟨_, hPart, hRead⟩)
        · cases hPart
        · obtain rfl := Option.some.inj hPart
          exact hRead
      · exact fun hRead => .inr ⟨_, rfl, hRead⟩

end Lookup

section Reading

variable {names : List String} {source : Source}

theorem lookup_filter_keys {α : Type} {members : Entries α} {name : String} (h : name ∈ names) :
    (members.filter fun member => member.1 ∈ names).lookup name = members.lookup name := by
  induction members with
  | nil => rfl
  | cons member rest ih =>
      rw [List.filter_cons, List.lookup_cons]
      split
      · rw [List.lookup_cons, ih]
      · rename_i hOther
        have hKey : (name == member.1) = false := by
          rw [beq_eq_false_iff_ne]
          rintro rfl
          exact hOther (decide_eq_true h)
        rw [hKey, ih]

theorem lookup_zip {α : Type} (hNames : names.Nodup) {items : List α} {place : Nat}
    {name : String} (h : names[place]? = some name) :
    (names.zip items).lookup name = items[place]? := by
  induction names generalizing items place with
  | nil => cases h
  | cons first rest ih =>
      cases items with
      | nil => rfl
      | cons item items =>
          rw [List.zip_cons_cons, List.lookup_cons]
          cases place with
          | zero =>
              obtain rfl := Option.some.inj h
              rw [beq_self_eq_true]
              rfl
          | succ place =>
              have hKey : (name == first) = false := by
                rw [beq_eq_false_iff_ne]
                rintro rfl
                exact (List.nodup_cons.1 hNames).1 (List.mem_of_getElem? h)
              rw [hKey]
              exact ih (List.nodup_cons.1 hNames).2 h

theorem reads_ofMembers {members : Entries Json} (hNodup : members.keys.Nodup) :
    (ofMembers source (names.map ([·])) true
      (members.map fun member => (some member.1, Written.ofJson member.2)) 0 []).Reads source names
        (.object members) := by
  have hMembers : members.map (fun member => (some member.1, Written.ofJson member.2)) =
      (members.map fun member => (member.1, Written.ofJson member.2)).map
        fun member => (some member.1, member.2) := by
    rw [List.map_map]
    rfl
  have hAssigned := assigned_singletons names
    (members.map fun member => (member.1, Written.ofJson member.2))
  have hKeys : (assigned (names.map ([·]))
      (members.map fun member => (member.1, Written.ofJson member.2))).keys.Nodup := by
    rw [hAssigned]
    refine List.Nodup.sublist (List.Sublist.map Prod.fst List.filter_sublist) ?_
    rw [List.map_map]
    exact hNodup
  obtain ⟨hHolds, -⟩ := holds_ofMembers source hKeys
  rw [hMembers]
  refine ⟨hHolds.source, fun place name hName => ?_, iff_of_true hHolds.cause trivial⟩
  rw [hHolds.parts, hAssigned, lookup_filter_keys (List.mem_of_getElem? hName)]
  exact Entries.lookup_map Written.ofJson members name

theorem reads_ofItems (hNames : names.Nodup) (items : List Json) :
    (ofItems source (names.map ([·])) true (items.map Written.ofJson)).Reads source names
      (.array items) := by
  have hHeads : (names.map ([·])).filterMap List.head? = names := by
    rw [List.filterMap_map]
    exact List.filterMap_some
  have hParts : (ofItems source (names.map ([·])) true (items.map Written.ofJson)).parts =
      names.zip (items.map Written.ofJson) := by
    unfold ofItems parts
    rw [hHeads, List.map_map]
    exact List.zipIdx_map_fst 0 _
  refine ⟨rfl, fun place name hName => ?_, ?_⟩
  · rw [hParts, lookup_zip hNames hName, List.getElem?_map]
    rfl
  · show (if (items.map Written.ofJson).length ≤ ((names.map ([·])).filterMap List.head?).length
      then none else some source.surplus) = none ↔ _
    rw [hHeads, List.length_map]
    by_cases hShort : items.length ≤ names.length
    · exact iff_of_true (if_pos hShort) hShort
    · refine iff_of_false ?_ hShort
      rw [if_neg hShort]
      nofun

end Reading

end Record

/-- An orderly value is read as a record if it can be one and its fields can be read. -/
theorem Reader.record_ofJson_iff {β : Type} {source : Source} (names : List String)
    {outcome : Record Written → Outcome β} {value : Json} {found : β} {readable : Prop}
    (hNames : names.Nodup) (hValue : value.Orderly)
    (hOutcome : ∀ record : Record Written, record.Reads source names value →
      (outcome record = .ok found ↔ readable)) :
    Reader.record (names.map ([·])) outcome source (Written.ofJson value) = .ok found ↔
      value.IsRecord names.length ∧ readable := by
  have hReads {record : Record Written} (h : record.Reads source names value) :
      record.finish (outcome record) = .ok found ↔ value.IsRecord names.length ∧ readable := by
    rw [Record.finish_eq_ok_iff, hOutcome record h, h.cause, and_comm]
  cases hValue with
  | null | bool | number | string => exact ⟨nofun, fun h => h.1.elim⟩
  | array hItems =>
      rw [Written.ofJson_array]
      exact hReads (Record.reads_ofItems hNames _)
  | object hNodup =>
      rw [Written.ofJson_object]
      exact hReads (Record.reads_ofMembers hNodup)

end N1qlConnector
