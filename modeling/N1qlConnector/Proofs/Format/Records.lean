import N1qlConnector.Config

/-!
# Where the fields of a record come from

A record that was read has read each of its fields from a part of the text that stands for the
field: in an object the value of one of its names, in an array the item in its place. What is read
of a field that way is known without following the reader through the text.

## Main results

* `Record.of_mem_given_ofMembers`, `Record.of_mem_given_ofItems` : the part that stands for a field.
* `Config.writesBucket_of_reader` : a configuration names the bucket that its text names.
-/

namespace N1qlConnector

/-! ## Independent parts -/

namespace Outcome

variable {α β : Type}

theorem of_map_eq_ok {f : α → β} {outcome : Outcome α} {value : β} (h : f <$> outcome = ok value) :
    ∃ part, outcome = ok part ∧ value = f part := by
  cases outcome with
  | ok part => exact ⟨part, rfl, (Outcome.ok.inj h).symm⟩
  | fault place cause => cases h

/-- Parts are joined to a result only if there is no fault in any of them. -/
theorem of_seq_eq_ok {f : Outcome (α → β)} {outcome : Outcome α} {value : β}
    (h : f <*> outcome = ok value) : ∃ g part, f = ok g ∧ outcome = ok part ∧ value = g part := by
  cases f with
  | ok g =>
      cases outcome with
      | ok part => exact ⟨g, part, rfl, rfl, (Outcome.ok.inj h).symm⟩
      | fault place cause => cases h
  | fault place cause =>
      cases outcome with
      | ok part => cases h
      | fault place' cause' =>
          have hFault : (if place ≤ place' then (fault place cause : Outcome β)
              else fault place' cause') = ok value := h
          split at hFault <;> cases hFault

theorem of_ofRead_eq_ok {place : Nat} {read : Read α} {value : α}
    (h : ofRead place read = ok value) : read = .ok value := by
  cases read with
  | ok found => exact congrArg Except.ok (Outcome.ok.inj h)
  | error cause => cases h

end Outcome

/-! ## Records -/

namespace Record

variable {α β : Type} {source : Source} {fields : List (List String)} {closed : Bool}

/-- In an object a field is given as the value of one of its names. -/
theorem of_mem_given_ofMembers {members : List (Option String × α)} {place : Nat}
    {given : List (String × Nat × α)} {entry : String × Nat × α}
    (h : entry ∈ (ofMembers source fields closed members place given).given) :
    entry ∈ given ∨
      ∃ key names, (some key, entry.2.2) ∈ members ∧ names ∈ fields ∧
        names.head? = some entry.1 ∧ key ∈ names := by
  induction members generalizing place given with
  | nil => exact .inl h
  | cons member rest ih =>
      have hLater {given' : List (String × Nat × α)}
          (hMem : entry ∈ (ofMembers source fields closed rest (place + 1) given').given) :
          entry ∈ given' ∨
            ∃ key names, (some key, entry.2.2) ∈ member :: rest ∧ names ∈ fields ∧
              names.head? = some entry.1 ∧ key ∈ names := by
        rcases ih hMem with hGiven | ⟨key, names, hRest, hNames⟩
        · exact .inl hGiven
        · exact .inr ⟨key, names, List.mem_cons_of_mem member hRest, hNames⟩
      rcases member with ⟨_ | key, part⟩
      · exact .inl h
      rw [ofMembers] at h
      split at h
      · exact hLater h
      · exact hLater h
      · rename_i field others hFound
        split at h
        · exact .inl h
        rcases hLater h with hGiven | hMember
        · rcases List.mem_append.1 hGiven with hGiven | hNew
          · exact .inl hGiven
          · obtain rfl := List.mem_singleton.1 hNew
            have hKey := List.find?_some hFound
            exact .inr ⟨key, field :: others, List.mem_cons_self, List.mem_of_find?_eq_some hFound,
              rfl, List.contains_iff_mem.1 hKey⟩
        · exact .inr hMember

/-- In an array a field is given as the item in its place. -/
theorem of_mem_given_ofItems {items : List α} {field : String} {place : Nat} {part : α}
    (h : (field, place, part) ∈ (ofItems source fields closed items).given) :
    (fields.filterMap List.head?)[place]? = some field ∧ items[place]? = some part := by
  obtain ⟨⟨⟨field', part'⟩, place'⟩, hMem, hEq⟩ := List.mem_map.1 h
  cases hEq
  have hPair := List.mem_zipIdx_iff_getElem?.1 hMem
  exact List.getElem?_zip_eq_some.1 hPair

theorem closed_of_cause_ofMembers {members : List (Option String × α)} {place : Nat}
    {given : List (String × Nat × α)}
    (h : (ofMembers source fields closed members place given).cause = none) : closed = true := by
  induction members generalizing place given with
  | nil =>
      rw [ofMembers] at h
      cases closed with
      | true => rfl
      | false => cases h
  | cons member rest ih =>
      rcases member with ⟨_ | key, part⟩
      · cases h
      rw [ofMembers] at h
      split at h
      · exact ih h
      · exact ih h
      · split at h
        · cases h
        · exact ih h

theorem closed_of_cause_ofItems {items : List α}
    (h : (ofItems source fields closed items).cause = none) : closed = true := by
  cases closed with
  | true => rfl
  | false => cases h

/-- A record that was read has no fault, and neither has any of its fields. -/
theorem of_finish_eq_ok {record : Record α} {outcome : Outcome β} {value : β}
    (h : record.finish outcome = .ok value) : outcome = .ok value ∧ record.cause = none := by
  unfold finish at h
  split at h
  · rename_i hCause
    exact ⟨congrArg Outcome.ok (Except.ok.inj h), hCause⟩
  all_goals cases h

theorem of_required_eq_ok {record : Record α} {name : String} {read : Source → α → Read β}
    {value : β} (h : record.required name read = .ok value) :
    ∃ place part, (name, place, part) ∈ record.given ∧ read record.source part = .ok value := by
  unfold required field? at h
  cases hFound : record.given.lookup name with
  | none =>
      rw [hFound] at h
      unfold missing at h
      split at h <;> cases h
  | some found =>
      rw [hFound] at h
      obtain ⟨before, after, hGiven, -⟩ := List.lookup_eq_some_iff.1 hFound
      refine ⟨found.1, found.2, ?_, Outcome.of_ofRead_eq_ok h⟩
      rw [hGiven]
      exact List.mem_append_right _ List.mem_cons_self

/-- A field that may be `null` but is not. -/
theorem of_nullable_eq_some {record : Record Written} {name : String} {reader : Reader β}
    {value : β} (h : record.nullable name (on reader) = .ok (some value)) :
    ∃ place part, (name, place, part) ∈ record.given ∧ reader record.source part = .ok value := by
  unfold nullable at h
  generalize hRequired : record.required name _ = found at h
  have hFound : found = .ok (some value) := by
    dsimp only at h
    split at h
    · exact h
    · split at h
      · cases h
      · exact h
  subst hFound
  obtain ⟨place, part, hMem, hRead⟩ := of_required_eq_ok hRequired
  refine ⟨place, part, hMem, ?_⟩
  split at hRead
  · cases hRead
  · have hMap : (reader record.source part).map some = .ok (some value) := hRead
    cases hValue : reader record.source part with
    | error cause =>
        rw [hValue] at hMap
        cases hMap
    | ok found =>
        rw [hValue] at hMap
        cases hMap
        rfl

end Record

/-- Only texts are read as texts. -/
theorem Reader.eq_of_string {source : Source} {found : Written} {value : String}
    (h : Reader.string source found = .ok value) : found = .string (some value) := by
  unfold Reader.string at h
  split at h
  · cases h
    rfl
  · cases h

/-! ## Configurations -/

namespace Config

/-- The bucket of a configuration is a field of the record that was read. -/
theorem bucket_of_reader {source : Source} {found : Written} {config : Config}
    (h : Config.reader source found = .ok (some config)) :
    ∃ record, Record.ofLevel source names found.level = .ok record ∧
      record.nullable "bucket" (on .string) = .ok (some config.bucket) ∧ record.cause = none := by
  unfold Config.reader Reader.record at h
  cases hLevel : Record.ofLevel source names found.level with
  | error cause =>
      rw [hLevel] at h
      cases h
  | ok record =>
      rw [hLevel] at h
      obtain ⟨hOutcome, hCause⟩ := Record.of_finish_eq_ok h
      obtain ⟨_, _, hDocuments, -, hValue⟩ := Outcome.of_seq_eq_ok hOutcome
      obtain ⟨_, _, hCollection, -, rfl⟩ := Outcome.of_seq_eq_ok hDocuments
      obtain ⟨_, _, hScope, -, rfl⟩ := Outcome.of_seq_eq_ok hCollection
      obtain ⟨_, _, hFirst, -, rfl⟩ := Outcome.of_seq_eq_ok hScope
      obtain ⟨bucket, hBucket, rfl⟩ := Outcome.of_map_eq_ok hFirst
      obtain ⟨name, rfl, hConfig⟩ := Option.map_eq_some_iff.1 hValue.symm
      refine ⟨record, rfl, ?_, hCause⟩
      rw [← hConfig]
      exact hBucket

/-- A text is written like the configuration of a bucket: it is an object that names the bucket, or
an array that starts with it, since the bucket is the first of all fields. -/
inductive WritesBucket (bucket : String) : Written → Prop
  | member {members : List (Option String × Written)}
      (h : (some "bucket", .string (some bucket)) ∈ members) :
      WritesBucket bucket (.object members true)
  | first {items : List Written} :
      WritesBucket bucket (.array (.string (some bucket) :: items) true)

/-- What is read as a configuration is written like one of its bucket. -/
theorem writesBucket_of_reader {source : Source} {found : Written} {config : Config}
    (h : Config.reader source found = .ok (some config)) : WritesBucket config.bucket found := by
  obtain ⟨record, hLevel, hBucket, hCause⟩ := bucket_of_reader h
  obtain ⟨place, part, hGiven, hRead⟩ := Record.of_nullable_eq_some hBucket
  obtain rfl := Reader.eq_of_string hRead
  cases found with
  | array items closed =>
      obtain rfl := Except.ok.inj hLevel
      obtain rfl := Record.closed_of_cause_ofItems hCause
      obtain ⟨hName, hItem⟩ := Record.of_mem_given_ofItems hGiven
      have hPlace : place = 0 := by
        have hName : ["bucket", "scope", "collection", "documents",
            "health_check_strategy"][place]? = some "bucket" := hName
        match place with
        | 0 => rfl
        | 1 | 2 | 3 | 4 => simp at hName
        | _ + 5 => simp at hName
      subst hPlace
      cases items with
      | nil => cases hItem
      | cons first items =>
          obtain rfl := Option.some.inj hItem
          exact .first
  | object members closed =>
      obtain rfl := Except.ok.inj hLevel
      obtain rfl := Record.closed_of_cause_ofMembers hCause
      rcases Record.of_mem_given_ofMembers hGiven with
        hNone | ⟨key, spellings, hMember, hNames, hHead, hKey⟩
      · cases hNone
      · have hBucketKey : key = "bucket" := by
          simp only [names, List.mem_cons, List.not_mem_nil, or_false] at hNames
          rcases hNames with rfl | rfl | rfl | rfl | rfl
          · exact List.mem_singleton.1 hKey
          all_goals simp at hHead
        exact .member (hBucketKey ▸ hMember)
  | null | bool | number | string | tooDeep | broken => cases hLevel

/-- The configuration in a header is what its text is read as. -/
theorem reader_of_ofHeader {text : String} {config : Config}
    (h : ofHeader (some text) = .ok config) : Config.reader.ofText text = .ok (some config) := by
  unfold ofHeader ofHeader? at h
  rw [Option.getD_some] at h
  cases hRead : Config.reader.ofText text with
  | error cause =>
      rw [hRead] at h
      cases h
  | ok found =>
      rw [hRead] at h
      cases found with
      | none => cases h
      | some config' => exact congrArg (Except.ok ∘ some) (Except.ok.inj h)

end Config

end N1qlConnector
