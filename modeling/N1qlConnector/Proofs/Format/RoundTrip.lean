import N1qlConnector.Proofs.Format.Fields
import N1qlConnector.Request.Query

/-!
# Reading what was written

A format has a reader and a writer, and the reader takes much that the writer never writes: records
as arrays, members that no field asks for, repeated keys, other names, absent values spelled out. A
round trip through both is therefore claimed of what was read, and not of any text.

Some values of a type are never read. An operator whose word is one that the reader knows is one of
them, and so is an object with a repeated key. `Reader.RoundTrips` leaves these out by asking for a
text that the value was read from. It carries over from the parts of a format to the whole: what is
read of a record is read of its fields, and a record whose fields are read again is read again.

## Main results

* `Reader.RoundTrips.list`, `Reader.RoundTrips.entries` : lists and maps.
* `Record.finish_ofLevel_ofEntries`, `Choice.ofLevel_ofEntries` : how records and choices that were
  written are taken apart.
* `Written.recurse_induct` : formats that contain themselves.
-/

namespace N1qlConnector

/-! ## Readers and writers -/

namespace Reader

variable {α : Type}

/-- What is written of a value is read as that value, wherever it stands. -/
def Rereads (reader : Reader α) (toJson : α → Json) (value : α) : Prop :=
  ∀ source, reader source (Written.ofJson (toJson value)) = .ok value

/-- Whatever is read is read again when it is written. -/
def RoundTrips (reader : Reader α) (toJson : α → Json) : Prop :=
  ∀ ⦃source found value⦄, reader source found = .ok value → reader.Rereads toJson value

theorem rereads_string (text : String) : string.Rereads .string text :=
  fun _ => string_ofJson_iff.2 rfl

theorem rereads_bool (truth : Bool) : bool.Rereads .bool truth :=
  fun _ => bool_ofJson_iff.2 rfl

theorem rereads_word (n : UInt64) : word.Rereads (fun n => .nat n.toNat) n :=
  fun _ => word_ofJson_iff.2 rfl

theorem roundTrips_string : string.RoundTrips .string := fun _ _ text _ => rereads_string text

theorem roundTrips_json : json.RoundTrips id :=
  fun _ _ _ h _ => (Written.orderly_of_read h).read_ofJson

/-- A word is read as what it stands for, and that is written as the word. -/
theorem roundTrips_wordAs {ofWord : String → α} {word : α → String}
    (h : ∀ text, word (ofWord text) = text) :
    (wordAs ofWord).RoundTrips fun value => .string (word value) := by
  intro source found value hRead source'
  obtain ⟨text, -, hValue⟩ := Read.bind_eq_ok.1 hRead
  obtain rfl := Except.ok.inj hValue
  show ofWord <$> string source' (Written.ofJson (.string (word (ofWord text)))) = _
  rw [h, string_ofJson_iff.2 rfl]
  rfl

end Reader

/-! ## Levels -/

namespace Written

namespace Level

variable {α β : Type}

/-- Replaces all parts. -/
def map (f : α → β) : Level α → Level β
  | null => null
  | bool value => bool value
  | number value => number value
  | string value => string value
  | array items closed => array (items.map f) closed
  | object members closed => object (members.map fun member => (member.1, f member.2)) closed
  | tooDeep isObject => tooDeep isObject
  | broken => broken

theorem parts_map (f : α → β) (level : Level α) : (level.map f).parts = level.parts.map f := by
  cases level with
  | object members closed =>
      rw [map, parts, parts, List.map_map, List.map_map]
      rfl
  | _ => rfl

/-- An object with a member for each entry. -/
def ofEntries (part : β → α) (entries : Entries β) : Level α :=
  object (entries.map fun entry => (some entry.1, part entry.2)) true

/-- Each value of a list is read from one of the parts. -/
theorem of_list_eq_ok {item : α → Read β} {level : Level α} {values : List β}
    (h : level.list item = .ok values) {value : β} (hValue : value ∈ values) :
    ∃ part ∈ level.parts, item part = .ok value := by
  unfold list at h
  split at h
  · obtain ⟨found, hFound, h⟩ := Read.bind_eq_ok.1 h
    split at h
    · obtain rfl := Except.ok.inj h
      exact Read.mem_of_mapM_eq_ok hFound hValue
    · cases h
  · cases h
  · cases h

theorem list_array {item : α → Read β} {part : β → α} {values : List β}
    (h : ∀ value ∈ values, item (part value) = .ok value) :
    (array (values.map part) true).list item = .ok values := by
  unfold list
  dsimp only
  rw [Read.mapM_map_eq_ok h]
  rfl

/-- Each value of a map is read from one of the parts, and no key is left twice. -/
theorem of_entries_eq_ok {value : α → Read β} {level : Level α} {entries : Entries β}
    (h : level.entries value = .ok entries) :
    entries.keys.Nodup ∧ ∀ entry ∈ entries, ∃ part ∈ level.parts, value part = .ok entry.2 := by
  unfold Level.entries at h
  split at h
  · obtain ⟨pairs, hPairs, h⟩ := Read.bind_eq_ok.1 h
    split at h
    · obtain rfl := Except.ok.inj h
      refine ⟨Entries.nodup_keys_ofPairs pairs, fun entry hEntry => ?_⟩
      obtain ⟨⟨_ | key, part⟩, hMember, hRead⟩ :=
        Read.mem_of_mapM_eq_ok hPairs (Entries.mem_ofPairs hEntry)
      · cases hRead
      · obtain ⟨found, hFound, hRead⟩ := Read.bind_eq_ok.1 hRead
        obtain rfl := Except.ok.inj hRead
        exact ⟨part, List.mem_map_of_mem hMember, hFound⟩
    · cases h
  · cases h
  · cases h

theorem entries_object (value : α → Read β) (part : β → α) {entries : Entries β}
    (hNodup : entries.keys.Nodup) (h : ∀ entry ∈ entries, value (part entry.2) = .ok entry.2) :
    (ofEntries part entries).entries value = .ok entries := by
  unfold Level.entries ofEntries
  dsimp only
  rw [Read.mapM_map_eq_ok]
  · show Except.ok (Entries.ofPairs entries) = _
    rw [Entries.ofPairs_eq_self hNodup]
  · intro entry hEntry
    dsimp only
    rw [h entry hEntry]
    rfl

end Level

theorem level_ofJson_array (items : List Json) :
    (ofJson (.array items)).level = .array (items.map ofJson) true := by
  rw [ofJson_array]
  rfl

theorem level_ofJson_object (members : Entries Json) :
    (ofJson (.object members)).level = .ofEntries ofJson members := by
  rw [ofJson_object]
  rfl

end Written

namespace Reader

variable {α : Type} {reader : Reader α} {toJson : α → Json}

theorem Rereads.list {values : List α} (h : ∀ value ∈ values, reader.Rereads toJson value) :
    (list reader).Rereads (fun values => .array (values.map toJson)) values := by
  intro source
  show (Written.ofJson (.array (values.map toJson))).level.list (reader source) = _
  rw [Written.level_ofJson_array, List.map_map]
  exact Written.Level.list_array fun value hValue => h value hValue source

theorem RoundTrips.list (h : reader.RoundTrips toJson) :
    (list reader).RoundTrips fun values => .array (values.map toJson) := by
  intro source found values hRead
  refine .list fun value hValue => ?_
  obtain ⟨part, -, hPart⟩ := Written.Level.of_list_eq_ok hRead hValue
  exact h hPart

theorem Rereads.entries {entries : Entries α} (hNodup : entries.keys.Nodup)
    (h : ∀ entry ∈ entries, reader.Rereads toJson entry.2) :
    (Reader.entries reader).Rereads
      (fun entries => .object (entries.map fun entry => (entry.1, toJson entry.2))) entries := by
  intro source
  show (Written.ofJson (.object (entries.map fun entry =>
    (entry.1, toJson entry.2)))).level.entries (reader source) = _
  rw [Written.level_ofJson_object, Written.Level.ofEntries, List.map_map]
  have hParts : ∀ entry ∈ entries, reader source (Written.ofJson (toJson entry.2)) = .ok entry.2 :=
    fun entry hEntry => h entry hEntry source
  exact Written.Level.entries_object _ (fun value => Written.ofJson (toJson value)) hNodup hParts

theorem RoundTrips.entries (h : reader.RoundTrips toJson) :
    (Reader.entries reader).RoundTrips
      fun entries => .object (entries.map fun entry => (entry.1, toJson entry.2)) := by
  intro source found entries hRead
  obtain ⟨hNodup, hEntries⟩ := Written.Level.of_entries_eq_ok hRead
  refine .entries hNodup fun entry hEntry => ?_
  obtain ⟨part, -, hPart⟩ := hEntries entry hEntry
  exact h hPart

end Reader

/-! ## Records -/

namespace Record

section Reading

variable {α β : Type} [HasWritten α] {record : Record α} {name : String} {reader : Reader β}
  {toJson : β → Json} {value : β}

theorem rereads_of_required (hReader : reader.RoundTrips toJson)
    (h : record.required name (on reader) = .ok value) : reader.Rereads toJson value := by
  obtain ⟨part, -, hRead⟩ := required_eq_ok_iff.1 h
  exact hReader hRead

theorem rereads_of_defaulted (hReader : reader.RoundTrips toJson) {default : β}
    (hDefault : reader.Rereads toJson default)
    (h : record.defaulted name default (on reader) = .ok value) : reader.Rereads toJson value := by
  rcases defaulted_eq_ok_iff.1 h with ⟨-, rfl⟩ | ⟨part, -, hRead⟩
  · exact hDefault
  · exact hReader hRead

theorem rereads_of_optional (hReader : reader.RoundTrips toJson) {value : Option β}
    (h : record.optional name (on reader) = .ok value) :
    ∀ found ∈ value, reader.Rereads toJson found := by
  rintro found rfl
  obtain ⟨part, -, hRead⟩ := of_optional_eq_some h
  exact hReader hRead

end Reading

section Writing

variable {α β : Type} [HasWritten α] {record : Record α} {source : Source} {part : Json → α}
  {members : Entries Json} {name : String} {reader : Reader β} {toJson : β → Json} {value : β}

/-- A record holds what these members were written down as, by the names that they have. -/
structure Wrote (record : Record α) (source : Source) (part : Json → α) (members : Entries Json) :
    Prop where
  holds : record.Holds source (members.map fun member => (member.1, part member.2))
  isObject : record.positional = false
  written : ∀ value, written (part value) = Written.ofJson value

theorem Wrote.lookup_parts (h : record.Wrote source part members) (name : String) :
    record.parts.lookup name = (members.lookup name).map part := by
  rw [h.holds.parts]
  exact Entries.lookup_map part members name

theorem Wrote.on_eq (h : record.Wrote source part members) (reader : Reader β) (value : Json) :
    on reader record.source (part value) = reader source (Written.ofJson value) := by
  rw [h.holds.source, ← h.written]
  rfl

theorem Wrote.required_read (h : record.Wrote source part members) {read : Source → α → Read β}
    {json : Json} (hMember : members.lookup name = some json)
    (hRead : read source (part json) = .ok value) : record.required name read = .ok value := by
  rw [required_eq_ok_iff, h.lookup_parts, hMember, h.holds.source]
  exact ⟨_, rfl, hRead⟩

theorem Wrote.required (h : record.Wrote source part members)
    (hMember : members.lookup name = some (toJson value)) (hReader : reader.Rereads toJson value) :
    record.required name (on reader) = .ok value := by
  rw [required_eq_ok_iff, h.lookup_parts, hMember]
  exact ⟨_, rfl, (h.on_eq reader _).trans (hReader source)⟩

theorem Wrote.defaulted (h : record.Wrote source part members)
    (hMember : members.lookup name = some (toJson value)) (hReader : reader.Rereads toJson value)
    (default : β) : record.defaulted name default (on reader) = .ok value := by
  rw [defaulted_eq_ok_iff, h.lookup_parts, hMember]
  exact .inr ⟨_, rfl, (h.on_eq reader _).trans (hReader source)⟩

/-- What is written of a value is no `null`, unless the value is. -/
theorem Wrote.written_ne_null (h : record.Wrote source part members) {value : Json}
    (hNull : value ≠ .null) : HasWritten.written (part value) ≠ .null := by
  rw [h.written]
  cases value with
  | null => exact absurd rfl hNull
  | array items =>
      rw [Written.ofJson_array]
      nofun
  | object members =>
      rw [Written.ofJson_object]
      nofun
  | bool | number | string => nofun

/-- A value that may be absent is read if it was left out, or else written. -/
theorem Wrote.optional_read (h : record.Wrote source part members) {value : Option β}
    {read : Source → α → Read β} (hMember : members.lookup name = value.map toJson)
    (hRead : ∀ found ∈ value,
      toJson found ≠ .null ∧ read source (part (toJson found)) = .ok found) :
    record.optional name read = .ok value := by
  unfold Record.optional
  rw [defaulted_eq_ok_iff, h.lookup_parts, hMember, h.holds.source]
  cases value with
  | none => exact .inl ⟨rfl, rfl⟩
  | some found =>
      obtain ⟨hNull, hRead⟩ := hRead found rfl
      refine .inr ⟨_, rfl, ?_⟩
      split
      · rename_i hWritten
        exact absurd hWritten (h.written_ne_null hNull)
      · rw [hRead]
        rfl

/-- A value that may be absent is read if it was written, or else spelled out. -/
theorem Wrote.optional_read_ofOption (h : record.Wrote source part members) {value : Option β}
    {read : Source → α → Read β}
    (hMember : members.lookup name = some (Json.ofOption toJson value))
    (hRead : ∀ found ∈ value,
      toJson found ≠ .null ∧ read source (part (toJson found)) = .ok found) :
    record.optional name read = .ok value := by
  cases value with
  | some found => exact h.optional_read hMember hRead
  | none =>
      have hNull : HasWritten.written (part .null) = .null := h.written .null
      unfold Record.optional
      rw [defaulted_eq_ok_iff, h.lookup_parts, hMember]
      refine .inr ⟨_, rfl, ?_⟩
      rw [Json.ofOption, hNull]
      rfl

theorem Wrote.optional (h : record.Wrote source part members) {value : Option β}
    (hMember : members.lookup name = value.map toJson)
    (hReader : ∀ found ∈ value, reader.Rereads toJson found)
    (hNull : ∀ found ∈ value, toJson found ≠ .null) :
    record.optional name (on reader) = .ok value := by
  refine h.optional_read hMember fun found hFound => ⟨hNull found hFound, ?_⟩
  rw [← h.holds.source, h.on_eq]
  exact hReader found hFound source

theorem Wrote.optional_ofOption (h : record.Wrote source part members) {value : Option β}
    (hMember : members.lookup name = some (Json.ofOption toJson value))
    (hReader : ∀ found ∈ value, reader.Rereads toJson found)
    (hNull : ∀ found ∈ value, toJson found ≠ .null) :
    record.optional name (on reader) = .ok value := by
  refine h.optional_read_ofOption hMember fun found hFound => ⟨hNull found hFound, ?_⟩
  rw [← h.holds.source, h.on_eq]
  exact hReader found hFound source

/-- A field that may be `null` but was written. -/
theorem Wrote.nullable (h : record.Wrote source part members)
    (hMember : members.lookup name = some (toJson value)) (hReader : reader.Rereads toJson value)
    (hNull : toJson value ≠ .null) : record.nullable name (on reader) = .ok (some value) := by
  obtain ⟨given, hGiven⟩ : ∃ given, record.given.lookup name = some given := by
    have hParts := h.lookup_parts name
    rw [hMember, Record.lookup_parts, Option.map_some, Option.map_eq_some_iff] at hParts
    obtain ⟨given, hGiven, -⟩ := hParts
    exact ⟨given, hGiven⟩
  unfold Record.nullable
  rw [h.isObject, hGiven]
  refine h.required_read hMember ?_
  split
  · rename_i hWritten
    exact absurd hWritten (h.written_ne_null hNull)
  · rw [← h.holds.source, h.on_eq, hReader]
    rfl

/-- A record of members that were written down for its fields is read if its fields are. -/
theorem finish_ofLevel_ofEntries {fields : List (List String)} (keys : List String)
    {members : Entries Json} (part : Json → α) {outcome : Record α → Outcome β} {value : β}
    (hFields : ∀ key ∈ keys, fieldOf fields key = some key) (hNodup : keys.Nodup)
    (hKeys : members.keys.Sublist keys)
    (hPart : ∀ value, written (part value) = Written.ofJson value)
    (hOutcome : ∀ record : Record α, record.Wrote source part members →
      outcome record = .ok value) :
    (do
      let record ← ofLevel source fields (.ofEntries part members)
      record.finish (outcome record)) = .ok value := by
  have hMembers : Entries.keys (members.map fun member : String × Json =>
      (member.1, part member.2)) = members.keys := by
    rw [Entries.keys, List.map_map]
    rfl
  have hAssigned : assigned fields (members.map fun member => (member.1, part member.2)) =
      members.map fun member => (member.1, part member.2) :=
    assigned_eq_self fun key hKey => hFields key (hKeys.subset (hMembers ▸ hKey))
  have hHolds := holds_ofMembers source (by rw [hAssigned, hMembers]; exact hNodup.sublist hKeys)
  rw [hAssigned, List.map_map] at hHolds
  exact finish_eq_ok_iff.2 ⟨hOutcome _ ⟨hHolds.1, hHolds.2, hPart⟩, hHolds.1.cause⟩

end Writing

end Record

/-- A member that may be left out has no key but its own. -/
theorem Entries.keys_toList_sublist {α : Type} (name : String) (toJson : α → Json)
    (value : Option α) :
    (Entries.keys (value.map fun found => (name, toJson found)).toList).Sublist [name] := by
  cases value with
  | none => exact List.nil_sublist _
  | some found => exact List.Sublist.refl _

theorem Reader.of_record_eq_ok {β : Type} {source : Source} {fields : List (List String)}
    {outcome : Record Written → Outcome β} {found : Written} {value : β}
    (h : Reader.record fields outcome source found = .ok value) :
    ∃ record, outcome record = .ok value := by
  obtain ⟨record, -, h⟩ := Read.bind_eq_ok.1 h
  exact ⟨record, (Record.finish_eq_ok_iff.1 h).1⟩

/-- A record that was written down is read if its fields are. -/
theorem Reader.record_ofJson_object {β : Type} {source : Source} {fields : List (List String)}
    (keys : List String) {members : Entries Json} {outcome : Record Written → Outcome β} {value : β}
    (hFields : ∀ key ∈ keys, Record.fieldOf fields key = some key) (hNodup : keys.Nodup)
    (hKeys : members.keys.Sublist keys)
    (hOutcome : ∀ record : Record Written, record.Wrote source Written.ofJson members →
      outcome record = .ok value) :
    Reader.record fields outcome source (Written.ofJson (.object members)) = .ok value := by
  unfold Reader.record
  rw [Written.level_ofJson_object]
  exact Record.finish_ofLevel_ofEntries keys Written.ofJson hFields hNodup hKeys (fun _ => rfl)
    hOutcome

/-! ## Choices -/

namespace Choice

variable {α β : Type} [HasWritten α] {tags : List String} {source : Source} {part : Json → α}
  {members : Entries Json}

theorem split_object (hPart : ∀ value, written (part value) = Written.ofJson value)
    (hKeys : "type" ∉ members.keys) (found : Option String) :
    split tags source (members.map fun member => (some member.1, part member.2)) found =
      .ok (found, members.map fun member => (some member.1, part member.2)) := by
  induction members with
  | nil => rfl
  | cons member rest ih =>
      rw [Entries.keys_cons, List.mem_cons, not_or] at hKeys
      have hFlawless : checkFlawless source (part member.2) = .ok () := by
        obtain ⟨value, hValue⟩ := Written.exists_value?_ofJson member.2
        unfold checkFlawless
        rw [hPart, hValue]
        split <;> rfl
      rw [List.map_cons, split, if_neg (Ne.symm hKeys.1), hFlawless, ih hKeys.2]
      rfl

/-- A choice that was written down is parted into its tag and the other members. -/
theorem ofLevel_ofEntries (fields : List String) (part : Json → α)
    (hPart : ∀ value, written (part value) = Written.ofJson value) {tag : String}
    (hTag : tag ∈ tags) (hType : "type" ∉ fields) (hKeys : members.keys.Sublist fields) :
    ofLevel tags source (.ofEntries part (("type", .string tag) :: members)) =
      .ok (tag, .ofEntries part members) := by
  have hFound : Choice.tag tags source (written (part (.string tag))) = .ok tag := by
    rw [hPart]
    exact if_pos hTag
  have hSplit : split tags source ((("type", Json.string tag) :: members).map fun member =>
      (some member.1, part member.2)) none =
        .ok (some tag, members.map fun member => (some member.1, part member.2)) := by
    rw [List.map_cons, split, if_pos rfl, hFound]
    exact split_object hPart (fun hMem => hType (hKeys.subset hMem)) (some tag)
  unfold ofLevel Written.Level.ofEntries
  dsimp only
  rw [hSplit]
  rfl

/-- A choice that was written down is read if the fields are of the record that was chosen. -/
theorem read_ofEntries (fields : List String) {tag : String}
    {next : String × Written.Level α → Read β} {outcome : Record α → Outcome β} {value : β}
    (hPart : ∀ value, written (part value) = Written.ofJson value) (hTag : tag ∈ tags)
    (hType : "type" ∉ fields) (hNodup : fields.Nodup) (hKeys : members.keys.Sublist fields)
    (hNext : ∀ content, next (tag, content) = record content fields outcome)
    (hOutcome : ∀ record : Record α, record.Wrote .choice part members →
      outcome record = .ok value) :
    ofLevel tags source (.ofEntries part (("type", .string tag) :: members)) >>= next =
      .ok value := by
  rw [ofLevel_ofEntries fields part hPart hTag hType hKeys]
  show next (tag, .ofEntries part members) = _
  rw [hNext]
  refine Record.finish_ofLevel_ofEntries fields part (fun key hKey => ?_) hNodup hKeys hPart
    hOutcome
  rw [Record.fieldOf_singletons, if_pos hKey]

omit [HasWritten α] in
theorem of_record_eq_ok {content : Written.Level α} {fields : List String}
    {outcome : Record α → Outcome β} {value : β} (h : record content fields outcome = .ok value) :
    ∃ record, Record.ofLevel .choice (fields.map ([·])) content = .ok record ∧
      outcome record = .ok value := by
  obtain ⟨found, hLevel, h⟩ := Read.bind_eq_ok.1 h
  exact ⟨found, hLevel, (Record.finish_eq_ok_iff.1 h).1⟩

end Choice

theorem Reader.choice_ofJson_object {β : Type} {source : Source} {tags : List String}
    {members : Entries Json} (fields : List String) {tag : String}
    {next : String × Written.Level Written → Read β} {outcome : Record Written → Outcome β}
    {value : β} (hTag : tag ∈ tags) (hType : "type" ∉ fields) (hNodup : fields.Nodup)
    (hKeys : members.keys.Sublist fields)
    (hNext : ∀ content, next (tag, content) = Choice.record content fields outcome)
    (hOutcome : ∀ record : Record Written, record.Wrote .choice Written.ofJson members →
      outcome record = .ok value) :
    Choice.ofLevel tags source
      (Written.ofJson (.object (("type", .string tag) :: members))).level >>= next = .ok value := by
  rw [Written.level_ofJson_object]
  exact Choice.read_ofEntries fields (fun _ => rfl) hTag hType hNodup hKeys hNext hOutcome

/-! ## Formats that contain themselves -/

namespace Written

variable {α : Type} (step : Level (Part α) → α)

/-- A part of a text, with its result. -/
def toPart (part : Written) : Part α := ⟨part, part.recurse step⟩

/-- What a text results in follows from its uppermost level. -/
theorem recurse_eq (found : Written) :
    found.recurse step = step (found.level.map (toPart step)) := by
  have hItems (items : List Written) : recurse.parts step items = items.map (toPart step) := by
    induction items with
    | nil => rfl
    | cons item rest ih => rw [recurse.parts, ih, List.map_cons, toPart]
  have hMembers (members : List (Option String × Written)) : recurse.memberParts step members =
      members.map fun member => (member.1, toPart step member.2) := by
    induction members with
    | nil => rfl
    | cons member rest ih => rw [recurse.memberParts, ih, List.map_cons, toPart]
  cases found with
  | array items closed => rw [recurse, hItems, level, Level.map]
  | object members closed => rw [recurse, hMembers, level, Level.map]
  | _ => rfl

/-- A property of results that carries over from the parts of a level to the level. -/
theorem recurse_induct {motive : α → Prop}
    (h : ∀ level : Level (Part α), (∀ part ∈ level.parts, motive part.result) → motive (step level))
    (found : Written) : motive (found.recurse step) := by
  induction found using Written.induct with
  | step found ih =>
      rw [recurse_eq]
      refine h _ fun part hPart => ?_
      rw [Level.parts_map] at hPart
      obtain ⟨inner, hInner, rfl⟩ := List.mem_map.1 hPart
      exact ih inner hInner

theorem recurse_ofJson_object (members : Entries Json) :
    (ofJson (.object members)).recurse step =
      step (.ofEntries (fun value => toPart step (ofJson value)) members) := by
  rw [recurse_eq, level_ofJson_object, Level.ofEntries, Level.map, List.map_map]
  rfl

theorem recurse_ofJson_array (items : List Json) :
    (ofJson (.array items)).recurse step =
      step (.array (items.map fun value => toPart step (ofJson value)) true) := by
  rw [recurse_eq, level_ofJson_array, Level.map, List.map_map]
  rfl

end Written

section Parts

variable {α : Type} {source : Source} {level content : Written.Level α}

/-- The parts of a record are parts of the level that it was read from. -/
theorem Record.mem_parts_of_ofLevel {fields : List (List String)} {record : Record α}
    (h : ofLevel source fields level = .ok record) {name : String} {part : α}
    (hPart : record.parts.lookup name = some part) : part ∈ level.parts := by
  obtain ⟨before, after, hParts, -⟩ := List.lookup_eq_some_iff.1 hPart
  have hMem : (name, part) ∈ record.parts := hParts ▸ List.mem_append_right _ List.mem_cons_self
  obtain ⟨⟨field, place, _⟩, hGiven, hEntry⟩ := List.mem_map.1 hMem
  cases hEntry
  cases level with
  | array items closed =>
      obtain rfl := Except.ok.inj h
      exact List.mem_of_getElem? (of_mem_given_ofItems hGiven).2
  | object members closed =>
      obtain rfl := Except.ok.inj h
      rcases of_mem_given_ofMembers hGiven with hNone | ⟨key, names, hMember, -⟩
      · cases hNone
      · exact List.mem_map_of_mem hMember
  | null | bool | number | string | tooDeep | broken => cases h

variable [HasWritten α]

theorem Choice.subset_of_split {tags : List String} {members others : List (Option String × α)}
    {before after : Option String} (h : split tags source members before = .ok (after, others)) :
    others ⊆ members := by
  induction members generalizing before after others with
  | nil =>
      obtain ⟨-, rfl⟩ := Prod.mk.inj (Except.ok.inj h)
      exact List.Subset.refl _
  | cons member rest ih =>
      obtain ⟨_ | key, part⟩ := member
      · cases h
      rw [split] at h
      split at h
      · split at h
        · cases h
        · obtain ⟨tag, -, h⟩ := Read.bind_eq_ok.1 h
          exact List.subset_cons_of_subset _ (ih h)
      · obtain ⟨-, -, h⟩ := Read.bind_eq_ok.1 h
        obtain ⟨⟨found, later⟩, hSplit, h⟩ := Read.bind_eq_ok.1 h
        obtain ⟨-, rfl⟩ := Prod.mk.inj (Except.ok.inj h)
        exact List.cons_subset_cons _ (ih hSplit)

/-- The parts of the record that was chosen are parts of the level that was read. -/
theorem Choice.mem_parts_of_ofLevel {tags : List String} {tag : String}
    (h : ofLevel tags source level = .ok (tag, content)) {part : α} (hPart : part ∈ content.parts) :
    part ∈ level.parts := by
  cases level with
  | object members closed =>
      obtain ⟨⟨found, others⟩, hSplit, h⟩ := Read.bind_eq_ok.1 h
      cases closed with
      | false => cases h
      | true =>
          cases found with
          | none => cases h
          | some found =>
              obtain ⟨-, rfl⟩ := Prod.mk.inj (Except.ok.inj h)
              obtain ⟨member, hMember, rfl⟩ := List.mem_map.1 hPart
              exact List.mem_map_of_mem (subset_of_split hSplit hMember)
  | array items closed =>
      cases items with
      | nil => cases h
      | cons first others =>
          obtain ⟨found, -, h⟩ := Read.bind_eq_ok.1 h
          obtain ⟨-, -, h⟩ := Read.bind_eq_ok.1 h
          split at h
          · obtain ⟨-, rfl⟩ := Prod.mk.inj (Except.ok.inj h)
            exact List.mem_cons_of_mem _ hPart
          · cases h
  | null | bool | number | string | tooDeep | broken => cases h

end Parts

end N1qlConnector
