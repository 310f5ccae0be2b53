import N1qlConnector.Format.Value
import N1qlConnector.Proofs.Entries

/-!
# Values that were read

Reading a value leaves marks on it: of a repeated key only one place is left, and an object that
stands for a value spelled out elsewhere has given way to that value. A value without such things
left to do is `Json.Orderly`. Reading makes nothing else, from whatever text, and an orderly value
is read as itself, from wherever it is read. The two halves meet in the predicate, so what was read
once can be written down and read any number of times.

## Main results

* `Written.orderly_of_read` : what is read is orderly.
* `Json.Orderly.read_ofJson` : what is orderly is read as it is.
-/

namespace N1qlConnector

/-! ## Induction -/

/-- A property of a value that carries over from the values in it. -/
theorem Json.induct {motive : Json → Prop} (null : motive .null)
    (bool : ∀ value, motive (.bool value)) (number : ∀ value, motive (.number value))
    (string : ∀ value, motive (.string value))
    (array : ∀ items, (∀ item ∈ items, motive item) → motive (.array items))
    (object : ∀ members, (∀ member ∈ members, motive member.2) → motive (.object members))
    (value : Json) : motive value := by
  refine Json.rec (motive_2 := fun items => ∀ item ∈ items, motive item)
    (motive_3 := fun members => ∀ member ∈ members, motive member.2)
    (motive_4 := fun member => motive member.2)
    null bool number string (fun items h => array items h) (fun members h => object members h)
    ?_ ?_ ?_ ?_ ?_ value
  · exact fun item hItem => absurd hItem List.not_mem_nil
  · intro first rest hFirst hRest item hItem
    rcases List.mem_cons.1 hItem with rfl | hItem
    · exact hFirst
    · exact hRest item hItem
  · exact fun member hMember => absurd hMember List.not_mem_nil
  · intro first rest hFirst hRest member hMember
    rcases List.mem_cons.1 hMember with rfl | hMember
    · exact hFirst
    · exact hRest member hMember
  · exact fun key value h => h

/-- The items of an array, or the values of an object. -/
def Written.Level.parts {α : Type} : Level α → List α
  | .array items _ => items
  | .object members _ => members.map Prod.snd
  | _ => []

/-- A property of a text that carries over from the texts in it. -/
theorem Written.induct {motive : Written → Prop}
    (step : ∀ found : Written, (∀ part ∈ found.level.parts, motive part) → motive found)
    (found : Written) : motive found := by
  have hLeaf (found : Written) (h : found.level.parts = []) : motive found :=
    step found fun part hPart => absurd (h ▸ hPart) List.not_mem_nil
  refine Written.rec (motive_2 := fun items => ∀ item ∈ items, motive item)
    (motive_3 := fun members => ∀ member ∈ members, motive member.2)
    (motive_4 := fun member => motive member.2)
    (hLeaf _ rfl) (fun _ => hLeaf _ rfl) (fun _ => hLeaf _ rfl) (fun _ => hLeaf _ rfl)
    (fun items closed h => step _ h) ?_ (fun _ => hLeaf _ rfl) (hLeaf _ rfl) ?_ ?_ ?_ ?_ ?_ found
  · intro members closed h
    refine step _ fun part hPart => ?_
    obtain ⟨member, hMember, rfl⟩ := List.mem_map.1 hPart
    exact h member hMember
  · exact fun item hItem => absurd hItem List.not_mem_nil
  · intro first rest hFirst hRest item hItem
    rcases List.mem_cons.1 hItem with rfl | hItem
    · exact hFirst
    · exact hRest item hItem
  · exact fun member hMember => absurd hMember List.not_mem_nil
  · intro first rest hFirst hRest member hMember
    rcases List.mem_cons.1 hMember with rfl | hMember
    · exact hFirst
    · exact hRest member hMember
  · exact fun key part h => h

/-! ## Steps of reading -/

/-- What is read in two steps is read by both. -/
theorem Read.bind_eq_ok {α β : Type} {first : Read α} {next : α → Read β} {value : β} :
    first >>= next = .ok value ↔ ∃ found, first = .ok found ∧ next found = .ok value := by
  constructor
  · intro h
    cases first with
    | error cause => cases h
    | ok found => exact ⟨found, rfl, h⟩
  · rintro ⟨found, rfl, h⟩
    exact h

/-- What is read item by item is read from the items. -/
theorem Read.mem_of_mapM_eq_ok {α β : Type} {read : α → Read β} {items : List α} {values : List β}
    (h : items.mapM read = .ok values) {value : β} (hValue : value ∈ values) :
    ∃ item ∈ items, read item = .ok value := by
  induction items generalizing values with
  | nil =>
      obtain rfl := Except.ok.inj h
      cases hValue
  | cons first rest ih =>
      rw [List.mapM_cons] at h
      obtain ⟨found, hFirst, h⟩ := bind_eq_ok.1 h
      obtain ⟨others, hRest, h⟩ := bind_eq_ok.1 h
      obtain rfl := Except.ok.inj h
      rcases List.mem_cons.1 hValue with rfl | hValue
      · exact ⟨first, List.mem_cons_self, hFirst⟩
      · obtain ⟨item, hItem, hRead⟩ := ih hRest hValue
        exact ⟨item, List.mem_cons_of_mem _ hItem, hRead⟩

/-- Values that are read one by one are read together. -/
theorem Read.mapM_map_eq_ok {α β : Type} {read : α → Read β} {item : β → α} {values : List β}
    (h : ∀ value ∈ values, read (item value) = .ok value) :
    (values.map item).mapM read = .ok values := by
  induction values with
  | nil => rfl
  | cons first rest ih =>
      rw [List.map_cons, List.mapM_cons, h first List.mem_cons_self,
        ih fun value hValue => h value (List.mem_cons_of_mem _ hValue)]
      rfl

/-! ## Orderly values -/

/-- No object in the value repeats a key or stands for a value spelled out in a text of its own. -/
inductive Json.Orderly : Json → Prop
  | null : Orderly .null
  | bool (value : Bool) : Orderly (.bool value)
  | number (value : Number) : Orderly (.number value)
  | string (value : String) : Orderly (.string value)
  | array {items : List Json} (h : ∀ item ∈ items, Orderly item) : Orderly (.array items)
  | object {members : List (String × Json)} (hNodup : (Entries.keys members).Nodup)
      (hHead : (Entries.keys members).head? ≠ some embeddingKey)
      (h : ∀ member ∈ members, Orderly member.2) : Orderly (.object members)

namespace Written

section Reading

variable {textValue : String → Option Json} {source : Source}

theorem mem_of_readItems {items : List Written} {values : List Json}
    (h : readWith.readItems textValue source items = .ok values) {value : Json}
    (hMem : value ∈ values) : ∃ item ∈ items, item.readWith textValue source = .ok value := by
  induction items generalizing values with
  | nil =>
      obtain rfl := Except.ok.inj h
      exact absurd hMem List.not_mem_nil
  | cons item rest ih =>
      obtain ⟨first, hItem, h⟩ := Read.bind_eq_ok.1 h
      obtain ⟨others, hRest, h⟩ := Read.bind_eq_ok.1 h
      obtain rfl := Except.ok.inj h
      rcases List.mem_cons.1 hMem with rfl | hMem
      · exact ⟨item, List.mem_cons_self, hItem⟩
      · obtain ⟨found, hFound, hRead⟩ := ih hRest hMem
        exact ⟨found, List.mem_cons_of_mem _ hFound, hRead⟩

/-- Members are read one by one, and keep their keys. -/
theorem of_readMembers {members : List (Option String × Written)} {pairs : List (String × Json)}
    (h : readWith.readMembers textValue source members = .ok pairs) :
    members.map Prod.fst = (Entries.keys pairs).map some ∧
      ∀ pair ∈ pairs, ∃ member ∈ members, member.2.readWith textValue source = .ok pair.2 := by
  induction members generalizing pairs with
  | nil =>
      obtain rfl := Except.ok.inj h
      exact ⟨rfl, fun pair hPair => absurd hPair List.not_mem_nil⟩
  | cons member rest ih =>
      obtain ⟨_ | key, part⟩ := member
      · cases h
      obtain ⟨value, hPart, h⟩ := Read.bind_eq_ok.1 h
      obtain ⟨others, hRest, h⟩ := Read.bind_eq_ok.1 h
      obtain rfl := Except.ok.inj h
      obtain ⟨hKeys, hOthers⟩ := ih hRest
      refine ⟨congrArg (some key :: ·) hKeys, fun pair hPair => ?_⟩
      rcases List.mem_cons.1 hPair with rfl | hPair
      · exact ⟨_, List.mem_cons_self, hPart⟩
      · obtain ⟨found, hFound, hRead⟩ := hOthers pair hPair
        exact ⟨found, List.mem_cons_of_mem _ hFound, hRead⟩

/-- The first key of an object that is read member by member is a key like all others. -/
theorem head?_keys_ne_of_readMembers {members : List (Option String × Written)}
    {pairs : List (String × Json)} (hEmbedded : embedded? members = none)
    (h : readWith.readMembers textValue source members = .ok pairs) :
    (Entries.keys pairs).head? ≠ some embeddingKey := by
  obtain ⟨hKeys, -⟩ := of_readMembers h
  intro hHead
  have hFirst : (members.map Prod.fst).head? = some (some embeddingKey) := by
    rw [hKeys, List.head?_map, hHead]
    rfl
  cases members with
  | nil => cases hFirst
  | cons member rest =>
      obtain ⟨key, part⟩ := member
      obtain rfl : key = some embeddingKey := Option.some.inj hFirst
      cases hEmbedded

theorem ok_of_readEmbedded {surplus closed : Bool} {part : Written} {value : Json}
    (h : readEmbedded textValue source surplus closed part = .ok value) :
    ∃ text, textValue text = some value := by
  unfold readEmbedded at h
  split at h
  · rename_i text
    split at h
    · cases h
    · rename_i found hFound
      split at h
      · cases h
      · split at h
        · cases h
          exact ⟨text, hFound⟩
        · cases h
  · cases h

/-- Reading makes orderly values if reading embedded texts does. -/
theorem orderly_of_readWith (hText : ∀ text value, textValue text = some value → value.Orderly)
    {found : Written} {value : Json} (h : found.readWith textValue source = .ok value) :
    value.Orderly := by
  induction found using Written.induct generalizing value with
  | step found ih =>
  cases found with
  | null =>
      cases h
      exact .null
  | bool value =>
      cases h
      exact .bool value
  | number value =>
      cases value with
      | none => cases h
      | some value =>
          cases h
          exact .number value
  | string value =>
      cases value with
      | none => cases h
      | some value =>
          cases h
          exact .string value
  | tooDeep isObject => cases h
  | broken => cases h
  | array items closed =>
      rw [readWith] at h
      obtain ⟨values, hItems, h⟩ := Read.bind_eq_ok.1 h
      split at h
      · obtain rfl := Except.ok.inj h
        refine .array fun item hItem => ?_
        obtain ⟨part, hPart, hRead⟩ := mem_of_readItems hItems hItem
        exact ih part hPart hRead
      · cases h
  | object members closed =>
      rw [readWith] at h
      cases hEmbedded : embedded? members with
      | some embedded =>
          rw [hEmbedded] at h
          obtain ⟨text, hValue⟩ := ok_of_readEmbedded h
          exact hText text value hValue
      | none =>
          rw [hEmbedded] at h
          obtain ⟨pairs, hMembers, h⟩ := Read.bind_eq_ok.1 h
          split at h
          · obtain rfl := Except.ok.inj h
            have hHead := head?_keys_ne_of_readMembers hEmbedded hMembers
            rw [← Entries.head?_keys_ofPairs] at hHead
            refine .object (Entries.nodup_keys_ofPairs pairs) hHead fun member hMember => ?_
            obtain ⟨part, hPart, hRead⟩ :=
              (of_readMembers hMembers).2 member (Entries.mem_ofPairs hMember)
            exact ih part.2 (List.mem_map_of_mem hPart) hRead
          · cases h

end Reading

end Written

/-- The value of a whole text is orderly, however many texts are embedded in it. -/
theorem Json.orderly_of_ofTextWithin {bound : Nat} {text : String} {value : Json}
    (h : ofTextWithin bound text = some value) : value.Orderly := by
  induction bound generalizing text value with
  | zero => cases h
  | succ bound ih =>
      rw [ofTextWithin] at h
      cases hRead : (Written.ofText text).readWith (ofTextWithin bound) .text with
      | error cause =>
          rw [hRead] at h
          cases h
      | ok found =>
          rw [hRead] at h
          obtain rfl := Option.some.inj h
          exact Written.orderly_of_readWith (fun _ _ hText => ih hText) hRead

theorem Json.orderly_of_ofText? {text : String} {value : Json} (h : ofText? text = some value) :
    value.Orderly :=
  orderly_of_ofTextWithin h

/-- What is read is orderly, wherever it was read from. -/
theorem Written.orderly_of_read {source : Source} {found : Written} {value : Json}
    (h : found.read source = .ok value) : value.Orderly :=
  orderly_of_readWith (fun _ _ hText => Json.orderly_of_ofText? hText) h

/-! ## Writing down -/

namespace Written

@[simp] theorem each_eq_map (items : List Json) : ofJson.each items = items.map ofJson := by
  induction items with
  | nil => rfl
  | cons item rest ih => rw [ofJson.each, ih, List.map_cons]

@[simp] theorem eachMember_eq_map (members : List (String × Json)) :
    ofJson.eachMember members = members.map fun member => (some member.1, ofJson member.2) := by
  induction members with
  | nil => rfl
  | cons member rest ih => rw [ofJson.eachMember, ih, List.map_cons]

theorem ofJson_array (items : List Json) :
    ofJson (.array items) = array (items.map ofJson) true := by
  rw [ofJson, each_eq_map]

theorem ofJson_object (members : List (String × Json)) :
    ofJson (.object members) =
      object (members.map fun member => (some member.1, ofJson member.2)) true := by
  rw [ofJson, eachMember_eq_map]

/-- What is written down has a value. -/
theorem exists_value?_ofJson (value : Json) : ∃ found, (ofJson value).value? = some found := by
  induction value using Json.induct with
  | null | bool | number | string => exact ⟨_, rfl⟩
  | array items ih =>
      have hItems : ∃ values, value?.values (items.map ofJson) = some values := by
        induction items with
        | nil => exact ⟨[], rfl⟩
        | cons item rest ihRest =>
            obtain ⟨first, hFirst⟩ := ih item List.mem_cons_self
            obtain ⟨others, hOthers⟩ :=
              ihRest fun item hItem => ih item (List.mem_cons_of_mem _ hItem)
            rw [List.map_cons, value?.values, hFirst, hOthers]
            exact ⟨_, rfl⟩
      obtain ⟨values, hValues⟩ := hItems
      rw [ofJson_array, value?, hValues]
      exact ⟨_, rfl⟩
  | object members ih =>
      have hMembers : ∃ pairs, value?.memberValues
          (members.map fun member => (some member.1, ofJson member.2)) = some pairs := by
        induction members with
        | nil => exact ⟨[], rfl⟩
        | cons member rest ihRest =>
            obtain ⟨first, hFirst⟩ := ih member List.mem_cons_self
            obtain ⟨others, hOthers⟩ :=
              ihRest fun member hMember => ih member (List.mem_cons_of_mem _ hMember)
            rw [List.map_cons, value?.memberValues, hFirst, hOthers]
            exact ⟨_, rfl⟩
      obtain ⟨pairs, hPairs⟩ := hMembers
      rw [ofJson_object, value?, hPairs]
      exact ⟨_, rfl⟩

end Written

section Writing

variable {textValue : String → Option Json} {source : Source}

theorem Written.readItems_ofJson {items : List Json}
    (h : ∀ item ∈ items, (ofJson item).readWith textValue source = .ok item) :
    readWith.readItems textValue source (items.map ofJson) = .ok items := by
  induction items with
  | nil => rfl
  | cons item rest ih =>
      have hItem := h item List.mem_cons_self
      have hRest := ih fun item hItem => h item (List.mem_cons_of_mem _ hItem)
      rw [List.map_cons, readWith.readItems, hItem, hRest]
      rfl

theorem Written.readMembers_ofJson {members : List (String × Json)}
    (h : ∀ member ∈ members, (ofJson member.2).readWith textValue source = .ok member.2) :
    readWith.readMembers textValue source
      (members.map fun member => (some member.1, ofJson member.2)) = .ok members := by
  induction members with
  | nil => rfl
  | cons member rest ih =>
      have hMember := h member List.mem_cons_self
      have hRest := ih fun member hMember => h member (List.mem_cons_of_mem _ hMember)
      rw [List.map_cons, readWith.readMembers, hMember, hRest]
      rfl

/-- What is orderly is read as it is, whatever an embedded text would say. -/
theorem Json.Orderly.readWith_ofJson {value : Json} (h : value.Orderly) :
    (Written.ofJson value).readWith textValue source = .ok value := by
  induction h with
  | null | bool | number | string => rfl
  | array _ ih =>
      rw [Written.ofJson_array, Written.readWith, Written.readItems_ofJson ih]
      rfl
  | @object members hNodup hHead _ ih =>
      have hEmbedded : Written.embedded?
          (members.map fun member => (some member.1, Written.ofJson member.2)) = none := by
        cases members with
        | nil => rfl
        | cons member rest =>
            have hKey : member.1 ≠ embeddingKey := fun h => hHead (congrArg some h)
            exact if_neg hKey
      rw [Written.ofJson_object, Written.readWith, hEmbedded, Written.readMembers_ofJson ih]
      show Except.ok (Json.object (Entries.ofPairs members)) = _
      rw [Entries.ofPairs_eq_self hNodup]

theorem Json.Orderly.read_ofJson {value : Json} (h : value.Orderly) :
    (Written.ofJson value).read source = .ok value :=
  h.readWith_ofJson

end Writing

end N1qlConnector
