/-!
# Ordered maps

A map from texts to values that keeps the order in which its keys were first inserted. Inserting
under a key that is present replaces the value and leaves the key where it is; a new key goes to
the end.
-/

namespace DocumentMapping

/-- The entries of a map in the order of their first insertion. -/
abbrev OrderedMap (α : Type u) := List (String × α)

namespace OrderedMap

variable {α : Type u}

/-- The value under a key. -/
def get? : OrderedMap α → String → Option α
  | [], _ => none
  | (k, v) :: rest, key => if k = key then some v else get? rest key

/-- Whether a key is present. -/
def contains (map : OrderedMap α) (key : String) : Bool :=
  (map.get? key).isSome

/-- Puts a value under a key: in place when the key is present, at the end otherwise. -/
def insert : OrderedMap α → String → α → OrderedMap α
  | [], key, value => [(key, value)]
  | (k, v) :: rest, key, value =>
    if k = key then (k, value) :: rest else (k, v) :: insert rest key value

/-- Removes a key and keeps the order of the others. -/
def erase : OrderedMap α → String → OrderedMap α
  | [], _ => []
  | (k, v) :: rest, key => if k = key then rest else (k, v) :: erase rest key

/-- The keys in order. -/
def keys (map : OrderedMap α) : List String :=
  map.map Prod.fst

/-- The map of a list of entries: a repeated key keeps its first place and its last value. -/
def ofList (entries : List (String × α)) : OrderedMap α :=
  entries.foldl (fun map entry => map.insert entry.1 entry.2) []

/-- Inserts all entries of another map, in their order. -/
def merge (map other : OrderedMap α) : OrderedMap α :=
  other.foldl (fun map entry => map.insert entry.1 entry.2) map

@[simp] theorem get?_nil (key : String) : get? ([] : OrderedMap α) key = none := rfl

theorem contains_of_get? {map : OrderedMap α} {key : String} {value : α}
    (h : map.get? key = some value) : map.contains key = true := by
  rw [contains, h, Option.isSome_some]

theorem contains_eq_false_iff {map : OrderedMap α} {key : String} :
    map.contains key = false ↔ map.get? key = none := by
  rw [contains, Option.isSome_eq_false_iff, Option.isNone_iff_eq_none]

/-- After an insertion the key holds the new value and every other key what it held before. -/
theorem get?_insert (map : OrderedMap α) (key other : String) (value : α) :
    (map.insert key value).get? other = if key = other then some value else map.get? other := by
  induction map with
  | nil => simp [insert, get?]
  | cons entry rest ih =>
    obtain ⟨k, v⟩ := entry
    by_cases h : k = key
    · subst h
      by_cases ho : k = other <;> simp [insert, get?, ho]
    · by_cases ho : k = other
      · subst ho
        simp [insert, get?, h, Ne.symm h]
      · simp [insert, get?, h, ho, ih]

/-- An insertion keeps the keys in place and adds a new one at the end. -/
theorem keys_insert (map : OrderedMap α) (key : String) (value : α) :
    (map.insert key value).keys = if key ∈ map.keys then map.keys else map.keys ++ [key] := by
  induction map with
  | nil => simp [insert, keys]
  | cons entry rest ih =>
    obtain ⟨k, v⟩ := entry
    by_cases h : k = key
    · simp [insert, keys, h]
    · simp only [keys] at ih
      simp only [insert, h, keys, if_false, List.map_cons, ih, List.mem_cons]
      by_cases hm : key ∈ rest.map Prod.fst
      · simp [hm]
      · simp [hm, Ne.symm h]

/-- Of two insertions under one key the later one counts. -/
theorem insert_insert (map : OrderedMap α) (key : String) (first second : α) :
    (map.insert key first).insert key second = map.insert key second := by
  induction map with
  | nil => simp [insert]
  | cons entry rest ih =>
    obtain ⟨k, v⟩ := entry
    by_cases h : k = key <;> simp [insert, h, ih]

/-- Inserting what a key holds changes nothing. -/
theorem insert_eq_self {map : OrderedMap α} {key : String} {value : α}
    (h : map.get? key = some value) : map.insert key value = map := by
  induction map with
  | nil => simp at h
  | cons entry rest ih =>
    obtain ⟨k, v⟩ := entry
    by_cases hk : k = key
    · simp_all [insert, get?]
    · simp [get?, hk] at h
      simp [insert, hk, ih h]

/-- Insertions under two keys can change places when the first key is present: then none of them
puts a key in front of the other. -/
theorem insert_comm {map : OrderedMap α} {key other : String} {old : α}
    (h : map.get? key = some old) (hne : key ≠ other) (first second : α) :
    (map.insert other second).insert key first = (map.insert key first).insert other second := by
  induction map with
  | nil => simp at h
  | cons entry rest ih =>
    obtain ⟨k, v⟩ := entry
    by_cases hk : k = key
    · subst hk
      simp [insert, hne]
    · simp [get?, hk] at h
      by_cases ho : k = other
      · subst ho
        simp [insert, hk]
      · simp [insert, hk, ho, ih h]

/-! ## Lists of entries -/

/-- The last value that a list of entries has under a key. -/
def last? (entries : List (String × α)) (key : String) : Option α :=
  (entries.filter (·.1 = key)).getLast?.map Prod.snd

theorem last?_cons (entry : String × α) (rest : List (String × α)) (key : String) :
    last? (entry :: rest) key =
      (last? rest key).or (if entry.1 = key then some entry.2 else none) := by
  unfold last?
  rw [List.filter_cons]
  by_cases h : entry.1 = key
  · rw [if_pos (decide_eq_true h), if_pos h, List.getLast?_cons]
    cases (rest.filter (·.1 = key)).getLast? <;> rfl
  · rw [if_neg (by simpa using h), if_neg h, Option.or_none]

/-- Of two lists of entries the second one counts first. -/
theorem last?_append (first second : List (String × α)) (key : String) :
    last? (first ++ second) key = (last? second key).or (last? first key) := by
  unfold last?
  rw [List.filter_append, List.getLast?_append]
  cases (second.filter (·.1 = key)).getLast? <;> rfl

/-- The last value under a key is that of an entry. -/
theorem mem_of_last? {entries : List (String × α)} {key : String} {value : α}
    (h : last? entries key = some value) : (key, value) ∈ entries := by
  obtain ⟨⟨k, v⟩, hlast, rfl⟩ := Option.map_eq_some_iff.mp h
  obtain ⟨hmem, hkey⟩ := List.mem_filter.mp (List.mem_of_getLast? hlast)
  rw [← of_decide_eq_true hkey]
  exact hmem

/-- The key of an entry has a last value. -/
theorem exists_last? {entries : List (String × α)} {entry : String × α} (hmem : entry ∈ entries) :
    ∃ value, last? entries entry.1 = some value := by
  have hsome : entry ∈ entries.filter (·.1 = entry.1) :=
    List.mem_filter.mpr ⟨hmem, decide_eq_true rfl⟩
  rw [last?, List.getLast?_eq_some_getLast (List.ne_nil_of_mem hsome)]
  exact ⟨_, rfl⟩

/-- When the value of an entry depends on its key only, every key has that value. -/
theorem last?_filterMap (keys : List String) (value? : String → Option α) (key : String) :
    last? (keys.filterMap fun k => (value? k).map (k, ·)) key =
      if key ∈ keys then value? key else none := by
  induction keys with
  | nil => rfl
  | cons k rest ih =>
    rw [List.filterMap_cons]
    by_cases h : k = key
    · subst h
      rw [if_pos List.mem_cons_self]
      cases hvalue : value? k with
      | none => simp [ih, hvalue]
      | some value =>
        simp only [Option.map_some, last?_cons, ih, hvalue, if_true]
        split <;> rfl
    · simp only [List.mem_cons, Ne.symm h, false_or, ← ih]
      cases value? k with
      | none => rfl
      | some value => simp [last?_cons, h]

/-- After a merge a key holds its last value among the merged entries, or else what it held
before. -/
theorem get?_merge (map other : OrderedMap α) (key : String) :
    (map.merge other).get? key = (last? other key).or (map.get? key) := by
  induction other generalizing map with
  | nil => rfl
  | cons entry rest ih =>
    have hstep : map.merge (entry :: rest) = (map.insert entry.1 entry.2).merge rest := rfl
    rw [hstep, ih, get?_insert, last?_cons]
    cases last? rest key with
    | some value => rfl
    | none => split <;> rfl

/-- A merge keeps the keys in place and adds the new ones at the end, each where it comes first among
the merged entries. -/
theorem keys_merge (map other : OrderedMap α) :
    (map.merge other).keys = map.keys ++ ((keys other).filter (· ∉ map.keys)).eraseDups := by
  induction other generalizing map with
  | nil => simp [merge, keys]
  | cons entry rest ih =>
    obtain ⟨key, value⟩ := entry
    have hstep : map.merge ((key, value) :: rest) = (map.insert key value).merge rest := rfl
    have hkeys : keys ((key, value) :: rest) = key :: keys rest := rfl
    rw [hstep, ih, keys_insert, hkeys]
    by_cases h : key ∈ map.keys
    · simp [h]
    · have hhead : (key :: keys rest).filter (· ∉ map.keys) =
          key :: (keys rest).filter (· ∉ map.keys) :=
        List.filter_cons_of_pos (decide_eq_true h)
      have hlater : (keys rest).filter (· ∉ map.keys ++ [key]) =
          ((keys rest).filter (· ∉ map.keys)).filter (!· == key) := by
        rw [List.filter_filter]
        refine List.filter_congr fun other _ => ?_
        by_cases hother : other = key <;> simp [hother]
      rw [if_neg h, hlater, hhead, List.eraseDups_cons, List.append_assoc, List.singleton_append]

/-- Entries are merged one list after the other. -/
theorem merge_append (map : OrderedMap α) (first second : List (String × α)) :
    map.merge (first ++ second) = (map.merge first).merge second :=
  List.foldl_append

/-- In the map of a list of entries a key holds its last value. -/
theorem get?_ofList (entries : List (String × α)) (key : String) :
    (ofList entries).get? key = last? entries key := by
  have h := get?_merge [] entries key
  rwa [get?_nil, Option.or_none] at h

theorem get?_eq_none_iff {map : OrderedMap α} {key : String} :
    map.get? key = none ↔ key ∉ map.keys := by
  induction map with
  | nil => simp [keys]
  | cons entry rest ih =>
    obtain ⟨k, v⟩ := entry
    by_cases h : k = key
    · simp [get?, keys, h]
    · simpa [get?, keys, h, Ne.symm h] using ih

theorem nodup_keys_insert {map : OrderedMap α} (h : map.keys.Nodup) (key : String) (value : α) :
    (map.insert key value).keys.Nodup := by
  rw [keys_insert]
  split
  · exact h
  · rename_i hnew
    rw [List.nodup_append]
    refine ⟨h, by simp, ?_⟩
    intro k hk other hother heq
    rw [List.mem_singleton] at hother
    rw [heq, hother] at hk
    exact hnew hk

theorem nodup_keys_merge {map : OrderedMap α} (h : map.keys.Nodup) (other : OrderedMap α) :
    (map.merge other).keys.Nodup := by
  induction other generalizing map with
  | nil => exact h
  | cons entry rest ih => exact ih (nodup_keys_insert h entry.1 entry.2)

/-- No key comes twice in the map of a list of entries. -/
theorem nodup_keys_ofList (entries : List (String × α)) : (ofList entries).keys.Nodup := by
  have h : (keys ([] : OrderedMap α)).Nodup := List.nodup_nil
  exact nodup_keys_merge h entries

/-- When no key comes twice, a key holds the value of its entry. -/
theorem get?_eq_some_iff {map : OrderedMap α} (h : map.keys.Nodup) {key : String} {value : α} :
    map.get? key = some value ↔ (key, value) ∈ map := by
  induction map with
  | nil => simp
  | cons entry rest ih =>
    obtain ⟨k, v⟩ := entry
    obtain ⟨hk, hrest⟩ := List.nodup_cons.mp h
    rw [get?, List.mem_cons, Prod.mk.injEq]
    by_cases heq : k = key
    · subst heq
      have hlater : (k, value) ∉ rest := fun hmem => hk (List.mem_map.mpr ⟨_, hmem, rfl⟩)
      simp [hlater, eq_comm]
    · simp [heq, Ne.symm heq, ih hrest]

/-- When no key comes twice, the last value under a key is the only one. -/
theorem last?_of_nodup {map : OrderedMap α} (h : map.keys.Nodup) (key : String) :
    last? map key = map.get? key := by
  induction map with
  | nil => rfl
  | cons entry rest ih =>
    obtain ⟨k, v⟩ := entry
    obtain ⟨hk, hrest⟩ := List.nodup_cons.mp h
    rw [last?_cons, ih hrest]
    by_cases heq : k = key
    · subst heq
      rw [get?_eq_none_iff.mpr hk]
      simp [get?]
    · simp [get?, heq]

/-! ## Entries under new keys -/

/-- A new key goes to the end. -/
theorem insert_of_not_mem {map : OrderedMap α} {key : String} (h : key ∉ map.keys) (value : α) :
    map.insert key value = map ++ [(key, value)] := by
  induction map with
  | nil => rfl
  | cons entry rest ih =>
    obtain ⟨hhead, hrest⟩ := not_or.mp (mt List.mem_cons.mpr h)
    rw [insert, if_neg (Ne.symm hhead), ih hrest, List.cons_append]

/-- Entries under new keys go to the end in their order. -/
theorem merge_of_nodup {map other : OrderedMap α} (h : (keys (map ++ other)).Nodup) :
    map.merge other = map ++ other := by
  induction other generalizing map with
  | nil => rw [List.append_nil]; rfl
  | cons entry rest ih =>
    have hkeys : (map.keys ++ entry.1 :: keys rest).Nodup := by
      rwa [keys, List.map_append] at h
    have hnew : entry.1 ∉ map.keys := fun hmem =>
      (List.nodup_append.mp hkeys).2.2 _ hmem _ List.mem_cons_self rfl
    have hstep : map.merge (entry :: rest) = (map.insert entry.1 entry.2).merge rest := rfl
    rw [List.append_cons] at h ⊢
    rw [hstep, insert_of_not_mem hnew, ih h]

/-- A list of entries under different keys is a map. -/
theorem ofList_of_nodup {entries : List (String × α)} (h : (keys entries).Nodup) :
    ofList entries = entries :=
  merge_of_nodup h

/-! ## Merging merged maps -/

/-- A key that is present and not merged can get its value before or after the merge. -/
theorem insert_merge {map other : OrderedMap α} {key : String} {old : α}
    (h : map.get? key = some old) (hnew : key ∉ other.keys) (value : α) :
    (map.merge other).insert key value = (map.insert key value).merge other := by
  induction other generalizing map old with
  | nil => rfl
  | cons entry rest ih =>
    obtain ⟨k, v⟩ := entry
    have hkeys : keys ((k, v) :: rest) = k :: keys rest := rfl
    rw [hkeys, List.mem_cons, not_or] at hnew
    have hget : (map.insert k v).get? key = some old := by
      rw [get?_insert, if_neg (Ne.symm hnew.1), h]
    have hstep : ∀ start : OrderedMap α, start.merge ((k, v) :: rest) =
        (start.insert k v).merge rest := fun _ => rfl
    rw [hstep, hstep, ih hget hnew.2, insert_comm h hnew.1]

/-- To merge an insertion is to insert after the merge. -/
theorem merge_insert (map : OrderedMap α) {other : OrderedMap α} (h : other.keys.Nodup)
    (key : String) (value : α) :
    map.merge (other.insert key value) = (map.merge other).insert key value := by
  induction other generalizing map with
  | nil => rfl
  | cons entry rest ih =>
    obtain ⟨k, v⟩ := entry
    obtain ⟨hk, hrest⟩ := List.nodup_cons.mp h
    have hstep : ∀ v, map.merge ((k, v) :: rest) = (map.insert k v).merge rest := fun _ => rfl
    by_cases heq : k = key
    · subst heq
      have hget : (map.insert k v).get? k = some v := by rw [get?_insert, if_pos rfl]
      rw [insert, if_pos rfl, hstep, hstep, insert_merge hget hk, insert_insert]
    · rw [insert, if_neg heq]
      exact ih (map.insert k v) hrest

/-- To merge what has been merged is to merge one map after the other. -/
theorem merge_merge (map : OrderedMap α) {second : OrderedMap α} (h : second.keys.Nodup)
    (third : OrderedMap α) :
    map.merge (second.merge third) = (map.merge second).merge third := by
  induction third generalizing second with
  | nil => rfl
  | cons entry rest ih =>
    have hstep : ∀ start : OrderedMap α, start.merge (entry :: rest) =
        (start.insert entry.1 entry.2).merge rest := fun _ => rfl
    rw [hstep, hstep, ih (nodup_keys_insert h entry.1 entry.2), merge_insert map h]

/-! ## Removing keys -/

/-- Removing a key right after its first insertion gives the map before. -/
theorem erase_insert {map : OrderedMap α} {key : String} (h : map.get? key = none) (value : α) :
    (map.insert key value).erase key = map := by
  induction map with
  | nil => simp [insert, erase]
  | cons entry rest ih =>
    obtain ⟨k, v⟩ := entry
    by_cases hk : k = key
    · simp [get?, hk] at h
    · simp [get?, hk] at h
      simp [insert, erase, hk, ih h]

theorem keys_erase (map : OrderedMap α) (key : String) :
    (map.erase key).keys = map.keys.erase key := by
  induction map with
  | nil => rfl
  | cons entry rest ih =>
    obtain ⟨k, v⟩ := entry
    simp only [keys] at ih
    by_cases h : k = key <;> simp [erase, keys, h, ih]

/-- When no key comes twice, a removed key is absent and every other key holds what it held. -/
theorem get?_erase {map : OrderedMap α} (h : map.keys.Nodup) (key other : String) :
    (map.erase key).get? other = if key = other then none else map.get? other := by
  induction map with
  | nil => simp [erase]
  | cons entry rest ih =>
    obtain ⟨k, v⟩ := entry
    obtain ⟨hk, hrest⟩ := List.nodup_cons.mp h
    by_cases heq : k = key
    · subst heq
      by_cases ho : k = other
      · subst ho
        simpa [erase] using get?_eq_none_iff.mpr hk
      · simp [erase, get?, ho]
    · by_cases ho : k = other
      · subst ho
        simp [erase, get?, heq, Ne.symm heq]
      · simp [erase, get?, heq, ho, ih hrest]

end OrderedMap

end DocumentMapping
