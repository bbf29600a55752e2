import Mathlib.Data.List.Induction
import Mathlib.Data.List.Nodup
import ODataClient.Dictionary

/-!
# Keys and entries of dictionaries

A dictionary has each key once, in the order in which the keys were first put in, and holds no
entry that was not put in.
-/

namespace ODataClient.Dictionary

variable {α : Type} {dictionary : Dictionary α} {entries : List (String × α)}
  {key : String} {value : α}

theorem keys_insert_of_mem (present : key ∈ dictionary.map Prod.fst) :
    (insert key value dictionary).map Prod.fst = dictionary.map Prod.fst := by
  induction dictionary with
  | nil => simp at present
  | cons entry dictionary ih =>
      by_cases same : entry.1 = key
      · simp [insert, same]
      · have later : key ∈ dictionary.map Prod.fst := by
          simpa [Ne.symm same] using present
        simp [insert, same, ih later]

theorem insert_of_notMem (absent : key ∉ dictionary.map Prod.fst) :
    insert key value dictionary = dictionary ++ [(key, value)] := by
  induction dictionary with
  | nil => rfl
  | cons entry dictionary ih =>
      simp only [List.map_cons, List.mem_cons, not_or] at absent
      simp [insert, Ne.symm absent.1, ih absent.2]

theorem mem_keys_insert {other : String} :
    other ∈ (insert key value dictionary).map Prod.fst ↔
      other = key ∨ other ∈ dictionary.map Prod.fst := by
  by_cases present : key ∈ dictionary.map Prod.fst
  · rw [keys_insert_of_mem present]
    constructor
    · exact .inr
    · rintro (rfl | member)
      · exact present
      · exact member
  · rw [insert_of_notMem present, List.map_append, List.mem_append, or_comm]
    simp

theorem nodup_keys_insert (distinct : (dictionary.map Prod.fst).Nodup) :
    ((insert key value dictionary).map Prod.fst).Nodup := by
  by_cases present : key ∈ dictionary.map Prod.fst
  · rwa [keys_insert_of_mem present]
  · rw [insert_of_notMem present, List.map_append, List.map_singleton, ← List.concat_eq_append]
    exact List.Nodup.concat present distinct

theorem eq_or_mem_of_mem_insert {entry : String × α}
    (member : entry ∈ insert key value dictionary) :
    entry = (key, value) ∨ entry ∈ dictionary := by
  induction dictionary with
  | nil => simpa [insert] using member
  | cons head dictionary ih =>
      by_cases same : head.1 = key
      · simp only [insert, same, if_true, List.mem_cons] at member
        exact member.imp id (List.mem_cons_of_mem head)
      · simp only [insert, same, if_false, List.mem_cons] at member
        obtain rfl | member := member
        · exact .inr List.mem_cons_self
        · exact (ih member).imp id (List.mem_cons_of_mem head)

theorem ofEntries_concat :
    ofEntries (entries ++ [(key, value)]) = insert key value (ofEntries entries) := by
  simp [ofEntries]

theorem mem_keys_ofEntries :
    key ∈ (ofEntries entries).map Prod.fst ↔ key ∈ entries.map Prod.fst := by
  induction entries using List.reverseRecOn with
  | nil => rfl
  | append_singleton entries entry ih =>
      rw [ofEntries_concat, mem_keys_insert, ih, List.map_append, List.mem_append, or_comm]
      simp

theorem nodup_keys_ofEntries : ((ofEntries entries).map Prod.fst).Nodup := by
  induction entries using List.reverseRecOn with
  | nil => exact List.nodup_nil
  | append_singleton entries entry ih =>
      rw [ofEntries_concat]
      exact nodup_keys_insert ih

/-- Entries with keys of their own all stay, in their order. -/
theorem ofEntries_of_nodup (distinct : (entries.map Prod.fst).Nodup) :
    ofEntries entries = entries := by
  induction entries using List.reverseRecOn with
  | nil => rfl
  | append_singleton entries entry ih =>
      rw [List.map_append, List.map_singleton, List.nodup_append] at distinct
      obtain ⟨earlier, -, apart⟩ := distinct
      have absent : entry.1 ∉ entries.map Prod.fst := fun present =>
        apart entry.1 present entry.1 (List.mem_singleton_self _) rfl
      rw [ofEntries_concat, ih earlier, insert_of_notMem absent]

theorem mem_of_mem_ofEntries {entry : String × α} (member : entry ∈ ofEntries entries) :
    entry ∈ entries := by
  induction entries using List.reverseRecOn with
  | nil => exact member
  | append_singleton entries last ih =>
      rw [ofEntries_concat] at member
      rw [List.mem_append, List.mem_singleton, or_comm]
      exact (eq_or_mem_of_mem_insert member).imp id ih

theorem mem_of_get? (found : dictionary.get? key = some value) : (key, value) ∈ dictionary := by
  obtain ⟨before, after, rfl, -⟩ := List.lookup_eq_some_iff.1 found
  simp

theorem mem_keys_of_get? (found : dictionary.get? key = some value) :
    key ∈ dictionary.map Prod.fst :=
  List.mem_map.2 ⟨(key, value), mem_of_get? found, rfl⟩

theorem get?_cons {entry : String × α} :
    get? (entry :: dictionary) key =
      if key = entry.1 then some entry.2 else dictionary.get? key := by
  obtain ⟨other, held⟩ := entry
  by_cases same : key = other
  · simp [get?, same]
  · simp [get?, List.lookup_cons, same, beq_false_of_ne same]

theorem get?_insert {other : String} :
    (insert other value dictionary).get? key =
      if key = other then some value else dictionary.get? key := by
  induction dictionary with
  | nil => rw [insert, get?_cons]
  | cons entry dictionary ih =>
      by_cases same : entry.1 = other
      · by_cases found : key = other <;> simp [insert, get?_cons, same, found]
      · have kept : insert other value (entry :: dictionary) =
            entry :: insert other value dictionary := by simp [insert, same]
        rw [kept, get?_cons, get?_cons, ih]
        by_cases found : key = entry.1
        · simp [found, same]
        · simp [found]

/-- Of the values for a key, the last one counts. -/
theorem get?_ofEntries_append {before after : List (String × α)}
    (last : key ∉ after.map Prod.fst) :
    get? (ofEntries (before ++ (key, value) :: after)) key = some value := by
  induction after using List.reverseRecOn with
  | nil => rw [ofEntries_concat, get?_insert, if_pos rfl]
  | append_singleton after entry ih =>
      obtain ⟨earlier, other⟩ : key ∉ after.map Prod.fst ∧ key ≠ entry.1 := by
        simpa using last
      rw [← List.cons_append, ← List.append_assoc, ofEntries_concat, get?_insert, if_neg other]
      exact ih earlier

theorem exists_get?_of_mem_keys (present : key ∈ dictionary.map Prod.fst) :
    ∃ value, dictionary.get? key = some value := by
  induction dictionary with
  | nil => simp at present
  | cons entry dictionary ih =>
      by_cases same : key = entry.1
      · exact ⟨entry.2, by rw [get?_cons, if_pos same]⟩
      · have later : key ∈ dictionary.map Prod.fst := by simpa [same] using present
        obtain ⟨value, found⟩ := ih later
        exact ⟨value, by rw [get?_cons, if_neg same, found]⟩

/-- The value of an entry is found, as no other entry has its key. -/
theorem get?_of_mem (distinct : (dictionary.map Prod.fst).Nodup)
    (member : (key, value) ∈ dictionary) : dictionary.get? key = some value := by
  induction dictionary with
  | nil => simp at member
  | cons entry dictionary ih =>
      obtain ⟨absent, distinct⟩ := List.nodup_cons.1 distinct
      rw [get?_cons]
      obtain rfl | later := List.mem_cons.1 member
      · rw [if_pos rfl]
      · have present : key ∈ dictionary.map Prod.fst := List.mem_map_of_mem later
        have other : key ≠ entry.1 := fun same => absent (same ▸ present)
        rw [if_neg other, ih distinct later]

/-- The dictionary with something made of each value. -/
def mapValues {β : Type} (make : α → β) (dictionary : Dictionary α) : Dictionary β :=
  dictionary.map fun entry => (entry.1, make entry.2)

variable {β : Type} {make : α → β}

theorem mapValues_insert :
    (insert key value dictionary).mapValues make =
      insert key (make value) (dictionary.mapValues make) := by
  induction dictionary with
  | nil => rfl
  | cons entry dictionary ih =>
      by_cases same : entry.1 = key
      · simp [mapValues, insert, same]
      · simp only [mapValues, insert, same, if_false, List.map_cons] at ih ⊢
        rw [ih]

theorem mapValues_ofEntries :
    (ofEntries entries).mapValues make =
      ofEntries (entries.map fun entry => (entry.1, make entry.2)) := by
  induction entries using List.reverseRecOn with
  | nil => rfl
  | append_singleton entries entry ih =>
      rw [List.map_append, List.map_singleton, ofEntries_concat, ofEntries_concat,
        mapValues_insert, ih]

theorem get?_mapValues : (dictionary.mapValues make).get? key = (dictionary.get? key).map make := by
  induction dictionary with
  | nil => rfl
  | cons entry dictionary ih =>
      rw [mapValues, List.map_cons, get?_cons, get?_cons]
      split
      · rfl
      · exact ih

end ODataClient.Dictionary
