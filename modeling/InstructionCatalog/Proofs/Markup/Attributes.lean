import InstructionCatalog.Markup.Attributes
import Mathlib.Tactic

/-!
# Keys of attribute lists

Writing attributes keeps keys distinct, and attributes with new keys are
appended in their order.  A value that is written hides the one before it.
Writing is associative, and writing distinct attributes over themselves changes
nothing.
-/

namespace InstructionCatalog.Markup.Attributes

def keys (attributes : Attributes) : List String :=
  attributes.map Prod.fst

@[simp] theorem keys_nil : keys [] = [] := rfl

@[simp] theorem keys_cons (entry : String × String) (rest : Attributes) :
    keys (entry :: rest) = entry.1 :: keys rest := rfl

@[simp] theorem keys_append (first second : Attributes) :
    keys (first ++ second) = keys first ++ keys second := by
  simp [keys]

theorem put_of_not_mem {key : String} {attributes : Attributes} (h : key ∉ attributes.keys)
    (value : String) : attributes.put key value = attributes ++ [(key, value)] := by
  induction attributes with
  | nil => rfl
  | cons entry rest ih =>
      obtain ⟨k, v⟩ := entry
      simp only [keys_cons, List.mem_cons, not_or] at h
      rw [put, if_neg (Ne.symm h.1), ih h.2]
      rfl

theorem keys_put_of_mem {key : String} {attributes : Attributes} (h : key ∈ attributes.keys)
    (value : String) : (attributes.put key value).keys = attributes.keys := by
  induction attributes with
  | nil => simp at h
  | cons entry rest ih =>
      obtain ⟨k, v⟩ := entry
      rw [put]
      split
      · rfl
      · rename_i hne
        have hrest : key ∈ keys rest := by
          rcases List.mem_cons.mp h with heq | hrest
          · exact absurd heq.symm hne
          · exact hrest
        simp [ih hrest]

theorem mem_keys_put {key other value : String} {attributes : Attributes} :
    other ∈ (attributes.put key value).keys ↔ other = key ∨ other ∈ attributes.keys := by
  by_cases h : key ∈ attributes.keys
  · rw [keys_put_of_mem h, or_iff_right_of_imp]
    rintro rfl
    exact h
  · simp [put_of_not_mem h, or_comm]

theorem nodup_keys_put {attributes : Attributes} (h : attributes.keys.Nodup)
    (key value : String) : (attributes.put key value).keys.Nodup := by
  by_cases hmem : key ∈ attributes.keys
  · rwa [keys_put_of_mem hmem]
  · rw [put_of_not_mem hmem, keys_append]
    exact h.append (by simp) (by simpa using hmem)

@[simp] theorem putAll_nil (attributes : Attributes) : attributes.putAll [] = attributes := rfl

@[simp] theorem putAll_cons (attributes rest : Attributes) (entry : String × String) :
    attributes.putAll (entry :: rest) = (attributes.put entry.1 entry.2).putAll rest := rfl

theorem mem_keys_putAll {other : String} {attributes changes : Attributes} :
    other ∈ (attributes.putAll changes).keys ↔
      other ∈ changes.keys ∨ other ∈ attributes.keys := by
  induction changes generalizing attributes with
  | nil => simp
  | cons change rest ih =>
      rw [putAll_cons, ih, mem_keys_put, keys_cons, List.mem_cons]
      tauto

theorem nodup_keys_putAll {attributes : Attributes} (h : attributes.keys.Nodup)
    (changes : Attributes) : (attributes.putAll changes).keys.Nodup := by
  induction changes generalizing attributes with
  | nil => exact h
  | cons change rest ih => exact ih (nodup_keys_put h change.1 change.2)

theorem putAll_eq_append {attributes changes : Attributes}
    (h : (attributes ++ changes).keys.Nodup) : attributes.putAll changes = attributes ++ changes := by
  induction changes generalizing attributes with
  | nil => simp
  | cons change rest ih =>
      have hfresh : change.1 ∉ attributes.keys := by
        intro hmem
        rw [keys_append, List.nodup_append] at h
        exact h.2.2 _ hmem change.1 (by simp) rfl
      rw [putAll_cons, put_of_not_mem hfresh, ih (by simpa using h), List.append_assoc]
      rfl

/-! ## Writing twice -/

theorem put_put (attributes : Attributes) (key first second : String) :
    (attributes.put key first).put key second = attributes.put key second := by
  induction attributes with
  | nil => simp [put]
  | cons entry rest ih =>
      obtain ⟨k, v⟩ := entry
      by_cases hk : k = key
      · simp [put, hk]
      · simp [put, hk, ih]

/-- A key that is there already can be written before or after another one. -/
theorem put_comm {attributes : Attributes} {key other : String} (h : key ∈ attributes.keys)
    (hne : other ≠ key) (value second : String) :
    (attributes.put key value).put other second = (attributes.put other second).put key value := by
  induction attributes with
  | nil => simp at h
  | cons entry rest ih =>
      obtain ⟨k, v⟩ := entry
      by_cases hk : k = key
      · subst hk
        simp [put, hne.symm]
      · have hrest : key ∈ keys rest := by
          rcases List.mem_cons.mp h with heq | hrest
          · exact absurd heq.symm hk
          · exact hrest
        by_cases ho : k = other
        · subst ho
          simp [put, hk]
        · simp [put, hk, ho, ih hrest]

theorem putAll_put_comm {attributes changes : Attributes} {key : String}
    (h : key ∈ attributes.keys) (hchanges : key ∉ changes.keys) (value : String) :
    (attributes.put key value).putAll changes = (attributes.putAll changes).put key value := by
  induction changes generalizing attributes with
  | nil => rfl
  | cons change rest ih =>
      simp only [keys_cons, List.mem_cons, not_or] at hchanges
      rw [putAll_cons, putAll_cons, put_comm h (Ne.symm hchanges.1),
        ih (mem_keys_put.mpr (.inr h)) hchanges.2]

/-- Writing changed attributes is writing the attributes and then the change. -/
theorem putAll_put {changes : Attributes} (h : changes.keys.Nodup) (attributes : Attributes)
    (key value : String) :
    attributes.putAll (changes.put key value) = (attributes.putAll changes).put key value := by
  induction changes generalizing attributes with
  | nil => rfl
  | cons change rest ih =>
      obtain ⟨k, v⟩ := change
      obtain ⟨hk, hrest⟩ := List.nodup_cons.mp h
      rw [put]
      split
      · rename_i heq
        subst heq
        have hpresent : k ∈ (attributes.put k v).keys := mem_keys_put.mpr (.inl rfl)
        rw [putAll_cons, putAll_cons, ← putAll_put_comm hpresent hk, put_put]
      · rw [putAll_cons, putAll_cons, ih hrest]

theorem putAll_assoc {first : Attributes} (h : first.keys.Nodup)
    (attributes second : Attributes) :
    (attributes.putAll first).putAll second = attributes.putAll (first.putAll second) := by
  induction second generalizing first with
  | nil => rfl
  | cons change rest ih =>
      rw [putAll_cons, putAll_cons, ← putAll_put h, ih (nodup_keys_put h change.1 change.2)]

theorem put_of_value?_eq {attributes : Attributes} {key value : String}
    (h : attributes.value? key = some value) : attributes.put key value = attributes := by
  induction attributes with
  | nil => simp [value?] at h
  | cons entry rest ih =>
      obtain ⟨k, v⟩ := entry
      by_cases hk : k = key
      · simp [put, value?, hk] at h ⊢
        exact h.symm
      · simp only [value?, hk, if_false] at h
        simp [put, hk, ih h]

theorem value?_of_not_mem {attributes : Attributes} {key : String} (h : key ∉ attributes.keys) :
    attributes.value? key = none := by
  induction attributes with
  | nil => rfl
  | cons entry rest ih =>
      simp only [keys_cons, List.mem_cons, not_or] at h
      rw [value?, if_neg (Ne.symm h.1), ih h.2]

theorem value?_of_mem {attributes : Attributes} (h : attributes.keys.Nodup)
    {entry : String × String} (hentry : entry ∈ attributes) :
    attributes.value? entry.1 = some entry.2 := by
  induction attributes with
  | nil => simp at hentry
  | cons first rest ih =>
      obtain ⟨k, v⟩ := first
      obtain ⟨hk, hrest⟩ := List.nodup_cons.mp h
      rcases List.mem_cons.mp hentry with rfl | hmem
      · simp [value?]
      · have hne : k ≠ entry.1 := by
          rintro rfl
          exact hk (List.mem_map.mpr ⟨entry, hmem, rfl⟩)
        simp [value?, hne, ih hrest hmem]

theorem filter_key_eq {attributes : Attributes} (h : attributes.keys.Nodup)
    (key : String) :
    attributes.filter (fun entry => entry.1 = key) =
      ((attributes.value? key).map fun value => (key, value)).toList := by
  induction attributes with
  | nil => rfl
  | cons entry rest ih =>
      obtain ⟨k, v⟩ := entry
      obtain ⟨hfresh, hrest⟩ := List.nodup_cons.mp h
      by_cases hk : k = key
      · subst hk
        have hnone : value? k rest = none := value?_of_not_mem hfresh
        rw [List.filter_cons_of_pos (by simp), ih hrest, hnone]
        simp [value?]
      · rw [List.filter_cons_of_neg (by simpa using hk), ih hrest, value?, if_neg hk]

theorem value?_putAll {changes : Attributes} (h : changes.keys.Nodup) (attributes : Attributes)
    (key : String) :
    (attributes.putAll changes).value? key = (changes.value? key).or (attributes.value? key) := by
  induction changes generalizing attributes with
  | nil => rfl
  | cons change rest ih =>
      obtain ⟨k, v⟩ := change
      obtain ⟨hfresh, hrest⟩ := List.nodup_cons.mp h
      rw [putAll_cons, ih hrest, value?]
      by_cases hkey : k = key
      · subst hkey
        rw [value?_of_not_mem hfresh, value?_put_self, if_pos rfl]
        rfl
      · rw [value?_put_of_ne (Ne.symm hkey), if_neg hkey]

/-- Keys stay where they are, and new ones follow in their order. -/
theorem keys_putAll {changes : Attributes} (h : changes.keys.Nodup) (attributes : Attributes) :
    (attributes.putAll changes).keys =
      attributes.keys ++ changes.keys.filter (· ∉ attributes.keys) := by
  induction changes generalizing attributes with
  | nil => simp
  | cons change rest ih =>
      obtain ⟨k, v⟩ := change
      obtain ⟨hfresh, hrest⟩ := List.nodup_cons.mp h
      rw [putAll_cons, ih hrest, keys_cons]
      by_cases hk : k ∈ attributes.keys
      · rw [keys_put_of_mem hk, List.filter_cons_of_neg (by simpa using hk)]
      · have hsame : (keys rest).filter (· ∉ attributes.keys ++ [k]) =
            (keys rest).filter (· ∉ attributes.keys) := by
          refine List.filter_congr fun other hother => ?_
          have hne : other ≠ k := fun heq => hfresh (heq ▸ hother)
          simp [hne]
        rw [put_of_not_mem hk, keys_append, List.filter_cons_of_pos (by simpa using hk)]
        simpa using hsame

theorem putAll_eq_self {attributes changes : Attributes}
    (h : ∀ change ∈ changes, attributes.value? change.1 = some change.2) :
    attributes.putAll changes = attributes := by
  induction changes with
  | nil => rfl
  | cons change rest ih =>
      obtain ⟨hchange, hrest⟩ := List.forall_mem_cons.mp h
      rw [putAll_cons, put_of_value?_eq hchange, ih hrest]

/-- Distinct attributes that are written over themselves stay as they are. -/
theorem putAll_self {attributes : Attributes} (h : attributes.keys.Nodup) :
    attributes.putAll attributes = attributes :=
  putAll_eq_self fun _ hchange => value?_of_mem h hchange

end InstructionCatalog.Markup.Attributes
