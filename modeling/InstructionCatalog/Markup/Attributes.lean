/-!
# Attribute lists

Attributes keep the order in which they were written.  Lookup and update act
on the first attribute with a key.
-/

namespace InstructionCatalog.Markup

abbrev Attributes := List (String × String)

namespace Attributes

def value? (key : String) : Attributes → Option String
  | [] => none
  | (k, v) :: rest => if k = key then some v else value? key rest

/-- Overwrite the first attribute with this key in place, or append one. -/
def put (key value : String) : Attributes → Attributes
  | [] => [(key, value)]
  | (k, v) :: rest =>
      if k = key then (k, value) :: rest else (k, v) :: put key value rest

/-- Write the attributes of `changes` one after the other. -/
def putAll (attributes changes : Attributes) : Attributes :=
  changes.foldl (fun acc change => acc.put change.1 change.2) attributes

theorem value?_put_self (key value : String) (attributes : Attributes) :
    (attributes.put key value).value? key = some value := by
  induction attributes with
  | nil => simp [put, value?]
  | cons entry rest ih =>
      obtain ⟨k, v⟩ := entry
      by_cases h : k = key <;> simp [put, value?, h, ih]

theorem value?_put_of_ne {key other : String} (h : other ≠ key) (value : String)
    (attributes : Attributes) :
    (attributes.put key value).value? other = attributes.value? other := by
  induction attributes with
  | nil => simp [put, value?, h.symm]
  | cons entry rest ih =>
      obtain ⟨k, v⟩ := entry
      by_cases hk : k = key
      · subst hk
        simp [put, value?, h.symm]
      · simp only [put, hk, if_false, value?, ih]

end Attributes

end InstructionCatalog.Markup
