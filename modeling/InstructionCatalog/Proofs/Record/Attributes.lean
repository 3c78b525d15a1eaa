import InstructionCatalog.Proofs.Markup.Attributes
import InstructionCatalog.Reconcile

/-!
# The attributes of a record

The name and the category are fields of their own.  Every way to read or to
reconcile a record keeps them out of its other attributes, and keeps the keys
of those distinct.
-/

namespace InstructionCatalog

open Markup

namespace Record

/-- The name and the category do not occur among the other attributes. -/
def IsRouted (r : Record) : Prop :=
  "name" ∉ r.attributes.keys ∧ "category" ∉ r.attributes.keys

theorem IsRouted.setAttribute {r : Record} (h : r.IsRouted) (key value : String) :
    (r.setAttribute key value).IsRouted := by
  rw [Record.setAttribute]
  split
  · exact h
  · rename_i hname
    split
    · exact h
    · rename_i hcategory
      constructor
      · exact fun hmem => (Attributes.mem_keys_put.mp hmem).elim (Ne.symm hname) h.1
      · exact fun hmem => (Attributes.mem_keys_put.mp hmem).elim (Ne.symm hcategory) h.2

theorem IsRouted.setAttributes {r : Record} (h : r.IsRouted) (changes : Attributes) :
    (r.setAttributes changes).IsRouted := by
  induction changes generalizing r with
  | nil => exact h
  | cons change rest ih => exact ih (h.setAttribute change.1 change.2)

theorem nodup_keys_setAttributes {r : Record} (h : r.attributes.keys.Nodup)
    (changes : Attributes) : (r.setAttributes changes).attributes.keys.Nodup := by
  induction changes generalizing r with
  | nil => exact h
  | cons change rest ih =>
      refine ih (r := r.setAttribute change.1 change.2) ?_
      rw [Record.setAttribute]
      split
      · exact h
      · split
        · exact h
        · exact Attributes.nodup_keys_put h change.1 change.2

theorem setAttributes_eq_putAll (r : Record) {changes : Attributes}
    (hname : "name" ∉ changes.keys) (hcategory : "category" ∉ changes.keys) :
    r.setAttributes changes = { r with attributes := r.attributes.putAll changes } := by
  induction changes generalizing r with
  | nil => rfl
  | cons change rest ih =>
      simp only [Attributes.keys_cons, List.mem_cons, not_or] at hname hcategory
      have hstep : r.setAttribute change.1 change.2 =
          { r with attributes := r.attributes.put change.1 change.2 } := by
        rw [Record.setAttribute, if_neg (Ne.symm hname.1), if_neg (Ne.symm hcategory.1)]
      change (r.setAttribute change.1 change.2).setAttributes rest = _
      rw [ih _ hname.2 hcategory.2, hstep]
      rfl

/-- Where the keys are distinct, the name is the value of its key. -/
theorem setAttributes_name (r : Record) {changes : Attributes} (h : changes.keys.Nodup) :
    (r.setAttributes changes).name = (changes.value? "name").getD r.name := by
  induction changes generalizing r with
  | nil => rfl
  | cons change rest ih =>
      obtain ⟨key, value⟩ := change
      obtain ⟨hfresh, hrest⟩ := List.nodup_cons.mp h
      change ((r.setAttribute key value).setAttributes rest).name = _
      rw [ih _ hrest, Attributes.value?]
      by_cases hkey : key = "name"
      · rw [hkey] at hfresh
        simp [hkey, Attributes.value?_of_not_mem hfresh, setAttribute]
      · by_cases hcategory : key = "category" <;> simp [hkey, hcategory, setAttribute]

theorem setAttributes_category (r : Record) {changes : Attributes} (h : changes.keys.Nodup) :
    (r.setAttributes changes).category = (changes.value? "category").or r.category := by
  induction changes generalizing r with
  | nil => rfl
  | cons change rest ih =>
      obtain ⟨key, value⟩ := change
      obtain ⟨hfresh, hrest⟩ := List.nodup_cons.mp h
      change ((r.setAttribute key value).setAttributes rest).category = _
      rw [ih _ hrest, Attributes.value?]
      by_cases hkey : key = "category"
      · rw [hkey] at hfresh
        simp [hkey, Attributes.value?_of_not_mem hfresh, setAttribute]
      · by_cases hname : key = "name" <;> simp [hkey, hname, setAttribute]

/-- What is neither the name nor the category is written to the other attributes. -/
theorem setAttributes_attributes (r : Record) (changes : Attributes) :
    (r.setAttributes changes).attributes = r.attributes.putAll
      (changes.filter fun entry => entry.1 ≠ "name" ∧ entry.1 ≠ "category") := by
  induction changes generalizing r with
  | nil => rfl
  | cons change rest ih =>
      obtain ⟨key, value⟩ := change
      change ((r.setAttribute key value).setAttributes rest).attributes = _
      rw [ih]
      by_cases hname : key = "name"
      · simp [hname, setAttribute]
      · by_cases hcategory : key = "category" <;> simp [hname, hcategory, setAttribute]

theorem isRouted_of_ofElement {e : Element} {r : Record} (h : ofElement e = .ok r) :
    r.IsRouted := by
  rw [ofElement] at h
  split at h
  · contradiction
  · split at h
    · contradiction
    · obtain rfl := Except.ok.inj h
      have hempty : ({} : Record).IsRouted := ⟨by simp, by simp⟩
      exact hempty.setAttributes e.attributes

theorem isRouted_simple (name category description : String) :
    (simple name category description).IsRouted :=
  ⟨by simp [simple], by simp [simple]⟩

/-! ## Reconciling -/

theorem merge_attributes (stored : Record) {incoming : Record} (h : incoming.IsRouted) :
    (stored.merge incoming).attributes = stored.attributes.putAll incoming.attributes := by
  rw [merge, setAttributes_eq_putAll _ h.1 h.2]

theorem merge_name (stored : Record) {incoming : Record} (h : incoming.IsRouted) :
    (stored.merge incoming).name = incoming.name := by
  rw [merge, setAttributes_eq_putAll _ h.1 h.2]

theorem IsRouted.reconcile {stored incoming : Record} (mode : Mode) (hstored : stored.IsRouted)
    (hincoming : incoming.IsRouted) : (Record.reconcile mode stored incoming).IsRouted := by
  cases mode with
  | replace => exact hincoming
  | merge =>
      simp only [Record.reconcile, IsRouted, merge_attributes stored hincoming,
        Attributes.mem_keys_putAll, not_or]
      exact ⟨⟨hincoming.1, hstored.1⟩, hincoming.2, hstored.2⟩

/-- The stored name has no part in the result. -/
@[simp] theorem reconcile_lowered (mode : Mode) (stored incoming : Record) :
    reconcile mode stored.lowered incoming = reconcile mode stored incoming := by
  cases mode <;> rfl

/-! ## The name after a merge -/

/--
A merge sets the other attributes after the name.  The record keeps its name in
this mode if none of them sets another one.
-/
def KeepsName (mode : Mode) (r : Record) : Prop :=
  mode = .merge → ∀ name, ("name", name) ∈ r.attributes → Text.lower name = Text.lower r.name

theorem IsRouted.keepsName {r : Record} (h : r.IsRouted) (mode : Mode) : r.KeepsName mode := by
  intro _ name hmem
  exact absurd (List.mem_map_of_mem hmem) h.1

theorem lower_setAttributes_name {r : Record} {changes : Attributes} {lowered : String}
    (hr : Text.lower r.name = lowered)
    (h : ∀ name, ("name", name) ∈ changes → Text.lower name = lowered) :
    Text.lower (r.setAttributes changes).name = lowered := by
  induction changes generalizing r with
  | nil => exact hr
  | cons change rest ih =>
      obtain ⟨key, value⟩ := change
      have hstep : Text.lower (r.setAttribute key value).name = lowered := by
        rw [setAttribute]
        split
        · rename_i hkey
          exact h value (by simp [hkey])
        · split <;> exact hr
      exact ih hstep fun name hname => h name (List.mem_cons_of_mem _ hname)

theorem KeepsName.lower_reconcile_name {mode : Mode} {incoming : Record}
    (h : incoming.KeepsName mode) (stored : Record) :
    Text.lower (reconcile mode stored incoming).name = Text.lower incoming.name := by
  cases mode with
  | replace => rfl
  | merge => exact lower_setAttributes_name rfl (h rfl)

end Record

end InstructionCatalog
