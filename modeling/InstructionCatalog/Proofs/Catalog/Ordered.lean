import InstructionCatalog.Catalog.Text
import InstructionCatalog.Proofs.LetterCase
import Mathlib.Data.String.Basic

/-!
# Ordered catalogs

A catalog is ordered when its names are lower-cased and strictly ascending.
Lookup in an ordered catalog is membership under a lower-cased name.  Each
operation has one lemma that says what it does to an ordered catalog; later
modules use these lemmas and not the definitions of the operations.
-/

namespace InstructionCatalog

open Markup

@[simp] theorem Record.lowered_name (r : Record) : r.lowered.name = Text.lower r.name := rfl

@[simp] theorem Record.lowered_lowered (r : Record) : r.lowered.lowered = r.lowered := by
  simp [Record.lowered]

theorem Record.lowered_eq_self {r : Record} (h : Text.lower r.name = r.name) :
    r.lowered = r := by
  rw [Record.lowered, h]

@[simp] theorem Record.isNamed_iff (r : Record) (name : String) :
    r.isNamed name = true ↔ Text.lower r.name = Text.lower name := by
  simp [Record.isNamed]

/-! ## Insertion into a list of records -/

theorem insertOrdered_perm (r : Record) (rs : List Record) :
    (insertOrdered r rs).Perm (r :: rs) := by
  induction rs with
  | nil => exact .refl _
  | cons s rest ih =>
      rw [insertOrdered]
      split
      · exact .refl _
      · exact (ih.cons s).trans (.swap r s rest)

theorem mem_insertOrdered {r s : Record} {rs : List Record} :
    s ∈ insertOrdered r rs ↔ s = r ∨ s ∈ rs := by
  rw [(insertOrdered_perm r rs).mem_iff, List.mem_cons]

theorem insertOrdered_ascending {r : Record} {rs : List Record}
    (hrs : rs.Pairwise fun a b => a.name < b.name) (hnew : ∀ s ∈ rs, s.name ≠ r.name) :
    (insertOrdered r rs).Pairwise fun a b => a.name < b.name := by
  induction rs with
  | nil => simp [insertOrdered]
  | cons s rest ih =>
      obtain ⟨hs, hrest⟩ := List.pairwise_cons.mp hrs
      rw [insertOrdered]
      split
      · rename_i hlt
        refine List.pairwise_cons.mpr ⟨?_, hrs⟩
        intro t ht
        rcases List.mem_cons.mp ht with rfl | ht
        · exact hlt
        · exact lt_trans hlt (hs t ht)
      · rename_i hnot
        have hsr : s.name < r.name := lt_of_le_of_ne (not_lt.mp hnot) (hnew s (by simp))
        refine List.pairwise_cons.mpr ⟨?_, ih hrest fun t ht => hnew t (by simp [ht])⟩
        intro t ht
        rcases mem_insertOrdered.mp ht with rfl | ht
        · exact hsr
        · exact hs t ht

/-! ## Removal from a list -/

theorem eraseP_eq_filter {α : Type} {p : α → Bool} {xs : List α}
    (hunique : xs.Pairwise fun a b => p a = true → p b = false) :
    xs.eraseP p = xs.filter fun x => !p x := by
  induction xs with
  | nil => rfl
  | cons x rest ih =>
      obtain ⟨hx, hrest⟩ := List.pairwise_cons.mp hunique
      by_cases hp : p x = true
      · have hkept : ∀ y ∈ rest, (!p y) = true := by
          intro y hy
          simp [hx y hy hp]
        simp [List.eraseP_cons_of_pos, hp, List.filter_eq_self.mpr hkept]
      · simp [List.eraseP_cons_of_neg, hp, ih hrest]

namespace Catalog

structure Ordered (c : Catalog) : Prop where
  lowered : ∀ r ∈ c.records, Text.lower r.name = r.name
  ascending : c.records.Pairwise fun a b => a.name < b.name

def place (c : Catalog) (r : Record) : Catalog :=
  { c with records := insertOrdered r.lowered c.records }

/-- An edit changes nothing, or it puts the edited record in the place of the old one. -/
theorem applyEdit_cases {c updated : Catalog} {old : String} {edited : Record} {change : Change}
    (h : c.applyEdit old edited = .ok (updated, change)) :
    updated = c ∨ ∃ index, c.replace old edited.lowered = .ok (updated, index) := by
  rw [applyEdit] at h
  split at h
  · contradiction
  · split at h
    · exact .inl (Prod.mk.inj (Except.ok.inj h)).1.symm
    · split at h
      · contradiction
      · rename_i index hreplace
        obtain ⟨rfl, -⟩ := Prod.mk.inj (Except.ok.inj h)
        exact .inr ⟨index, hreplace⟩

theorem ordered_empty (rootAttributes : Attributes) :
    Ordered { rootAttributes, records := [] } :=
  ⟨by simp, by simp⟩

namespace Ordered

variable {c : Catalog}

/-! ## Lookup -/

theorem names_nodup (h : c.Ordered) : c.names.Nodup :=
  List.pairwise_map.mpr (h.ascending.imp fun hlt => ne_of_lt hlt)

theorem eq_of_name_eq (h : c.Ordered) {r s : Record} (hr : r ∈ c.records) (hs : s ∈ c.records)
    (hname : r.name = s.name) : r = s :=
  List.inj_on_of_nodup_map h.names_nodup hr hs hname

theorem isNamed_iff (h : c.Ordered) {r : Record} (hr : r ∈ c.records) (name : String) :
    r.isNamed name = true ↔ r.name = Text.lower name := by
  rw [Record.isNamed_iff, h.lowered r hr]

/-- Of two records at most one has a given name. -/
theorem isNamed_unique (h : c.Ordered) (name : String) :
    c.records.Pairwise fun a b => a.isNamed name = true → b.isNamed name = false := by
  refine h.ascending.imp_of_mem ?_
  intro a b ha hb hlt hanamed
  rw [← Bool.not_eq_true, h.isNamed_iff hb, ← (h.isNamed_iff ha name).mp hanamed]
  exact ne_of_gt hlt

theorem find?_eq_some_iff (h : c.Ordered) {name : String} {r : Record} :
    c.find? name = some r ↔ r ∈ c.records ∧ r.name = Text.lower name := by
  rw [Catalog.find?]
  constructor
  · intro hfind
    have hr := List.mem_of_find?_eq_some hfind
    have hnamed := List.find?_some hfind
    exact ⟨hr, (h.isNamed_iff hr name).mp hnamed⟩
  · rintro ⟨hr, hname⟩
    cases hfind : c.records.find? fun s => s.isNamed name with
    | none =>
        have hnone := List.find?_eq_none.mp hfind r hr
        exact absurd ((h.isNamed_iff hr name).mpr hname) hnone
    | some s =>
        have hs := List.mem_of_find?_eq_some hfind
        have hnamed := List.find?_some hfind
        have hsname := (h.isNamed_iff hs name).mp hnamed
        rw [h.eq_of_name_eq hs hr (hsname.trans hname.symm)]

theorem find?_eq_none_iff (h : c.Ordered) {name : String} :
    c.find? name = none ↔ ∀ r ∈ c.records, r.name ≠ Text.lower name := by
  constructor
  · intro hfind r hr hname
    have := h.find?_eq_some_iff.mpr ⟨hr, hname⟩
    simp [hfind] at this
  · intro hall
    cases hfind : c.find? name with
    | none => rfl
    | some r =>
        obtain ⟨hr, hname⟩ := h.find?_eq_some_iff.mp hfind
        exact absurd hname (hall r hr)

theorem isSome_find?_iff (h : c.Ordered) (name : String) :
    (c.find? name).isSome ↔ Text.lower name ∈ c.names := by
  rw [Option.isSome_iff_exists, names, List.mem_map]
  exact exists_congr fun r => h.find?_eq_some_iff

theorem find?_lower (h : c.Ordered) (name : String) :
    c.find? (Text.lower name) = c.find? name := by
  ext r
  rw [h.find?_eq_some_iff, h.find?_eq_some_iff, Text.lower_lower]

/-- The order leaves no choice: the records of an ordered catalog are decided by which they are. -/
theorem records_eq_of_mem_iff {d : Catalog} (hc : c.Ordered) (hd : d.Ordered)
    (hmem : ∀ r, r ∈ c.records ↔ r ∈ d.records) : c.records = d.records := by
  have : Std.Irrefl fun a b : Record => a.name < b.name := ⟨fun a => lt_irrefl a.name⟩
  have : Std.Antisymm fun a b : Record => a.name < b.name :=
    ⟨fun a b hab hba => absurd hba (lt_asymm hab)⟩
  exact hc.ascending.eq_of_mem_iff hd.ascending hmem

theorem eq_of_find?_eq {d : Catalog} (hc : c.Ordered) (hd : d.Ordered)
    (hroot : c.rootAttributes = d.rootAttributes)
    (hfind : ∀ name, Text.lower name = name → c.find? name = d.find? name) : c = d := by
  have hrecords : c.records = d.records := by
    refine hc.records_eq_of_mem_iff hd fun r => ?_
    constructor
    · intro hr
      have hlower := hc.lowered r hr
      have hfound := hc.find?_eq_some_iff.mpr ⟨hr, hlower.symm⟩
      rw [hfind r.name hlower] at hfound
      exact (hd.find?_eq_some_iff.mp hfound).1
    · intro hr
      have hlower := hd.lowered r hr
      have hfound := hd.find?_eq_some_iff.mpr ⟨hr, hlower.symm⟩
      rw [← hfind r.name hlower] at hfound
      exact (hc.find?_eq_some_iff.mp hfound).1
  rw [show c = ⟨c.rootAttributes, c.records⟩ from rfl, hroot, hrecords]

theorem indexOf?_eq_some_iff (h : c.Ordered) {name : String} {i : Nat} :
    c.indexOf? name = some i ↔ ∃ r, c.records[i]? = some r ∧ r.name = Text.lower name := by
  rw [indexOf?, List.findIdx?_eq_some_iff_getElem]
  constructor
  · rintro ⟨hi, hnamed, -⟩
    rw [Record.isNamed_iff, h.lowered _ (List.getElem_mem hi)] at hnamed
    exact ⟨_, List.getElem?_eq_getElem hi, hnamed⟩
  · rintro ⟨r, hget, hname⟩
    obtain ⟨hi, rfl⟩ := List.getElem?_eq_some_iff.mp hget
    refine ⟨hi, ?_, ?_⟩
    · rw [Record.isNamed_iff, h.lowered _ (List.getElem_mem hi), hname]
    · intro j hj hnamed
      have hlt := List.pairwise_iff_getElem.mp h.ascending j i (by omega) hi hj
      rw [Record.isNamed_iff, h.lowered _ (List.getElem_mem (by omega)), ← hname] at hnamed
      exact absurd hnamed (ne_of_lt hlt)

theorem indexOf?_eq_none_iff (c : Catalog) (name : String) :
    c.indexOf? name = none ↔ c.find? name = none := by
  simp only [indexOf?, find?, List.findIdx?_eq_none_iff, List.find?_eq_none, Bool.not_eq_true]

/-- The test for a clash finds another record exactly when the names differ. -/
theorem clash_iff (h : c.Ordered) {old new : String} {index : Nat}
    (hindex : c.indexOf? old = some index) :
    (c.indexOf? new).any (· ≠ index) = true ↔
      (c.find? new).isSome ∧ Text.lower new ≠ Text.lower old := by
  obtain ⟨r, hr, hrname⟩ := h.indexOf?_eq_some_iff.mp hindex
  cases hnew : c.indexOf? new with
  | none => simp [(indexOf?_eq_none_iff c new).mp hnew]
  | some j =>
      obtain ⟨s, hs, hsname⟩ := h.indexOf?_eq_some_iff.mp hnew
      have hfind : c.find? new = some s :=
        h.find?_eq_some_iff.mpr ⟨List.mem_of_getElem? hs, hsname⟩
      have hsame : j = index ↔ Text.lower new = Text.lower old := by
        constructor
        · rintro rfl
          rw [hs, Option.some.injEq] at hr
          rw [← hsname, ← hrname, hr]
        · intro hlower
          have := h.indexOf?_eq_some_iff.mpr ⟨s, hs, hsname.trans hlower⟩
          rw [hindex] at this
          exact (Option.some.inj this).symm
      simp [hfind, hsame]

/-! ## Operations -/

theorem erase (h : c.Ordered) (name : String) : (c.erase name).Ordered :=
  ⟨fun r hr => h.lowered r (List.mem_of_mem_eraseP hr),
    h.ascending.sublist List.eraseP_sublist⟩

theorem mem_erase (h : c.Ordered) {name : String} {r : Record} :
    r ∈ (c.erase name).records ↔ r ∈ c.records ∧ r.name ≠ Text.lower name := by
  rw [Catalog.erase, eraseP_eq_filter (h.isNamed_unique name), List.mem_filter,
    and_congr_right_iff]
  intro hr
  rw [Bool.not_eq_true', ← Bool.not_eq_true, h.isNamed_iff hr]

theorem find?_erase (h : c.Ordered) (old name : String) :
    (c.erase old).find? name =
      if Text.lower name = Text.lower old then none else c.find? name := by
  ext r
  rw [(h.erase old).find?_eq_some_iff, h.mem_erase]
  split
  · rename_i hsame
    simp only [reduceCtorEq, iff_false]
    rintro ⟨⟨-, hold⟩, hname⟩
    exact hold (hname.trans hsame)
  · rename_i hother
    rw [h.find?_eq_some_iff]
    constructor
    · rintro ⟨⟨hr, -⟩, hname⟩
      exact ⟨hr, hname⟩
    · rintro ⟨hr, hname⟩
      exact ⟨⟨hr, fun hold => hother (hname.symm.trans hold)⟩, hname⟩

theorem place (h : c.Ordered) {r : Record} (hfresh : c.find? r.name = none) :
    (c.place r).Ordered := by
  have hnew := h.find?_eq_none_iff.mp hfresh
  refine ⟨?_, insertOrdered_ascending h.ascending hnew⟩
  intro s hs
  rcases mem_insertOrdered.mp hs with rfl | hs
  · simp
  · exact h.lowered s hs

theorem find?_place (h : c.Ordered) {r : Record} (hfresh : c.find? r.name = none)
    (name : String) :
    (c.place r).find? name =
      if Text.lower name = Text.lower r.name then some r.lowered else c.find? name := by
  have hnew := h.find?_eq_none_iff.mp hfresh
  ext s
  rw [(h.place hfresh).find?_eq_some_iff, Catalog.place, mem_insertOrdered]
  split
  · rename_i hsame
    rw [hsame, Option.some.injEq]
    constructor
    · rintro ⟨rfl | hs, hname⟩
      · rfl
      · exact absurd hname (hnew s hs)
    · rintro rfl
      exact ⟨.inl rfl, rfl⟩
  · rename_i hother
    rw [h.find?_eq_some_iff]
    constructor
    · rintro ⟨rfl | hs, hname⟩
      · exact absurd hname.symm hother
      · exact ⟨hs, hname⟩
    · rintro ⟨hs, hname⟩
      exact ⟨.inr hs, hname⟩

theorem insert_eq (h : c.Ordered) (r : Record) :
    c.insert r =
      if (c.find? r.name).isSome then .error (.duplicateName (Text.lower r.name))
      else .ok (c.place r, slotOf (Text.lower r.name) c.records) := by
  simp only [Catalog.insert, Record.lowered_name, h.find?_lower, Catalog.place]

theorem insert (h : c.Ordered) {r : Record} {updated : Catalog} {index : Nat}
    (hinsert : c.insert r = .ok (updated, index)) : updated.Ordered := by
  rw [h.insert_eq] at hinsert
  split at hinsert
  · contradiction
  · rename_i hfresh
    obtain ⟨rfl, -⟩ := Prod.mk.inj (Except.ok.inj hinsert)
    exact h.place (by simpa using hfresh)

theorem remove (h : c.Ordered) {name : String} {updated : Catalog} {removed : Record}
    (hremove : c.remove name = .ok (updated, removed)) : updated.Ordered := by
  rw [Catalog.remove] at hremove
  split at hremove
  · contradiction
  · obtain ⟨rfl, -⟩ := Prod.mk.inj (Except.ok.inj hremove)
    exact h.erase name

/-- Once the test for a clash has passed, the last insertion of `replace` cannot fail. -/
theorem find?_erase_eq_none (h : c.Ordered) {old new : String}
    (hclash : ¬((c.find? new).isSome ∧ Text.lower new ≠ Text.lower old)) :
    (c.erase old).find? new = none := by
  rw [h.find?_erase]
  split
  · rfl
  · rename_i hother
    simpa [hother] using hclash

theorem replace_eq (h : c.Ordered) (old : String) (r : Record) :
    c.replace old r =
      if (c.find? old).isNone then .error (.recordNotFound old)
      else if (c.find? r.name).isSome ∧ Text.lower r.name ≠ Text.lower old then
        .error (.duplicateName (Text.lower r.name))
      else .ok ((c.erase old).place r, slotOf (Text.lower r.name) (c.erase old).records) := by
  rw [Catalog.replace]
  cases hindex : c.indexOf? old with
  | none => simp [(indexOf?_eq_none_iff c old).mp hindex]
  | some index =>
      have hfound : ¬ (c.find? old).isNone := by
        intro hnone
        have := (indexOf?_eq_none_iff c old).mpr (Option.isNone_iff_eq_none.mp hnone)
        simp [hindex] at this
      simp only [h.clash_iff hindex, if_neg hfound]
      split
      · rfl
      · rename_i hclash
        have hfresh := h.find?_erase_eq_none hclash
        rw [(h.erase old).insert_eq, hfresh]
        rfl

theorem replace (h : c.Ordered) {old : String} {r : Record} {updated : Catalog} {index : Nat}
    (hreplace : c.replace old r = .ok (updated, index)) : updated.Ordered := by
  rw [h.replace_eq] at hreplace
  split at hreplace
  · contradiction
  · split at hreplace
    · contradiction
    · rename_i hclash
      obtain ⟨rfl, -⟩ := Prod.mk.inj (Except.ok.inj hreplace)
      exact (h.erase old).place (h.find?_erase_eq_none hclash)

theorem applyEdit (h : c.Ordered) {old : String} {edited : Record} {updated : Catalog}
    {change : Change} (hedit : c.applyEdit old edited = .ok (updated, change)) :
    updated.Ordered := by
  obtain rfl | ⟨index, hreplace⟩ := applyEdit_cases hedit
  · exact h
  · exact h.replace hreplace

end Ordered

/-! ## Catalogs from records and from texts -/

theorem ordered_insertAll {c updated : Catalog} {records : List Record} (h : c.Ordered)
    (hinsert : c.insertAll records = .ok updated) : updated.Ordered := by
  induction records generalizing c with
  | nil =>
      obtain rfl := Except.ok.inj hinsert
      exact h
  | cons r rest ih =>
      rw [insertAll, List.foldlM_cons] at hinsert
      cases hstep : c.insert r with
      | error e =>
          rw [hstep] at hinsert
          contradiction
      | ok inserted =>
          rw [hstep] at hinsert
          exact ih (h.insert hstep) hinsert

theorem firstRepeated_eq_none_iff (seen names : List String) :
    firstRepeated seen names = none ↔ names.Nodup ∧ ∀ name ∈ names, name ∉ seen := by
  induction names generalizing seen with
  | nil => simp [firstRepeated]
  | cons name rest ih =>
      rw [firstRepeated]
      split
      · rename_i hseen
        simp [hseen]
      · rename_i hseen
        rw [ih, List.nodup_cons]
        constructor
        · rintro ⟨hrest, hfresh⟩
          refine ⟨⟨fun hmem => ?_, hrest⟩, ?_⟩
          · simpa using hfresh name hmem
          · intro other hother
            rcases List.mem_cons.mp hother with rfl | hother
            · exact hseen
            · exact fun hmem => hfresh other hother (by simp [hmem])
        · rintro ⟨⟨hname, hrest⟩, hfresh⟩
          refine ⟨hrest, fun other hother hmem => ?_⟩
          rcases List.mem_cons.mp hmem with rfl | hmem
          · exact hname hother
          · exact hfresh other (by simp [hother]) hmem

theorem sortRecords_perm (records : List Record) : (sortRecords records).Perm records :=
  List.mergeSort_perm records _

theorem sortRecords_ascending {records : List Record} (h : (records.map Record.name).Nodup) :
    (sortRecords records).Pairwise fun a b => a.name < b.name := by
  have hsorted : (sortRecords records).Pairwise fun a b => decide (a.name ≤ b.name) = true :=
    List.pairwise_mergeSort (fun a b c hab hbc => by simp at *; exact le_trans hab hbc)
      (fun a b => by simpa using le_total a.name b.name) records
  have hnodup : (sortRecords records).Pairwise fun a b => a.name ≠ b.name :=
    List.pairwise_map.mp (((sortRecords_perm records).map Record.name).nodup_iff.mpr h)
  refine (hsorted.and hnodup).imp ?_
  rintro a b ⟨hle, hne⟩
  exact lt_of_le_of_ne (by simpa using hle) hne

theorem ordered_sortRecords (rootAttributes : Attributes) {found : List Record}
    (h : ((found.map Record.lowered).map Record.name).Nodup) :
    Ordered { rootAttributes, records := sortRecords (found.map Record.lowered) } := by
  refine ⟨?_, sortRecords_ascending h⟩
  intro r hr
  rw [(sortRecords_perm _).mem_iff, List.mem_map] at hr
  obtain ⟨s, -, rfl⟩ := hr
  simp

theorem read_eq_ok_iff {text : String} {c : Catalog} :
    read text = .ok c ↔
      ∃ rootAttributes found, readRecords text = .ok (rootAttributes, found) ∧
        ((found.map Record.lowered).map Record.name).Nodup ∧
        c = { rootAttributes, records := sortRecords (found.map Record.lowered) } := by
  rw [read, readDefect]
  cases readRecords text with
  | error e => simp [bind, Except.bind, Except.mapError]
  | ok result =>
      obtain ⟨rootAttributes, found⟩ := result
      have hnone := firstRepeated_eq_none_iff [] ((found.map Record.lowered).map Record.name)
      simp only [List.not_mem_nil, not_false_eq_true, implies_true, and_true] at hnone
      simp only [bind, Except.bind]
      constructor
      · intro h
        split at h
        · contradiction
        · rename_i hrepeated
          exact ⟨rootAttributes, found, rfl, hnone.mp hrepeated, (Except.ok.inj h).symm⟩
      · rintro ⟨rootAttributes', found', hfound, hnodup, rfl⟩
        obtain ⟨rfl, rfl⟩ := Prod.mk.inj (Except.ok.inj hfound)
        rw [hnone.mpr hnodup]
        rfl

theorem ordered_read {text : String} {c : Catalog} (h : read text = .ok c) : c.Ordered := by
  obtain ⟨rootAttributes, found, -, hnodup, rfl⟩ := read_eq_ok_iff.mp h
  exact ordered_sortRecords rootAttributes hnodup

end Catalog

end InstructionCatalog
