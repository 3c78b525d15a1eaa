import InstructionCatalog.Proofs.Catalog.PatchAgain
import InstructionCatalog.Proofs.Catalog.SaveLoad

/-!
# The text of a catalog as a patch

A text that holds a catalog is also a patch with one entry for each record.
Loading it at once and applying it entry by entry to an empty catalog give the
same records, and a catalog takes no harm from its own text.
-/

namespace InstructionCatalog

open Markup

namespace Patch

theorem entryOf_of_ofElement {e : Element} {r : Record} (h : Record.ofElement e = .ok r) :
    entryOf e = .ok (.record r) := by
  rw [entryOf, h]

theorem mapM_entryOf_of_forall₂ {children : List Element} {records : List Record}
    (h : List.Forall₂ (fun child r => Record.ofElement child = .ok r) children records) :
    (children.filter fun child => child.tag = "instruction").mapM entryOf =
      .ok (records.map .record) := by
  induction h with
  | nil => rfl
  | cons hchild _ ih =>
      have htag := (Record.ofElement_eq_ok hchild).1
      rw [List.filter_cons_of_pos (by simpa using htag), List.mapM_cons,
        entryOf_of_ofElement hchild, ih]
      rfl

theorem read_eq_of_readRecords {text : String} {rootAttributes : Attributes}
    {records : List Record} (h : Catalog.readRecords text = .ok (rootAttributes, records)) :
    read text = .ok ⟨records.map .record⟩ := by
  obtain ⟨root, hparse, htag, -, hrecords⟩ := Catalog.readRecords_eq_ok_iff.mp h
  have hentries : (root.childrenNamed "instruction").mapM entryOf = .ok (records.map .record) :=
    mapM_entryOf_of_forall₂ hrecords
  have hother : ¬ "instructions" = "instruction" := by decide
  rw [read, hparse]
  simp only [htag, if_neg hother, hentries]
  rfl

end Patch

namespace Catalog

variable {c : Catalog}

/-! ## New records -/

theorem Ordered.patched_of_find?_eq_none (h : c.Ordered) {r : Record}
    (hfresh : c.find? r.name = none) (mode : Mode) : c.patched mode r = c.place r := by
  rw [Catalog.patched, hfresh, h.erase_of_find?_eq_none hfresh]
  rfl

/-- Records with new and different names are all added. -/
theorem Ordered.applyEntries_new (h : c.Ordered) (mode : Mode) (position : Nat)
    {records : List Record} (hrouted : ∀ r ∈ records, r.IsRouted)
    (hnodup : (records.map fun r => Text.lower r.name).Nodup)
    (hfresh : ∀ r ∈ records, c.find? r.name = none) :
    (c.applyEntries mode position (records.map .record)).2 =
        records.map (fun r => .added (Text.lower r.name)) ∧
      ∀ s, s ∈ (c.applyEntries mode position (records.map .record)).1.records ↔
        s ∈ c.records ∨ s ∈ records.map Record.lowered := by
  induction records generalizing c position with
  | nil => simp [Catalog.applyEntries]
  | cons r rest ih =>
      obtain ⟨hr, hrest⟩ := List.forall_mem_cons.mp hrouted
      obtain ⟨hother, hlater⟩ := List.nodup_cons.mp hnodup
      obtain ⟨hnew, hnewRest⟩ := List.forall_mem_cons.mp hfresh
      have hstill : ∀ s ∈ rest, (c.place r).find? s.name = none := by
        intro s hs
        have hne : Text.lower s.name ≠ Text.lower r.name :=
          fun heq => hother (List.mem_map.mpr ⟨s, hs, heq⟩)
        rw [h.find?_place hnew, if_neg hne, hnewRest s hs]
      obtain ⟨houtcomes, hmem⟩ := ih (h.place hnew) (position + 1) hrest hlater hstill
      rw [List.map_cons, applyEntries_cons, h.applyEntry_record (hr.keepsName mode) position,
        h.patched_of_find?_eq_none hnew, hnew]
      refine ⟨by simp [houtcomes], fun s => ?_⟩
      rw [hmem, Catalog.place, mem_insertOrdered, List.map_cons, List.mem_cons]
      tauto

/-! ## Records that are stored already -/

/-- Reconciling a stored record with itself leaves the catalog alone. -/
theorem Ordered.patched_eq_self (h : c.Ordered) {r : Record} (hr : r.Keyed)
    (hstored : c.find? r.name = some r.lowered) (mode : Mode) : c.patched mode r = c := by
  have hkeeps := hr.routed.keepsName mode
  refine (h.patched hkeeps).eq_of_find?_eq h rfl fun name _ => ?_
  rw [h.find?_patched hkeeps, hstored, Patch.combine, Record.reconcile_lowered,
    hr.reconcile_self]
  split
  · rename_i hsame
    rw [← hstored, ← h.find?_lower r.name, ← hsame, h.find?_lower]
  · rfl

theorem Ordered.applyEntries_stored (h : c.Ordered) (mode : Mode) (position : Nat)
    {records : List Record} (hkeyed : ∀ r ∈ records, r.Keyed)
    (hstored : ∀ r ∈ records, c.find? r.name = some r.lowered) :
    c.applyEntries mode position (records.map .record) =
      (c, records.map fun r => .ofMode mode (Text.lower r.name)) := by
  induction records generalizing position with
  | nil => rfl
  | cons r rest ih =>
      obtain ⟨hr, hrest⟩ := List.forall_mem_cons.mp hkeyed
      obtain ⟨hfirst, hlater⟩ := List.forall_mem_cons.mp hstored
      have happly := h.applyEntry_record (hr.routed.keepsName mode) position
      simp only [List.map_cons, applyEntries_cons, happly, h.patched_eq_self hr hfirst,
        ih (position + 1) hrest hlater, hfirst, Option.isNone_some]
      rfl

/--
A text that can be loaded can be read as a patch with one entry for each record.
Applied to an empty catalog it adds all of them and gives the records that are
loaded; applied to the loaded catalog it changes nothing.
-/
theorem applyPatch_loaded {text : String} {c : Catalog} (h : read text = .ok c) (mode : Mode) :
    ∃ found : List Record,
      Patch.read text = .ok ⟨found.map .record⟩ ∧
      (found.map Record.lowered).Perm c.records ∧
      applyPatch {} ⟨found.map .record⟩ mode =
        ({ records := c.records }, found.map fun r => .added (Text.lower r.name)) ∧
      c.applyPatch ⟨found.map .record⟩ mode =
        (c, found.map fun r => .ofMode mode (Text.lower r.name)) := by
  have hordered := ordered_read h
  obtain ⟨rootAttributes, found, hfound, hnodup, hc⟩ := read_eq_ok_iff.mp h
  have hperm : (found.map Record.lowered).Perm c.records := by
    rw [hc]
    exact (sortRecords_perm _).symm
  have hpatch := Patch.read_eq_of_readRecords hfound
  have hkeyed : ∀ r ∈ found, r.Keyed :=
    fun r hr => Patch.isKeyed_of_read hpatch r (List.mem_map_of_mem hr)
  have hnames : (found.map fun r => Text.lower r.name).Nodup := by
    simpa [Function.comp_def] using hnodup
  have hstored : ∀ r ∈ found, c.find? r.name = some r.lowered := by
    intro r hr
    exact hordered.find?_eq_some_iff.mpr ⟨hperm.subset (List.mem_map_of_mem hr), rfl⟩
  have hrouted : ∀ r ∈ found, r.IsRouted := fun r hr => (hkeyed r hr).routed
  have hempty := ordered_empty []
  obtain ⟨houtcomes, hmem⟩ := hempty.applyEntries_new mode 1 hrouted hnames fun r _ => rfl
  obtain ⟨hadded, hroot, -⟩ := hempty.applyEntries 1 (Patch.keepsNames_of_read hpatch mode)
  refine ⟨found, hpatch, hperm, ?_, hordered.applyEntries_stored mode 1 hkeyed hstored⟩
  have hrecords : (applyPatch {} ⟨found.map .record⟩ mode).1.records = c.records := by
    refine hadded.records_eq_of_mem_iff hordered fun s => ?_
    rw [hmem, ← hperm.mem_iff]
    simp
  refine Prod.ext ?_ houtcomes
  rw [← hrecords]
  exact congrArg (Catalog.mk · _) hroot

theorem applyPatch_loaded_unsorted :
    let text :=
      "<instructions v='1'><instruction name='SUB' b='x'/><instruction name='A'/></instructions>"
    let c : Catalog :=
      { rootAttributes := [("v", "1")]
        records := [{ name := "a" }, { name := "sub", attributes := [("b", "x")] }] }
    read text = .ok c ∧
      ∃ found : List Record, Patch.read text = .ok ⟨found.map .record⟩ ∧
        applyPatch {} ⟨found.map .record⟩ .merge =
          ({ records := c.records }, found.map fun r => .added (Text.lower r.name)) ∧
        c.applyPatch ⟨found.map .record⟩ .merge =
          (c, found.map fun r => .merged (Text.lower r.name)) := by
  have hread : read
      "<instructions v='1'><instruction name='SUB' b='x'/><instruction name='A'/></instructions>" =
      .ok { rootAttributes := [("v", "1")]
            records := [{ name := "a" }, { name := "sub", attributes := [("b", "x")] }] } := by
    cbv
  obtain ⟨found, hpatch, -, hadded, hmerged⟩ := applyPatch_loaded hread .merge
  exact ⟨hread, found, hpatch, hadded, hmerged⟩

end Catalog

end InstructionCatalog
