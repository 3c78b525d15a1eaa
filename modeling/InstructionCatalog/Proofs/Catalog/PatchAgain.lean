import InstructionCatalog.Proofs.Catalog.Run
import InstructionCatalog.Proofs.Markup.WellFormed
import InstructionCatalog.Proofs.Record.Merge

/-!
# Applying a patch again

The entries of one name act like a single record, the one they make together.
To reconcile a record with it twice is to do so once, so a patch that was read
changes nothing when it is applied a second time.
-/

namespace InstructionCatalog

open Markup

namespace Patch

def IsKeyed (patch : Patch) : Prop :=
  ∀ r, .record r ∈ patch.entries → r.Keyed

theorem isKeyed_of_read {text : String} {patch : Patch} (h : read text = .ok patch) :
    patch.IsKeyed := by
  intro r hr
  obtain ⟨root, e, hparse, hpart, hread⟩ := part_of_read h hr
  exact Record.keyed_of_ofElement (hpart.all (hasDistinctKeys_parse hparse)) hread

theorem mem_of_mem_recordsNamed {name : String} {entries : List Entry} {r : Record}
    (h : r ∈ recordsNamed name entries) : .record r ∈ entries := by
  induction entries with
  | nil => simp [recordsNamed] at h
  | cons entry rest ih =>
      cases entry with
      | nameless => exact List.mem_cons_of_mem _ (ih h)
      | record first =>
          rw [recordsNamed] at h
          split at h
          · rcases List.mem_cons.mp h with rfl | h
            · exact List.mem_cons_self ..
            · exact List.mem_cons_of_mem _ (ih h)
          · exact List.mem_cons_of_mem _ (ih h)

/-- Records that were folded in once are there already. -/
theorem foldRecords_foldRecords (mode : Mode) (stored : Option Record) {records : List Record}
    (h : ∀ r ∈ records, r.Keyed) :
    foldRecords mode (foldRecords mode stored records) records =
      foldRecords mode stored records := by
  cases records with
  | nil => cases stored <;> rfl
  | cons r rest =>
      obtain ⟨hr, hrest⟩ := List.forall_mem_cons.mp h
      have hfold := hr.foldl_reconcile hrest mode
      have honce := hr.foldl_reconcile_assoc hrest mode
      cases stored with
      | none =>
          simp only [foldRecords, honce, Record.reconcile_lowered, hfold.reconcile_self]
      | some s =>
          simp only [foldRecords, honce, Record.reconcile_lowered]
          rw [hfold.reconcile_assoc hfold, hfold.reconcile_self]

end Patch

namespace Catalog

theorem Ordered.applyPatch_applyPatch {c : Catalog} (h : c.Ordered) {patch : Patch}
    (hpatch : patch.IsKeyed) (mode : Mode) :
    ((c.applyPatch patch mode).1.applyPatch patch mode).1 = (c.applyPatch patch mode).1 := by
  have hkeeps : patch.KeepsNames mode := fun r hr => (hpatch r hr).routed.keepsName mode
  obtain ⟨hfirst, -, hfindFirst⟩ := h.applyEntries 1 hkeeps
  obtain ⟨hsecond, hroot, hfindSecond⟩ := hfirst.applyEntries 1 hkeeps
  refine hsecond.eq_of_find?_eq hfirst hroot fun name hname => ?_
  have hkeyed : ∀ r ∈ Patch.recordsNamed name patch.entries, r.Keyed :=
    fun r hr => hpatch r (Patch.mem_of_mem_recordsNamed hr)
  calc ((c.applyPatch patch mode).1.applyPatch patch mode).1.find? name
      = Patch.foldRecords mode ((c.applyPatch patch mode).1.find? name)
          (Patch.recordsNamed name patch.entries) := hfindSecond name hname
    _ = Patch.foldRecords mode
          (Patch.foldRecords mode (c.find? name) (Patch.recordsNamed name patch.entries))
          (Patch.recordsNamed name patch.entries) := by
        rw [Catalog.applyPatch, hfindFirst name hname]
    _ = Patch.foldRecords mode (c.find? name) (Patch.recordsNamed name patch.entries) :=
        Patch.foldRecords_foldRecords mode _ hkeyed
    _ = (c.applyPatch patch mode).1.find? name := (hfindFirst name hname).symm

/--
Whatever a catalog has been through, applying a patch that was read a second
time changes nothing in what the first time made of it.
-/
theorem reapply_patch {start : Catalog} (hstart : IsStart start) (operations : List Operation)
    {text : String} {patch : Patch} (hpatch : Patch.read text = .ok patch) (mode : Mode) :
    (((start.run operations).applyPatch patch mode).1.applyPatch patch mode).1 =
      ((start.run operations).applyPatch patch mode).1 :=
  (hstart.ordered.run operations).applyPatch_applyPatch (Patch.isKeyed_of_read hpatch) mode

theorem reapply_patch_repeated :
    ∃ patch, Patch.read
        ("<instructions><instruction name='Add' a='1'><x>1</x><x>2</x></instruction>" ++
          "<instruction name='ADD' b='2' a='3'><y/><x>3</x></instruction></instructions>") =
        .ok patch ∧
      patch.entries.length = 2 ∧
      ((run {} [.insert (Record.simple "add" "alu" "old")]).applyPatch patch .merge).1 =
        { records := [{ Record.simple "add" "alu" "old" with
            attributes := [("a", "3"), ("b", "2")]
            extra := [⟨"x", [], some "3", none, []⟩, ⟨"x", [], some "2", none, []⟩,
              ⟨"y", [], none, none, []⟩] }] } ∧
      (((run {} [.insert (Record.simple "add" "alu" "old")]).applyPatch patch .merge).1.applyPatch
          patch .merge).1 =
        ((run {} [.insert (Record.simple "add" "alu" "old")]).applyPatch patch .merge).1 := by
  have hread : Patch.read
      ("<instructions><instruction name='Add' a='1'><x>1</x><x>2</x></instruction>" ++
        "<instruction name='ADD' b='2' a='3'><y/><x>3</x></instruction></instructions>") =
      .ok ⟨[.record { name := "Add", attributes := [("a", "1")]
                      extra := [⟨"x", [], some "1", none, []⟩, ⟨"x", [], some "2", none, []⟩] },
        .record { name := "ADD", attributes := [("b", "2"), ("a", "3")]
                  extra := [⟨"y", [], none, none, []⟩, ⟨"x", [], some "3", none, []⟩] }]⟩ := by
    decide +kernel
  refine ⟨_, hread, rfl, ?_, reapply_patch .empty _ hread .merge⟩
  decide +kernel

end Catalog

end InstructionCatalog
