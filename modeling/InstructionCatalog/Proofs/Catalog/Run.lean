import InstructionCatalog.Proofs.Catalog.PatchFold

/-!
# Runs of operations

A run starts from an empty catalog, from records in any order or from a text,
and goes on with any operations.  Every catalog on the way is ordered.
-/

namespace InstructionCatalog

open Markup

namespace Catalog

/-! ## What a call leaves behind -/

def afterInsert (c : Catalog) (r : Record) : Catalog :=
  match c.insert r with
  | .ok (updated, _) => updated
  | .error _ => c

def afterRemove (c : Catalog) (name : String) : Catalog :=
  match c.remove name with
  | .ok (updated, _) => updated
  | .error _ => c

/--
Replacing in place: the old record is gone before the new one is inserted, so
an insertion that failed would lose it.
-/
def afterReplace (c : Catalog) (old : String) (r : Record) : Catalog :=
  match c.indexOf? old with
  | none => c
  | some index =>
      if (c.indexOf? r.name).any (· ≠ index) then c else (c.erase old).afterInsert r

def afterEdit (c : Catalog) (old : String) (edited : Record) : Catalog :=
  match c.applyEdit old edited with
  | .ok (updated, _) => updated
  | .error _ => c

theorem Ordered.afterInsert {c : Catalog} (h : c.Ordered) (r : Record) :
    (c.afterInsert r).Ordered := by
  rw [Catalog.afterInsert]
  split
  · rename_i hinsert
    exact h.insert hinsert
  · exact h

theorem Ordered.afterRemove {c : Catalog} (h : c.Ordered) (name : String) :
    (c.afterRemove name).Ordered := by
  rw [Catalog.afterRemove]
  split
  · rename_i hremove
    exact h.remove hremove
  · exact h

theorem Ordered.afterReplace {c : Catalog} (h : c.Ordered) (old : String) (r : Record) :
    (c.afterReplace old r).Ordered := by
  rw [Catalog.afterReplace]
  split
  · exact h
  · split
    · exact h
    · exact (h.erase old).afterInsert r

theorem Ordered.afterEdit {c : Catalog} (h : c.Ordered) (old : String) (edited : Record) :
    (c.afterEdit old edited).Ordered := by
  rw [Catalog.afterEdit]
  split
  · rename_i hedit
    exact h.applyEdit hedit
  · exact h

/-- Replacing in an ordered catalog never loses a record: when it fails nothing has changed. -/
theorem Ordered.afterReplace_eq {c : Catalog} (h : c.Ordered) (old : String) (r : Record) :
    c.afterReplace old r =
      match c.replace old r with
      | .ok (updated, _) => updated
      | .error _ => c := by
  rw [Catalog.afterReplace, Catalog.replace]
  cases hindex : c.indexOf? old with
  | none => rfl
  | some index =>
      simp only [h.clash_iff hindex]
      split
      · rfl
      · rename_i hclash
        have hfresh := h.find?_erase_eq_none hclash
        rw [Catalog.afterInsert, (h.erase old).insert_eq, hfresh]
        rfl

/-- An entry changes nothing, or its record is inserted, or put in the place of a stored one. -/
theorem applyEntry_cases (c : Catalog) (mode : Mode) (position : Nat) (entry : Patch.Entry) :
    (c.applyEntry mode position entry).1 = c ∨
      (∃ r index, entry = .record r ∧
        c.insert r = .ok ((c.applyEntry mode position entry).1, index)) ∨
      ∃ r stored index, entry = .record r ∧ c.find? (Text.lower r.name) = some stored ∧
        c.replace (Text.lower r.name) (Record.reconcile mode stored r) =
          .ok ((c.applyEntry mode position entry).1, index) := by
  cases entry with
  | nameless => exact .inl rfl
  | record r =>
      rw [applyEntry, applyRecord]
      cases hfind : c.find? (Text.lower r.name) with
      | none =>
          cases hinsert : c.insert r with
          | error e => exact .inl (by simp [Except.map])
          | ok inserted =>
              refine .inr (.inl ⟨r, inserted.2, rfl, ?_⟩)
              simp [hinsert, Except.map]
      | some stored =>
          cases hreplace : c.replace (Text.lower r.name) (Record.reconcile mode stored r) with
          | error e => exact .inl (by simp [hreplace, Except.map])
          | ok replaced =>
              refine .inr (.inr ⟨r, stored, replaced.2, rfl, hfind, ?_⟩)
              simp [hreplace, Except.map]

theorem Ordered.applyEntry {c : Catalog} (h : c.Ordered) (mode : Mode) (position : Nat)
    (entry : Patch.Entry) : (c.applyEntry mode position entry).1.Ordered := by
  rcases applyEntry_cases c mode position entry with
    hsame | ⟨r, index, -, hinsert⟩ | ⟨r, stored, index, -, -, hreplace⟩
  · rw [hsame]
    exact h
  · exact h.insert hinsert
  · exact h.replace hreplace

theorem Ordered.applyPatch {c : Catalog} (h : c.Ordered) (patch : Patch) (mode : Mode) :
    (c.applyPatch patch mode).1.Ordered := by
  have hentries : ∀ (position : Nat) (entries : List Patch.Entry),
      (c.applyEntries mode position entries).1.Ordered := by
    intro position entries
    induction entries generalizing c position with
    | nil => exact h
    | cons entry rest ih => exact ih (h.applyEntry mode position entry) (position + 1)
  exact hentries 1 patch.entries

/-! ## Operations and runs -/

/-- Adding a record is an insertion, and deleting one is a removal. -/
inductive Operation where
  | insert (r : Record)
  | remove (name : String)
  | replace (old : String) (r : Record)
  | applyPatch (patch : Patch) (mode : Mode)
  | applyEdit (old : String) (edited : Record)

def perform (c : Catalog) : Operation → Catalog
  | .insert r => c.afterInsert r
  | .remove name => c.afterRemove name
  | .replace old r => c.afterReplace old r
  | .applyPatch patch mode => (c.applyPatch patch mode).1
  | .applyEdit old edited => c.afterEdit old edited

def run (c : Catalog) (operations : List Operation) : Catalog :=
  operations.foldl perform c

inductive IsStart : Catalog → Prop where
  | empty : IsStart {}
  | ofRecords {records : List Record} {c : Catalog} (h : ofRecords records = .ok c) : IsStart c
  | read {text : String} {c : Catalog} (h : read text = .ok c) : IsStart c

theorem IsStart.ordered {c : Catalog} (h : IsStart c) : c.Ordered := by
  cases h with
  | empty => exact ordered_empty []
  | ofRecords h => exact ordered_insertAll (ordered_empty []) h
  | read h => exact ordered_read h

theorem Ordered.perform {c : Catalog} (h : c.Ordered) (operation : Operation) :
    (c.perform operation).Ordered := by
  cases operation with
  | insert r => exact h.afterInsert r
  | remove name => exact h.afterRemove name
  | replace old r => exact h.afterReplace old r
  | applyPatch patch mode => exact h.applyPatch patch mode
  | applyEdit old edited => exact h.afterEdit old edited

theorem Ordered.run {c : Catalog} (h : c.Ordered) (operations : List Operation) :
    (c.run operations).Ordered := by
  induction operations generalizing c with
  | nil => exact h
  | cons operation rest ih => exact ih (h.perform operation)

/-! ## What a run keeps -/

/-- Records keep the property under a lower-cased name and when they are reconciled. -/
structure IsStable (P : Record → Prop) : Prop where
  lowered : ∀ r, P r → P r.lowered
  reconcile : ∀ mode stored incoming, P stored → P incoming →
    P (Record.reconcile mode stored incoming)

structure Holds (rootAttributes : Attributes) (P : Record → Prop) (c : Catalog) : Prop where
  root : c.rootAttributes = rootAttributes
  records : ∀ r ∈ c.records, P r

def Operation.records : Operation → List Record
  | .insert r => [r]
  | .remove _ => []
  | .replace _ r => [r]
  | .applyPatch patch _ =>
      patch.entries.filterMap fun
        | .record r => some r
        | .nameless => none
  | .applyEdit _ edited => [edited]

section Keep

variable {rootAttributes : Attributes} {P : Record → Prop} {c updated : Catalog} {r : Record}

theorem Holds.erase (h : c.Holds rootAttributes P) (name : String) :
    (c.erase name).Holds rootAttributes P :=
  ⟨h.root, fun s hs => h.records s (List.mem_of_mem_eraseP hs)⟩

theorem Holds.find? (h : c.Holds rootAttributes P) {name : String}
    (hfind : c.find? name = some r) : P r :=
  h.records r (List.mem_of_find?_eq_some hfind)

theorem Holds.insert (h : c.Holds rootAttributes P) (hP : IsStable P) (hr : P r) {index : Nat}
    (hinsert : c.insert r = .ok (updated, index)) : updated.Holds rootAttributes P := by
  rw [Catalog.insert] at hinsert
  split at hinsert
  · contradiction
  · obtain ⟨rfl, -⟩ := Prod.mk.inj (Except.ok.inj hinsert)
    refine ⟨h.root, fun s hs => ?_⟩
    rcases mem_insertOrdered.mp hs with rfl | hs
    · exact hP.lowered r hr
    · exact h.records s hs

theorem Holds.replace (h : c.Holds rootAttributes P) (hP : IsStable P) (hr : P r) {old : String}
    {index : Nat} (hreplace : c.replace old r = .ok (updated, index)) :
    updated.Holds rootAttributes P := by
  rw [Catalog.replace] at hreplace
  split at hreplace
  · contradiction
  · split at hreplace
    · contradiction
    · exact (h.erase old).insert hP hr hreplace

theorem Holds.afterInsert (h : c.Holds rootAttributes P) (hP : IsStable P) (hr : P r) :
    (c.afterInsert r).Holds rootAttributes P := by
  rw [Catalog.afterInsert]
  split
  · rename_i hinsert
    exact h.insert hP hr hinsert
  · exact h

theorem Holds.afterReplace (h : c.Holds rootAttributes P) (hP : IsStable P) (old : String)
    (hr : P r) : (c.afterReplace old r).Holds rootAttributes P := by
  rw [Catalog.afterReplace]
  split
  · exact h
  · split
    · exact h
    · exact (h.erase old).afterInsert hP hr

theorem Holds.afterEdit (h : c.Holds rootAttributes P) (hP : IsStable P) (old : String) (hr : P r) :
    (c.afterEdit old r).Holds rootAttributes P := by
  rw [Catalog.afterEdit]
  split
  · rename_i hedit
    obtain rfl | ⟨index, hreplace⟩ := applyEdit_cases hedit
    · exact h
    · exact h.replace hP (hP.lowered r hr) hreplace
  · exact h

theorem Holds.applyEntry (h : c.Holds rootAttributes P) (hP : IsStable P) (mode : Mode)
    (position : Nat) {entry : Patch.Entry} (hentry : ∀ r, entry = .record r → P r) :
    (c.applyEntry mode position entry).1.Holds rootAttributes P := by
  rcases applyEntry_cases c mode position entry with
    hsame | ⟨r, index, hr, hinsert⟩ | ⟨r, stored, index, hr, hfind, hreplace⟩
  · rw [hsame]
    exact h
  · exact h.insert hP (hentry r hr) hinsert
  · exact h.replace hP (hP.reconcile mode stored r (h.find? hfind) (hentry r hr)) hreplace

theorem Holds.applyEntries (h : c.Holds rootAttributes P) (hP : IsStable P) (mode : Mode)
    (position : Nat) {entries : List Patch.Entry} (hentries : ∀ r, .record r ∈ entries → P r) :
    (c.applyEntries mode position entries).1.Holds rootAttributes P := by
  induction entries generalizing c position with
  | nil => exact h
  | cons entry rest ih =>
      have hentry : ∀ r, entry = .record r → P r := by
        rintro r rfl
        exact hentries r (List.mem_cons_self ..)
      exact ih (h.applyEntry hP mode position hentry) (position + 1)
        fun r hr => hentries r (List.mem_cons_of_mem _ hr)

/-- A property that lower-casing and reconciling keep is kept by every operation. -/
theorem Holds.perform (h : c.Holds rootAttributes P) (hP : IsStable P) {operation : Operation}
    (hrecords : ∀ r ∈ operation.records, P r) :
    (c.perform operation).Holds rootAttributes P := by
  cases operation with
  | insert r => exact h.afterInsert hP (hrecords r (by simp [Operation.records]))
  | remove name =>
      rw [Catalog.perform, Catalog.afterRemove, Catalog.remove]
      cases c.find? name with
      | none => exact h
      | some r => exact h.erase name
  | replace old r => exact h.afterReplace hP old (hrecords r (by simp [Operation.records]))
  | applyPatch patch mode =>
      refine h.applyEntries hP mode 1 fun r hr => hrecords r ?_
      exact List.mem_filterMap.mpr ⟨.record r, hr, rfl⟩
  | applyEdit old edited =>
      exact h.afterEdit hP old (hrecords edited (by simp [Operation.records]))

theorem Holds.run (h : c.Holds rootAttributes P) (hP : IsStable P) {operations : List Operation}
    (hrecords : ∀ operation ∈ operations, ∀ r ∈ operation.records, P r) :
    (c.run operations).Holds rootAttributes P := by
  induction operations generalizing c with
  | nil => exact h
  | cons operation rest ih =>
      have hstep := h.perform hP (hrecords operation (List.mem_cons_self ..))
      exact ih hstep fun next hnext => hrecords next (List.mem_cons_of_mem _ hnext)

end Keep

/--
After any operations, failing ones included, the names are lower-cased and
strictly ascending, so no two of them are equal without regard to case.
-/
theorem run_names_ascending {start : Catalog} (hstart : IsStart start)
    (operations : List Operation) :
    (∀ name ∈ (start.run operations).names, Text.lower name = name) ∧
      (start.run operations).names.Pairwise (· < ·) ∧
      (start.run operations).names.Pairwise fun a b => Text.lower a ≠ Text.lower b := by
  have hordered := hstart.ordered.run operations
  have hlowered : ∀ name ∈ (start.run operations).names, Text.lower name = name := by
    intro name hname
    obtain ⟨r, hr, rfl⟩ := List.mem_map.mp hname
    exact hordered.lowered r hr
  have hascending : (start.run operations).names.Pairwise (· < ·) :=
    List.pairwise_map.mpr hordered.ascending
  refine ⟨hlowered, hascending, hascending.imp_of_mem ?_⟩
  intro a b ha hb hlt
  rw [hlowered a ha, hlowered b hb]
  exact ne_of_lt hlt

theorem run_names_ascending_renamed :
    IsStart {} ∧
      (run {} [.insert (Record.simple "SUB" "alu" ""), .insert (Record.simple "Add" "alu" ""),
        .insert (Record.simple "ADD" "alu" ""), .replace "sub" (Record.simple "ADC" "alu" ""),
        .applyEdit "nop" (Record.simple "NOP" "misc" "")]).names.Pairwise (· < ·) :=
  ⟨.empty, (run_names_ascending .empty _).2.1⟩

end Catalog

end InstructionCatalog
