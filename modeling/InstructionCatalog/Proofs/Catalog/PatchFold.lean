import InstructionCatalog.Patch
import InstructionCatalog.Proofs.Catalog.Ordered
import InstructionCatalog.Proofs.Markup.Tree
import InstructionCatalog.Proofs.Record.Attributes

/-!
# A patch acts name by name

On an ordered catalog every named entry of a patch is applied, unless merging it
would set another name.  For each name the whole batch amounts to reconciling
the entries of that name one after the other with what was stored, and the other
records stay as they were.
-/

namespace InstructionCatalog

open Markup

namespace Patch

def recordsNamed (name : String) : List Entry → List Record
  | [] => []
  | .nameless :: rest => recordsNamed name rest
  | .record r :: rest =>
      if Text.lower r.name = name then r :: recordsNamed name rest else recordsNamed name rest

/--
Records of one name reconciled in turn with what is stored under it.  Without
a stored record the first of them is where the others start from.
-/
def foldRecords (mode : Mode) : Option Record → List Record → Option Record
  | stored, [] => stored
  | some stored, r :: rest => some ((r :: rest).foldl (Record.reconcile mode) stored).lowered
  | none, r :: rest => some (rest.foldl (Record.reconcile mode) r).lowered

/-- What one more record makes of what is stored under its name. -/
def combine (mode : Mode) (stored : Option Record) (r : Record) : Record :=
  match stored with
  | none => r
  | some stored => Record.reconcile mode stored r

theorem foldRecords_cons (mode : Mode) (stored : Option Record) (r : Record)
    (rest : List Record) :
    foldRecords mode stored (r :: rest) =
      foldRecords mode (some (combine mode stored r).lowered) rest := by
  cases rest with
  | nil => cases stored <;> simp [foldRecords, combine]
  | cons next rest => cases stored <;> simp [foldRecords, combine]

theorem lower_combine_name {mode : Mode} {r : Record} (h : r.KeepsName mode)
    (stored : Option Record) : Text.lower (combine mode stored r).name = Text.lower r.name := by
  cases stored with
  | none => rfl
  | some stored => exact h.lower_reconcile_name stored

/-- No record of the patch sets a name other than its own. -/
def KeepsNames (mode : Mode) (patch : Patch) : Prop :=
  ∀ r, .record r ∈ patch.entries → r.KeepsName mode

theorem ofElement_of_entryOf {e : Element} {r : Record} (h : entryOf e = .ok (.record r)) :
    Record.ofElement e = .ok r := by
  rw [entryOf] at h
  split at h
  · rename_i hread
    obtain rfl := Entry.record.inj (Except.ok.inj h)
    exact hread
  · simp at h
  · contradiction

theorem mem_of_mapM_entryOf {elements : List Element} {entries : List Entry}
    (h : elements.mapM entryOf = .ok entries) {entry : Entry} (hentry : entry ∈ entries) :
    ∃ e ∈ elements, entryOf e = .ok entry := by
  induction elements generalizing entries with
  | nil =>
      obtain rfl := Except.ok.inj h
      simp at hentry
  | cons e rest ih =>
      rw [List.mapM_cons] at h
      cases he : entryOf e with
      | error cause =>
          rw [he] at h
          contradiction
      | ok first =>
          cases hrest : rest.mapM entryOf with
          | error cause =>
              rw [he, hrest] at h
              contradiction
          | ok others =>
              rw [he, hrest] at h
              obtain rfl := Except.ok.inj h
              rcases List.mem_cons.mp hentry with rfl | hother
              · exact ⟨e, by simp, he⟩
              · obtain ⟨e', he', hread⟩ := ih hrest hother
                exact ⟨e', List.mem_cons_of_mem e he', hread⟩

/-- Every record of a patch was read from an element of its text. -/
theorem part_of_read {text : String} {patch : Patch} (h : read text = .ok patch) {r : Record}
    (hr : .record r ∈ patch.entries) :
    ∃ root e, parse text = .ok root ∧ Element.IsPart e root ∧ Record.ofElement e = .ok r := by
  rw [read] at h
  split at h
  · contradiction
  · rename_i root hroot
    split at h
    · cases hentry : entryOf root with
      | error e =>
          rw [hentry] at h
          contradiction
      | ok entry =>
          rw [hentry] at h
          obtain rfl := Except.ok.inj h
          obtain rfl := List.mem_singleton.mp hr
          exact ⟨root, root, hroot, .root root, ofElement_of_entryOf hentry⟩
    · split at h
      · cases hentries : (root.childrenNamed "instruction").mapM entryOf with
        | error e =>
            rw [hentries] at h
            contradiction
        | ok entries =>
            rw [hentries] at h
            obtain rfl := Except.ok.inj h
            obtain ⟨e, he, hread⟩ := mem_of_mapM_entryOf hentries hr
            have hchild : e ∈ root.children := List.mem_of_mem_filter he
            exact ⟨root, e, hroot, .inside hchild (.root e), ofElement_of_entryOf hread⟩
      · contradiction

/-- Reading puts names in their place, so every patch that was read is applied as a whole. -/
theorem keepsNames_of_read {text : String} {patch : Patch} (h : read text = .ok patch)
    (mode : Mode) : patch.KeepsNames mode := by
  intro r hr
  obtain ⟨root, e, -, -, hread⟩ := part_of_read h hr
  exact (Record.isRouted_of_ofElement hread).keepsName mode

end Patch

namespace Catalog

variable {c : Catalog}

/-! ## One entry -/

def patched (mode : Mode) (c : Catalog) (r : Record) : Catalog :=
  (c.erase r.name).place (Patch.combine mode (c.find? r.name) r)

theorem erase_lower (c : Catalog) (name : String) : c.erase (Text.lower name) = c.erase name := by
  simp [erase, Record.isNamed]

theorem Ordered.erase_of_find?_eq_none (h : c.Ordered) {name : String}
    (hfind : c.find? name = none) : c.erase name = c := by
  have hnone : ∀ r ∈ c.records, ¬ r.isNamed name = true := by
    intro r hr
    rw [h.isNamed_iff hr]
    exact h.find?_eq_none_iff.mp hfind r hr
  rw [Catalog.erase, List.eraseP_of_forall_not hnone]

theorem Ordered.find?_erase_self (h : c.Ordered) (name : String) :
    (c.erase name).find? name = none := by
  simp [h.find?_erase]

/-- Without the record of that name there is room for what is put in its place. -/
theorem Ordered.find?_erase_combine (h : c.Ordered) {mode : Mode} {r : Record}
    (hr : r.KeepsName mode) :
    (c.erase r.name).find? (Patch.combine mode (c.find? r.name) r).name = none := by
  have hordered := h.erase r.name
  rw [← hordered.find?_lower, Patch.lower_combine_name hr, hordered.find?_lower]
  exact h.find?_erase_self r.name

theorem Ordered.patched (h : c.Ordered) {mode : Mode} {r : Record} (hr : r.KeepsName mode) :
    (c.patched mode r).Ordered :=
  (h.erase r.name).place (h.find?_erase_combine hr)

theorem Ordered.find?_patched (h : c.Ordered) {mode : Mode} {r : Record}
    (hr : r.KeepsName mode) (name : String) :
    (c.patched mode r).find? name =
      if Text.lower name = Text.lower r.name then
        some (Patch.combine mode (c.find? r.name) r).lowered
      else c.find? name := by
  rw [Catalog.patched, (h.erase r.name).find?_place (h.find?_erase_combine hr),
    Patch.lower_combine_name hr]
  split
  · rfl
  · rename_i hother
    rw [h.find?_erase, if_neg hother]

/-- A named entry is not refused if it keeps its name. -/
theorem Ordered.applyEntry_record (h : c.Ordered) {mode : Mode} {r : Record}
    (hr : r.KeepsName mode) (position : Nat) :
    c.applyEntry mode position (.record r) =
      (c.patched mode r,
        if (c.find? r.name).isNone then .added (Text.lower r.name)
        else .ofMode mode (Text.lower r.name)) := by
  rw [applyEntry, applyRecord, h.find?_lower]
  cases hfind : c.find? r.name with
  | none =>
      simp [h.insert_eq, hfind, Catalog.patched, Patch.combine,
        h.erase_of_find?_eq_none hfind, Except.map]
  | some stored =>
      simp [h.replace_eq, h.find?_lower, hfind, hr.lower_reconcile_name, Catalog.patched,
        Patch.combine, erase_lower, Except.map]

/-! ## The whole batch -/

theorem applyEntries_cons (mode : Mode) (position : Nat) (c : Catalog) (entry : Patch.Entry)
    (rest : List Patch.Entry) :
    c.applyEntries mode position (entry :: rest) =
      let applied := c.applyEntry mode position entry
      let later := applied.1.applyEntries mode (position + 1) rest
      (later.1, applied.2 :: later.2) := rfl

theorem length_applyEntries (mode : Mode) (position : Nat) (c : Catalog)
    (entries : List Patch.Entry) :
    (c.applyEntries mode position entries).2.length = entries.length := by
  induction entries generalizing c position with
  | nil => rfl
  | cons entry rest ih => simp [applyEntries_cons, ih]

/-- The outcome of an entry depends on the catalog just before it. -/
theorem getElem?_applyEntries (mode : Mode) (position : Nat) (c : Catalog)
    (entries : List Patch.Entry) (i : Nat) :
    (c.applyEntries mode position entries).2[i]? =
      entries[i]?.map fun entry =>
        ((c.applyEntries mode position (entries.take i)).1.applyEntry
          mode (position + i) entry).2 := by
  induction entries generalizing c position i with
  | nil => simp [applyEntries]
  | cons entry rest ih =>
      cases i with
      | zero => simp [applyEntries]
      | succ i =>
          have hposition : position + 1 + i = position + (i + 1) := by omega
          simp only [applyEntries_cons, List.getElem?_cons_succ, List.take_succ_cons, ih,
            hposition]

theorem Ordered.applyEntries (h : c.Ordered) {mode : Mode} (position : Nat)
    {entries : List Patch.Entry} (hentries : Patch.KeepsNames mode ⟨entries⟩) :
    (c.applyEntries mode position entries).1.Ordered ∧
      (c.applyEntries mode position entries).1.rootAttributes = c.rootAttributes ∧
      ∀ name, Text.lower name = name →
        (c.applyEntries mode position entries).1.find? name =
          Patch.foldRecords mode (c.find? name) (Patch.recordsNamed name entries) := by
  induction entries generalizing c position with
  | nil => exact ⟨h, rfl, fun name _ => rfl⟩
  | cons entry rest ih =>
      have hrest : Patch.KeepsNames mode ⟨rest⟩ :=
        fun r hr => hentries r (List.mem_cons_of_mem _ hr)
      cases entry with
      | nameless => exact ih h (position + 1) hrest
      | record r =>
          have hr : r.KeepsName mode := hentries r (by simp)
          rw [applyEntries_cons, h.applyEntry_record hr position]
          obtain ⟨hordered, hroot, hfind⟩ := ih (h.patched hr) (position + 1) hrest
          refine ⟨hordered, hroot, fun name hname => ?_⟩
          rw [hfind name hname, h.find?_patched hr, hname, Patch.recordsNamed]
          by_cases hsame : Text.lower r.name = name
          · have hstored : c.find? r.name = c.find? name := by rw [← h.find?_lower, hsame]
            rw [if_pos hsame.symm, if_pos hsame, Patch.foldRecords_cons, hstored]
          · rw [if_neg (Ne.symm hsame), if_neg hsame]

/--
A patch whose records keep their names is applied name by name.  There is one
outcome for each entry; the record under a name is the fold of the entries of
that name; a named entry is added or reconciled according to the catalog just
before it, and only nameless entries are skipped.
-/
theorem applyPatch_eq_fold (c : Catalog) (patch : Patch) (mode : Mode) (h : c.Ordered)
    (hpatch : patch.KeepsNames mode) :
    (c.applyPatch patch mode).2.length = patch.entries.length ∧
      (∀ name, Text.lower name = name →
        (c.applyPatch patch mode).1.find? name =
          Patch.foldRecords mode (c.find? name) (Patch.recordsNamed name patch.entries)) ∧
      (∀ i r, patch.entries[i]? = some (Patch.Entry.record r) →
        (c.applyPatch patch mode).2[i]? =
          some (if ((c.applyPatch ⟨patch.entries.take i⟩ mode).1.find? r.name).isNone
            then Patch.Outcome.added (Text.lower r.name)
            else Patch.Outcome.ofMode mode (Text.lower r.name))) ∧
      (∀ i, patch.entries[i]? = some Patch.Entry.nameless →
        (c.applyPatch patch mode).2[i]? = some (Patch.Outcome.skipped (i + 1) none .missingName)) ∧
      (c.applyPatch patch mode).1.rootAttributes = c.rootAttributes ∧
      (c.applyPatch patch mode).1.Ordered := by
  obtain ⟨hordered, hroot, hfind⟩ := h.applyEntries 1 hpatch
  refine ⟨length_applyEntries mode 1 c patch.entries, hfind, ?_, ?_, hroot, hordered⟩
  · intro i r hentry
    have hbefore : (c.applyPatch ⟨patch.entries.take i⟩ mode).1.Ordered :=
      (h.applyEntries 1 fun s hs => hpatch s (List.mem_of_mem_take hs)).1
    have hr : r.KeepsName mode := hpatch r (List.mem_of_getElem? hentry)
    have hstep := hbefore.applyEntry_record hr (1 + i)
    rw [applyPatch, getElem?_applyEntries, hentry, Option.map_some]
    exact congrArg (fun applied => some applied.2) hstep
  · intro i hentry
    rw [applyPatch, getElem?_applyEntries, hentry]
    simp [applyEntry, Nat.add_comm]

theorem applyPatch_eq_fold_repeated :
    let c : Catalog := { records := [Record.simple "add" "alu" "old"] }
    let text := "<instructions><instruction name='Add'><x/></instruction><instruction/>" ++
      "<instruction name='ADD' category='LOGIC'/></instructions>"
    ∃ patch, Patch.read text = .ok patch ∧ c.Ordered ∧ patch.KeepsNames .merge ∧
      (c.applyPatch patch .merge).1.find? "add" =
        some { Record.simple "add" "logic" "old" with extra := [⟨"x", [], none, none, []⟩] } ∧
      (c.applyPatch patch .merge).2[1]? = some (.skipped 2 none .missingName) ∧
      (c.applyPatch patch .merge).2[2]? = some (.merged "add") := by
  intro c text
  have hordered : c.Ordered := ⟨by simp [c, Record.simple], by simp [c]⟩
  have hread : Patch.read text = .ok ⟨[
      .record { name := "Add", extra := [⟨"x", [], none, none, []⟩] }, .nameless,
      .record { name := "ADD", category := some "LOGIC" }]⟩ := by
    decide +kernel
  have hkeeps := Patch.keepsNames_of_read hread .merge
  obtain ⟨-, hfold, hnamed, hnameless, -, -⟩ := applyPatch_eq_fold c _ .merge hordered hkeeps
  refine ⟨_, hread, hordered, hkeeps, ?_, hnameless 1 rfl, ?_⟩
  · rw [hfold "add" (by decide +kernel)]
    decide +kernel
  · rw [hnamed 2 _ rfl]
    decide +kernel

/--
A record that holds another name among its attributes is refused if that name
is taken, and otherwise is stored under a name that no entry has.
-/
theorem applyPatch_other_name :
    let c : Catalog := { records := [Record.simple "add" "alu" "", Record.simple "mov" "data" ""] }
    let patch (other : String) : Patch :=
      ⟨[.record { name := "add", attributes := [("name", other)] }]⟩
    c.Ordered ∧
      (c.applyPatch (patch "mov") .merge).2 =
        [.skipped 1 (some "add") (.refused (.duplicateName "mov"))] ∧
      Patch.recordsNamed "zzz" (patch "zzz").entries = [] ∧ c.find? "zzz" = none ∧
      (c.applyPatch (patch "zzz") .merge).1.find? "zzz" = some (Record.simple "zzz" "alu" "") ∧
      (c.applyPatch (patch "zzz") .merge).1.find? "add" = none := by
  intro c patch
  refine ⟨⟨?_, ?_⟩, ?_⟩ <;> decide +kernel

end Catalog

end InstructionCatalog
