import InstructionCatalog.Proofs.Catalog.Run
import Mathlib.Data.Finmap
import Mathlib.Data.Finset.Sort

/-!
# Catalogs as finite maps

An ordered catalog is a finite map from lower-cased names to records, listed in
ascending order of its keys.  The calls on a catalog are specified on the map,
without any list; whatever calls are made, the catalog gives the answers of the
map and stays a list of its bindings.
-/

namespace InstructionCatalog

inductive Call where
  | find (name : String)
  | insert (r : Record)
  | remove (name : String)
  | replace (old : String) (r : Record)

inductive Answer where
  | found (r : Option Record)
  | placed (index : Nat)
  | removed (r : Record)
  | refused (cause : CatalogError)
  deriving DecidableEq

def Answer.ofResult {α : Type} (success : α → Answer) :
    Except CatalogError (Catalog × α) → Answer
  | .ok (_, value) => success value
  | .error cause => .refused cause

/-! ## Calls on a map -/

/-- Records under their lower-cased names, in no order. -/
abbrev Bindings := Finmap fun _ : String => Record

namespace Bindings

/-- The number of keys before this one. -/
def rank (m : Bindings) (key : String) : Nat :=
  (m.keys.filter (· < key)).card

def enter (m : Bindings) (r : Record) : Answer × Bindings :=
  (.placed (m.rank (Text.lower r.name)), m.insert (Text.lower r.name) r.lowered)

def serve (m : Bindings) : Call → Answer × Bindings
  | .find name => (.found (m.lookup (Text.lower name)), m)
  | .insert r =>
      if Text.lower r.name ∈ m then (.refused (.duplicateName (Text.lower r.name)), m)
      else m.enter r
  | .remove name =>
      match m.lookup (Text.lower name) with
      | none => (.refused (.recordNotFound name), m)
      | some r => (.removed r, m.erase (Text.lower name))
  | .replace old r =>
      if Text.lower old ∉ m then (.refused (.recordNotFound old), m)
      else if Text.lower r.name ∈ m ∧ Text.lower r.name ≠ Text.lower old then
        (.refused (.duplicateName (Text.lower r.name)), m)
      else enter (m.erase (Text.lower old)) r

def serveAll (m : Bindings) : List Call → List Answer × Bindings
  | [] => ([], m)
  | call :: rest =>
      let (answer, next) := m.serve call
      let (answers, last) := next.serveAll rest
      (answer :: answers, last)

end Bindings

namespace Catalog

/-! ## Calls on a catalog -/

def serve (c : Catalog) : Call → Answer × Catalog
  | .find name => (.found (c.find? name), c)
  | .insert r => (Answer.ofResult .placed (c.insert r), c.afterInsert r)
  | .remove name => (Answer.ofResult .removed (c.remove name), c.afterRemove name)
  | .replace old r => (Answer.ofResult .placed (c.replace old r), c.afterReplace old r)

def serveAll (c : Catalog) : List Call → List Answer × Catalog
  | [] => ([], c)
  | call :: rest =>
      let (answer, next) := c.serve call
      let (answers, last) := next.serveAll rest
      (answer :: answers, last)

def bindings (c : Catalog) : Bindings :=
  (c.records.map fun r => (⟨r.name, r⟩ : (_ : String) × Record)).toFinmap

/-! ## The map of an ordered catalog -/

namespace Ordered

variable {c : Catalog}

theorem lookup_bindings_eq_some_iff (h : c.Ordered) {key : String} {r : Record} :
    c.bindings.lookup key = some r ↔ r ∈ c.records ∧ r.name = key := by
  have hkeys : (c.records.map fun r => (⟨r.name, r⟩ : (_ : String) × Record)).NodupKeys := by
    rw [List.NodupKeys, List.keys, List.map_map]
    exact h.names_nodup
  rw [bindings, Finmap.dlookup_list_toFinmap, ← Option.mem_def, List.mem_dlookup_iff hkeys,
    List.mem_map]
  constructor
  · rintro ⟨s, hs, heq⟩
    cases heq
    exact ⟨hs, rfl⟩
  · rintro ⟨hr, rfl⟩
    exact ⟨r, hr, rfl⟩

theorem find?_eq_lookup (h : c.Ordered) (name : String) :
    c.find? name = c.bindings.lookup (Text.lower name) := by
  ext r
  rw [h.find?_eq_some_iff, h.lookup_bindings_eq_some_iff]

theorem mem_bindings_iff (h : c.Ordered) (name : String) :
    Text.lower name ∈ c.bindings ↔ (c.find? name).isSome := by
  rw [h.find?_eq_lookup, Finmap.lookup_isSome]

theorem keys_bindings (h : c.Ordered) : c.bindings.keys = c.names.toFinset := by
  ext key
  rw [Finmap.mem_keys, Finmap.mem_iff, List.mem_toFinset, names, List.mem_map]
  simp only [h.lookup_bindings_eq_some_iff]

theorem bindings_erase (h : c.Ordered) (name : String) :
    (c.erase name).bindings = c.bindings.erase (Text.lower name) := by
  refine Finmap.ext_lookup fun key => ?_
  ext r
  rw [(h.erase name).lookup_bindings_eq_some_iff, h.mem_erase]
  by_cases hkey : key = Text.lower name
  · subst hkey
    rw [Finmap.lookup_erase]
    simp only [reduceCtorEq, iff_false]
    rintro ⟨⟨-, hother⟩, hname⟩
    exact hother hname
  · rw [Finmap.lookup_erase_ne hkey, h.lookup_bindings_eq_some_iff]
    constructor
    · rintro ⟨⟨hr, -⟩, hname⟩
      exact ⟨hr, hname⟩
    · rintro ⟨hr, rfl⟩
      exact ⟨⟨hr, hkey⟩, rfl⟩

theorem bindings_place (h : c.Ordered) {r : Record} (hfresh : c.find? r.name = none) :
    (c.place r).bindings = c.bindings.insert (Text.lower r.name) r.lowered := by
  have hnew := h.find?_eq_none_iff.mp hfresh
  refine Finmap.ext_lookup fun key => ?_
  ext s
  rw [(h.place hfresh).lookup_bindings_eq_some_iff, Catalog.place, mem_insertOrdered]
  by_cases hkey : key = Text.lower r.name
  · subst hkey
    rw [Finmap.lookup_insert, Option.some.injEq]
    constructor
    · rintro ⟨rfl | hs, hname⟩
      · rfl
      · exact absurd hname (hnew s hs)
    · rintro rfl
      exact ⟨.inl rfl, rfl⟩
  · rw [Finmap.lookup_insert_of_ne _ hkey, h.lookup_bindings_eq_some_iff]
    constructor
    · rintro ⟨rfl | hs, hname⟩
      · exact absurd hname.symm hkey
      · exact ⟨hs, hname⟩
    · rintro ⟨hs, hname⟩
      exact ⟨.inr hs, hname⟩

/-- A catalog lists its bindings in ascending order of the keys. -/
theorem records_eq_sorted_bindings (h : c.Ordered) :
    c.records = (c.bindings.keys.sort (· ≤ ·)).filterMap c.bindings.lookup := by
  have hsorted : c.bindings.keys.sort (· ≤ ·) = c.names := by
    rw [h.keys_bindings, List.toFinset_sort _ h.names_nodup]
    exact List.pairwise_map.mpr (h.ascending.imp fun hlt => le_of_lt hlt)
  have hlookup : ∀ r ∈ c.records, c.bindings.lookup r.name = some r := by
    intro r hr
    exact h.lookup_bindings_eq_some_iff.mpr ⟨hr, rfl⟩
  rw [hsorted, names, List.filterMap_map]
  exact (List.filterMap_congr hlookup).trans List.filterMap_some |>.symm

end Ordered

/-! ## Ranks -/

/-- In ascending order, the records before a new name are those with smaller names. -/
theorem slotOf_eq_length_filter {records : List Record} {name : String}
    (hascending : records.Pairwise fun a b => a.name < b.name)
    (hnew : ∀ r ∈ records, r.name ≠ name) :
    slotOf name records = ((records.map Record.name).filter (· < name)).length := by
  induction records with
  | nil => rfl
  | cons r rest ih =>
      obtain ⟨hr, hrest⟩ := List.pairwise_cons.mp hascending
      rw [slotOf]
      split
      · rename_i hlt
        have hnone : ∀ other ∈ (r :: rest).map Record.name, ¬ other < name := by
          intro other hother
          obtain ⟨s, hs, rfl⟩ := List.mem_map.mp hother
          rcases List.mem_cons.mp hs with rfl | hs
          · exact not_lt_of_gt hlt
          · exact not_lt_of_gt (lt_trans hlt (hr s hs))
        rw [List.filter_eq_nil_iff.mpr (by simpa using hnone), List.length_nil]
      · rename_i hnot
        have hlt : r.name < name := lt_of_le_of_ne (not_lt.mp hnot) (hnew r (by simp))
        have hcounted : decide (r.name < name) = true := decide_eq_true hlt
        rw [ih hrest fun s hs => hnew s (by simp [hs]), List.map_cons, List.filter_cons, hcounted]
        rfl

theorem Ordered.slotOf_eq_rank {c : Catalog} (h : c.Ordered) {name : String}
    (hfresh : c.find? name = none) :
    slotOf (Text.lower name) c.records = c.bindings.rank (Text.lower name) := by
  have hnodup := h.names_nodup.filter (fun other => decide (other < Text.lower name))
  rw [slotOf_eq_length_filter h.ascending (h.find?_eq_none_iff.mp hfresh), Bindings.rank,
    h.keys_bindings, ← names, ← List.toFinset_card_of_nodup hnodup, List.toFinset_filter]
  simp

/-! ## One call -/

theorem Ordered.enter_bindings {c : Catalog} (h : c.Ordered) {r : Record}
    (hfresh : c.find? r.name = none) :
    c.bindings.enter r =
      (.placed (slotOf (Text.lower r.name) c.records), (c.place r).bindings) := by
  rw [Bindings.enter, h.slotOf_eq_rank hfresh, h.bindings_place hfresh]

/-- What a call changes in an ordered catalog, and what it answers, is decided by the map. -/
theorem Ordered.serve_eq {c : Catalog} (h : c.Ordered) (call : Call) :
    c.bindings.serve call = ((c.serve call).1, (c.serve call).2.bindings) := by
  cases call with
  | find name => simp [Bindings.serve, Catalog.serve, h.find?_eq_lookup]
  | insert r =>
      simp only [Bindings.serve, Catalog.serve, Catalog.afterInsert, h.mem_bindings_iff,
        h.insert_eq]
      split
      · rfl
      · rename_i hfresh
        exact h.enter_bindings (by simpa using hfresh)
  | remove name =>
      simp only [Bindings.serve, Catalog.serve, Catalog.afterRemove, Catalog.remove,
        ← h.find?_eq_lookup]
      cases c.find? name with
      | none => rfl
      | some r => simp [Answer.ofResult, h.bindings_erase]
  | replace old r =>
      simp only [Bindings.serve, Catalog.serve, h.afterReplace_eq, h.mem_bindings_iff,
        h.replace_eq]
      cases hold : c.find? old with
      | none => simp [Answer.ofResult]
      | some stored =>
          by_cases hclash : (c.find? r.name).isSome ∧ Text.lower r.name ≠ Text.lower old
          · simp [hclash, Answer.ofResult]
          · have hfree := (h.erase old).enter_bindings (h.find?_erase_eq_none hclash)
            rw [← h.bindings_erase]
            simp [hclash, Answer.ofResult, hfree]

theorem Ordered.serve {c : Catalog} (h : c.Ordered) (call : Call) :
    (c.serve call).2.Ordered := by
  cases call with
  | find name => exact h
  | insert r => exact h.afterInsert r
  | remove name => exact h.afterRemove name
  | replace old r => exact h.afterReplace old r

/-- A call that is refused has changed nothing, although replacing removes before it inserts. -/
theorem Ordered.serve_of_refused {c : Catalog} (h : c.Ordered) {call : Call}
    {cause : CatalogError} (hrefused : (c.serve call).1 = .refused cause) :
    (c.serve call).2 = c := by
  cases call with
  | find name => rfl
  | insert r =>
      simp only [Catalog.serve, Catalog.afterInsert] at hrefused ⊢
      cases hinsert : c.insert r with
      | error e => rfl
      | ok inserted => simp [hinsert, Answer.ofResult] at hrefused
  | remove name =>
      simp only [Catalog.serve, Catalog.afterRemove] at hrefused ⊢
      cases hremove : c.remove name with
      | error e => rfl
      | ok removed => simp [hremove, Answer.ofResult] at hrefused
  | replace old r =>
      simp only [Catalog.serve, h.afterReplace_eq] at hrefused ⊢
      cases hreplace : c.replace old r with
      | error e => rfl
      | ok replaced => simp [hreplace, Answer.ofResult] at hrefused

theorem serve_rootAttributes (c : Catalog) (call : Call) :
    (c.serve call).2.rootAttributes = c.rootAttributes := by
  have hany : c.Holds c.rootAttributes fun _ => True := ⟨rfl, fun _ _ => trivial⟩
  have hstable : IsStable fun _ => True := ⟨fun _ _ => trivial, fun _ _ _ _ _ => trivial⟩
  cases call with
  | find name => rfl
  | insert r => exact (hany.afterInsert hstable trivial).root
  | remove name =>
      have hremoved : (c.perform (.remove name)).Holds c.rootAttributes fun _ => True :=
        hany.perform hstable fun _ _ => trivial
      exact hremoved.root
  | replace old r => exact (hany.afterReplace hstable old trivial).root

/-! ## Any calls -/

theorem Ordered.serveAll {c : Catalog} (h : c.Ordered) (calls : List Call) :
    (c.serveAll calls).2.Ordered ∧
      c.bindings.serveAll calls = ((c.serveAll calls).1, (c.serveAll calls).2.bindings) ∧
      (c.serveAll calls).2.rootAttributes = c.rootAttributes := by
  induction calls generalizing c with
  | nil => exact ⟨h, rfl, rfl⟩
  | cons call rest ih =>
      obtain ⟨hordered, hserved, hroot⟩ := ih (h.serve call)
      refine ⟨hordered, ?_, hroot.trans (c.serve_rootAttributes call)⟩
      simp only [Bindings.serveAll, Catalog.serveAll, h.serve_eq, hserved]

/--
A catalog that was started and called in any way answers like the finite map of
its bindings and lists them in ascending order of the keys; no call touches the
root attributes, and one that is refused leaves the whole catalog as it was.
-/
theorem serveAll_refines_bindings {start : Catalog} (hstart : IsStart start)
    (calls : List Call) :
    (start.serveAll calls).1 = (start.bindings.serveAll calls).1 ∧
      (start.serveAll calls).2.bindings = (start.bindings.serveAll calls).2 ∧
      (start.serveAll calls).2.records =
        ((start.serveAll calls).2.bindings.keys.sort (· ≤ ·)).filterMap
          (start.serveAll calls).2.bindings.lookup ∧
      (start.serveAll calls).2.rootAttributes = start.rootAttributes ∧
      ∀ call cause, ((start.serveAll calls).2.serve call).1 = .refused cause →
        ((start.serveAll calls).2.serve call).2 = (start.serveAll calls).2 := by
  obtain ⟨hordered, hserved, hroot⟩ := hstart.ordered.serveAll calls
  refine ⟨by rw [hserved], by rw [hserved], hordered.records_eq_sorted_bindings, hroot, ?_⟩
  intro call cause hrefused
  exact hordered.serve_of_refused hrefused

theorem serveAll_refines_bindings_renamed :
    IsStart {} ∧
      ((bindings {}).serveAll [.insert (Record.simple "SUB" "alu" ""),
        .insert (Record.simple "Add" "alu" ""), .insert (Record.simple "ADD" "alu" ""),
        .replace "sub" (Record.simple "add" "alu" ""),
        .replace "Sub" (Record.simple "ADC" "alu" ""), .remove "sub", .find "aDc"]).1 =
        [.placed 0, .placed 0, .refused (.duplicateName "add"), .refused (.duplicateName "add"),
          .placed 0, .refused (.recordNotFound "sub"),
          .found (some (Record.simple "ADC" "alu" ""))] := by
  refine ⟨.empty, ?_⟩
  rw [← (serveAll_refines_bindings .empty _).1]
  decide +kernel

end Catalog

end InstructionCatalog
