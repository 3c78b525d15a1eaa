import InstructionCatalog.Catalog.Listing
import InstructionCatalog.Proofs.Catalog.Run

/-!
# Listings in stored order

A listing is sorted by name and category on its own account.  In an ordered
catalog that sorting has nothing to do: the rows are those of the records with
the pattern in their names, in the order in which they are stored.
-/

namespace InstructionCatalog

theorem Text.contains_iff (s part : String) :
    contains s part = true ↔ part.toList <:+: s.toList := by
  rw [contains, occursIn_iff]
  exact exists₂_congr fun before after => eq_comm

/-- The lower-cased pattern, if there is one, is a run of neighbours in the name. -/
def Record.HasPart (pattern : Option String) (r : Record) : Prop :=
  ∀ part ∈ pattern, (Text.lower part).toList <:+: r.name.toList

instance (pattern : Option String) : DecidablePred (Record.HasPart pattern) :=
  fun r => inferInstanceAs
    (Decidable (∀ part ∈ pattern, (Text.lower part).toList <:+: r.name.toList))

/-- Without a pattern nothing is asked of the name, and the empty one is in every name. -/
theorem Record.hasPart_of_empty {pattern : Option String} (h : pattern = none ∨ pattern = some "")
    (r : Record) : r.HasPart pattern := by
  rcases h with rfl | rfl
  · rintro part ⟨⟩
  · rintro part ⟨⟩
    rw [(Text.lower_eq_empty_iff "").mpr rfl]
    exact List.nil_infix

/-! ## Sorting rows -/

theorem Row.le_of_name_lt {a b : Row} (h : a.name < b.name) : Row.le a b = true := by
  rw [Row.le, if_neg (ne_of_lt h)]
  exact decide_eq_true h.le

/-- Different names in ascending order leave nothing to sort, whatever the categories are. -/
theorem Row.sort_of_ascending {rows : List Row} (h : rows.Pairwise fun a b => a.name < b.name) :
    Row.sort rows = rows :=
  List.mergeSort_of_pairwise (h.imp Row.le_of_name_lt)

namespace Catalog

namespace Ordered

variable {c : Catalog}

theorem isLike_iff (h : c.Ordered) {r : Record} (hr : r ∈ c.records) (pattern : Option String) :
    r.isLike pattern = true ↔ r.HasPart pattern := by
  cases pattern with
  | none => simp [Record.isLike, Record.HasPart]
  | some part => simp [Record.isLike, Record.HasPart, h.lowered r hr, Text.contains_iff]

theorem ascending_rows (h : c.Ordered) (p : Record → Bool) :
    ((c.records.filter p).map Record.row).Pairwise fun a b => a.name < b.name :=
  List.pairwise_map.mpr (h.ascending.filter p)

theorem rows_eq (h : c.Ordered) (pattern : Option String) :
    c.rows pattern = (c.records.filter fun r => r.HasPart pattern).map Record.row := by
  have hchosen : c.records.filter (Record.isLike pattern) =
      c.records.filter fun r => r.HasPart pattern := by
    refine List.filter_congr fun r hr => ?_
    rw [Bool.eq_iff_iff, h.isLike_iff hr, decide_eq_true_iff]
  rw [rows, hchosen, Row.sort_of_ascending (h.ascending_rows _)]

theorem rows_of_empty (h : c.Ordered) {pattern : Option String}
    (hpattern : pattern = none ∨ pattern = some "") :
    c.rows pattern = c.records.map Record.row := by
  have hall : ∀ r ∈ c.records, decide (r.HasPart pattern) = true :=
    fun r _ => decide_eq_true (Record.hasPart_of_empty hpattern r)
  rw [h.rows_eq, List.filter_eq_self.mpr hall]

/-- A record that is found by a name is listed under that name as a pattern. -/
theorem row_mem_rows (h : c.Ordered) {query : String} {r : Record}
    (hfind : c.find? query = some r) : r.row ∈ c.rows (some query) := by
  obtain ⟨hr, hname⟩ := h.find?_eq_some_iff.mp hfind
  have hpart : r.HasPart (some query) := by
    rintro part ⟨⟩
    exact hname ▸ List.infix_rfl
  rw [h.rows_eq]
  exact List.mem_map_of_mem (List.mem_filter.mpr ⟨hr, decide_eq_true hpart⟩)

end Ordered

/--
After any operations a listing has one row for each record with the pattern in
its name, in stored order; without a pattern, or with the empty one, that is
every record.  What a name finds is listed under it.
-/
theorem rows_run_eq_filter {start : Catalog} (hstart : IsStart start)
    (operations : List Operation) (pattern : Option String) :
    (start.run operations).rows pattern =
        ((start.run operations).records.filter fun r => r.HasPart pattern).map
          (fun r => { name := r.name, category := r.category.getD "UNKNOWN" }) ∧
      ((start.run operations).rows pattern).Pairwise (fun a b => a.name < b.name) ∧
      (pattern = none ∨ pattern = some "" →
        (start.run operations).rows pattern = (start.run operations).records.map Record.row) ∧
      ∀ query r, (start.run operations).find? query = some r →
        r.row ∈ (start.run operations).rows (some query) := by
  have hordered := hstart.ordered.run operations
  refine ⟨hordered.rows_eq pattern, ?_, hordered.rows_of_empty, ?_⟩
  · rw [hordered.rows_eq]
    exact hordered.ascending_rows _
  · intro query r hfind
    exact hordered.row_mem_rows hfind

/-- The records were put in out of order, and the last one has no such part in its name. -/
theorem rows_run_eq_filter_mixed_case :
    let operations : List Operation :=
      [.insert (Record.simple "SUB" "alu" ""), .insert { name := "Psubb" },
        .insert (Record.simple "Add" "alu" ""), .applyEdit "ADD" (Record.simple "NOP" "misc" "")]
    let c := run {} operations
    IsStart {} ∧ c.rows (some "SuB") = [⟨"psubb", "UNKNOWN"⟩, ⟨"sub", "ALU"⟩] ∧
      c.rows (some "") = c.records.map Record.row ∧
      c.find? "PSUBB" = some { name := "psubb" } ∧
      ⟨"psubb", "UNKNOWN"⟩ ∈ c.rows (some "PSUBB") := by
  intro operations c
  obtain ⟨hrows, -, -, hfound⟩ := rows_run_eq_filter .empty operations (some "SuB")
  obtain ⟨-, -, hall, -⟩ := rows_run_eq_filter .empty operations (some "")
  have hfind : c.find? "PSUBB" = some { name := "psubb" } := by decide +kernel
  refine ⟨.empty, ?_, hall (.inr rfl), hfind, hfound _ _ hfind⟩
  rw [hrows]
  decide +kernel

end Catalog

end InstructionCatalog
