import InstructionCatalog.Proofs.Catalog.Ordered

/-!
# What an edit reports

An edit of an ordered catalog is refused when there is no such record, or when
the new name belongs to another one.  Otherwise the reported change tells what
became of the catalog: it is unchanged exactly if the edited record is the stored
one, and else the edited record stands where its name belongs and the stored one
is gone.
-/

namespace InstructionCatalog

open Markup

/-- The place of a new record: after all smaller names and before all greater ones. -/
theorem exists_insertOrdered_eq {r : Record} {rs : List Record}
    (hrs : rs.Pairwise fun a b => a.name < b.name) (hnew : ∀ s ∈ rs, s.name ≠ r.name) :
    ∃ before after, rs = before ++ after ∧ insertOrdered r rs = before ++ r :: after ∧
      (∀ s ∈ before, s.name < r.name) ∧ ∀ s ∈ after, r.name < s.name := by
  induction rs with
  | nil => exact ⟨[], [], rfl, rfl, by simp, by simp⟩
  | cons s rest ih =>
      obtain ⟨hs, hrest⟩ := List.pairwise_cons.mp hrs
      rw [insertOrdered]
      split
      · rename_i hlt
        refine ⟨[], s :: rest, rfl, rfl, by simp, ?_⟩
        intro t ht
        rcases List.mem_cons.mp ht with rfl | ht
        · exact hlt
        · exact lt_trans hlt (hs t ht)
      · rename_i hnot
        have hlt : s.name < r.name := lt_of_le_of_ne (not_lt.mp hnot) (hnew s (by simp))
        obtain ⟨before, after, rfl, hinsert, hbefore, hafter⟩ :=
          ih hrest fun t ht => hnew t (by simp [ht])
        refine ⟨s :: before, after, rfl, by rw [hinsert, List.cons_append], ?_, hafter⟩
        exact List.forall_mem_cons.mpr ⟨hlt, hbefore⟩

namespace Catalog

variable {c : Catalog} {old : String} {current edited : Record}

/-- The edited record has taken the place of the current one, where its name belongs. -/
structure Exchanged (c : Catalog) (current edited : Record) (updated : Catalog) : Prop where
  root : updated.rootAttributes = c.rootAttributes
  records : ∃ before after, before ++ after = c.records.erase current ∧
    updated.records = before ++ edited.lowered :: after ∧
    (∀ r ∈ before, r.name < Text.lower edited.name) ∧
    ∀ r ∈ after, Text.lower edited.name < r.name

theorem Ordered.records_nodup (h : c.Ordered) : c.records.Nodup :=
  h.names_nodup.of_map

theorem Ordered.records_erase (h : c.Ordered) (hfind : c.find? old = some current) :
    (c.erase old).records = c.records.erase current := by
  obtain ⟨hcurrent, hname⟩ := h.find?_eq_some_iff.mp hfind
  rw [Catalog.erase, eraseP_eq_filter (h.isNamed_unique old), h.records_nodup.erase_eq_filter]
  refine List.filter_congr fun r hr => ?_
  have hsame : r.isNamed old = true ↔ r = current := by
    rw [h.isNamed_iff hr, ← hname]
    exact ⟨h.eq_of_name_eq hr hcurrent, congrArg Record.name⟩
  rw [Bool.eq_iff_iff, Bool.not_eq_true', ← Bool.not_eq_true, hsame, bne_iff_ne]

theorem Ordered.exchanged (h : c.Ordered) (hfind : c.find? old = some current)
    (hfresh : (c.erase old).find? edited.name = none) :
    Exchanged c current edited ((c.erase old).place edited) := by
  have hnew := (h.erase old).find?_eq_none_iff.mp hfresh
  obtain ⟨before, after, hsplit, hinsert, hbefore, hafter⟩ :=
    exists_insertOrdered_eq (r := edited.lowered) (h.erase old).ascending hnew
  refine ⟨rfl, before, after, ?_, hinsert, hbefore, hafter⟩
  rw [← hsplit, h.records_erase hfind]

/-- An edit that exchanges a record for another one does change the catalog. -/
theorem Exchanged.ne {updated : Catalog} (hexchanged : Exchanged c current edited updated)
    (h : c.Ordered) (hcurrent : current ∈ c.records) (hother : edited.lowered ≠ current) :
    updated ≠ c := by
  rintro rfl
  obtain ⟨before, after, hrest, hrecords, -, -⟩ := hexchanged.records
  have hgone : current ∉ before ++ after := by
    rw [hrest]
    exact h.records_nodup.not_mem_erase
  rw [hrecords] at hcurrent
  rw [List.mem_append, List.mem_cons] at hcurrent
  rw [List.mem_append, not_or] at hgone
  rcases hcurrent with hbefore | hsame | hafter
  · exact hgone.1 hbefore
  · exact hother hsame.symm
  · exact hgone.2 hafter

/-- The new name belongs to a record other than the current one. -/
def Clashes (c : Catalog) (current edited : Record) : Prop :=
  Text.lower edited.name ≠ current.name ∧ Text.lower edited.name ∈ c.names

instance (c : Catalog) (current edited : Record) : Decidable (c.Clashes current edited) :=
  inferInstanceAs (Decidable (_ ∧ _))

theorem Ordered.clashes_iff (h : c.Ordered) (hfind : c.find? old = some current) :
    c.Clashes current edited ↔
      (c.find? edited.name).isSome ∧ Text.lower edited.name ≠ Text.lower old := by
  obtain ⟨-, hname⟩ := h.find?_eq_some_iff.mp hfind
  rw [Clashes, h.isSome_find?_iff, hname, and_comm]

/-- One equation for all that an edit can do with a record that is there. -/
theorem Ordered.applyEdit_eq (h : c.Ordered) (hfind : c.find? old = some current)
    (edited : Record) :
    c.applyEdit old edited =
      if c.Clashes current edited then .error (.duplicateName (Text.lower edited.name))
      else if edited.lowered = current then .ok (c, .unchanged)
      else .ok ((c.erase old).place edited, .updated (Text.lower edited.name)
        (if Text.lower edited.name = current.name then none else some current.name)) := by
  have hreplace : c.replace old edited.lowered =
      if c.Clashes current edited then .error (.duplicateName (Text.lower edited.name))
      else .ok ((c.erase old).place edited, slotOf (Text.lower edited.name)
        (c.erase old).records) := by
    simp only [h.replace_eq, h.clashes_iff hfind, hfind, Record.lowered_name, Text.lower_lower,
      h.find?_lower, Catalog.place, Record.lowered_lowered, Option.isNone_some,
      Bool.false_eq_true, if_false]
  rw [Catalog.applyEdit, hfind, hreplace]
  simp only [eq_comm (a := current), eq_comm (a := current.name)]
  by_cases hsame : edited.lowered = current
  · -- the same record has the same name, so that there is no clash
    have hown : Text.lower edited.name = current.name := congrArg Record.name hsame
    simp [hsame, Clashes, hown]
  · by_cases hclash : c.Clashes current edited <;> simp [hsame, hclash]

/--
An edit fails when there is no such record or when the new name is taken, and in
no other case.  Its change is `unchanged` exactly if the catalog stays as it was,
which is if the edited record is the current one; else it names the new record,
and the old name if that is another one.
-/
theorem applyEdit_reports (h : c.Ordered) (old : String) (edited : Record) :
    (∀ name, c.applyEdit old edited = .error (.recordNotFound name) ↔
      c.find? old = none ∧ name = old) ∧
    ∀ current, c.find? old = some current →
      (∀ name, c.applyEdit old edited = .error (.duplicateName name) ↔
        c.Clashes current edited ∧ name = Text.lower edited.name) ∧
      (¬ c.Clashes current edited →
        ∃ updated change, c.applyEdit old edited = .ok (updated, change) ∧
          (change = .unchanged ↔ updated = c) ∧ (updated = c ↔ edited.lowered = current) ∧
          (edited.lowered ≠ current →
            change = .updated (Text.lower edited.name)
              (if Text.lower edited.name = current.name then none else some current.name) ∧
            Exchanged c current edited updated)) := by
  cases hfind : c.find? old with
  | none => simp [Catalog.applyEdit, hfind, eq_comm]
  | some current =>
      have hedit := h.applyEdit_eq hfind edited
      obtain ⟨hcurrent, -⟩ := h.find?_eq_some_iff.mp hfind
      refine ⟨fun name => ?_, fun other hother => ?_⟩
      · rw [hedit]
        split_ifs <;> simp
      obtain rfl := Option.some.inj hother
      refine ⟨fun name => ?_, fun hclash => ?_⟩
      · rw [hedit]
        split_ifs with hclash <;> simp [hclash, eq_comm]
      rw [if_neg hclash] at hedit
      by_cases hsame : edited.lowered = current
      · rw [if_pos hsame] at hedit
        exact ⟨c, .unchanged, hedit, by simp, by simp [hsame], fun hne => absurd hsame hne⟩
      · have hfresh : (c.erase old).find? edited.name = none :=
          h.find?_erase_eq_none (mt (h.clashes_iff hfind).mpr hclash)
        have hexchanged := h.exchanged hfind hfresh
        have hchanged := hexchanged.ne h hcurrent hsame
        rw [if_neg hsame] at hedit
        exact ⟨_, _, hedit, by simp [hchanged], by simp [hchanged, hsame],
          fun _ => ⟨rfl, hexchanged⟩⟩

/-- The record moves past its neighbour when it is renamed. -/
theorem applyEdit_reports_renamed :
    let c : Catalog := { rootAttributes := [("version", "1")], records :=
      [Record.simple "add" "alu" "", Record.simple "mov" "data" "", Record.simple "sub" "alu" ""] }
    c.Ordered ∧ ∃ updated,
      c.applyEdit "ADD" (Record.simple "Ror" "alu" "") =
          .ok (updated, .updated "ror" (some "add")) ∧
        Exchanged c (Record.simple "add" "alu" "") (Record.simple "Ror" "alu" "") updated := by
  intro c
  have hordered : c.Ordered := ⟨by decide +kernel, by decide +kernel⟩
  have hfind : c.find? "ADD" = some (Record.simple "add" "alu" "") := by decide +kernel
  refine ⟨hordered, ?_⟩
  obtain ⟨updated, change, hedit, -, -, hreport⟩ :=
    ((applyEdit_reports hordered "ADD" (Record.simple "Ror" "alu" "")).2 _ hfind).2
      (by decide +kernel)
  obtain ⟨hchange, hexchanged⟩ := hreport (by decide +kernel)
  have hrenamed : change = .updated "ror" (some "add") := hchange.trans (by decide +kernel)
  exact ⟨updated, hrenamed ▸ hedit, hexchanged⟩

end Catalog

end InstructionCatalog
