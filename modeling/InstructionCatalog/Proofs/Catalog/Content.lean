import InstructionCatalog.Proofs.Catalog.SaveLoad
import InstructionCatalog.Proofs.Record.Content

/-!
# What loading and saving keeps

The text of a loaded catalog has one element for each element of the text that
was loaded, under the same name.  It says all that the element said but for the
slots around the fields, which no record has a place for.
-/

namespace InstructionCatalog

open Markup Element

namespace Record

theorem Canonical.value?_name_toElement {r : Record} (h : r.Canonical) :
    r.toElement.value? "name" = some r.name := by
  rw [Element.value?, toElement_attributes h.routed h.distinct]
  rfl

theorem ink_toElement_lowered (r : Record) : r.lowered.toElement.ink = r.toElement.ink := by
  rw [Element.ink_eq, Element.ink_eq]
  rfl

end Record

namespace Catalog

/-- Each element that is read has its record in the catalog. -/
theorem exists_record_of_read {text : String} {root e : Element} {c : Catalog}
    (hparse : parse text = .ok root) (hread : read text = .ok c) (he : e ∈ root.children) :
    ∃ r, Record.ofElement e = .ok r ∧ r.lowered ∈ c.records := by
  obtain ⟨rootAttributes, found, hfound, -, rfl⟩ := read_eq_ok_iff.mp hread
  obtain ⟨root', hroot, -, -, hrecords⟩ := readRecords_eq_ok_iff.mp hfound
  obtain rfl : root = root' := Except.ok.inj (hparse.symm.trans hroot)
  obtain ⟨r, hr, hfrom⟩ := exists_mem_of_forall₂ hrecords he
  refine ⟨r, hfrom, ?_⟩
  rw [(sortRecords_perm _).mem_iff]
  exact List.mem_map_of_mem hr

/-- The text of a storable catalog has one element for each record. -/
theorem Storable.exists_written {c : Catalog} (h : c.Storable) {r : Record} (hr : r ∈ c.records) :
    ∃ written e, parse c.render = .ok written ∧
      (∀ d, d ∈ written.children ∧ d.value? "name" = some r.name ↔ d = e) ∧
      e.stripLayout = r.toElement.stripLayout.dropEmptyTexts := by
  obtain ⟨written, hparse, -, -, hchildren⟩ := parse_render h.all_toElement
  have hname : ∀ s ∈ c.records,
      s.toElement.stripLayout.dropEmptyTexts.value? "name" = some s.name := by
    intro s hs
    rw [Element.value?, dropEmptyTexts_attributes, stripLayout_attributes]
    exact (h.records s hs).canonical.value?_name_toElement
  have hvalue : ∀ d : Element, d.stripLayout.value? "name" = d.value? "name" := by
    intro d
    rw [Element.value?, stripLayout_attributes]
    rfl
  -- names are attributes, which neither layout nor empty texts touch, so they stay distinct
  have hnames : written.children.map (·.value? "name") = c.names.map some := by
    have hmapped := congrArg (List.map fun d : Element => d.value? "name") hchildren
    simp only [List.map_map, Function.comp_def, hvalue] at hmapped
    rw [hmapped, names, List.map_map]
    exact List.map_congr_left hname
  have hnodup : (written.children.map (·.value? "name")).Nodup := by
    rw [hnames]
    exact h.ordered.names_nodup.map (Option.some_injective _)
  have hwritten : r.toElement.stripLayout.dropEmptyTexts ∈ written.children.map stripLayout := by
    rw [hchildren]
    exact List.mem_map_of_mem hr
  obtain ⟨e, he, hstrip⟩ := List.mem_map.mp hwritten
  have hself : e.value? "name" = some r.name := by
    rw [← hvalue, hstrip]
    exact hname r hr
  refine ⟨written, e, hparse, fun d => ⟨?_, ?_⟩, hstrip⟩
  · rintro ⟨hd, hdname⟩
    exact List.inj_on_of_nodup_map hnodup hd he (hdname.trans hself.symm)
  · rintro rfl
    exact ⟨he, hself⟩

/--
Loading and saving keeps all that an element says but the ink of its loose
slots, so nothing is lost exactly if these are blank.
-/
theorem ink_read_render {text : String} {root e : Element} {c : Catalog}
    (hparse : parse text = .ok root) (hnames : root.all hasNames = true)
    (hread : read text = .ok c) (he : e ∈ root.children) :
    ∃ name written e', e.value? "name" = some name ∧ parse c.render = .ok written ∧
      (∀ d, d ∈ written.children ∧ d.value? "name" = some (Text.lower name) ↔ d = e') ∧
      Text.ink e.content = Text.ink e'.content + slotsInk (Record.looseSlots e) ∧
      (Text.ink e'.content = Text.ink e.content ↔
        ∀ slot ∈ Record.looseSlots e, isBlankSlot slot = true) := by
  have hstorable := (IsNamedStart.read hparse hnames hread).storable
  obtain ⟨r, hofElement, hr⟩ := exists_record_of_read hparse hread he
  obtain ⟨written, e', hwritten, hunique, hstrip⟩ := hstorable.exists_written hr
  have hdistinct : e.attributes.keys.Nodup := by
    have hroot := (all_iff.mp (hasDistinctKeys_parse hparse)).2 e he
    simpa [hasDistinctKeys] using (all_iff.mp hroot).1
  have hkept : e'.ink = r.toElement.ink := by
    rw [← ink_stripLayout, hstrip, ink_dropEmptyTexts, ink_stripLayout,
      Record.ink_toElement_lowered]
  have hsum : e.ink = e'.ink + slotsInk (Record.looseSlots e) := by
    rw [hkept]
    exact Record.ink_eq hofElement
  refine ⟨r.name, written, e', Record.value?_name_of_ofElement hofElement hdistinct, hwritten,
    hunique, hsum, ?_⟩
  rw [← slotsInk_eq_zero_iff]
  change e'.ink = e.ink ↔ _
  rw [hsum, left_eq_add]

theorem ink_read_render_mixed :
    let text := "<instructions><instruction name='ADD'> <description>a <b>c</b>d</description>" ++
      "<x>e</x>f</instruction></instructions>"
    let b : Element := ⟨"b", [], some "c", some "d", []⟩
    let x : Element := ⟨"x", [], some "e", some "f", []⟩
    let e : Element := ⟨"instruction", [("name", "ADD")], some " ", none,
      [⟨"description", [], some "a ", none, [b]⟩, x]⟩
    let r : Record :=
      { name := "add", description := some (.marked [] (some "a ") [b]), extra := [x] }
    parse text = .ok ⟨"instructions", [], none, none, [e]⟩ ∧ read text = .ok { records := [r] } ∧
      ∃ written e', parse (render { records := [r] }) = .ok written ∧
        (∀ d, d ∈ written.children ∧ d.value? "name" = some "add" ↔ d = e') ∧
        Text.ink e'.content = Text.ink e.content := by
  intro text b x e r
  have hparse : parse text = .ok ⟨"instructions", [], none, none, [e]⟩ := by decide +kernel
  have hread : read text = .ok { records := [r] } := by decide +kernel
  refine ⟨hparse, hread, ?_⟩
  obtain ⟨name, written, e', hname, hwritten, hunique, -, hsame⟩ :=
    ink_read_render hparse (by decide +kernel) hread (List.mem_singleton_self e)
  obtain rfl : "ADD" = name := Option.some.inj hname
  exact ⟨written, e', hwritten, hunique, hsame.mpr (by decide +kernel)⟩

/-- What stands directly in an element without children is lost. -/
theorem ink_read_render_lost :
    let text := "<instructions><instruction name='add'>lost</instruction></instructions>"
    let e : Element := ⟨"instruction", [("name", "add")], some "lost", none, []⟩
    let e' : Element := ⟨"instruction", [("name", "add")], none, some "\n", []⟩
    let c : Catalog := { records := [{ name := "add" }] }
    parse text = .ok ⟨"instructions", [], none, none, [e]⟩ ∧ read text = .ok c ∧
      parse c.render = .ok ⟨"instructions", [], some "\n  ", none, [e']⟩ ∧
      Text.ink e'.content ≠ Text.ink e.content := by
  decide +kernel

end Catalog

end InstructionCatalog
