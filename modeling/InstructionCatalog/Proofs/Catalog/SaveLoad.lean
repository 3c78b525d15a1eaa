import InstructionCatalog.Proofs.Catalog.Run
import InstructionCatalog.Proofs.Dialogue
import InstructionCatalog.Proofs.Markup.RoundTrip
import InstructionCatalog.Proofs.Markup.WellFormed
import InstructionCatalog.Proofs.Record.EmptyTexts

/-!
# Saving and loading

A catalog is storable when it is ordered and its records are canonical and
writable.  What is loaded is storable, every operation with records from the
known sources keeps it so, and a storable catalog is loaded from its text as it
was saved, except that an empty text of a kept element is no text any more.
-/

namespace InstructionCatalog

open Markup Element

/-! ## Storable records -/

namespace Record

structure Storable (r : Record) : Prop where
  canonical : r.Canonical
  writable : r.Writable

theorem isStable_storable : Catalog.IsStable Storable where
  lowered _ h := ⟨h.canonical.lowered, h.writable.lowered⟩
  reconcile mode _ _ hstored hincoming :=
    ⟨hstored.canonical.reconcile mode hincoming.canonical,
      hstored.writable.reconcile mode hincoming.writable⟩

theorem storable_of_ofElement {e : Element} {r : Record} (he : e.all isWritable = true)
    (h : ofElement e = .ok r) : r.Storable :=
  ⟨canonical_of_ofElement h, writable_of_ofElement he h⟩

inductive Sourced : Record → Prop where
  | parsed {text : String} {root e : Element} {r : Record} (hparse : parse text = .ok root)
      (hpart : IsPart e root) (hnames : e.all hasNames = true) (h : ofElement e = .ok r) : Sourced r
  | reconciled (mode : Mode) {stored incoming : Record} (hstored : Sourced stored)
      (hincoming : Sourced incoming) : Sourced (reconcile mode stored incoming)
  | simple {name : String} (h : name ≠ "") (category description : String) :
      Sourced (simple name category description)
  | collected {name category : Option String} {lines : List Contents} {said : String}
      {r : Record} (h : Dialogue.collect name category lines = (said, .ok r)) : Sourced r

theorem Sourced.storable {r : Record} (h : r.Sourced) : r.Storable := by
  induction h with
  | parsed hparse hpart hnames h =>
      have hdistinct := hpart.all (hasDistinctKeys_parse hparse)
      exact storable_of_ofElement (all_isWritable_iff.mpr ⟨hnames, hdistinct⟩) h
  | reconciled mode _ _ hstored hincoming =>
      exact isStable_storable.reconcile mode _ _ hstored hincoming
  | simple h category description =>
      exact ⟨canonical_simple h category description, writable_simple _ category description⟩
  | collected h => exact ⟨Dialogue.canonical_collect h, Dialogue.writable_collect h⟩

end Record

namespace Catalog

/-! ## Reading -/

theorem exists_mem_of_forall₂ {α β : Type} {R : α → β → Prop} {xs : List α} {ys : List β}
    (h : List.Forall₂ R xs ys) {x : α} (hx : x ∈ xs) : ∃ y ∈ ys, R x y := by
  induction h with
  | nil => simp at hx
  | cons hfirst _ ih =>
      rcases List.mem_cons.mp hx with rfl | hx
      · exact ⟨_, by simp, hfirst⟩
      · obtain ⟨y, hy, hrel⟩ := ih hx
        exact ⟨y, by simp [hy], hrel⟩

theorem recordAt_eq_ok_iff {position : Nat} {child : Element} {r : Record} :
    recordAt position child = .ok r ↔ Record.ofElement child = .ok r := by
  rw [recordAt]
  constructor
  · intro h
    split at h
    · contradiction
    · split at h
      · rename_i hread
        rw [hread, Except.ok.inj h]
      · contradiction
  · intro h
    rw [if_neg (not_not.mpr (Record.ofElement_eq_ok h).1), h]

theorem recordsFrom_eq_ok_iff {position : Nat} {children : List Element} {records : List Record} :
    recordsFrom position children = .ok records ↔
      List.Forall₂ (fun child r => Record.ofElement child = .ok r) children records := by
  induction children generalizing position records with
  | nil =>
      rw [recordsFrom, List.forall₂_nil_left_iff]
      exact ⟨fun h => (Except.ok.inj h).symm, fun h => by rw [h]⟩
  | cons child rest ih =>
      rw [recordsFrom, List.forall₂_cons_left_iff]
      constructor
      · intro h
        cases hfirst : recordAt position child with
        | error e =>
            rw [hfirst] at h
            contradiction
        | ok r =>
            cases hrest : recordsFrom (position + 1) rest with
            | error e =>
                rw [hfirst, hrest] at h
                contradiction
            | ok others =>
                rw [hfirst, hrest] at h
                exact ⟨r, others, recordAt_eq_ok_iff.mp hfirst, ih.mp hrest,
                  (Except.ok.inj h).symm⟩
      · rintro ⟨r, others, hfirst, hrest, rfl⟩
        rw [recordAt_eq_ok_iff.mpr hfirst, ih.mpr hrest]
        rfl

theorem readRecords_eq_ok_iff {text : String} {rootAttributes : Attributes}
    {records : List Record} :
    readRecords text = .ok (rootAttributes, records) ↔
      ∃ root, parse text = .ok root ∧ root.tag = "instructions" ∧
        root.attributes = rootAttributes ∧
        List.Forall₂ (fun child r => Record.ofElement child = .ok r) root.children records := by
  rw [readRecords]
  cases parse text with
  | error e => simp
  | ok root =>
      simp only [Except.ok.injEq, exists_eq_left']
      constructor
      · intro h
        split at h
        · contradiction
        · rename_i htag
          cases hrecords : recordsFrom 1 root.children with
          | error e =>
              rw [hrecords] at h
              contradiction
          | ok found =>
              rw [hrecords] at h
              obtain ⟨hattributes, rfl⟩ := Prod.mk.inj (Except.ok.inj h)
              exact ⟨not_not.mp htag, hattributes, recordsFrom_eq_ok_iff.mp hrecords⟩
      · rintro ⟨htag, rfl, hrecords⟩
        rw [if_neg (not_not.mpr htag), recordsFrom_eq_ok_iff.mpr hrecords]
        rfl

/-! ## Storable catalogs -/

structure Storable (c : Catalog) : Prop where
  ordered : c.Ordered
  root : isWritable "instructions" c.rootAttributes = true
  records : ∀ r ∈ c.records, r.Storable

inductive IsNamedStart : Catalog → Prop where
  | empty : IsNamedStart {}
  | read {text : String} {root : Element} {c : Catalog} (hparse : parse text = .ok root)
      (hnames : root.all hasNames = true) (h : read text = .ok c) : IsNamedStart c

theorem IsNamedStart.storable {c : Catalog} (h : IsNamedStart c) : c.Storable := by
  cases h with
  | empty => exact ⟨ordered_empty [], by decide, by simp⟩
  | @read text root c hparse hnames h =>
      have hordered := ordered_read h
      obtain ⟨rootAttributes, found, hfound, -, rfl⟩ := read_eq_ok_iff.mp h
      obtain ⟨root', hroot, htag, rfl, hrecords⟩ := readRecords_eq_ok_iff.mp hfound
      obtain rfl : root = root' := Except.ok.inj (hparse.symm.trans hroot)
      have hwritable := all_isWritable_iff.mpr ⟨hnames, hasDistinctKeys_parse hparse⟩
      obtain ⟨hself, hbelow⟩ := all_iff.mp hwritable
      refine ⟨hordered, htag ▸ hself, ?_⟩
      intro r hr
      rw [(sortRecords_perm _).mem_iff] at hr
      obtain ⟨s, hs, rfl⟩ := List.mem_map.mp hr
      obtain ⟨child, hchild, hread⟩ := exists_mem_of_forall₂ hrecords.flip hs
      apply Record.isStable_storable.lowered
      exact Record.storable_of_ofElement (hbelow child hchild) hread

theorem storable_of_read {text : String} {c : Catalog} (hnames : textHasNames text = true)
    (hread : read text = .ok c) : c.Storable := by
  obtain ⟨rootAttributes, found, hfound, -, -⟩ := read_eq_ok_iff.mp hread
  obtain ⟨root, hparse, -, -, -⟩ := readRecords_eq_ok_iff.mp hfound
  exact (IsNamedStart.read hparse (all_hasNames_of_parse hnames hparse) hread).storable

theorem Storable.run {c : Catalog} (h : c.Storable) {operations : List Operation}
    (hrecords : ∀ operation ∈ operations, ∀ r ∈ operation.records, r.Storable) :
    (c.run operations).Storable := by
  have hholds : c.Holds c.rootAttributes Record.Storable := ⟨rfl, h.records⟩
  have hrun := hholds.run Record.isStable_storable hrecords
  refine ⟨h.ordered.run operations, ?_, hrun.records⟩
  rw [hrun.root]
  exact h.root

/-! ## Loading what was saved -/

/-- The catalog with no text in a kept element where there was an empty one. -/
def dropEmptyTexts (c : Catalog) : Catalog :=
  { c with records := c.records.map Record.dropEmptyTexts }

theorem Storable.all_toElement {c : Catalog} (h : c.Storable) :
    c.toElement.all isWritable = true := by
  refine all_iff.mpr ⟨h.root, fun e he => ?_⟩
  obtain ⟨r, hr, rfl⟩ := List.mem_map.mp he
  exact (h.records r hr).writable.all_toElement

theorem names_dropEmptyTexts (c : Catalog) : c.dropEmptyTexts.names = c.names := by
  simp [dropEmptyTexts, names, Record.dropEmptyTexts]

/-- What is loaded from the text of a storable catalog can be stored again. -/
theorem Storable.dropEmptyTexts {c : Catalog} (h : c.Storable) : c.dropEmptyTexts.Storable := by
  refine ⟨⟨?_, ?_⟩, h.root, ?_⟩
  · simpa [Catalog.dropEmptyTexts, Record.dropEmptyTexts] using h.ordered.lowered
  · simpa [Catalog.dropEmptyTexts, Record.dropEmptyTexts, List.pairwise_map]
      using h.ordered.ascending
  · intro r hr
    obtain ⟨s, hs, rfl⟩ := List.mem_map.mp hr
    obtain ⟨hcanonical, hwritable⟩ := h.records s hs
    have hread := Record.ofElement_dropEmptyTexts hcanonical.ofElement_toElement
    refine Record.storable_of_ofElement ?_ hread
    rw [all_dropEmptyTexts]
    exact hwritable.all_toElement

theorem isBlankSlot_tail_indent {e : Element} (h : isBlankSlot e.tail = true) (level : Nat) :
    isBlankSlot (e.indent level).tail = true := by
  rw [Element.indent]
  split
  · exact h
  · simp [fillBlank, h]

/-- The text of a writable catalog denotes its element up to layout. -/
theorem parse_render {c : Catalog} (h : c.toElement.all isWritable = true) :
    ∃ root, parse c.render = .ok root ∧ root.tag = "instructions" ∧
      root.attributes = c.rootAttributes ∧
      root.children.map stripLayout =
        c.records.map fun r => r.toElement.stripLayout.dropEmptyTexts := by
  have hwritable : (c.toElement.indent 0).all isWritable = true := by
    rw [all_indent]
    exact h
  obtain ⟨hnames, hdistinct⟩ := all_isWritable_iff.mp hwritable
  have hparse := parse_document hnames hdistinct (isBlankSlot_tail_indent rfl 0)
  generalize hroot : (c.toElement.indent 0).normalize.withTail none = root at hparse
  have hstrip : root.stripLayout = (c.toElement.stripLayout.dropEmptyTexts).withTail none := by
    rw [← hroot, stripLayout_withTail, stripLayout_normalize, stripLayout_indent]
    rfl
  refine ⟨root, hparse, ?_, ?_, ?_⟩
  · rw [← stripLayout_tag, hstrip]
    rfl
  · rw [← stripLayout_attributes, hstrip]
    rfl
  · rw [← stripLayout_children, hstrip]
    simp [withTail, toElement, Function.comp_def]

/-- If the text of a writable catalog can be read, then every element in it is a record. -/
theorem ofElement_of_read_render {c loaded : Catalog} (h : c.toElement.all isWritable = true)
    (hread : read c.render = .ok loaded) {r : Record} (hr : r ∈ c.records) :
    ∃ s, Record.ofElement r.toElement.dropEmptyTexts = .ok s := by
  obtain ⟨root, hparse, -, -, hchildren⟩ := parse_render h
  obtain ⟨rootAttributes, found, hfound, -, -⟩ := read_eq_ok_iff.mp hread
  obtain ⟨root', hroot, -, -, hrecords⟩ := readRecords_eq_ok_iff.mp hfound
  obtain rfl : root = root' := Except.ok.inj (hparse.symm.trans hroot)
  have hstored : r.toElement.stripLayout.dropEmptyTexts ∈ root.children.map stripLayout := by
    rw [hchildren]
    exact List.mem_map_of_mem hr
  obtain ⟨child, hchild, hsame⟩ := List.mem_map.mp hstored
  obtain ⟨s, -, hs⟩ := exists_mem_of_forall₂ hrecords hchild
  refine ⟨s, ?_⟩
  rw [← Record.ofElement_stripLayout, stripLayout_dropEmptyTexts, ← hsame,
    Record.ofElement_stripLayout, hs]

theorem Storable.read_render {c : Catalog} (h : c.Storable) :
    read c.render = .ok c.dropEmptyTexts := by
  obtain ⟨root, hparse, htag, hattributes, hchildren⟩ := parse_render h.all_toElement
  have hrecords : List.Forall₂ (fun child r => Record.ofElement child = .ok r) root.children
      (c.records.map Record.dropEmptyTexts) := by
    have hstripped : List.Forall₂ (fun child r => Record.ofElement child = .ok r)
        (root.children.map stripLayout) (c.records.map Record.dropEmptyTexts) := by
      rw [hchildren, List.forall₂_map_left_iff, List.forall₂_map_right_iff, List.forall₂_same]
      intro r hr
      have hread : Record.ofElement r.toElement.stripLayout = .ok r := by
        rw [Record.ofElement_stripLayout, (h.records r hr).canonical.ofElement_toElement]
      exact Record.ofElement_dropEmptyTexts hread
    refine (List.forall₂_map_left_iff.mp hstripped).imp fun child r hread => ?_
    rwa [Record.ofElement_stripLayout] at hread
  have hnames : (c.records.map Record.dropEmptyTexts).map Record.name = c.names := by
    simp [names, Record.dropEmptyTexts]
  have hlowered : (c.records.map Record.dropEmptyTexts).map Record.lowered =
      c.records.map Record.dropEmptyTexts := by
    rw [List.map_map]
    refine List.map_congr_left fun r hr => ?_
    exact Record.lowered_eq_self (h.ordered.lowered r hr)
  have hsorted : sortRecords (c.records.map Record.dropEmptyTexts) =
      c.records.map Record.dropEmptyTexts := by
    refine List.mergeSort_of_pairwise ?_
    rw [List.pairwise_map]
    refine h.ordered.ascending.imp fun {a b} hlt => ?_
    have hle : a.dropEmptyTexts.name ≤ b.dropEmptyTexts.name := le_of_lt hlt
    exact decide_eq_true hle
  refine read_eq_ok_iff.mpr ⟨c.rootAttributes, c.records.map Record.dropEmptyTexts, ?_, ?_, ?_⟩
  · exact readRecords_eq_ok_iff.mpr ⟨root, hparse, htag, hattributes, hrecords⟩
  · rw [hlowered, hnames]
    exact h.ordered.names_nodup
  · rw [hlowered, hsorted]
    rfl

theorem render_dropEmptyTexts (c : Catalog) : c.dropEmptyTexts.render = c.render := by
  have hsame : c.dropEmptyTexts.toElement.normalize = c.toElement.normalize := by
    simp only [toElement, dropEmptyTexts, Element.normalize, normalizeAll_eq_map, List.map_map,
      Function.comp_def, Record.normalize_toElement]
  exact document_indent_congr hsame 0

/--
A catalog that was started and changed with records from the known sources is
loaded from its text as it was saved, up to empty texts, and saving what was
loaded gives the same text again.
-/
theorem read_render_run {start : Catalog} (hstart : IsNamedStart start)
    {operations : List Operation}
    (hsourced : ∀ operation ∈ operations, ∀ r ∈ operation.records, r.Sourced) :
    read (start.run operations).render = .ok (start.run operations).dropEmptyTexts ∧
      (start.run operations).dropEmptyTexts.render = (start.run operations).render := by
  have hstorable := hstart.storable.run fun operation hoperation r hr =>
    (hsourced operation hoperation r hr).storable
  exact ⟨hstorable.read_render, render_dropEmptyTexts _⟩

theorem read_render_run_kept :
    IsNamedStart {} ∧
      Record.Sourced { name := "SUB", extra := [⟨"x", [], some "", some "&", []⟩] } ∧
      read (run {} [.insert { name := "SUB", extra := [⟨"x", [], some "", some "&", []⟩] },
          .insert (Record.simple "ADD" "alu" "a < b")]).render =
        .ok { records := [Record.simple "add" "alu" "a < b",
          { name := "sub", extra := [⟨"x", [], none, some "&", []⟩] }] } := by
  have hparse : parse "<instruction name='SUB'><x><![CDATA[]]></x>&amp;</instruction>" =
      .ok ⟨"instruction", [("name", "SUB")], none, none, [⟨"x", [], some "", some "&", []⟩]⟩ := by
    decide +kernel
  have hsub : Record.Sourced { name := "SUB", extra := [⟨"x", [], some "", some "&", []⟩] } :=
    .parsed hparse (.root _) (by decide) rfl
  have hadd : (Record.simple "ADD" "alu" "a < b").Sourced := .simple (by decide) _ _
  refine ⟨.empty, hsub, ?_⟩
  rw [(read_render_run .empty (by simp [Operation.records, hsub, hadd])).1]
  decide +kernel

end Catalog

end InstructionCatalog
