import InstructionCatalog.Proofs.Markup.RoundTrip
import InstructionCatalog.Proofs.Markup.WellFormed
import InstructionCatalog.Proofs.Record.EmptyTexts
import InstructionCatalog.Proofs.Record.Writable

/-!
# The typed view of variants

A block of variants is an element, and `list` is what it says about operands.
The view of a block made from a list is that list.  It reads tags and
attributes only, so neither layout nor other content changes it when the block
is written and parsed again.
-/

namespace InstructionCatalog

open Markup Element

/-! ## Blocks made from a list -/

theorem Variant.stripLayout_toElement (variant : Variant) :
    (Variant.toElement variant).stripLayout = Variant.toElement variant := by
  have hoperands : ∀ e ∈ variant.map Operand.toElement, e.stripLayout = e := by
    intro e he
    obtain ⟨operand, -, rfl⟩ := List.mem_map.mp he
    rfl
  simp [toElement, stripLayout, stripLayoutAll_eq_self hoperands, clearBlank]

theorem Variants.canonical_ofList (variants : List Variant) : (ofList variants).Canonical := by
  have hvariants : ∀ e ∈ variants.map Variant.toElement, e.stripLayout = e := by
    intro e he
    obtain ⟨variant, -, rfl⟩ := List.mem_map.mp he
    exact variant.stripLayout_toElement
  refine ⟨rfl, ?_⟩
  simp [ofElement, ofList, withTail, stripLayout, stripLayoutAll_eq_self hvariants, clearBlank]

theorem Operand.writable_toElement (operand : Operand) :
    operand.toElement.all isWritable = true := by
  have hchildren : operand.toElement.children = [] := rfl
  refine all_iff.mpr ⟨?_, by simp [hchildren]⟩
  rw [toElement]
  by_cases hkind : operand.kind.isEmpty = true <;> cases operand.optional <;>
    simp [hkind, isWritable, hasNames, hasDistinctKeys] <;> decide

theorem Variants.writable_ofList (variants : List Variant) :
    (ofList variants).block.all isWritable = true := by
  refine all_iff.mpr ⟨by simp [ofList, isWritable, hasNames, hasDistinctKeys]; decide, ?_⟩
  intro e he
  obtain ⟨variant, -, rfl⟩ := List.mem_map.mp he
  refine all_iff.mpr
    ⟨by simp [Variant.toElement, isWritable, hasNames, hasDistinctKeys]; decide, ?_⟩
  intro d hd
  obtain ⟨operand, -, rfl⟩ := List.mem_map.mp hd
  exact operand.writable_toElement

/-! ## Variants as they were put in -/

/-- An empty kind has no attribute, and a missing attribute is read as an empty kind. -/
theorem Operand.ofElement_toElement (operand : Operand) :
    ofElement operand.toElement = operand := by
  obtain ⟨kind, optional⟩ := operand
  by_cases hkind : kind = "" <;> cases optional <;>
    simp [ofElement, toElement, value?, Attributes.value?, hkind]

theorem Variant.ofElement_toElement (variant : Variant) :
    ofElement (toElement variant) = variant := by
  have hall : (variant.map Operand.toElement).filter (fun e => e.tag = "operand") =
      variant.map Operand.toElement := by
    refine List.filter_eq_self.mpr fun e he => ?_
    obtain ⟨operand, -, rfl⟩ := List.mem_map.mp he
    rfl
  simp [ofElement, toElement, childrenNamed, hall, Function.comp_def,
    Operand.ofElement_toElement]

theorem Variants.list_ofList (variants : List Variant) : (ofList variants).list = variants := by
  have hall : (variants.map Variant.toElement).filter (fun e => e.tag = "variant") =
      variants.map Variant.toElement := by
    refine List.filter_eq_self.mpr fun e he => ?_
    obtain ⟨variant, -, rfl⟩ := List.mem_map.mp he
    rfl
  simp [list, ofList, childrenNamed, hall, Function.comp_def, Variant.ofElement_toElement]

theorem Variants.size_eq_length_list (v : Variants) : v.size = v.list.length :=
  (List.length_map _).symm

/-! ## What the view does not read -/

section Change

variable {change : Element → Element} (htag : ∀ e, (change e).tag = e.tag)
  (hattributes : ∀ e, (change e).attributes = e.attributes)
  (hchildren : ∀ e, (change e).children = e.children.map change)
include htag hchildren

theorem childrenNamed_change (e : Element) (tag : String) :
    (change e).childrenNamed tag = (e.childrenNamed tag).map change := by
  have hsame : (fun e : Element => decide (e.tag = tag)) ∘ change =
      fun e => decide (e.tag = tag) := by
    funext e
    simp [htag]
  rw [childrenNamed, childrenNamed, hchildren, List.filter_map, hsame]

include hattributes

theorem Variant.ofElement_change (e : Element) :
    Variant.ofElement (change e) = Variant.ofElement e := by
  have hoperand : Operand.ofElement ∘ change = Operand.ofElement := by
    funext e
    have hvalue : (change e).value? = e.value? := by
      funext key
      rw [value?, value?, hattributes]
    rw [Function.comp_apply, Operand.ofElement, Operand.ofElement, hvalue]
  rw [ofElement, childrenNamed_change htag hchildren, List.map_map, hoperand]
  rfl

/-- A change that keeps tags, attributes and the tree keeps the view, whatever it does to text. -/
theorem Variants.list_change (e : Element) : (mk (change e)).list = (mk e).list := by
  have hvariant : Variant.ofElement ∘ change = Variant.ofElement :=
    funext (Variant.ofElement_change htag hattributes hchildren)
  rw [list, childrenNamed_change htag hchildren, List.map_map, hvariant]
  rfl

end Change

theorem Variants.list_dropEmptyTexts (v : Variants) : v.dropEmptyTexts.list = v.list :=
  list_change dropEmptyTexts_tag dropEmptyTexts_attributes dropEmptyTexts_children v.block

/-! ## Writing a block and parsing it again -/

namespace Variants

theorem writable_ofElement {e : Element} (h : e.all isWritable = true) :
    (ofElement e).block.all isWritable = true := by
  rw [ofElement, all_stripLayout, all_withTail]
  exact h

/-- At any level, only empty texts are not read back. -/
theorem exists_reread {v : Variants} (hread : ofElement v.block = v)
    (hwritable : v.block.all isWritable = true) (level : Nat) :
    ∃ e, parse (v.block.indent level).fragment = .ok e ∧ ofElement e = v.dropEmptyTexts := by
  obtain ⟨hnames, hdistinct⟩ := all_isWritable_iff.mp hwritable
  refine ⟨_, parse_fragment (by rwa [all_indent]) (by rwa [all_indent]), ?_⟩
  calc ofElement ((v.block.indent level).normalize.withTail none)
      = ofElement (v.block.indent level).normalize.stripLayout := by
        rw [ofElement_stripLayout]
        rfl
    _ = ofElement v.block.stripLayout.dropEmptyTexts := by
        rw [stripLayout_normalize, stripLayout_indent]
    _ = v.dropEmptyTexts := by
        rw [ofElement_dropEmptyTexts, ofElement_stripLayout, hread]

/--
The view of a block made from a list is that list, and still is after the block
was written at any level and parsed again.  The same holds of the view of any
parsed element with names for its tags and keys, whatever else it holds.
-/
theorem list_reread :
    (∀ variants : List Variant,
      (ofList variants).list = variants ∧ (ofList variants).size = variants.length ∧
        ∀ level, ∃ e, parse ((ofList variants).block.indent level).fragment = .ok e ∧
          (ofElement e).list = variants) ∧
      ∀ text root e, parse text = .ok root → IsPart e root → e.all hasNames = true →
        ∀ level, ∃ reread, parse ((ofElement e).block.indent level).fragment = .ok reread ∧
          (ofElement reread).list = (ofElement e).list := by
  refine ⟨fun variants => ?_, fun text root e hparse hpart hnames level => ?_⟩
  · have hsize : (ofList variants).size = variants.length := by
      rw [size_eq_length_list, list_ofList]
    refine ⟨list_ofList variants, hsize, fun level => ?_⟩
    obtain ⟨e, hreread, he⟩ :=
      exists_reread (canonical_ofList variants).2 (writable_ofList variants) level
    exact ⟨e, hreread, by rw [he, list_dropEmptyTexts, list_ofList]⟩
  · have hwritable : e.all isWritable = true :=
      all_isWritable_iff.mpr ⟨hnames, hpart.all (hasDistinctKeys_parse hparse)⟩
    obtain ⟨reread, hreread, he⟩ :=
      exists_reread (ofElement_block e) (writable_ofElement hwritable) level
    exact ⟨reread, hreread, by rw [he, list_dropEmptyTexts]⟩

/-- An unknown child between two operands, and data before, between and after them. -/
theorem list_reread_mixed :
    let text := "<variants mode=\"64\">a<variant> <operand type=\"&lt;R&gt;\" size=\"8\"/>b" ++
      "<note><operand/></note><operand optional=\"true\"/></variant>\n<encoding/>c</variants>"
    ∃ root, parse text = .ok root ∧ IsPart root root ∧ root.all hasNames = true ∧
      (ofElement root).list = [[{ kind := "<R>" }, { kind := "", optional := true }]] ∧
      ∃ reread, parse ((ofElement root).block.indent 2).fragment = .ok reread ∧
        (ofElement reread).list = [[{ kind := "<R>" }, { kind := "", optional := true }]] := by
  intro text
  have hparse : ∃ root, parse text = .ok root ∧ root.all hasNames = true ∧
      (ofElement root).list = [[{ kind := "<R>" }, { kind := "", optional := true }]] := by
    refine ⟨⟨"variants", [("mode", "64")], some "a", none,
      [⟨"variant", [], some " ", some "\n",
        [⟨"operand", [("type", "<R>"), ("size", "8")], none, some "b", []⟩,
          ⟨"note", [], none, none, [⟨"operand", [], none, none, []⟩]⟩,
          ⟨"operand", [("optional", "true")], none, none, []⟩]⟩,
        ⟨"encoding", [], none, some "c", []⟩]⟩, ?_⟩
    decide +kernel
  obtain ⟨root, hroot, hnames, hlist⟩ := hparse
  obtain ⟨reread, hreread, hsame⟩ := list_reread.2 text root root hroot (.root root) hnames 2
  exact ⟨root, hroot, .root root, hnames, hlist, reread, hreread, hsame.trans hlist⟩

end Variants

end InstructionCatalog
