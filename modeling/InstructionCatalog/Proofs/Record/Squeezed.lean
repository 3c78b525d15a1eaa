import InstructionCatalog.Proofs.Markup.Squeezed
import InstructionCatalog.Proofs.Record.EmptyTexts

/-!
# Records up to white space

Elements that agree up to the white space in their character data are read as
records that agree in the same way: name, category, attributes and elements are
the same, and so are the words of each text.
-/

namespace InstructionCatalog

open Markup

def Prose.squeezed : Prose → Prose
  | .plain text => .plain (Text.squeeze text)
  | .marked attributes text children =>
      .marked attributes (squeezeSlot text) (children.map Element.squeezed)

def Documentation.squeezed (d : Documentation) : Documentation :=
  ofTopics d.attributes (fun topic => (d.get? topic).map Prose.squeezed)
    (d.extra.map Element.squeezed)

def Variants.squeezed (v : Variants) : Variants where
  block := v.block.squeezed

/-- The record with all of its character data squeezed. -/
def Record.squeezed (r : Record) : Record :=
  { r with
    description := r.description.map Prose.squeezed
    documentation := r.documentation.map Documentation.squeezed
    variants := r.variants.map Variants.squeezed
    extra := r.extra.map Element.squeezed }

/-! ## Layout -/

theorem squeezeSlot_clearBlank (slot : Option String) :
    squeezeSlot (clearBlank slot) = squeezeSlot slot := by
  rw [squeezeSlot, clearBlank_clearBlank, squeezeSlot]

theorem squeezeSlot_dropEmpty (slot : Option String) :
    squeezeSlot (Prose.dropEmpty slot) = squeezeSlot slot := by
  rw [Prose.dropEmpty]
  split
  · rename_i hempty
    rw [hempty]
    decide
  · rfl

theorem Markup.Element.squeezed_stripLayout (e : Element) :
    e.stripLayout.squeezed = e.squeezed := by
  induction e with
  | node tag attributes text tail children ih =>
      refine Element.squeezed_eq_iff.mpr ⟨rfl, rfl, ?_, squeezeSlot_clearBlank tail, ?_⟩
      · simp only [Element.stripLayout]
        split
        · rfl
        · exact squeezeSlot_clearBlank text
      · rw [Element.stripLayout_children, List.map_map]
        exact List.map_congr_left ih

theorem map_squeezed_stripLayoutAll (es : List Element) :
    (Element.stripLayoutAll es).map Element.squeezed = es.map Element.squeezed := by
  simp only [Element.stripLayoutAll_eq_map, List.map_map, Function.comp_def,
    Element.squeezed_stripLayout]

/-! ## Reading -/

section Reading

variable {e e' : Element} (h : e.squeezed = e'.squeezed)
include h

/-- What is made of a child up to white space is the same for both elements. -/
theorem child?_map_congr {α : Type} {f : Element → α}
    (hf : ∀ {d d' : Element}, d.squeezed = d'.squeezed → f d = f d') (tag : String) :
    (e.child? tag).map f = (e'.child? tag).map f := by
  have hchild : (e.child? tag).map Element.squeezed = (e'.child? tag).map Element.squeezed := by
    rw [← child?_of_children_map Element.squeezed_tag e.squeezed_children tag, h,
      child?_of_children_map Element.squeezed_tag e'.squeezed_children tag]
  cases hd : e.child? tag with
  | none => simp_all
  | some d =>
      rw [hd, Option.map_some, eq_comm, Option.map_eq_some_iff] at hchild
      obtain ⟨d', hd', hsame⟩ := hchild
      rw [hd', Option.map_some, Option.map_some, hf hsame]

theorem removeFirsts_congr (tags : List String) :
    (Element.stripLayoutAll (Documentation.removeFirsts tags e.children)).map Element.squeezed =
      (Element.stripLayoutAll (Documentation.removeFirsts tags e'.children)).map
        Element.squeezed := by
  rw [map_squeezed_stripLayoutAll, map_squeezed_stripLayoutAll,
    ← removeFirsts_map Element.squeezed_tag, ← removeFirsts_map Element.squeezed_tag,
    (Element.squeezed_eq_iff.mp h).2.2.2.2]

theorem Prose.ofElement_congr : (ofElement e).squeezed = (ofElement e').squeezed := by
  obtain ⟨-, hattributes, htext, -, hchildren⟩ := Element.squeezed_eq_iff.mp h
  have hslot : ∀ d : Element, squeezeSlot
      (if d.children.isEmpty then dropEmpty d.text else clearBlank d.text) =
        squeezeSlot d.text := by
    intro d
    split
    · exact squeezeSlot_dropEmpty d.text
    · exact squeezeSlot_clearBlank d.text
  have hplain : Text.squeeze e.textOrEmpty = Text.squeeze e'.textOrEmpty :=
    squeezeSlot_eq_iff.mp htext
  rw [ofElement, ofElement, hattributes, Element.isEmpty_eq_of_map hchildren]
  split
  · rw [squeezed, squeezed, hplain]
  · rw [squeezed, squeezed, ← Element.isEmpty_eq_of_map hchildren, hslot,
      Element.isEmpty_eq_of_map hchildren, hslot, htext, map_squeezed_stripLayoutAll,
      map_squeezed_stripLayoutAll, hchildren]

theorem Documentation.ofElement_congr : (ofElement e).squeezed = (ofElement e').squeezed := by
  have htopic := fun topic : Topic =>
    child?_map_congr h (f := fun d => (Prose.ofElement d).squeezed) Prose.ofElement_congr topic.tag
  have hextra := removeFirsts_congr h (Topic.all.map Topic.tag)
  simp only [ofElement, squeezed, get?_ofTopics, Option.map_map, Function.comp_def, htopic]
  simp only [ofTopics, hextra, (Element.squeezed_eq_iff.mp h).2.1]

theorem Variants.ofElement_congr : (ofElement e).squeezed = (ofElement e').squeezed := by
  obtain ⟨htag, hattributes, htext, -, hchildren⟩ := Element.squeezed_eq_iff.mp h
  have hblock : (e.withTail none).squeezed = (e'.withTail none).squeezed :=
    Element.squeezed_eq_iff.mpr ⟨htag, hattributes, htext, rfl, hchildren⟩
  rw [ofElement, ofElement, squeezed, squeezed, Element.squeezed_stripLayout,
    Element.squeezed_stripLayout, hblock]

theorem Record.ofElement_congr :
    (ofElement e).map Record.squeezed = (ofElement e').map Record.squeezed := by
  obtain ⟨htag, hattributes, -, -, -⟩ := Element.squeezed_eq_iff.mp h
  have hdescription := child?_map_congr h (f := fun d => (Prose.ofElement d).squeezed)
    Prose.ofElement_congr "description"
  have hdocumentation := child?_map_congr h (f := fun d => (Documentation.ofElement d).squeezed)
    Documentation.ofElement_congr "documentation"
  have hvariants := child?_map_congr h (f := fun d => (Variants.ofElement d).squeezed)
    Variants.ofElement_congr "variants"
  have hextra := removeFirsts_congr h knownTags
  rw [ofElement, ofElement, htag, hattributes]
  split
  · rfl
  · split
    · rfl
    · simp only [Except.map, squeezed, Option.map_map, Function.comp_def, hdescription,
        hdocumentation, hvariants, hextra]

end Reading

end InstructionCatalog
