import InstructionCatalog.Proofs.Markup.Strings
import InstructionCatalog.Proofs.Record.EmptyTexts

/-!
# Changing the strings of a record

Reading an element in which all strings have been changed gives the record with
all of its strings changed, if blank strings stay blank and empty ones empty.
-/

namespace InstructionCatalog

open Markup

def Prose.mapStrings (f : String → String) : Prose → Prose
  | .plain text => .plain (f text)
  | .marked attributes text children =>
      .marked (attributes.mapValues f) (text.map f) (Element.mapStringsAll f children)

def Documentation.mapStrings (f : String → String) (d : Documentation) : Documentation :=
  ofTopics (d.attributes.mapValues f) (fun topic => (d.get? topic).map (Prose.mapStrings f))
    (Element.mapStringsAll f d.extra)

def Variants.mapStrings (f : String → String) (v : Variants) : Variants where
  block := v.block.mapStrings f

/-- Change the name, the category, every attribute value and all character data. -/
def Record.mapStrings (f : String → String) (r : Record) : Record where
  name := f r.name
  category := r.category.map f
  attributes := r.attributes.mapValues f
  description := r.description.map (Prose.mapStrings f)
  documentation := r.documentation.map (Documentation.mapStrings f)
  variants := r.variants.map (Variants.mapStrings f)
  extra := Element.mapStringsAll f r.extra

section Reading

variable {f : String → String} (hf : KeepsBlank f)
include hf

theorem stripLayoutAll_map_mapStrings (es : List Element) :
    Element.stripLayoutAll (es.map (Element.mapStrings f)) =
      Element.mapStringsAll f (Element.stripLayoutAll es) := by
  simp only [Element.stripLayoutAll_eq_map, Element.mapStringsAll_eq_map, List.map_map,
    Function.comp_def, Element.stripLayout_mapStrings hf]

theorem Prose.ofElement_mapStrings (e : Element) :
    ofElement (e.mapStrings f) = (ofElement e).mapStrings f := by
  have hdrop : dropEmpty (e.text.map f) = (dropEmpty e.text).map f := by
    cases e.text with
    | none => rfl
    | some s => by_cases hs : s = "" <;> simp [dropEmpty, hf.empty, hs]
  simp only [ofElement, Element.mapStrings_attributes, Element.mapStrings_children,
    Element.mapStrings_text, Element.textOrEmpty, Attributes.isEmpty_mapValues, List.isEmpty_map,
    hf.getD_map, hdrop, hf.clearBlank_map, stripLayoutAll_map_mapStrings hf]
  split
  · rfl
  · rw [Prose.mapStrings, apply_ite (Option.map f)]

theorem Documentation.ofElement_mapStrings (e : Element) :
    ofElement (e.mapStrings f) = (ofElement e).mapStrings f := by
  have hchild := child?_of_children_map (Element.mapStrings_tag f) (e.mapStrings_children f)
  have hextra := removeFirsts_map (Element.mapStrings_tag f) (Topic.all.map Topic.tag) e.children
  simp only [ofElement, mapStrings, get?_ofTopics, Element.mapStrings_attributes, hchild,
    Option.map_map, Function.comp_def, Prose.ofElement_mapStrings hf,
    Element.mapStrings_children, hextra, stripLayoutAll_map_mapStrings hf]
  rfl

theorem Variants.ofElement_mapStrings (e : Element) :
    ofElement (e.mapStrings f) = (ofElement e).mapStrings f := by
  have htail : (e.mapStrings f).withTail none = (e.withTail none).mapStrings f :=
    (e.mapStrings_withTail f none).symm
  rw [ofElement, ofElement, mapStrings, htail, Element.stripLayout_mapStrings hf]

omit hf in
theorem Record.mapStrings_setAttribute (r : Record) (key value : String) :
    (r.setAttribute key value).mapStrings f = (r.mapStrings f).setAttribute key (f value) := by
  simp only [setAttribute]
  split
  · rfl
  · split
    · rfl
    · simp only [mapStrings, Attributes.mapValues_put]

omit hf in
theorem Record.mapStrings_setAttributes (r : Record) (changes : Attributes) :
    (r.setAttributes changes).mapStrings f =
      (r.mapStrings f).setAttributes (changes.mapValues f) := by
  induction changes generalizing r with
  | nil => rfl
  | cons change rest ih =>
      have hrest := ih (r.setAttribute change.1 change.2)
      rw [mapStrings_setAttribute] at hrest
      exact hrest

theorem Record.ofElement_mapStrings {e : Element} {r : Record} (h : ofElement e = .ok r) :
    ofElement (e.mapStrings f) = .ok (r.mapStrings f) := by
  have hchild := child?_of_children_map (Element.mapStrings_tag f) (e.mapStrings_children f)
  have hextra := removeFirsts_map (Element.mapStrings_tag f) knownTags e.children
  obtain ⟨htag, hname, rfl⟩ := ofElement_eq_ok h
  have hempty : ({} : Record).mapStrings f = {} := by
    simp [mapStrings, hf.map_empty, Attributes.mapValues, Element.mapStringsAll]
  have hattributes := mapStrings_setAttributes (f := f) {} e.attributes
  rw [hempty] at hattributes
  have hnamed : ¬ ((setAttributes {} e.attributes).mapStrings f).name = "" :=
    mt (hf.empty _).mp hname
  simp only [ofElement, Element.mapStrings_tag, htag, Element.mapStrings_attributes,
    ← hattributes, hnamed, hchild, Option.map_map, Function.comp_def,
    Prose.ofElement_mapStrings hf, Documentation.ofElement_mapStrings hf,
    Variants.ofElement_mapStrings hf, Element.mapStrings_children, hextra,
    stripLayoutAll_map_mapStrings hf]
  simp [mapStrings, Function.comp_def]

end Reading

end InstructionCatalog
