import InstructionCatalog.Proofs.Record.Content
import InstructionCatalog.Proofs.Record.MergeTable

/-!
# What reading rearranges

The element of a record that was read has the attributes and the children of the
element it was read from, in another order.  The name and the category come
first among the attributes.  Of the children the fields come first, and a field is
the first child with its tag; all others follow as they stood, without layout.
The same rule is used for the children of a documentation.
-/

namespace InstructionCatalog

open Markup Element

/-! ## Attributes -/

/-- The name, then the category if there is one, then the others as they stood. -/
structure NameFirst (source written : Attributes) : Prop where
  same : written.Perm source
  order : ∃ name, written = ("name", name) :: source.filter (fun entry => entry.1 = "category") ++
    source.filter fun entry => entry.1 ≠ "name" ∧ entry.1 ≠ "category"

namespace Record

theorem attributes_of_ofElement {e : Element} {r : Record} (h : ofElement e = .ok r)
    (hdistinct : e.attributes.keys.Nodup) :
    r.attributes = e.attributes.filter fun entry => entry.1 ≠ "name" ∧ entry.1 ≠ "category" := by
  obtain ⟨-, -, rfl⟩ := ofElement_eq_ok h
  change (setAttributes {} e.attributes).attributes = _
  rw [setAttributes_attributes]
  apply Attributes.putAll_eq_append
  exact hdistinct.sublist (List.filter_sublist.map Prod.fst)

theorem category_of_ofElement {e : Element} {r : Record} (h : ofElement e = .ok r)
    (hdistinct : e.attributes.keys.Nodup) : r.category = e.attributes.value? "category" := by
  obtain ⟨-, -, rfl⟩ := ofElement_eq_ok h
  change (setAttributes {} e.attributes).category = _
  rw [setAttributes_category _ hdistinct, Option.or_none]

theorem nameFirst_toElement {e : Element} {r : Record} (h : ofElement e = .ok r)
    (hdistinct : e.attributes.keys.Nodup) : NameFirst e.attributes r.toElement.attributes := by
  have hcanonical := canonical_of_ofElement h
  have hname : e.attributes.value? "name" = some r.name := value?_name_of_ofElement h hdistinct
  have horder := toElement_attributes hcanonical.routed hcanonical.distinct
  rw [category_of_ofElement h hdistinct, ← Attributes.filter_key_eq hdistinct "category",
    attributes_of_ofElement h hdistinct] at horder
  constructor
  · have hfirst : e.attributes.filter (fun entry => entry.1 = "name") = [("name", r.name)] := by
      rw [Attributes.filter_key_eq hdistinct, hname]
      rfl
    have hwritten : r.toElement.attributes.Nodup :=
      .of_map Prod.fst (Attributes.nodup_keys_putAll (by simp) _)
    rw [List.perm_ext_iff_of_nodup hwritten (.of_map Prod.fst hdistinct)]
    intro entry
    rw [horder, ← List.singleton_append, ← hfirst]
    simp only [List.mem_append, List.mem_filter, decide_eq_true_eq]
    tauto
  · exact ⟨r.name, horder⟩

end Record

/-! ## Children -/

/-- The first child with each tag, in the order of the tags. -/
def leading (tags : List String) (children : List Element) : List Element :=
  tags.filterMap fun tag => children.find? fun e => e.tag = tag

/-- All children but the first one with each tag, in the order in which they stand. -/
def remaining (tags : List String) (children : List Element) : List Element :=
  dropTagged (fun tag => if tag ∈ tags then 1 else 0) children

theorem removeFirsts_eq_remaining {tags : List String} (h : tags.Nodup)
    (children : List Element) :
    Documentation.removeFirsts tags children = remaining tags children := by
  induction tags generalizing children with
  | nil => exact (dropTagged_zero children).symm
  | cons tag rest ih =>
      obtain ⟨hfresh, hrest⟩ := List.nodup_cons.mp h
      have htaken : (fun other => if other ∈ tag :: rest then 1 else 0) =
          Function.update (fun other => if other ∈ rest then 1 else 0) tag
            ((if tag ∈ rest then 1 else 0) + 1) := by
        funext other
        by_cases hother : other = tag
        · subst hother
          simp [hfresh]
        · simp [hother]
      rw [remaining, htaken, dropTagged_update]
      exact ih hrest _

/--
The children are those of `source`: the leading ones, each in a form that belongs
to it, and then the remaining ones without layout.  None is lost or doubled.
-/
structure Rearranges (tags : List String) (IsForm : Element → Element → Prop)
    (source written : List Element) : Prop where
  children : ∃ fields, List.Forall₂ IsForm (leading tags source) fields ∧
    written = fields ++ (remaining tags source).map stripLayout
  same : (leading tags source ++ remaining tags source).Perm source
  order : (remaining tags source).Sublist source

theorem forall₂_leading {tags : List String} {IsForm : Element → Element → Prop}
    {form : String → Element → Element}
    (h : ∀ tag ∈ tags, ∀ e : Element, e.tag = tag → IsForm e (form tag e))
    (source : List Element) :
    List.Forall₂ IsForm (leading tags source)
      (tags.filterMap fun tag => (source.find? fun e => e.tag = tag).map (form tag)) := by
  induction tags with
  | nil => exact .nil
  | cons tag rest ih =>
      obtain ⟨htag, hrest⟩ := List.forall_mem_cons.mp h
      have hlater := ih hrest
      unfold leading at hlater ⊢
      cases hfind : source.find? fun e => e.tag = tag with
      | none => simpa [hfind] using hlater
      | some e =>
          have he : e.tag = tag := by simpa using List.find?_some hfind
          simpa [hfind] using ⟨htag e he, hlater⟩

theorem rearranges_of_forms {tags : List String} (htags : tags.Nodup)
    {IsForm : Element → Element → Prop} {form : String → Element → Element}
    (h : ∀ tag ∈ tags, ∀ e : Element, e.tag = tag → IsForm e (form tag e))
    (source : List Element) :
    Rearranges tags IsForm source
      ((tags.filterMap fun tag => (source.find? fun e => e.tag = tag).map (form tag)) ++
        stripLayoutAll (Documentation.removeFirsts tags source)) := by
  rw [stripLayoutAll_eq_map, removeFirsts_eq_remaining htags]
  constructor
  · exact ⟨_, forall₂_leading h source, rfl⟩
  · rw [← removeFirsts_eq_remaining htags]
    exact Documentation.removeFirsts_perm htags source
  · rw [← removeFirsts_eq_remaining htags]
    exact Documentation.removeFirsts_sublist tags source

/-! ## Fields -/

/-- The element without layout and tail, where no text counts as an empty one. -/
structure IsText (source written : Element) : Prop where
  tag : written.tag = source.tag
  attributes : written.attributes = source.attributes
  text : written.text.getD "" = source.stripLayout.text.getD ""
  tail : written.tail = none
  children : written.children = source.children.map stripLayout

theorem Prose.isText_toElement (e : Element) : IsText e ((ofElement e).toElement e.tag) := by
  obtain ⟨tag, attributes, text, tail, children⟩ := e
  unfold ofElement
  split
  · rename_i hplain
    obtain ⟨hattributes, hchildren⟩ := hplain
    simp only [List.isEmpty_iff] at hattributes hchildren
    subst hattributes hchildren
    constructor <;> simp [toElement, textOrEmpty, stripLayout]
  · have hdrop : (dropEmpty text).getD "" = text.getD "" := by
      unfold dropEmpty
      split
      · rename_i hempty
        rw [hempty]
        rfl
      · rfl
    constructor <;> try rfl
    · simp only [toElement, stripLayout]
      split
      · exact hdrop
      · rfl
    · exact stripLayoutAll_eq_map children

/-- The attributes stay, and the children are rearranged by topics. -/
structure IsDocumentation (source written : Element) : Prop where
  tag : written.tag = source.tag
  attributes : written.attributes = source.attributes
  children : Rearranges (Topic.all.map Topic.tag) IsText source.children written.children

theorem Documentation.isDocumentation_toElement {e : Element} (h : e.tag = "documentation") :
    IsDocumentation e (ofElement e).toElement where
  tag := h.symm
  attributes := rfl
  children := by
    have hforms : ∀ tag ∈ Topic.all.map Topic.tag, ∀ child : Element, child.tag = tag →
        IsText child ((Prose.ofElement child).toElement tag) := by
      rintro tag - child rfl
      exact Prose.isText_toElement child
    have hchildren : (ofElement e).toElement.children =
        ((Topic.all.map Topic.tag).filterMap fun tag =>
          (e.children.find? fun child => child.tag = tag).map
            fun child => (Prose.ofElement child).toElement tag) ++
        stripLayoutAll (removeFirsts (Topic.all.map Topic.tag) e.children) := by
      simp only [toElement, ofElement, get?_ofTopics, Option.map_map, List.filterMap_map]
      rfl
    rw [hchildren]
    exact rearranges_of_forms (by decide) hforms e.children

/-- What a field of a record is written as. -/
inductive IsField (source written : Element) : Prop where
  | description (htag : source.tag = "description") (h : IsText source written)
  | documentation (htag : source.tag = "documentation") (h : IsDocumentation source written)
  | variants (htag : source.tag = "variants") (h : written = source.stripLayout.withTail none)

namespace Record

/-- The element of the part that is read from a child with a known tag. -/
def fieldForm (tag : String) : Element → Element :=
  if tag = "description" then Prose.toElement "description" ∘ Prose.ofElement
  else if tag = "documentation" then Documentation.toElement ∘ Documentation.ofElement
  else Variants.block ∘ Variants.ofElement

theorem isField_fieldForm : ∀ tag ∈ knownTags, ∀ e : Element, e.tag = tag →
    IsField e (fieldForm tag e) := by
  intro tag htag e he
  simp only [knownTags, List.mem_cons, List.not_mem_nil, or_false] at htag
  rcases htag with rfl | rfl | rfl
  · apply IsField.description he
    have htext := Prose.isText_toElement e
    rwa [he] at htext
  · apply IsField.documentation he
    exact Documentation.isDocumentation_toElement he
  · apply IsField.variants he
    exact stripLayout_withTail e none

theorem toElement_children_of_ofElement {e : Element} {r : Record} (h : ofElement e = .ok r) :
    r.toElement.children =
      (knownTags.filterMap fun tag =>
        (e.children.find? fun child => child.tag = tag).map (fieldForm tag)) ++
      stripLayoutAll (Documentation.removeFirsts knownTags e.children) := by
  obtain ⟨-, -, hr⟩ := ofElement_eq_ok h
  have hfields : r.fields = knownTags.map fun tag =>
      (tag, (e.children.find? fun child => child.tag = tag).map (fieldForm tag)) := by
    simp [hr, fields, knownTags, fieldForm, child?]
  have hextra : r.extra = stripLayoutAll (Documentation.removeFirsts knownTags e.children) := by
    rw [hr]
  rw [toElement_children, hfields, hextra, List.filterMap_map]
  rfl

/--
The element of a record that was read has what the element it was read from has,
with the name and the category first and then the fields first.
-/
theorem toElement_rearranges {e : Element} {r : Record} (h : ofElement e = .ok r)
    (hdistinct : e.attributes.keys.Nodup) :
    NameFirst e.attributes r.toElement.attributes ∧
      Rearranges knownTags IsField e.children r.toElement.children := by
  constructor
  · exact nameFirst_toElement h hdistinct
  · rw [toElement_children_of_ofElement h]
    exact rearranges_of_forms (by decide) isField_fieldForm e.children

/-- Fields stand between other children, and a second description and a second summary are kept. -/
theorem toElement_rearranges_repeated :
    let x : Element := ⟨"x", [("a", "1")], some " ", some "\n", []⟩
    let variants : Element :=
      ⟨"variants", [], some "\n", some "t", [⟨"variant", [], none, none, []⟩]⟩
    let description (text : String) : Element := ⟨"description", [], some text, some "\n", []⟩
    let summary (text : String) : Element := ⟨"summary", [("b", "2")], some text, none, []⟩
    let documentation : Element :=
      ⟨"documentation", [("c", "3")], none, none, [x, summary "", summary "s"]⟩
    let e : Element :=
      ⟨"instruction", [("k", "4"), ("category", "ALU"), ("name", "Add")], some "\n", none,
        [x, variants, description "one", documentation, description "two"]⟩
    let r : Record :=
      { name := "Add", category := some "ALU", attributes := [("k", "4")]
        description := some (.plain "one")
        documentation := some
          { attributes := [("c", "3")], summary := some (.marked [("b", "2")] none [])
            extra := [x.withTail none, summary "s"] }
        variants := some ⟨variants.stripLayout.withTail none⟩
        extra := [x.withTail none, (description "two").withTail none] }
    ofElement e = .ok r ∧ e.attributes.keys.Nodup ∧
      NameFirst e.attributes r.toElement.attributes ∧
      r.toElement.attributes = [("name", "Add"), ("category", "ALU"), ("k", "4")] ∧
      Rearranges knownTags IsField e.children r.toElement.children ∧
      leading knownTags e.children = [description "one", documentation, variants] ∧
      remaining knownTags e.children = [x, description "two"] := by
  intro x variants description summary documentation e r
  have hread : ofElement e = .ok r := by decide +kernel
  have hdistinct : e.attributes.keys.Nodup := by decide
  obtain ⟨hattributes, hchildren⟩ := toElement_rearranges hread hdistinct
  exact ⟨hread, hdistinct, hattributes, by decide +kernel, hchildren, by decide +kernel,
    by decide +kernel⟩

end Record

end InstructionCatalog
