import InstructionCatalog.Proofs.LetterCase
import InstructionCatalog.Proofs.Markup.Layout
import InstructionCatalog.Proofs.Record.Attributes

/-!
# Canonical records

A record is canonical when each of its parts is in the form that reading gives
it: text fields say no more than their element does, kept elements have no
layout, and a child is kept beside a field only if that field is taken.  What is
read is canonical, reconciling keeps it so, and a canonical record is read back
from its element.
-/

namespace InstructionCatalog

open Markup

/-! ## Children that stand for fields -/

/--
The children of an element that are fields, in their order, with the others.
Tags are different, and the tag of an absent field does not occur at all.
-/
structure Separate (fields : List (String × Option Element)) (extra : List Element) : Prop where
  distinct : (fields.map Prod.fst).Nodup
  tagged : ∀ tag e, (tag, some e) ∈ fields → e.tag = tag
  closed : ∀ tag, (tag, none) ∈ fields → ∀ e ∈ extra, e.tag ≠ tag

namespace Separate

variable {field : String × Option Element} {fields : List (String × Option Element)}
  {extra : List Element}

theorem tail (h : Separate (field :: fields) extra) : Separate fields extra where
  distinct := (List.nodup_cons.mp h.distinct).2
  tagged tag e he := h.tagged tag e (List.mem_cons_of_mem _ he)
  closed tag he := h.closed tag (List.mem_cons_of_mem _ he)

theorem tag_ne_of_absent {tag : String} (h : Separate ((tag, none) :: fields) extra) :
    ∀ e ∈ fields.filterMap Prod.snd ++ extra, e.tag ≠ tag := by
  intro e he
  rcases List.mem_append.mp he with he | he
  · obtain ⟨⟨other, value⟩, hother, hvalue⟩ := List.mem_filterMap.mp he
    obtain rfl : value = some e := hvalue
    have htag := h.tail.tagged other e hother
    rintro rfl
    refine (List.nodup_cons.mp h.distinct).1 ?_
    exact List.mem_map.mpr ⟨_, hother, htag.symm⟩
  · exact h.closed tag (by simp) e he

theorem find? (h : Separate fields extra) {tag : String} {value : Option Element}
    (hfield : (tag, value) ∈ fields) :
    (fields.filterMap Prod.snd ++ extra).find? (fun e => e.tag = tag) = value := by
  induction fields with
  | nil => simp at hfield
  | cons first rest ih =>
      obtain ⟨other, slot⟩ := first
      rcases List.mem_cons.mp hfield with heq | hrest
      · obtain ⟨rfl, rfl⟩ := Prod.mk.inj heq
        cases value with
        | none =>
            refine List.find?_eq_none.mpr fun e he => ?_
            simpa using h.tag_ne_of_absent e he
        | some e => simp [h.tagged tag e (by simp)]
      · have hne : other ≠ tag := by
          rintro rfl
          exact (List.nodup_cons.mp h.distinct).1 (List.mem_map.mpr ⟨_, hrest, rfl⟩)
        cases slot with
        | none => exact ih h.tail hrest
        | some e =>
            have hother : e.tag ≠ tag := by rwa [h.tagged other e (by simp)]
            simpa [hother] using ih h.tail hrest

theorem removeFirsts (h : Separate fields extra) :
    Documentation.removeFirsts (fields.map Prod.fst) (fields.filterMap Prod.snd ++ extra) =
      extra := by
  induction fields with
  | nil => rfl
  | cons first rest ih =>
      obtain ⟨tag, slot⟩ := first
      have hrest := ih h.tail
      rw [List.map_cons, Documentation.removeFirsts, List.foldl_cons]
      cases slot with
      | none =>
          have hkept : (rest.filterMap Prod.snd ++ extra).eraseP (fun e => e.tag = tag) =
              rest.filterMap Prod.snd ++ extra :=
            List.eraseP_of_forall_not (by simpa using h.tag_ne_of_absent)
          rw [List.filterMap_cons_none rfl, hkept]
          exact hrest
      | some e =>
          have hchildren : List.filterMap Prod.snd ((tag, some e) :: rest) =
              e :: rest.filterMap Prod.snd := rfl
          rw [hchildren, List.cons_append,
            List.eraseP_cons_of_pos (by simpa using h.tagged tag e (by simp))]
          exact hrest

end Separate

theorem Documentation.removeFirsts_sublist (tags : List String) (children : List Element) :
    (removeFirsts tags children).Sublist children := by
  induction tags generalizing children with
  | nil => exact List.Sublist.refl children
  | cons tag rest ih => exact (ih _).trans List.eraseP_sublist

namespace Markup.Element

theorem stripLayoutAll_eq_self {es : List Element} (h : ∀ e ∈ es, e.stripLayout = e) :
    stripLayoutAll es = es := by
  rw [stripLayoutAll_eq_map, List.map_congr_left h, List.map_id']

theorem stripLayout_of_mem {es : List Element} {e : Element} (h : e ∈ stripLayoutAll es) :
    e.stripLayout = e := by
  rw [stripLayoutAll_eq_map] at h
  obtain ⟨d, -, rfl⟩ := List.mem_map.mp h
  exact d.stripLayout_stripLayout

/-- Where no child has a tag, none of those that are kept has it. -/
theorem tag_ne_of_child?_eq_none {e kept : Element} {tag : String} (hnone : e.child? tag = none)
    (tags : List String)
    (hkept : kept ∈ stripLayoutAll (Documentation.removeFirsts tags e.children)) :
    kept.tag ≠ tag := by
  rw [stripLayoutAll_eq_map] at hkept
  obtain ⟨d, hd, rfl⟩ := List.mem_map.mp hkept
  have hchild := (Documentation.removeFirsts_sublist tags e.children).subset hd
  simpa using List.find?_eq_none.mp hnone d hchild

end Markup.Element

/-! ## Text fields -/

namespace Prose

@[simp] theorem toElement_tag (tag : String) (p : Prose) : (p.toElement tag).tag = tag := by
  cases p <;> rfl

/-- The field is what its own element says. -/
def Canonical (p : Prose) : Prop :=
  ∀ tag, ofElement (p.toElement tag) = p

theorem canonical_plain (text : String) : (plain text).Canonical :=
  fun _ => rfl

theorem dropEmpty_dropEmpty (slot : Option String) :
    dropEmpty (dropEmpty slot) = dropEmpty slot := by
  by_cases h : slot = some "" <;> simp [dropEmpty, h]

theorem canonical_ofElement (e : Element) : (ofElement e).Canonical := by
  by_cases hplain : e.attributes.isEmpty ∧ e.children.isEmpty
  · have hread : ofElement e = .plain e.textOrEmpty := by rw [ofElement, if_pos hplain]
    rw [hread]
    exact canonical_plain _
  · have hread : ofElement e = .marked e.attributes
        (if e.children.isEmpty then dropEmpty e.text else clearBlank e.text)
        (Element.stripLayoutAll e.children) := by
      rw [ofElement, if_neg hplain]
    intro tag
    rw [hread, toElement, ofElement]
    simp only [Element.isEmpty_stripLayoutAll, Element.stripLayoutAll_stripLayoutAll,
      if_neg hplain]
    split
    · rw [dropEmpty_dropEmpty]
    · rw [clearBlank_clearBlank]

end Prose

/-! ## Documentation -/

theorem Topic.mem_all (topic : Topic) : topic ∈ Topic.all := by
  cases topic <;> decide

namespace Documentation

structure Canonical (d : Documentation) : Prop where
  topics : ∀ topic p, d.get? topic = some p → p.Canonical
  stripped : ∀ e ∈ d.extra, e.stripLayout = e
  closed : ∀ topic, d.get? topic = none → ∀ e ∈ d.extra, e.tag ≠ topic.tag

def fields (d : Documentation) : List (String × Option Element) :=
  Topic.all.map fun topic => (topic.tag, (d.get? topic).map (Prose.toElement topic.tag))

@[simp] theorem get?_ofTopics (attributes : Attributes) (field : Topic → Option Prose)
    (extra : List Element) (topic : Topic) :
    (ofTopics attributes field extra).get? topic = field topic := by
  cases topic <;> rfl

theorem ofTopics_get? (d : Documentation) : ofTopics d.attributes d.get? d.extra = d := rfl

theorem toElement_children (d : Documentation) :
    d.toElement.children = d.fields.filterMap Prod.snd ++ d.extra := by
  rw [fields, List.filterMap_map]
  rfl

theorem fields_tags (d : Documentation) : d.fields.map Prod.fst = Topic.all.map Topic.tag := by
  rw [fields, List.map_map]
  rfl

theorem Canonical.separate {d : Documentation} (h : d.Canonical) :
    Separate d.fields d.extra where
  distinct := by
    rw [fields_tags]
    decide
  tagged := by
    intro tag e he
    obtain ⟨topic, -, heq⟩ := List.mem_map.mp he
    obtain ⟨rfl, hvalue⟩ := Prod.mk.inj heq
    obtain ⟨p, -, rfl⟩ := Option.map_eq_some_iff.mp hvalue
    exact p.toElement_tag _
  closed := by
    intro tag he
    obtain ⟨topic, -, heq⟩ := List.mem_map.mp he
    obtain ⟨rfl, hvalue⟩ := Prod.mk.inj heq
    exact h.closed topic (Option.map_eq_none_iff.mp hvalue)

theorem Canonical.ofElement_toElement {d : Documentation} (h : d.Canonical) :
    ofElement d.toElement = d := by
  have htopic : ∀ topic, (d.toElement.child? topic.tag).map Prose.ofElement = d.get? topic := by
    intro topic
    have hfield : (topic.tag, (d.get? topic).map (Prose.toElement topic.tag)) ∈ d.fields :=
      List.mem_map_of_mem topic.mem_all
    rw [Element.child?, toElement_children, h.separate.find? hfield, Option.map_map]
    cases hget : d.get? topic with
    | none => rfl
    | some p => exact congrArg some (h.topics topic p hget topic.tag)
  rw [ofElement, funext htopic, ← fields_tags d, toElement_children, h.separate.removeFirsts,
    Element.stripLayoutAll_eq_self h.stripped]
  exact d.ofTopics_get?

theorem canonical_ofElement (e : Element) : (ofElement e).Canonical where
  topics := by
    intro topic p hp
    rw [ofElement, get?_ofTopics] at hp
    obtain ⟨child, -, rfl⟩ := Option.map_eq_some_iff.mp hp
    exact Prose.canonical_ofElement child
  stripped d hd := Element.stripLayout_of_mem hd
  closed := by
    intro topic hnone d hd
    rw [ofElement, get?_ofTopics, Option.map_eq_none_iff] at hnone
    exact Element.tag_ne_of_child?_eq_none hnone _ hd

end Documentation

/-! ## Variants -/

namespace Variants

def Canonical (v : Variants) : Prop :=
  v.block.tag = "variants" ∧ ofElement v.block = v

theorem ofElement_block (e : Element) : ofElement (ofElement e).block = ofElement e := by
  have htail : ((e.withTail none).stripLayout).withTail none = (e.withTail none).stripLayout := by
    rw [Element.stripLayout_withTail]
    rfl
  simp only [ofElement, htail, Element.stripLayout_stripLayout]

theorem canonical_ofElement {e : Element} (htag : e.tag = "variants") :
    (ofElement e).Canonical :=
  ⟨by simpa [ofElement, Element.withTail] using htag, ofElement_block e⟩

end Variants

/-! ## Records -/

namespace Record

def fields (r : Record) : List (String × Option Element) :=
  [("description", r.description.map (Prose.toElement "description")),
    ("documentation", r.documentation.map Documentation.toElement),
    ("variants", r.variants.map Variants.block)]

structure Canonical (r : Record) : Prop where
  named : r.name ≠ ""
  routed : r.IsRouted
  distinct : r.attributes.keys.Nodup
  description : ∀ p, r.description = some p → p.Canonical
  documentation : ∀ d, r.documentation = some d → d.Canonical
  variants : ∀ v, r.variants = some v → v.Canonical
  stripped : ∀ e ∈ r.extra, e.stripLayout = e
  closed : ∀ tag, (tag, none) ∈ r.fields → ∀ e ∈ r.extra, e.tag ≠ tag

theorem toElement_children (r : Record) :
    r.toElement.children = r.fields.filterMap Prod.snd ++ r.extra := by
  obtain ⟨name, category, attributes, description, documentation, variants, extra⟩ := r
  cases description <;> cases documentation <;> cases variants <;> rfl

theorem fields_tags (r : Record) : r.fields.map Prod.fst = knownTags := rfl

theorem toElement_attributes {r : Record} (hrouted : r.IsRouted)
    (hdistinct : r.attributes.keys.Nodup) :
    r.toElement.attributes =
      ("name", r.name) :: (r.category.map fun category => ("category", category)).toList ++
        r.attributes := by
  have hnodup : Attributes.keys ([("name", r.name)] ++
      ((r.category.map fun category => ("category", category)).toList ++ r.attributes)) |>.Nodup := by
    obtain ⟨hname, hcategory⟩ := hrouted
    cases r.category <;> simp [hname, hcategory, hdistinct]
  exact Attributes.putAll_eq_append hnodup

/-- Name and category are routed back to their fields. -/
theorem setAttributes_toElement {r : Record} (hrouted : r.IsRouted)
    (hdistinct : r.attributes.keys.Nodup) :
    setAttributes {} r.toElement.attributes =
      { name := r.name, category := r.category, attributes := r.attributes } := by
  have hattributes : Attributes.putAll [] r.attributes = r.attributes :=
    Attributes.putAll_eq_append hdistinct
  have hfirst : setAttributes {} r.toElement.attributes =
      setAttributes { name := r.name, category := r.category } r.attributes := by
    rw [toElement_attributes hrouted hdistinct]
    cases r.category <;> rfl
  rw [hfirst, setAttributes_eq_putAll _ hrouted.1 hrouted.2, hattributes]

theorem Canonical.separate {r : Record} (h : r.Canonical) : Separate r.fields r.extra where
  distinct := by
    rw [fields_tags]
    decide
  tagged := by
    intro tag e he
    simp only [fields, List.mem_cons, List.not_mem_nil, or_false, Prod.mk.injEq] at he
    rcases he with ⟨rfl, he⟩ | ⟨rfl, he⟩ | ⟨rfl, he⟩
    · obtain ⟨p, -, rfl⟩ := Option.map_eq_some_iff.mp he.symm
      exact p.toElement_tag _
    · obtain ⟨d, -, rfl⟩ := Option.map_eq_some_iff.mp he.symm
      rfl
    · obtain ⟨v, hv, rfl⟩ := Option.map_eq_some_iff.mp he.symm
      exact (h.variants v hv).1
  closed := h.closed

theorem Canonical.ofElement_toElement {r : Record} (h : r.Canonical) :
    ofElement r.toElement = .ok r := by
  have hchild : ∀ {tag : String} {value : Option Element}, (tag, value) ∈ r.fields →
      r.toElement.child? tag = value := by
    intro tag value hfield
    rw [Element.child?, toElement_children, h.separate.find? hfield]
  have hdescription : (r.toElement.child? "description").map Prose.ofElement =
      r.description := by
    rw [hchild (List.mem_cons_self ..), Option.map_map]
    cases hp : r.description with
    | none => rfl
    | some p => exact congrArg some (h.description p hp _)
  have hdocumentation : (r.toElement.child? "documentation").map Documentation.ofElement =
      r.documentation := by
    rw [hchild (List.mem_cons_of_mem _ (List.mem_cons_self ..)), Option.map_map]
    cases hd : r.documentation with
    | none => rfl
    | some d => exact congrArg some (h.documentation d hd).ofElement_toElement
  have hvariants : (r.toElement.child? "variants").map Variants.ofElement = r.variants := by
    rw [hchild (List.mem_cons_of_mem _ (List.mem_cons_of_mem _ (List.mem_cons_self ..))),
      Option.map_map]
    cases hv : r.variants with
    | none => rfl
    | some v => exact congrArg some (h.variants v hv).2
  have hextra : Element.stripLayoutAll
      (Documentation.removeFirsts knownTags r.toElement.children) = r.extra := by
    rw [← fields_tags r, toElement_children, h.separate.removeFirsts,
      Element.stripLayoutAll_eq_self h.stripped]
  have htag : r.toElement.tag = "instruction" := rfl
  rw [ofElement, setAttributes_toElement h.routed h.distinct, hdescription, hdocumentation,
    hvariants, hextra]
  simp [htag, h.named]

theorem ofElement_eq_ok {e : Element} {r : Record} (h : ofElement e = .ok r) :
    e.tag = "instruction" ∧ r.name ≠ "" ∧
      r = { setAttributes {} e.attributes with
        description := (e.child? "description").map Prose.ofElement
        documentation := (e.child? "documentation").map Documentation.ofElement
        variants := (e.child? "variants").map Variants.ofElement
        extra := Element.stripLayoutAll (Documentation.removeFirsts knownTags e.children) } := by
  rw [ofElement] at h
  split at h
  · contradiction
  · rename_i htag
    split at h
    · contradiction
    · rename_i hname
      obtain rfl := Except.ok.inj h
      exact ⟨not_not.mp htag, hname, rfl⟩

theorem value?_name_of_ofElement {e : Element} {r : Record} (h : ofElement e = .ok r)
    (hdistinct : e.attributes.keys.Nodup) : e.value? "name" = some r.name := by
  obtain ⟨-, hname, rfl⟩ := ofElement_eq_ok h
  change (setAttributes {} e.attributes).name ≠ "" at hname
  change e.attributes.value? "name" = some (setAttributes {} e.attributes).name
  rw [setAttributes_name _ hdistinct] at hname ⊢
  cases hvalue : e.attributes.value? "name" with
  | none => simp [hvalue] at hname
  | some name => rfl

theorem canonical_of_ofElement {e : Element} {r : Record} (h : ofElement e = .ok r) :
    r.Canonical := by
  have hrouted := isRouted_of_ofElement h
  obtain ⟨-, hname, rfl⟩ := ofElement_eq_ok h
  refine ⟨hname, hrouted, ?_, ?_, ?_, ?_, ?_, ?_⟩
  · exact nodup_keys_setAttributes (r := {}) (by simp) e.attributes
  · intro p hp
    obtain ⟨child, -, rfl⟩ := Option.map_eq_some_iff.mp hp
    exact Prose.canonical_ofElement child
  · intro d hd
    obtain ⟨child, -, rfl⟩ := Option.map_eq_some_iff.mp hd
    exact Documentation.canonical_ofElement child
  · intro v hv
    obtain ⟨child, hchild, rfl⟩ := Option.map_eq_some_iff.mp hv
    exact Variants.canonical_ofElement (by simpa using List.find?_some hchild)
  · intro d hd
    exact Element.stripLayout_of_mem hd
  · intro tag hnone d hd
    have habsent : e.child? tag = none := by
      simp only [fields, Option.map_map, List.mem_cons, List.not_mem_nil, or_false, Prod.mk.injEq,
        eq_comm (a := none), Option.map_eq_none_iff] at hnone
      rcases hnone with ⟨rfl, hnone⟩ | ⟨rfl, hnone⟩ | ⟨rfl, hnone⟩ <;> exact hnone
    exact Element.tag_ne_of_child?_eq_none habsent _ hd

end Record

/-! ## Reconciling -/

theorem mem_of_takeTagged {tag : String} {es others : List Element} {found : Element}
    (h : takeTagged tag es = some (found, others)) : found ∈ es ∧ ∀ e ∈ others, e ∈ es := by
  induction es generalizing others with
  | nil => simp [takeTagged] at h
  | cons e rest ih =>
      rw [takeTagged] at h
      split at h
      · obtain ⟨rfl, rfl⟩ := Prod.mk.inj (Option.some.inj h)
        exact ⟨by simp, fun d hd => List.mem_cons_of_mem _ hd⟩
      · obtain ⟨⟨found', others'⟩, hrest, heq⟩ := Option.map_eq_some_iff.mp h
        obtain ⟨rfl, rfl⟩ := Prod.mk.inj heq
        obtain ⟨hfound, hothers⟩ := ih hrest
        refine ⟨List.mem_cons_of_mem _ hfound, fun d hd => ?_⟩
        rcases List.mem_cons.mp hd with rfl | hd
        · simp
        · exact List.mem_cons_of_mem _ (hothers d hd)

/-- Merging makes no children of its own. -/
theorem mem_of_mem_mergeChildren {stored incoming : List Element} {e : Element}
    (h : e ∈ mergeChildren stored incoming) : e ∈ stored ∨ e ∈ incoming := by
  induction stored generalizing incoming with
  | nil => exact .inr h
  | cons first rest ih =>
      rw [mergeChildren] at h
      split at h
      · rename_i found others htake
        obtain ⟨hfound, hothers⟩ := mem_of_takeTagged htake
        rcases List.mem_cons.mp h with rfl | h
        · exact .inr hfound
        · rcases ih h with hrest | hother
          · exact .inl (List.mem_cons_of_mem _ hrest)
          · exact .inr (hothers e hother)
      · rcases List.mem_cons.mp h with rfl | h
        · exact .inl (List.mem_cons_self ..)
        · exact (ih h).imp_left (List.mem_cons_of_mem _)

section Parts

variable {α : Type} {P : α → Prop} {Q : Element → Prop} {R : Documentation → Prop}

theorem forall_eq_some_or {first second : Option α} (hfirst : ∀ x, first = some x → P x)
    (hsecond : ∀ x, second = some x → P x) : ∀ x, first.or second = some x → P x := by
  intro x hx
  rcases Option.or_eq_some_iff.mp hx with hx | ⟨-, hx⟩
  · exact hfirst x hx
  · exact hsecond x hx

theorem forall_mem_mergeChildren {stored incoming : List Element} (hstored : ∀ e ∈ stored, Q e)
    (hincoming : ∀ e ∈ incoming, Q e) : ∀ e ∈ mergeChildren stored incoming, Q e := by
  intro e he
  rcases mem_of_mem_mergeChildren he with he | he
  · exact hstored e he
  · exact hincoming e he

theorem forall_eq_some_mergeDocumentation {stored incoming : Option Documentation}
    (hmerge : ∀ {first second}, R first → R second → R (first.merge second))
    (hstored : ∀ d, stored = some d → R d) (hincoming : ∀ d, incoming = some d → R d) :
    ∀ d, Record.mergeDocumentation stored incoming = some d → R d := by
  intro d hd
  cases incoming with
  | none => exact hstored d (by simpa [Record.mergeDocumentation] using hd)
  | some second =>
      cases stored with
      | none => exact hincoming d hd
      | some first =>
          obtain rfl := Option.some.inj hd
          exact hmerge (hstored first rfl) (hincoming second rfl)

end Parts

theorem Documentation.Canonical.merge {stored incoming : Documentation}
    (hstored : stored.Canonical) (hincoming : incoming.Canonical) :
    (stored.merge incoming).Canonical where
  topics topic := by
    rw [Documentation.merge, get?_ofTopics]
    exact forall_eq_some_or (hincoming.topics topic) (hstored.topics topic)
  stripped := forall_mem_mergeChildren hstored.stripped hincoming.stripped
  closed := by
    intro topic hnone
    rw [Documentation.merge, get?_ofTopics, Option.or_eq_none_iff] at hnone
    exact forall_mem_mergeChildren (hstored.closed topic hnone.2) (hincoming.closed topic hnone.1)

namespace Record

theorem Canonical.lowered {r : Record} (h : r.Canonical) : r.lowered.Canonical :=
  { h with named := mt (Text.lower_eq_empty_iff r.name).mp h.named }

theorem canonical_simple {name : String} (h : name ≠ "") (category description : String) :
    (simple name category description).Canonical where
  named := mt (Text.lower_eq_empty_iff name).mp h
  routed := isRouted_simple name category description
  distinct := by simp [simple]
  description := by
    rintro p ⟨⟩
    exact Prose.canonical_plain description
  documentation := by simp [simple]
  variants := by simp [simple]
  stripped := by simp [simple]
  closed := by simp [simple]

theorem mergeDocumentation_eq_none_iff {stored incoming : Option Documentation} :
    mergeDocumentation stored incoming = none ↔ stored = none ∧ incoming = none := by
  cases incoming <;> cases stored <;> simp [mergeDocumentation]

/-- A field that a merge leaves out is absent in both records. -/
theorem absent_of_absent_merge {stored incoming : Record} {tag : String}
    (h : (tag, none) ∈ (stored.merge incoming).fields) :
    (tag, none) ∈ stored.fields ∧ (tag, none) ∈ incoming.fields := by
  simp only [fields, List.mem_cons, List.not_mem_nil, or_false, Prod.mk.injEq, eq_comm (a := none),
    Option.map_eq_none_iff] at h ⊢
  rcases h with ⟨rfl, h⟩ | ⟨rfl, h⟩ | ⟨rfl, h⟩
  · have hboth := Option.or_eq_none_iff.mp h
    exact ⟨.inl ⟨rfl, hboth.2⟩, .inl ⟨rfl, hboth.1⟩⟩
  · have hboth := mergeDocumentation_eq_none_iff.mp h
    exact ⟨.inr (.inl ⟨rfl, hboth.1⟩), .inr (.inl ⟨rfl, hboth.2⟩)⟩
  · have hboth := Option.or_eq_none_iff.mp h
    exact ⟨.inr (.inr ⟨rfl, hboth.2⟩), .inr (.inr ⟨rfl, hboth.1⟩)⟩

theorem Canonical.merge {stored incoming : Record} (hstored : stored.Canonical)
    (hincoming : incoming.Canonical) : (stored.merge incoming).Canonical where
  named := by
    rw [merge_name stored hincoming.routed]
    exact hincoming.named
  routed := hstored.routed.reconcile .merge hincoming.routed
  distinct := by
    rw [merge_attributes stored hincoming.routed]
    exact Attributes.nodup_keys_putAll hstored.distinct _
  description := forall_eq_some_or hincoming.description hstored.description
  documentation := forall_eq_some_mergeDocumentation Documentation.Canonical.merge
    hstored.documentation hincoming.documentation
  variants := forall_eq_some_or hincoming.variants hstored.variants
  stripped := forall_mem_mergeChildren hstored.stripped hincoming.stripped
  closed := by
    intro tag hnone
    obtain ⟨hfirst, hsecond⟩ := absent_of_absent_merge hnone
    exact forall_mem_mergeChildren (hstored.closed tag hfirst) (hincoming.closed tag hsecond)

theorem Canonical.reconcile {stored incoming : Record} (mode : Mode)
    (hstored : stored.Canonical) (hincoming : incoming.Canonical) :
    (Record.reconcile mode stored incoming).Canonical := by
  cases mode with
  | replace => exact hincoming
  | merge => exact hstored.merge hincoming

end Record

end InstructionCatalog
