import InstructionCatalog.Proofs.Record.Canonical

/-!
# Writable records

A record is writable when every tag and key of its element is a name and no
element has a key twice.  A record is writable when the element it was read from
is, and reconciling writable records gives a writable one.
-/

namespace InstructionCatalog

open Markup Element

/-! ## Elements and fields -/

namespace Markup.Element

theorem isWritable_putAll {tag : String} {stored incoming : Attributes}
    (hstored : isWritable tag stored = true) (hincoming : isWritable tag incoming = true) :
    isWritable tag (stored.putAll incoming) = true := by
  obtain ⟨htag, hstoredNames, hdistinct⟩ := isWritable_iff.mp hstored
  obtain ⟨-, hincomingNames, -⟩ := isWritable_iff.mp hincoming
  refine isWritable_iff.mpr ⟨htag, ?_, Attributes.nodup_keys_putAll hdistinct incoming⟩
  intro key hkey
  rcases Attributes.mem_keys_putAll.mp hkey with hkey | hkey
  · exact hincomingNames key hkey
  · exact hstoredNames key hkey

theorem isWritable_retag {tag other : String} {attributes : Attributes}
    (h : isWritable tag attributes = true) (hother : isName other = true) :
    isWritable other attributes = true :=
  isWritable_iff.mpr ⟨hother, (isWritable_iff.mp h).2⟩

variable {p : String → Attributes → Bool} {e : Element}

theorem all_child? (h : e.all p = true) {tag : String} {child : Element}
    (hchild : e.child? tag = some child) : child.all p = true :=
  (all_iff.mp h).2 child (List.mem_of_find?_eq_some hchild)

theorem all_of_mem_stripLayoutAll {es : List Element} (h : ∀ e ∈ es, e.all p = true) :
    ∀ e ∈ stripLayoutAll es, e.all p = true := by
  intro e he
  rw [stripLayoutAll_eq_map] at he
  obtain ⟨d, hd, rfl⟩ := List.mem_map.mp he
  rw [all_stripLayout]
  exact h d hd

theorem all_of_mem_kept (h : e.all p = true) (tags : List String) :
    ∀ kept ∈ stripLayoutAll (Documentation.removeFirsts tags e.children), kept.all p = true :=
  all_of_mem_stripLayoutAll fun d hd =>
    (all_iff.mp h).2 d ((Documentation.removeFirsts_sublist tags e.children).subset hd)

end Markup.Element

theorem Prose.writable_ofElement {e : Element} (h : e.all isWritable = true) {tag : String}
    (htag : isName tag = true) : ((ofElement e).toElement tag).all isWritable = true := by
  obtain ⟨hself, hbelow⟩ := all_iff.mp h
  rw [ofElement]
  split
  · exact all_iff.mpr ⟨isWritable_iff.mpr ⟨htag, by simp [toElement]⟩, by simp [toElement]⟩
  · exact all_iff.mpr ⟨isWritable_retag hself htag, all_of_mem_stripLayoutAll hbelow⟩

theorem Prose.writable_plain {tag : String} (htag : isName tag = true) (text : String) :
    ((plain text).toElement tag).all isWritable = true :=
  all_iff.mpr ⟨isWritable_iff.mpr ⟨htag, by simp [toElement]⟩, by simp [toElement]⟩

/-! ## Documentation -/

theorem Topic.isName_tag (topic : Topic) : isName topic.tag = true := by
  cases topic <;> decide

namespace Documentation

structure Writable (d : Documentation) : Prop where
  attributes : isWritable "documentation" d.attributes = true
  topics : ∀ topic p, d.get? topic = some p → (p.toElement topic.tag).all isWritable = true
  extra : ∀ e ∈ d.extra, e.all isWritable = true

theorem Writable.all_toElement {d : Documentation} (h : d.Writable) :
    d.toElement.all isWritable = true := by
  refine all_iff.mpr ⟨h.attributes, fun e he => ?_⟩
  rcases List.mem_append.mp he with he | he
  · obtain ⟨topic, -, hvalue⟩ := List.mem_filterMap.mp he
    obtain ⟨p, hp, rfl⟩ := Option.map_eq_some_iff.mp hvalue
    exact h.topics topic p hp
  · exact h.extra e he

theorem writable_ofElement {e : Element} (h : e.all isWritable = true) :
    (ofElement e).Writable where
  attributes := isWritable_retag (all_iff.mp h).1 (by decide)
  topics := by
    intro topic p hp
    rw [ofElement, get?_ofTopics] at hp
    obtain ⟨child, hchild, rfl⟩ := Option.map_eq_some_iff.mp hp
    exact Prose.writable_ofElement (all_child? h hchild) topic.isName_tag
  extra := all_of_mem_kept h _

theorem Writable.merge {stored incoming : Documentation} (hstored : stored.Writable)
    (hincoming : incoming.Writable) : (stored.merge incoming).Writable where
  attributes := isWritable_putAll hstored.attributes hincoming.attributes
  topics topic := by
    rw [Documentation.merge, get?_ofTopics]
    exact forall_eq_some_or (hincoming.topics topic) (hstored.topics topic)
  extra := forall_mem_mergeChildren hstored.extra hincoming.extra

end Documentation

/-! ## Records -/

namespace Record

structure Writable (r : Record) : Prop where
  keys : ∀ key ∈ r.attributes.keys, isName key = true
  description : ∀ p, r.description = some p →
    (p.toElement "description").all isWritable = true
  documentation : ∀ d, r.documentation = some d → d.Writable
  variants : ∀ v, r.variants = some v → v.block.all isWritable = true
  extra : ∀ e ∈ r.extra, e.all isWritable = true

theorem isWritable_toElement {r : Record} (h : ∀ key ∈ r.attributes.keys, isName key = true) :
    isWritable "instruction" r.toElement.attributes = true := by
  refine isWritable_iff.mpr ⟨by decide, ?_, Attributes.nodup_keys_putAll (by simp) _⟩
  intro key hkey
  rcases Attributes.mem_keys_putAll.mp hkey with hkey | hkey
  · rw [Attributes.keys_append, List.mem_append] at hkey
    rcases hkey with hkey | hkey
    · have hcategory : key = "category" := by
        cases hc : r.category <;> simp [hc] at hkey
        exact hkey
      rw [hcategory]
      decide
    · exact h key hkey
  · have hname : key = "name" := by simpa using hkey
    rw [hname]
    decide

theorem Writable.all_toElement {r : Record} (h : r.Writable) :
    r.toElement.all isWritable = true := by
  refine all_iff.mpr ⟨isWritable_toElement h.keys, fun e he => ?_⟩
  simp only [toElement, List.mem_append, Option.mem_toList, Option.map_eq_some_iff] at he
  rcases he with ((⟨p, hp, rfl⟩ | ⟨d, hd, rfl⟩) | ⟨v, hv, rfl⟩) | he
  · exact h.description p hp
  · exact (h.documentation d hd).all_toElement
  · exact h.variants v hv
  · exact h.extra e he

theorem mem_keys_setAttributes {r : Record} {changes : Attributes} {key : String}
    (h : key ∈ (r.setAttributes changes).attributes.keys) :
    key ∈ r.attributes.keys ∨ key ∈ changes.keys := by
  induction changes generalizing r with
  | nil => exact .inl h
  | cons change rest ih =>
      rcases ih (r := r.setAttribute change.1 change.2) h with hfirst | hrest
      · rw [setAttribute] at hfirst
        split at hfirst
        · exact .inl hfirst
        · split at hfirst
          · exact .inl hfirst
          · rcases Attributes.mem_keys_put.mp hfirst with rfl | hfirst
            · exact .inr (by simp)
            · exact .inl hfirst
      · exact .inr (List.mem_cons_of_mem _ hrest)

theorem writable_of_ofElement {e : Element} {r : Record} (he : e.all isWritable = true)
    (h : ofElement e = .ok r) : r.Writable := by
  obtain ⟨-, -, rfl⟩ := ofElement_eq_ok h
  refine ⟨?_, ?_, ?_, ?_, all_of_mem_kept he _⟩
  · intro key hkey
    rcases mem_keys_setAttributes hkey with hkey | hkey
    · simp at hkey
    · exact (isWritable_iff.mp (all_iff.mp he).1).2.1 key hkey
  · intro p hp
    obtain ⟨child, hchild, rfl⟩ := Option.map_eq_some_iff.mp hp
    exact Prose.writable_ofElement (all_child? he hchild) (by decide)
  · intro d hd
    obtain ⟨child, hchild, rfl⟩ := Option.map_eq_some_iff.mp hd
    exact Documentation.writable_ofElement (all_child? he hchild)
  · intro v hv
    obtain ⟨child, hchild, rfl⟩ := Option.map_eq_some_iff.mp hv
    rw [Variants.ofElement, all_stripLayout, all_withTail]
    exact all_child? he hchild

theorem Writable.lowered {r : Record} (h : r.Writable) : r.lowered.Writable :=
  { h with }

theorem writable_simple (name category description : String) :
    (simple name category description).Writable where
  keys := by simp [simple]
  description := by
    rintro p ⟨⟩
    exact Prose.writable_plain (by decide) description
  documentation := by simp [simple]
  variants := by simp [simple]
  extra := by simp [simple]

theorem Writable.merge {stored incoming : Record} (hstored : stored.Writable)
    (hincoming : incoming.Writable) : (stored.merge incoming).Writable where
  keys := by
    intro key hkey
    rcases mem_keys_setAttributes hkey with hkey | hkey
    · exact hstored.keys key hkey
    · exact hincoming.keys key hkey
  description := forall_eq_some_or hincoming.description hstored.description
  documentation := forall_eq_some_mergeDocumentation Documentation.Writable.merge
    hstored.documentation hincoming.documentation
  variants := forall_eq_some_or hincoming.variants hstored.variants
  extra := forall_mem_mergeChildren hstored.extra hincoming.extra

theorem Writable.reconcile {stored incoming : Record} (mode : Mode) (hstored : stored.Writable)
    (hincoming : incoming.Writable) : (Record.reconcile mode stored incoming).Writable := by
  cases mode with
  | replace => exact hincoming
  | merge => exact hstored.merge hincoming

end Record

end InstructionCatalog
