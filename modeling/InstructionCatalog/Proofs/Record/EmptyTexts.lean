import InstructionCatalog.Proofs.Record.Canonical

/-!
# Reading through layout and empty texts

What a record says does not depend on the layout of its element, so a record
that can be read back from its element can be read back from any layout of it.
An empty text of a kept element is the one thing that writing forgets: reading
an element whose empty texts are gone gives the record without its empty texts,
and both are written alike.
-/

namespace InstructionCatalog

open Markup

/-! ## Records without empty texts -/

/-- The text of the field itself is content and stays. -/
def Prose.dropEmptyTexts : Prose → Prose
  | .plain text => .plain text
  | .marked attributes text children =>
      .marked attributes text (Element.dropEmptyTextsAll children)

def Documentation.dropEmptyTexts (d : Documentation) : Documentation :=
  ofTopics d.attributes (fun topic => (d.get? topic).map Prose.dropEmptyTexts)
    (Element.dropEmptyTextsAll d.extra)

def Variants.dropEmptyTexts (v : Variants) : Variants where
  block := v.block.dropEmptyTexts

/-- The record with no text in a kept element where there was an empty one. -/
def Record.dropEmptyTexts (r : Record) : Record :=
  { r with
    description := r.description.map Prose.dropEmptyTexts
    documentation := r.documentation.map Documentation.dropEmptyTexts
    variants := r.variants.map Variants.dropEmptyTexts
    extra := Element.dropEmptyTextsAll r.extra }

/-! ## Changing all children alike -/

section Children

variable {change : Element → Element} (hchange : ∀ e, (change e).tag = e.tag)
include hchange

theorem child?_of_children_map {e changed : Element}
    (hchildren : changed.children = e.children.map change) (tag : String) :
    changed.child? tag = (e.child? tag).map change := by
  have hsame : (fun e : Element => decide (e.tag = tag)) ∘ change =
      fun e => decide (e.tag = tag) := by
    funext e
    simp [hchange]
  rw [Element.child?, Element.child?, hchildren, List.find?_map, hsame]

theorem removeFirsts_map (tags : List String) (children : List Element) :
    Documentation.removeFirsts tags (children.map change) =
      (Documentation.removeFirsts tags children).map change := by
  induction tags generalizing children with
  | nil => rfl
  | cons tag rest ih =>
      have hsame : (fun e : Element => decide (e.tag = tag)) ∘ change =
          fun e => decide (e.tag = tag) := by
        funext e
        simp [hchange]
      have hstep : (children.map change).eraseP (fun e => e.tag = tag) =
          (children.eraseP fun e => e.tag = tag).map change := by
        rw [List.eraseP_map, hsame]
      simp only [Documentation.removeFirsts, List.foldl_cons, hstep] at ih ⊢
      exact ih _

end Children

/-! ## Layout -/

namespace Prose

theorem ofElement_stripLayout (e : Element) : ofElement e.stripLayout = ofElement e := by
  obtain ⟨tag, attributes, text, tail, children⟩ := e
  simp only [ofElement, Element.stripLayout, Element.textOrEmpty,
    Element.isEmpty_stripLayoutAll, Element.stripLayoutAll_stripLayoutAll]
  by_cases hleaf : children.isEmpty = true <;> simp [hleaf]

end Prose

theorem Documentation.ofElement_stripLayout (e : Element) :
    ofElement e.stripLayout = ofElement e := by
  have hchild := child?_of_children_map Element.stripLayout_tag e.stripLayout_children
  have hextra := removeFirsts_map Element.stripLayout_tag (Topic.all.map Topic.tag) e.children
  simp only [ofElement, Element.stripLayout_attributes, hchild, Option.map_map,
    Function.comp_def, Prose.ofElement_stripLayout, Element.stripLayout_children, hextra,
    Element.stripLayoutAll_eq_map, List.map_map, Element.stripLayout_stripLayout]

theorem Variants.ofElement_stripLayout (e : Element) : ofElement e.stripLayout = ofElement e := by
  have hblock : (e.stripLayout.withTail none).stripLayout = (e.withTail none).stripLayout := by
    rw [Element.stripLayout_withTail, Element.stripLayout_withTail,
      Element.stripLayout_stripLayout]
  rw [ofElement, ofElement, hblock]

/-- Layout says nothing about the record. -/
theorem Record.ofElement_stripLayout (e : Element) : ofElement e.stripLayout = ofElement e := by
  have hchild := child?_of_children_map Element.stripLayout_tag e.stripLayout_children
  have hextra := removeFirsts_map Element.stripLayout_tag knownTags e.children
  simp only [ofElement, Element.stripLayout_tag, Element.stripLayout_attributes, hchild,
    Option.map_map, Function.comp_def, Prose.ofElement_stripLayout,
    Documentation.ofElement_stripLayout, Variants.ofElement_stripLayout,
    Element.stripLayout_children, hextra, Element.stripLayoutAll_eq_map, List.map_map,
    Element.stripLayout_stripLayout]

/-! ## Reading back -/

namespace Record

/-- The record is what its own element says. -/
def ReadsBack (r : Record) : Prop :=
  ofElement r.toElement = .ok r

instance (r : Record) : Decidable r.ReadsBack :=
  inferInstanceAs (Decidable (ofElement r.toElement = .ok r))

theorem readsBack_iff_canonical {r : Record} : r.ReadsBack ↔ r.Canonical :=
  ⟨canonical_of_ofElement, Canonical.ofElement_toElement⟩

/-- At whatever level the element is laid out, it is read like the element itself. -/
theorem ofElement_indent (level : Nat) (e : Element) :
    ofElement (e.indent level) = ofElement e := by
  rw [← ofElement_stripLayout, Element.stripLayout_indent, ofElement_stripLayout]

/--
Every record that is read can be read back from its element, with any layout,
and so can what two such records make together.
-/
theorem readsBack_of_reading :
    (∀ e r, ofElement e = .ok r → r.ReadsBack) ∧
      (∀ mode stored incoming, stored.ReadsBack → incoming.ReadsBack →
        (reconcile mode stored incoming).ReadsBack) ∧
      ∀ r level, r.ReadsBack → ofElement (r.toElement.indent level) = .ok r := by
  refine ⟨?_, ?_, ?_⟩
  · intro e r h
    exact (canonical_of_ofElement h).ofElement_toElement
  · intro mode stored incoming hstored hincoming
    rw [readsBack_iff_canonical] at hstored hincoming ⊢
    exact hstored.reconcile mode hincoming
  · intro r level h
    rw [ofElement_indent]
    exact h

/-- A second description and a second summary are kept apart from the fields. -/
theorem readsBack_of_reading_repeated :
    let e : Element := ⟨"instruction", [("name", "Add")], some "\n", none,
      [⟨"description", [], some "one", some " ", []⟩, ⟨"description", [], some "two", none, []⟩,
        ⟨"x", [("k", "v")], some " ", some "t", [⟨"y", [], none, some "\n", []⟩]⟩]⟩
    let stored : Record :=
      { name := "Add", description := some (.plain "one")
        extra := [⟨"description", [], some "two", none, []⟩,
          ⟨"x", [("k", "v")], none, some "t", [⟨"y", [], none, none, []⟩]⟩] }
    let incoming : Record :=
      { name := "ADD"
        documentation := some
          { summary := some (.plain "s"), extra := [⟨"summary", [], some "again", none, []⟩] } }
    ofElement e = .ok stored ∧ stored.ReadsBack ∧ incoming.ReadsBack ∧
      (reconcile .merge stored incoming).ReadsBack ∧
      ofElement ((reconcile .merge stored incoming).toElement.indent 3) =
        .ok (reconcile .merge stored incoming) := by
  intro e stored incoming
  obtain ⟨hread, hreconcile, hindent⟩ := readsBack_of_reading
  have he : ofElement e = .ok stored := by decide +kernel
  have hincoming : incoming.ReadsBack := by decide +kernel
  have hboth := hreconcile .merge stored incoming (hread e stored he) hincoming
  exact ⟨he, hread e stored he, hincoming, hboth, hindent _ 3 hboth⟩

end Record

/-! ## Empty texts -/

theorem stripLayoutAll_map_dropEmptyTexts (es : List Element) :
    Element.stripLayoutAll (es.map Element.dropEmptyTexts) =
      Element.dropEmptyTextsAll (Element.stripLayoutAll es) := by
  simp only [Element.stripLayoutAll_eq_map, Element.dropEmptyTextsAll_eq_map, List.map_map,
    Function.comp_def, Element.stripLayout_dropEmptyTexts]

theorem Prose.ofElement_dropEmptyTexts (e : Element) :
    ofElement e.dropEmptyTexts = (ofElement e).dropEmptyTexts := by
  have hdrop : dropEmpty (e.text.filter (· ≠ "")) = dropEmpty e.text := by
    rcases eq_empty_or_filter_eq e.text with h | h
    · rw [h]
      rfl
    · rw [h]
  simp only [ofElement, Element.dropEmptyTexts_attributes, Element.dropEmptyTexts_children,
    Element.dropEmptyTexts_text, Element.textOrEmpty, List.isEmpty_map, getD_filter, hdrop,
    clearBlank_filter, stripLayoutAll_map_dropEmptyTexts]
  split
  · rfl
  · rfl

theorem Documentation.ofElement_dropEmptyTexts (e : Element) :
    ofElement e.dropEmptyTexts = (ofElement e).dropEmptyTexts := by
  have hchild := child?_of_children_map Element.dropEmptyTexts_tag e.dropEmptyTexts_children
  have hextra := removeFirsts_map Element.dropEmptyTexts_tag (Topic.all.map Topic.tag) e.children
  simp only [ofElement, dropEmptyTexts, get?_ofTopics, Element.dropEmptyTexts_attributes, hchild,
    Option.map_map, Function.comp_def, Prose.ofElement_dropEmptyTexts,
    Element.dropEmptyTexts_children, hextra, stripLayoutAll_map_dropEmptyTexts]
  rfl

theorem Variants.ofElement_dropEmptyTexts (e : Element) :
    ofElement e.dropEmptyTexts = (ofElement e).dropEmptyTexts := by
  rw [ofElement, ofElement, dropEmptyTexts, ← Element.stripLayout_dropEmptyTexts,
    Element.dropEmptyTexts_withTail]

theorem Record.ofElement_dropEmptyTexts {e : Element} {r : Record} (h : ofElement e = .ok r) :
    ofElement e.dropEmptyTexts = .ok r.dropEmptyTexts := by
  have hchild := child?_of_children_map Element.dropEmptyTexts_tag e.dropEmptyTexts_children
  have hextra := removeFirsts_map Element.dropEmptyTexts_tag knownTags e.children
  obtain ⟨htag, hname, rfl⟩ := ofElement_eq_ok h
  have hnamed : ¬ (setAttributes {} e.attributes).name = "" := hname
  simp only [ofElement, dropEmptyTexts, Element.dropEmptyTexts_tag, htag,
    Element.dropEmptyTexts_attributes, hnamed, hchild, Option.map_map, Function.comp_def,
    Prose.ofElement_dropEmptyTexts, Documentation.ofElement_dropEmptyTexts,
    Variants.ofElement_dropEmptyTexts, Element.dropEmptyTexts_children, hextra,
    stripLayoutAll_map_dropEmptyTexts]
  rfl

/-! ## Writing -/

theorem normalizeAll_dropEmptyTextsAll (es : List Element) :
    Element.normalizeAll (Element.dropEmptyTextsAll es) = Element.normalizeAll es := by
  simp only [Element.normalizeAll_eq_map, Element.dropEmptyTextsAll_eq_map, List.map_map,
    Function.comp_def, Element.normalize_dropEmptyTexts]

theorem Prose.normalize_toElement (tag : String) (p : Prose) :
    (p.dropEmptyTexts.toElement tag).normalize = (p.toElement tag).normalize := by
  cases p with
  | plain text => rfl
  | marked attributes text children =>
      simp only [dropEmptyTexts, toElement, Element.normalize, normalizeAll_dropEmptyTextsAll]

theorem Documentation.normalize_toElement (d : Documentation) :
    d.dropEmptyTexts.toElement.normalize = d.toElement.normalize := by
  have htopics : ∀ topic, (d.dropEmptyTexts.get? topic).map
        (fun p => (p.toElement topic.tag).normalize) =
      (d.get? topic).map fun p => (p.toElement topic.tag).normalize := by
    intro topic
    rw [dropEmptyTexts, get?_ofTopics, Option.map_map]
    simp only [Function.comp_def, Prose.normalize_toElement]
  have hextra := normalizeAll_dropEmptyTextsAll d.extra
  simp only [Element.normalizeAll_eq_map] at hextra
  simp only [toElement, Element.normalize, Element.normalizeAll_eq_map, List.map_append,
    List.map_filterMap, Option.map_map, Function.comp_def, htopics]
  rw [← hextra]
  rfl

/-- A record is written like the one without its empty texts. -/
theorem Record.normalize_toElement (r : Record) :
    r.dropEmptyTexts.toElement.normalize = r.toElement.normalize := by
  have hextra := normalizeAll_dropEmptyTextsAll r.extra
  simp only [Element.normalizeAll_eq_map] at hextra
  simp only [toElement, dropEmptyTexts, Variants.dropEmptyTexts, Element.normalize,
    Element.normalizeAll_eq_map, List.map_append, hextra, Option.map_map, Function.comp_def,
    Option.toList_map, List.map_map, Prose.normalize_toElement,
    Documentation.normalize_toElement, Element.normalize_dropEmptyTexts]

end InstructionCatalog
