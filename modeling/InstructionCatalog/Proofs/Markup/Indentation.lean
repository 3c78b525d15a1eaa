import InstructionCatalog.Proofs.Markup.Layout

/-!
# Indentation

The layout that an element is given depends only on what is left of it when its
layout is dropped.  So two elements that differ in layout are laid out alike, and
laying out an element for a second time changes nothing.  An element without
children at level zero is the exception: it is left alone, with the tail it has.

Whatever two elements have in common without their layout they have in common at
every place of the tree, and that is all but blank slots.
-/

namespace InstructionCatalog.Markup

/-! ## Slots -/

theorem fillBlank_clearBlank (layout : String) (slot : Option String) :
    fillBlank layout (clearBlank slot) = fillBlank layout slot := by
  by_cases h : isBlankSlot slot = true <;> simp [fillBlank, clearBlank, h]

theorem eq_of_clearBlank_eq {slot other : Option String} (h : clearBlank other = clearBlank slot)
    (hcontent : isBlankSlot slot = false) : other = slot := by
  have hslot : clearBlank slot = slot := by simp [clearBlank, hcontent]
  rw [hslot, clearBlank] at h
  split at h
  · rw [← h] at hcontent
    simp at hcontent
  · exact h

namespace Element

/-! ## The layout of what has none -/

theorem indentSiblings_stripLayoutAll {es : List Element}
    (h : ∀ e ∈ es, ∀ level,
      indentInside level e.stripLayout = (indentInside level e).withTail (clearBlank e.tail))
    (level : Nat) : indentSiblings level (stripLayoutAll es) = indentSiblings level es := by
  induction es with
  | nil => rfl
  | cons e rest ih =>
      have hhead : ∀ tail, (indentInside (level + 1) e.stripLayout).withTail tail =
          (indentInside (level + 1) e).withTail tail := by
        intro tail
        rw [h e (by simp)]
        rfl
      rw [stripLayoutAll, indentSiblings, indentSiblings, ih fun d hd => h d (by simp [hd]),
        isEmpty_stripLayoutAll, hhead, stripLayout_tail, fillBlank_clearBlank]

theorem indentInside_stripLayout (level : Nat) (e : Element) :
    indentInside level e.stripLayout = (indentInside level e).withTail (clearBlank e.tail) := by
  induction e generalizing level with
  | node tag attributes text tail children ih =>
      simp only [stripLayout, indentInside, isEmpty_stripLayoutAll,
        indentSiblings_stripLayoutAll ih]
      split
      · rfl
      · rw [fillBlank_clearBlank]
        rfl

/-- An element that is laid out at all is laid out as if it had no layout before. -/
theorem indent_stripLayout {level : Nat} {e : Element} (h : 0 < level ∨ e.children ≠ []) :
    indent level e.stripLayout = indent level e := by
  have hlaidOut : ¬ (level = 0 ∧ e.children.isEmpty = true) := by
    rintro ⟨hlevel, hleaf⟩
    rcases h with h | h
    · omega
    · exact h (List.isEmpty_iff.mp hleaf)
  have hempty : e.stripLayout.children.isEmpty = e.children.isEmpty := by simp
  unfold indent
  rw [hempty, if_neg hlaidOut, if_neg hlaidOut, indentInside_stripLayout, stripLayout_tail,
    fillBlank_clearBlank]
  rfl

theorem children_ne_nil_of_stripLayout_eq {e other : Element}
    (hsame : other.stripLayout = e.stripLayout) (h : e.children ≠ []) : other.children ≠ [] := by
  have hchildren := congrArg children hsame
  rw [stripLayout_children, stripLayout_children] at hchildren
  intro hnil
  rw [hnil] at hchildren
  exact h (List.map_eq_nil_iff.mp hchildren.symm)

theorem indent_eq_of_stripLayout_eq {level : Nat} {e other : Element}
    (hsame : other.stripLayout = e.stripLayout) (h : 0 < level ∨ e.children ≠ []) :
    indent level other = indent level e := by
  rw [← indent_stripLayout h, ← hsame, indent_stripLayout]
  exact h.imp_right (children_ne_nil_of_stripLayout_eq hsame)

theorem indent_indent (level : Nat) (e : Element) :
    indent level (indent level e) = indent level e := by
  by_cases h : 0 < level ∨ e.children ≠ []
  · exact indent_eq_of_stripLayout_eq (stripLayout_indent level e) h
  · have hsame : indent level e = e := by
      unfold indent
      apply if_pos
      simpa [not_or] using h
    rw [hsame, hsame]

/-! ## Places in a tree -/

/-- The element that is reached by going down from child to child. -/
def descendant? (e : Element) : List Nat → Option Element
  | [] => some e
  | i :: path => e.children[i]?.bind fun child => child.descendant? path

theorem descendant?_stripLayout (e : Element) (path : List Nat) :
    e.stripLayout.descendant? path = (e.descendant? path).map stripLayout := by
  induction path generalizing e with
  | nil => rfl
  | cons i path ih =>
      rw [descendant?, descendant?, stripLayout_children, List.getElem?_map]
      cases e.children[i]? with
      | none => rfl
      | some child => exact ih child

/-- Two elements that look the same at their own place, but for slots that are layout. -/
structure SharesContent (e changed : Element) : Prop where
  tag : changed.tag = e.tag
  attributes : changed.attributes = e.attributes
  size : changed.children.length = e.children.length
  leaf : e.children = [] → changed.text = e.text
  text : isBlankSlot e.text = false → changed.text = e.text
  tail : isBlankSlot e.tail = false → changed.tail = e.tail

theorem sharesContent_of_stripLayout_eq {e changed : Element}
    (h : changed.stripLayout = e.stripLayout) : SharesContent e changed := by
  obtain ⟨tag, attributes, text, tail, children⟩ := e
  obtain ⟨tag', attributes', text', tail', children'⟩ := changed
  simp only [stripLayout, stripLayoutAll_eq_map, mk.injEq] at h
  obtain ⟨htag, hattributes, htext, htail, hchildren⟩ := h
  have hsize : children'.length = children.length := by
    simpa using congrArg List.length hchildren
  have hempty : children'.isEmpty = children.isEmpty := by
    rw [Bool.eq_iff_iff, List.isEmpty_iff_length_eq_zero, List.isEmpty_iff_length_eq_zero, hsize]
  rw [hempty] at htext
  constructor
  · exact htag
  · exact hattributes
  · exact hsize
  · intro hleaf
    simpa [show children = [] from hleaf] using htext
  · intro hcontent
    split at htext
    · exact htext
    · exact eq_of_clearBlank_eq htext hcontent
  · exact eq_of_clearBlank_eq htail

/-- Elements with the same content have it at the same places. -/
theorem sharesContent_descendant? {e changed : Element} (h : changed.stripLayout = e.stripLayout)
    (path : List Nat) :
    Option.Rel SharesContent (e.descendant? path) (changed.descendant? path) := by
  have hplace := congrArg (descendant? · path) h
  simp only [descendant?_stripLayout] at hplace
  cases hbefore : e.descendant? path with
  | none =>
      rw [hbefore, Option.map_none, Option.map_eq_none_iff] at hplace
      rw [hplace]
      exact .none
  | some d =>
      rw [hbefore, Option.map_some] at hplace
      obtain ⟨d', hafter, hsame⟩ := Option.map_eq_some_iff.mp hplace
      rw [hafter]
      exact .some (sharesContent_of_stripLayout_eq hsame)

/--
Laying out an element changes layout only, and brings every element with the same
content into the same form, which it then leaves as it is.
-/
theorem indent_canonical (level : Nat) (e : Element) :
    (e.indent level).stripLayout = e.stripLayout ∧
      (e.indent level).indent level = e.indent level ∧
      (∀ path, Option.Rel SharesContent (e.descendant? path) ((e.indent level).descendant? path)) ∧
      ∀ other : Element, other.stripLayout = e.stripLayout → (0 < level ∨ e.children ≠ []) →
        other.indent level = e.indent level := by
  refine ⟨stripLayout_indent level e, indent_indent level e, ?_, ?_⟩
  · exact sharesContent_descendant? (stripLayout_indent level e)
  · intro other hsame h
    exact indent_eq_of_stripLayout_eq hsame h

/-- Blank slots of two trees differ, but around `b` and `c` there is content in both. -/
theorem indent_canonical_mixed :
    let b (tail : Option String) : Element := ⟨"b", [], some " ", tail, []⟩
    let c (tail : Option String) : Element :=
      ⟨"c", [("k", "v")], none, tail, [b tail, b (some "y")]⟩
    let e : Element := ⟨"a", [], some "\t", some " z", [b (some "x"), c (some "")]⟩
    let other : Element := ⟨"a", [], none, some " z", [b (some "x"), c (some "\r\n")]⟩
    other.stripLayout = e.stripLayout ∧ e.children ≠ [] ∧
      other.indent 0 = e.indent 0 ∧ (e.indent 0).indent 0 = e.indent 0 ∧
      e.indent 0 =
        ⟨"a", [], some "\n  ", some " z",
          [b (some "x"),
            ⟨"c", [("k", "v")], some "\n    ", some "\n", [b (some "\n    "), b (some "y")]⟩]⟩ := by
  intro b c e other
  have hsame : other.stripLayout = e.stripLayout := by decide
  have hchildren : e.children ≠ [] := by decide
  obtain ⟨-, htwice, -, hother⟩ := indent_canonical 0 e
  exact ⟨hsame, hchildren, hother other hsame (.inr hchildren), htwice, by decide⟩

end Element

end InstructionCatalog.Markup
