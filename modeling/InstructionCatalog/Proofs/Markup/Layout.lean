import InstructionCatalog.Markup.Layout
import InstructionCatalog.Markup.Printer
import InstructionCatalog.Proofs.Markup.Tree

/-!
# Layout and empty slots

Laying out a tree and dropping its layout again gives what dropping the layout
gives at once.  An empty slot is blank, so it takes no part in either, except as
the text of a leaf, which is content: there it stays apart from no text until it
is written.
-/

namespace InstructionCatalog.Markup

/-! ## Slots -/

@[simp] theorem isBlankSlot_none : isBlankSlot none = true := rfl

@[simp] theorem isBlankSlot_some (s : String) : isBlankSlot (some s) = Text.isBlank s := rfl

theorem eq_empty_or_filter_eq (slot : Option String) :
    slot = some "" ∨ slot.filter (· ≠ "") = slot := by
  cases slot with
  | none => exact .inr rfl
  | some s =>
      by_cases h : s = ""
      · exact .inl (congrArg some h)
      · exact .inr (by simp [Option.filter, h])

theorem getD_filter (slot : Option String) :
    (slot.filter (· ≠ "")).getD "" = slot.getD "" := by
  rcases eq_empty_or_filter_eq slot with rfl | h
  · rfl
  · rw [h]

theorem isBlankSlot_filter (slot : Option String) :
    isBlankSlot (slot.filter (· ≠ "")) = isBlankSlot slot := by
  rcases eq_empty_or_filter_eq slot with rfl | h
  · rfl
  · rw [h]

theorem clearBlank_filter (slot : Option String) :
    clearBlank (slot.filter (· ≠ "")) = clearBlank slot := by
  rcases eq_empty_or_filter_eq slot with rfl | h
  · rfl
  · rw [h]

theorem filter_clearBlank (slot : Option String) :
    (clearBlank slot).filter (· ≠ "") = clearBlank slot := by
  rcases eq_empty_or_filter_eq slot with rfl | h
  · rfl
  · rw [clearBlank]
    split
    · rfl
    · exact h

@[simp] theorem clearBlank_clearBlank (slot : Option String) :
    clearBlank (clearBlank slot) = clearBlank slot := by
  by_cases h : isBlankSlot slot = true <;> simp [clearBlank, h]

theorem clearBlank_fillBlank {layout : String} (h : Text.isBlank layout = true)
    (slot : Option String) : clearBlank (fillBlank layout slot) = clearBlank slot := by
  by_cases hslot : isBlankSlot slot = true <;> simp [clearBlank, fillBlank, hslot, h]

theorem filter_fillBlank {layout : String} (h : layout ≠ "") (slot : Option String) :
    (fillBlank layout slot).filter (· ≠ "") = fillBlank layout (slot.filter (· ≠ "")) := by
  rw [fillBlank, fillBlank, isBlankSlot_filter]
  split
  · simp [Option.filter, h]
  · rfl

@[simp] theorem isBlank_padding (level : Nat) : Text.isBlank (padding level) = true := by
  have hline : Text.isSpace '\n' = true := by decide
  have hspace : Text.isSpace ' ' = true := by decide
  simp [Text.isBlank, padding, hline, hspace]

theorem padding_ne_empty (level : Nat) : padding level ≠ "" := by
  intro h
  have hchars := congrArg String.toList h
  simp [padding] at hchars

theorem slotChars_filter (slot : Option String) :
    slotChars (slot.filter (· ≠ "")) = slotChars slot := by
  rw [slotChars, getD_filter, slotChars]

namespace Element

/-! ## Dropping layout -/

theorem stripLayoutAll_eq_map (es : List Element) : stripLayoutAll es = es.map stripLayout := by
  induction es with
  | nil => rfl
  | cons e rest ih => rw [stripLayoutAll, ih, List.map_cons]

@[simp] theorem stripLayout_tag (e : Element) : e.stripLayout.tag = e.tag := by
  cases e
  rfl

@[simp] theorem stripLayout_attributes (e : Element) :
    e.stripLayout.attributes = e.attributes := by
  cases e
  rfl

theorem stripLayout_tail (e : Element) : e.stripLayout.tail = clearBlank e.tail := by
  cases e
  rfl

@[simp] theorem stripLayout_children (e : Element) :
    e.stripLayout.children = e.children.map stripLayout := by
  cases e
  exact stripLayoutAll_eq_map _

theorem stripLayout_withTail (e : Element) (tail : Option String) :
    (e.withTail tail).stripLayout = e.stripLayout.withTail (clearBlank tail) := by
  cases e
  rfl

@[simp] theorem stripLayout_stripLayout (e : Element) :
    e.stripLayout.stripLayout = e.stripLayout := by
  induction e with
  | node tag attributes text tail children ih =>
      have hchildren : (children.map stripLayout).map stripLayout = children.map stripLayout := by
        rw [List.map_map]
        exact List.map_congr_left ih
      simp only [stripLayout, stripLayoutAll_eq_map, hchildren, clearBlank_clearBlank,
        List.isEmpty_map]
      cases children <;> simp

@[simp] theorem isEmpty_stripLayoutAll (es : List Element) :
    (stripLayoutAll es).isEmpty = es.isEmpty := by
  cases es <;> rfl

@[simp] theorem stripLayoutAll_stripLayoutAll (es : List Element) :
    stripLayoutAll (stripLayoutAll es) = stripLayoutAll es := by
  simp [stripLayoutAll_eq_map]

/-- A change that keeps tags and attributes keeps what is said about them. -/
theorem all_change {change : Element → Element} (htag : ∀ e, (change e).tag = e.tag)
    (hattributes : ∀ e, (change e).attributes = e.attributes)
    (hchildren : ∀ e, (change e).children = e.children.map change)
    (p : String → Attributes → Bool) (e : Element) : (change e).all p = e.all p := by
  induction e with
  | node tag attributes text tail children ih =>
      rw [Bool.eq_iff_iff, all_iff, all_iff]
      simp only [htag, hattributes, hchildren, List.forall_mem_map]
      exact and_congr_right fun _ => forall₂_congr fun child hchild => by rw [ih child hchild]

@[simp] theorem all_stripLayout (p : String → Attributes → Bool) (e : Element) :
    e.stripLayout.all p = e.all p :=
  all_change stripLayout_tag stripLayout_attributes stripLayout_children p e

/-! ## Laying out -/

theorem stripLayoutAll_indentSiblings {es : List Element}
    (h : ∀ e ∈ es, ∀ level, (indentInside level e).stripLayout = e.stripLayout) (level : Nat) :
    stripLayoutAll (indentSiblings level es) = stripLayoutAll es := by
  induction es with
  | nil => rfl
  | cons e rest ih =>
      have hhead := h e (by simp) (level + 1)
      have htail : e.stripLayout.withTail (clearBlank e.tail) = e.stripLayout := by
        rw [← stripLayout_withTail, withTail_tail]
      rw [indentSiblings, stripLayoutAll, stripLayoutAll, ih fun d hd => h d (by simp [hd]),
        stripLayout_withTail, clearBlank_fillBlank (isBlank_padding _), hhead, htail]

theorem isEmpty_indentSiblings (level : Nat) (es : List Element) :
    (indentSiblings level es).isEmpty = es.isEmpty := by
  cases es <;> rfl

/-- Layout is dropped without a trace, at whatever level it was made. -/
@[simp] theorem stripLayout_indentInside (level : Nat) (e : Element) :
    (indentInside level e).stripLayout = e.stripLayout := by
  induction e generalizing level with
  | node tag attributes text tail children ih =>
      simp only [indentInside, stripLayout, isEmpty_indentSiblings,
        stripLayoutAll_indentSiblings ih]
      split
      · rfl
      · rw [clearBlank_fillBlank (isBlank_padding _)]

@[simp] theorem stripLayout_indent (level : Nat) (e : Element) :
    (indent level e).stripLayout = e.stripLayout := by
  rw [indent]
  split
  · rfl
  · rw [stripLayout_withTail, stripLayout_indentInside, clearBlank_fillBlank (isBlank_padding _),
      ← stripLayout_withTail, withTail_tail]

@[simp] theorem all_indent (p : String → Attributes → Bool) (level : Nat) (e : Element) :
    (indent level e).all p = e.all p := by
  rw [← all_stripLayout, stripLayout_indent, all_stripLayout]

/-! ## Empty texts -/

mutual

/-- The tree with no text where there was an empty one. -/
def dropEmptyTexts : Element → Element
  | ⟨tag, attributes, text, tail, children⟩ =>
      { tag, attributes, text := text.filter (· ≠ ""), tail
        children := dropEmptyTextsAll children }

def dropEmptyTextsAll : List Element → List Element
  | [] => []
  | e :: rest => dropEmptyTexts e :: dropEmptyTextsAll rest

end

theorem dropEmptyTextsAll_eq_map (es : List Element) :
    dropEmptyTextsAll es = es.map dropEmptyTexts := by
  induction es with
  | nil => rfl
  | cons e rest ih => rw [dropEmptyTextsAll, ih, List.map_cons]

@[simp] theorem dropEmptyTexts_tag (e : Element) : e.dropEmptyTexts.tag = e.tag := by
  cases e
  rfl

@[simp] theorem dropEmptyTexts_attributes (e : Element) :
    e.dropEmptyTexts.attributes = e.attributes := by
  cases e
  rfl

@[simp] theorem dropEmptyTexts_text (e : Element) :
    e.dropEmptyTexts.text = e.text.filter (· ≠ "") := by
  cases e
  rfl

@[simp] theorem dropEmptyTexts_children (e : Element) :
    e.dropEmptyTexts.children = e.children.map dropEmptyTexts := by
  cases e
  exact dropEmptyTextsAll_eq_map _

@[simp] theorem all_dropEmptyTexts (p : String → Attributes → Bool) (e : Element) :
    e.dropEmptyTexts.all p = e.all p :=
  all_change dropEmptyTexts_tag dropEmptyTexts_attributes dropEmptyTexts_children p e

theorem dropEmptyTexts_withTail (e : Element) (tail : Option String) :
    (e.withTail tail).dropEmptyTexts = e.dropEmptyTexts.withTail tail := by
  cases e
  rfl

theorem stripLayout_dropEmptyTexts (e : Element) :
    e.dropEmptyTexts.stripLayout = e.stripLayout.dropEmptyTexts := by
  induction e with
  | node tag attributes text tail children ih =>
      have hchildren : (children.map dropEmptyTexts).map stripLayout =
          (children.map stripLayout).map dropEmptyTexts := by
        rw [List.map_map, List.map_map]
        exact List.map_congr_left ih
      simp only [stripLayout, dropEmptyTexts, stripLayoutAll_eq_map, dropEmptyTextsAll_eq_map,
        hchildren, List.isEmpty_map, clearBlank_filter]
      split
      · rfl
      · rw [filter_clearBlank]

/-- Once the layout is gone, an empty slot can only be the text of a leaf. -/
theorem stripLayout_normalize (e : Element) :
    e.normalize.stripLayout = e.stripLayout.dropEmptyTexts := by
  induction e with
  | node tag attributes text tail children ih =>
      have hchildren : (children.map normalize).map stripLayout =
          (children.map stripLayout).map dropEmptyTexts := by
        rw [List.map_map, List.map_map]
        exact List.map_congr_left ih
      simp only [stripLayout, dropEmptyTexts, normalize, stripLayoutAll_eq_map,
        dropEmptyTextsAll_eq_map, normalizeAll_eq_map, hchildren, List.isEmpty_map,
        clearBlank_filter]
      split
      · rfl
      · rw [filter_clearBlank]

@[simp] theorem normalize_dropEmptyTexts (e : Element) :
    e.dropEmptyTexts.normalize = e.normalize := by
  induction e with
  | node tag attributes text tail children ih =>
      have hchildren : (children.map dropEmptyTexts).map normalize =
          children.map normalize := by
        rw [List.map_map]
        exact List.map_congr_left ih
      simp [normalize, dropEmptyTexts, dropEmptyTextsAll_eq_map, normalizeAll_eq_map, hchildren]

/-! ## Writing a tree that has empty slots -/

theorem isEmpty_normalizeAll (es : List Element) : (normalizeAll es).isEmpty = es.isEmpty := by
  cases es <;> rfl

theorem normalize_withTail (e : Element) (tail : Option String) :
    (e.withTail tail).normalize = e.normalize.withTail (tail.filter (· ≠ "")) := by
  cases e
  rfl

theorem normalizeAll_indentSiblings {es : List Element}
    (h : ∀ e ∈ es, ∀ level, (indentInside level e).normalize = indentInside level e.normalize)
    (level : Nat) :
    normalizeAll (indentSiblings level es) = indentSiblings level (normalizeAll es) := by
  induction es with
  | nil => rfl
  | cons e rest ih =>
      rw [indentSiblings, normalizeAll, normalizeAll, indentSiblings,
        ih fun d hd => h d (by simp [hd]), isEmpty_normalizeAll, normalize_withTail,
        filter_fillBlank (padding_ne_empty _), h e (by simp), normalize_tail]

theorem normalize_indentInside (level : Nat) (e : Element) :
    (indentInside level e).normalize = indentInside level e.normalize := by
  induction e generalizing level with
  | node tag attributes text tail children ih =>
      simp only [indentInside, normalize, normalizeAll_indentSiblings ih, isEmpty_normalizeAll]
      split
      · rfl
      · rw [filter_fillBlank (padding_ne_empty _)]

theorem normalize_indent (level : Nat) (e : Element) :
    (indent level e).normalize = indent level e.normalize := by
  have hempty : e.normalize.children.isEmpty = e.children.isEmpty := by
    cases e
    exact isEmpty_normalizeAll _
  rw [indent, indent, hempty]
  split
  · rfl
  · rw [normalize_withTail, normalize_indentInside, normalize_tail,
      filter_fillBlank (padding_ne_empty _)]

theorem charsAll_normalizeAll {es : List Element} (h : ∀ e ∈ es, e.normalize.chars = e.chars) :
    charsAll (normalizeAll es) = charsAll es := by
  induction es with
  | nil => rfl
  | cons e rest ih =>
      rw [normalizeAll, charsAll, charsAll, h e (by simp), normalize_tail, slotChars_filter,
        ih fun d hd => h d (by simp [hd])]

/-- An empty slot is written like none at all. -/
theorem chars_normalize (e : Element) : e.normalize.chars = e.chars := by
  induction e with
  | node tag attributes text tail children ih =>
      simp only [normalize, chars, getD_filter, isEmpty_normalizeAll, slotChars_filter, charsAll_normalizeAll ih]

theorem document_normalize (e : Element) : e.normalize.document = e.document := by
  rw [document, document, chars_normalize, normalize_tail, slotChars_filter]

/-- Trees that differ in empty slots only are written alike. -/
theorem document_indent_congr {a b : Element} (h : a.normalize = b.normalize) (level : Nat) :
    (a.indent level).document = (b.indent level).document := by
  rw [← document_normalize, normalize_indent, h, ← normalize_indent, document_normalize]

end Element

end InstructionCatalog.Markup
