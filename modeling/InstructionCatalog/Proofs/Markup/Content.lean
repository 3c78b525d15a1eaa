import InstructionCatalog.Proofs.Markup.Layout
import Mathlib.Algebra.BigOperators.Group.List.Basic
import Mathlib.Algebra.Order.Group.Multiset

/-!
# What an element says

The ink of a text is its characters without the white space, counted but not
ordered.  Dropping layout keeps the ink of an element, and so does dropping
empty texts; the ink of a tree is the sum of the ink of its slots.
-/

namespace InstructionCatalog

open Markup

/-! ## The ink of texts and slots -/

namespace Text

/-- The characters of a text that are not white space, in no order. -/
def ink (s : String) : Multiset Char :=
  ↑(s.toList.filter fun c => !isSpace c)

@[simp] theorem ink_empty : ink "" = 0 := rfl

@[simp] theorem ink_append (s t : String) : ink (s ++ t) = ink s + ink t := by
  simp [ink]

theorem ink_eq_zero_iff (s : String) : ink s = 0 ↔ isBlank s = true := by
  simp [ink, isBlank_iff]

end Text

namespace Markup

def slotInk (slot : Option String) : Multiset Char :=
  Text.ink (slot.getD "")

@[simp] theorem slotInk_none : slotInk none = 0 := rfl

@[simp] theorem slotInk_some (s : String) : slotInk (some s) = Text.ink s := rfl

theorem slotInk_eq_zero_iff (slot : Option String) : slotInk slot = 0 ↔ isBlankSlot slot = true := by
  cases slot with
  | none => simp
  | some s => exact Text.ink_eq_zero_iff s

@[simp] theorem slotInk_clearBlank (slot : Option String) :
    slotInk (clearBlank slot) = slotInk slot := by
  rw [clearBlank]
  split
  · rename_i hblank
    exact ((slotInk_eq_zero_iff slot).mpr hblank).symm
  · rfl

@[simp] theorem slotInk_filter (slot : Option String) :
    slotInk (slot.filter (· ≠ "")) = slotInk slot := by
  rw [slotInk, getD_filter, slotInk]

/-- The ink of several slots together. -/
def slotsInk (slots : List (Option String)) : Multiset Char :=
  (slots.map slotInk).sum

@[simp] theorem slotsInk_nil : slotsInk [] = 0 := rfl

@[simp] theorem slotsInk_cons (slot : Option String) (slots : List (Option String)) :
    slotsInk (slot :: slots) = slotInk slot + slotsInk slots := by
  simp [slotsInk]

@[simp] theorem slotsInk_append (first second : List (Option String)) :
    slotsInk (first ++ second) = slotsInk first + slotsInk second := by
  simp [slotsInk]

theorem slotsInk_eq_zero_iff (slots : List (Option String)) :
    slotsInk slots = 0 ↔ ∀ slot ∈ slots, isBlankSlot slot = true := by
  induction slots with
  | nil => simp
  | cons slot slots ih => simp [slotInk_eq_zero_iff, ih]

/-! ## The ink of elements -/

namespace Element

def ink (e : Element) : Multiset Char :=
  Text.ink e.content

/-- What stands where the element stands: what it says, and its tail. -/
def outerInk (e : Element) : Multiset Char :=
  e.ink + slotInk e.tail

theorem ink_contentAll (es : List Element) :
    Text.ink (contentAll es) = (es.map outerInk).sum := by
  induction es with
  | nil => rfl
  | cons e rest ih =>
      simp only [contentAll, Text.ink_append, ih, List.map_cons, List.sum_cons]
      rfl

theorem ink_eq (e : Element) : e.ink = slotInk e.text + (e.children.map outerInk).sum := by
  cases e
  rw [ink, content, Text.ink_append, ink_contentAll]
  rfl

@[simp] theorem ink_withTail (e : Element) (tail : Option String) :
    (e.withTail tail).ink = e.ink := by
  rw [ink_eq, ink_eq]
  rfl

/-- A change that keeps the ink of every slot keeps that of the tree. -/
theorem ink_change {change : Element → Element}
    (htext : ∀ e, slotInk (change e).text = slotInk e.text)
    (htail : ∀ e, slotInk (change e).tail = slotInk e.tail)
    (hchildren : ∀ e, (change e).children = e.children.map change) (e : Element) :
    (change e).ink = e.ink := by
  induction e with
  | node tag attributes text tail children ih =>
      have hbelow : (children.map change).map outerInk = children.map outerInk := by
        rw [List.map_map]
        refine List.map_congr_left fun child hchild => ?_
        rw [Function.comp_apply, outerInk, outerInk, ih child hchild, htail]
      rw [ink_eq, ink_eq, htext, hchildren, hbelow]

theorem slotInk_stripLayout_text (e : Element) : slotInk e.stripLayout.text = slotInk e.text := by
  cases e
  simp only [stripLayout]
  split
  · rfl
  · exact slotInk_clearBlank _

theorem slotInk_stripLayout_tail (e : Element) : slotInk e.stripLayout.tail = slotInk e.tail := by
  cases e
  exact slotInk_clearBlank _

@[simp] theorem ink_stripLayout (e : Element) : e.stripLayout.ink = e.ink :=
  ink_change slotInk_stripLayout_text slotInk_stripLayout_tail stripLayout_children e

@[simp] theorem outerInk_stripLayout (e : Element) : e.stripLayout.outerInk = e.outerInk := by
  rw [outerInk, outerInk, ink_stripLayout, slotInk_stripLayout_tail]

@[simp] theorem ink_dropEmptyTexts (e : Element) : e.dropEmptyTexts.ink = e.ink := by
  refine ink_change (fun e => ?_) (fun e => ?_) dropEmptyTexts_children e
  · rw [dropEmptyTexts_text, slotInk_filter]
  · cases e
    rfl

theorem sum_outerInk_stripLayoutAll (es : List Element) :
    ((stripLayoutAll es).map outerInk).sum = (es.map outerInk).sum := by
  rw [stripLayoutAll_eq_map, List.map_map]
  simp [Function.comp_def]

end Element

end Markup

end InstructionCatalog
